import MetricPipeline.Text.Blank
import MetricPipeline.Text.Digit

/-! Sets of characters and maps on characters, read from tables of code points. A table is lines of
records with semicolons between them, and a record is hexadecimal numbers with spaces between them. -/

namespace MetricPipeline.Text

def records (table : List String) : List (List Nat) :=
  table.flatMap fun line =>
    (split ';' line.toList).map fun record => (split ' ' record).filterMap (natOfDigits? 16)

/-- Characters whose code points are in one of some ranges, ends included. -/
structure CharSet where
  ranges : List (Nat × Nat)

namespace CharSet

/-- A record is a code point, or the first and the last one of a range. -/
def ofTable (table : List String) : CharSet where
  ranges := (records table).filterMap fun
    | [only] => some (only, only)
    | [first, last] => some (first, last)
    | _ => none

def contains (set : CharSet) (c : Char) : Bool :=
  set.ranges.any fun (first, last) => first ≤ c.toNat && c.toNat ≤ last

end CharSet

/-- Characters that move by one distance: from `first` to `last` every `step`th one, the first of them to
`target`. -/
structure CharRun where
  first : Nat
  last : Nat
  step : Nat
  target : Nat

namespace CharRun

def contains (run : CharRun) (c : Char) : Bool :=
  run.first ≤ c.toNat && c.toNat ≤ run.last && (c.toNat - run.first) % run.step == 0

def apply (run : CharRun) (c : Char) : Char := Char.ofNat (run.target + (c.toNat - run.first))

end CharRun

/-- Texts in place of characters. -/
structure CharMap where
  runs : List CharRun
  texts : List (Nat × List Char)

namespace CharMap

/-- A record of `runs` holds the four numbers of a run; one of `texts` a code point and those of its text. -/
def ofTables (runs texts : List String) : CharMap where
  runs := (records runs).filterMap fun
    | [first, last, step, target] => some ⟨first, last, step, target⟩
    | _ => none
  texts := (records texts).filterMap fun
    | [] => none
    | code :: text => some (code, text.map Char.ofNat)

def find? (map : CharMap) (c : Char) : Option (List Char) :=
  match map.texts.lookup c.toNat with
  | some text => some text
  | none => (map.runs.find? (·.contains c)).map fun run => [run.apply c]

end CharMap
end MetricPipeline.Text
