import MetricPipeline.Untyped

/-! What can be wrong with a value that is checked, where, and how it is said. Checks of the fields of one
value all run, and their issues are listed in the order of the checks. -/

namespace MetricPipeline

inductive Fault where
  | wrongKind (expected received : Kind)
  | emptyString
  | emptyArray
  /-- Below the whole numbers that doubles hold without gaps. -/
  | belowWholeRange
  | aboveWholeRange
  | notAbove (bound : Nat)
  | below (bound : Nat)
  | above (bound : Nat)
  | notOneOf (options : List String)
  | badStart (start : String)
  | unknownMetric (name : String)
  | notStringMetric (name : String)
deriving DecidableEq

inductive PathStep where
  | key (name : String)
  | index (i : Nat)
deriving DecidableEq

structure Issue where
  path : List PathStep
  fault : Fault
deriving DecidableEq

namespace Fault

def code : Fault → String
  | wrongKind _ _ => "invalid_type"
  | emptyString | emptyArray | belowWholeRange | notAbove _ | below _ => "too_small"
  | aboveWholeRange | above _ => "too_big"
  | notOneOf _ => "invalid_value"
  | badStart _ => "invalid_format"
  | unknownMetric _ | notStringMetric _ => "custom"

def quoted (s : String) : String := "\"" ++ s ++ "\""

def message : Fault → String
  | wrongKind expected received =>
    "Invalid input: expected " ++ expected.name ++ ", received " ++ received.name
  | emptyString => "Too small: expected string to have >=1 characters"
  | emptyArray => "Too small: expected array to have >=1 items"
  | belowWholeRange => "Too small: expected int to be >-9007199254740991"
  | aboveWholeRange => "Too big: expected int to be <9007199254740991"
  | notAbove bound => "Too small: expected number to be >" ++ toString bound
  | below bound => "Too small: expected number to be >=" ++ toString bound
  | above bound => "Too big: expected number to be <=" ++ toString bound
  | notOneOf options => "Invalid option: expected one of " ++ "|".intercalate (options.map quoted)
  | badStart start => "Invalid string: must start with " ++ quoted start
  | unknownMetric name => "Unknown metric '" ++ name ++ "'"
  | notStringMetric name => "Metric '" ++ name ++ "' is not a string metric"

end Fault

/-- The outcome of checks: a value, or the issues found. -/
abbrev Checked (α : Type) := Except (List Issue) α

namespace Checked

variable {α β : Type}

/-- Runs one more check whatever the checks before it gave. -/
def and : Checked (α → β) → Checked α → Checked β
  | .ok f, .ok a => .ok (f a)
  | .ok _, .error issues => .error issues
  | .error issues, .ok _ => .error issues
  | .error issues, .error more => .error (issues ++ more)

theorem and_eq_ok {f : Checked (α → β)} {a : Checked α} {b : β} :
    f.and a = .ok b ↔ ∃ g x, f = .ok g ∧ a = .ok x ∧ g x = b := by
  cases f <;> cases a <;> simp [Checked.and]

/-- A value, or the faults found in it at a path. -/
def ofFaults (path : List PathStep) (faults : List Fault) (value : α) : Checked α :=
  if faults = [] then .ok value else .error (faults.map (Issue.mk path))

def fault (path : List PathStep) (fault : Fault) : Checked α := .error [⟨path, fault⟩]

/-- All items of a list, each checked at its own index. -/
def items (check : Nat → Untyped → Checked α) : Nat → List Untyped → Checked (List α)
  | _, [] => .ok []
  | i, item :: rest => Checked.and ((check i item).map List.cons) (items check (i + 1) rest)

end Checked

/-- Bounds on a whole number. -/
structure NumberRule where
  least : Nat
  /-- Whether `least` itself is too small. -/
  strict : Bool
  greatest? : Option Nat

namespace NumberRule

/-- The whole numbers that doubles hold without gaps lie between this and its negation. -/
def wholeRange : Int := 9007199254740991

def rangeFaults (n : Int) : List Fault :=
  if wholeRange < n then [.aboveWholeRange]
  else if n < -wholeRange then [.belowWholeRange] else []

def leastFaults (rule : NumberRule) (n : Int) : List Fault :=
  if rule.strict then (if n ≤ rule.least then [.notAbove rule.least] else [])
  else if n < rule.least then [.below rule.least] else []

def greatestFaults (rule : NumberRule) (n : Int) : List Fault :=
  match rule.greatest? with
  | some bound => if bound < n then [.above bound] else []
  | none => []

/-- The bounds are looked at for whole numbers only. -/
def wholeFaults (rule : NumberRule) : Option Int → List Fault
  | none => [.wrongKind .int .number]
  | some n => rangeFaults n ++ rule.leastFaults n ++ rule.greatestFaults n

def faults (rule : NumberRule) : Binary64 → List Fault
  | .nan => [.wrongKind .number .nan]
  | .infinite _ => [.wrongKind .number .number]
  | .finite negative r => rule.wholeFaults (Binary64.toInt? (.finite negative r))

def check (rule : NumberRule) (path : List PathStep) : Untyped → Checked Binary64
  | .number x => .ofFaults path (rule.faults x) x
  | value => .fault path (.wrongKind .number value.kind)

end NumberRule

namespace Untyped

def checkString (path : List PathStep) (faults : String → List Fault) : Untyped → Checked String
  | string s => .ofFaults path (faults s) s
  | value => .fault path (.wrongKind .string value.kind)

def emptyFaults (s : String) : List Fault := if s = "" then [.emptyString] else []

/-- One of a list of options by its name. -/
def checkOption {α : Type} (path : List PathStep) (options : List α) (name : α → String)
    (value : Untyped) : Checked α :=
  let chosen := match value with
    | string s => options.find? (name · = s)
    | _ => none
  match chosen with
  | some option => .ok option
  | none => .fault path (.notOneOf (options.map name))

/-- An undefined value passes as none. -/
def optional {α : Type} (check : Untyped → Checked α) : Untyped → Checked (Option α)
  | undefined => .ok none
  | value => (check value).map some

/-- An undefined value passes as the default. -/
def withDefault {α : Type} (default : α) (check : Untyped → Checked α) : Untyped → Checked α
  | undefined => .ok default
  | value => check value

end Untyped
end MetricPipeline
