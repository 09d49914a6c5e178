/-! Characters beyond ASCII written as small letters and digits. What is written are the distances between
their places: all places in the text for the first code point beyond ASCII, then all for the next one,
and so on. A distance is a number in base 36 with its least digit first, and its last digit is known by
being below a threshold, which adapts to the distances so far. -/

namespace MetricPipeline.Text.Punycode

def base : Nat := 36

def minThreshold : Nat := 1

def maxThreshold : Nat := 26

def skew : Nat := 38

/-- By how much the first distance counts less than the others. -/
def damping : Nat := 700

def firstBias : Nat := 72

def firstCode : Nat := 128

/-- No number above this one is read. -/
def maxNumber : Nat := Nat.pow 2 31 - 1

def digit? (c : Char) : Option Nat :=
  if 'a' ≤ c ∧ c ≤ 'z' then some (c.toNat - 'a'.toNat)
  else if '0' ≤ c ∧ c ≤ '9' then some (c.toNat - '0'.toNat + 26)
  else none

/-- The threshold of the digit whose place is `place / base`, counted from 1. -/
def threshold (bias place : Nat) : Nat :=
  if place ≤ bias then minThreshold
  else if bias + maxThreshold ≤ place then maxThreshold
  else place - bias

/-- The bias for a scaled distance, above a given one. -/
def biasFrom (bias delta : Nat) : Nat :=
  if (base - minThreshold) * maxThreshold / 2 < delta then
    biasFrom (bias + base) (delta / (base - minThreshold))
  else bias + (base - minThreshold + 1) * delta / (delta + skew)
termination_by delta
decreasing_by exact Nat.div_lt_self (by omega) (by decide)

/-- The bias after a distance, in text that then has `length` characters. -/
def adapt (delta length : Nat) (isFirst : Bool) : Nat :=
  let scaled := if isFirst then delta / damping else delta / 2
  biasFrom 0 (scaled + scaled / length)

/-- A number added to `sum`, in units of `weight`, and what follows it. -/
def readNumber? (bias : Nat) :
    (place weight sum : Nat) → (s : List Char) → Option (Nat × { rest : List Char // rest.length < s.length })
  | _, _, _, [] => none
  | place, weight, sum, c :: rest =>
    match digit? c with
    | none => none
    | some d =>
      let t := threshold bias place
      if maxNumber < sum + d * weight then none
      else if d < t then some (sum + d * weight, ⟨rest, by simp⟩)
      else if maxNumber < weight * (base - t) then none
      else
        (readNumber? bias (place + base) (weight * (base - t)) (sum + d * weight) rest).map
          fun (n, tail) => (n, ⟨tail.1, Nat.lt_succ_of_lt tail.2⟩)

/-- The text so far and what the rest of the distances puts into it, from code point `code` and place
`index` on. -/
def insertFrom? (bias code index : Nat) (text : List Char) (s : List Char) : Option (List Char) :=
  if s = [] then some text
  else
    match readNumber? bias base 1 index s with
    | none => none
    | some (n, ⟨rest, _⟩) =>
      let length := text.length + 1
      let code' := code + n / length
      if code'.isValidChar then
        insertFrom? (adapt (n - index) length (index = 0)) code' (n % length + 1)
          (text.insertIdx (n % length) (Char.ofNat code')) rest
      else none
termination_by s.length

/-- The text that is written as `s`. Its ASCII characters come first, before the last hyphen. -/
def decode? (s : List Char) : Option (List Char) :=
  if s.head? = some '-' then none
  else
    let distances := (s.reverse.takeWhile (· ≠ '-')).reverse
    let plain := (s.reverse.dropWhile (· ≠ '-')).drop 1 |>.reverse
    insertFrom? firstBias firstCode 0 plain distances

end MetricPipeline.Text.Punycode
