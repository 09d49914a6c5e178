import MetricPipeline.Binary64.Basic

/-! Decimal text of doubles. Reading rounds the exact decimal once. Writing takes the fewest significant
digits that read back as the same double: on the decimal grid of each length only the two neighbours of
the value need to be tried, since a grid point that reads back has one of them between it and the value.
Of two that read back the nearer is written, and of two equally near the even one. -/

namespace MetricPipeline.Binary64

/-- Number of decimal digits, one for zero. -/
def digitCount (n : Nat) : Nat := (Nat.toDigits 10 n).length

/-- The double nearest to `digits * 10 ^ exponent`. Beyond the two bounds the exact power is not formed:
there the value is above every finite double, or below half the least one. -/
def ofDecimal (negative : Bool) (digits : Nat) (exponent : Int) : Binary64 :=
  if digits = 0 then zero negative
  else if 400 < exponent then .infinite negative
  else if (digitCount digits : Int) + exponent < -400 then zero negative
  else if 0 ≤ exponent then ofUnits negative (digits * Nat.pow 10 exponent.toNat * one) 1
  else ofUnits negative (digits * one) (Nat.pow 10 (-exponent).toNat)

/-- A positive number written as its digits, without zeros at the end, and the place of the point
counted from before the first digit. -/
structure Decimal where
  digits : List Char
  point : Int
deriving DecidableEq

/-- The place of the point in a positive magnitude: the least `k` with the magnitude below `10 ^ k`. -/
def pointOfUnits (units : Nat) : Int := digitCount (units * Nat.pow 10 340 / one) - 340

/-- The magnitude in steps of `10 ^ exponent`, as a quotient. -/
def inSteps (units : Nat) (exponent : Int) : Nat × Nat :=
  if 0 ≤ exponent then (units, one * Nat.pow 10 exponent.toNat)
  else (units * Nat.pow 10 (-exponent).toNat, one)

/-- The nearer neighbour on the grid with step `10 ^ exponent` that reads back. -/
def onGrid? (r : Fin finiteRanks) (exponent : Int) : Option Nat :=
  let (num, den) := inSteps (unitsOfRank r) exponent
  let low := num / den
  let readsBack := fun c => ofDecimal false c exponent = .finite false r
  let nearest :=
    if 2 * num < (2 * low + 1) * den then low
    else if (2 * low + 1) * den < 2 * num then low + 1
    else if low % 2 = 0 then low else low + 1
  if readsBack nearest then some nearest
  else if readsBack low then some low
  else if readsBack (low + 1) then some (low + 1)
  else none

def dropEndZeros (digits : List Char) : List Char :=
  (digits.reverse.dropWhile (· == '0')).reverse

/-- Seventeen digits always read back, so the search ends with them. -/
def shortestFrom (r : Fin finiteRanks) (point : Int) : (fuel length : Nat) → Nat × Int
  | 0, length => ((onGrid? r (point - length)).getD 0, point - length)
  | fuel + 1, length =>
    match onGrid? r (point - length) with
    | some c => (c, point - length)
    | none => shortestFrom r point fuel (length + 1)

def shortest (r : Fin finiteRanks) : Decimal :=
  let (c, exponent) := shortestFrom r (pointOfUnits (unitsOfRank r)) 16 1
  let digits := Nat.toDigits 10 c
  ⟨dropEndZeros digits, digits.length + exponent⟩

/-- Where plain notation ends: a number from `10 ^ -6` up to `10 ^ 21` is written without exponent. -/
structure PlainRange where
  leastPoint : Int
  greatestPoint : Int

def plainRange : PlainRange := ⟨-5, 21⟩

def Decimal.text (d : Decimal) : String :=
  let n : Int := d.digits.length
  if n ≤ d.point ∧ d.point ≤ plainRange.greatestPoint then
    String.ofList (d.digits ++ List.replicate (d.point - n).toNat '0')
  else if 0 < d.point ∧ d.point ≤ plainRange.greatestPoint then
    String.ofList (d.digits.take d.point.toNat ++ '.' :: d.digits.drop d.point.toNat)
  else if plainRange.leastPoint ≤ d.point ∧ d.point ≤ 0 then
    String.ofList ('0' :: '.' :: (List.replicate (-d.point).toNat '0' ++ d.digits))
  else
    let e := d.point - 1
    let mantissa := match d.digits with
      | [] => []
      | [c] => [c]
      | c :: rest => c :: '.' :: rest
    String.ofList (mantissa ++ 'e' :: (if e < 0 then '-' else '+') :: Nat.toDigits 10 e.natAbs)

/-- Shortest decimal text; both zeros are written `0`. -/
def text : Binary64 → String
  | .nan => "NaN"
  | .infinite negative => if negative then "-Infinity" else "Infinity"
  | .finite negative r =>
    if r.val = 0 then "0"
    else if negative then "-" ++ (shortest r).text else (shortest r).text

end MetricPipeline.Binary64
