/-! IEEE 754 double precision as exact data. A finite double is a sign and the rank of its magnitude
among all finite magnitudes, so equality of data is identity of doubles: there is one NaN, and the two
zeros differ. Rounding takes the last rank not above the exact value and chooses between it and the
next; consecutive ranks have consecutive significands, so the even rank is the even significand, and
the rank after the last finite one is infinity. -/

namespace MetricPipeline

/-- Number of finite magnitudes, which is also the rank infinity takes. -/
def finiteRanks : Nat := 2047 * Nat.pow 2 52

inductive Binary64 where
  | nan
  | infinite (negative : Bool)
  | finite (negative : Bool) (rank : Fin finiteRanks)
deriving DecidableEq, Hashable

namespace Binary64

theorem finiteRanks_pos : 0 < finiteRanks := by decide

/-- The least magnitude, which is the unit of all others, is two to the minus this power. -/
def unitExponent : Nat := 1074

/-- How many units make one. -/
def one : Nat := Nat.pow 2 unitExponent

/-- Magnitude of a rank, in units. -/
def unitsOfRank (r : Nat) : Nat :=
  (r - (r / Nat.pow 2 52 - 1) * Nat.pow 2 52) * Nat.pow 2 (r / Nat.pow 2 52 - 1)

/-- The last rank whose magnitude is at most `n` units. -/
def rankBelow (n : Nat) : Nat :=
  n / Nat.pow 2 (n.log2 - 52) + (n.log2 - 52) * Nat.pow 2 52

/-- The rank nearest to `num / den` units, a tie going to the even rank. -/
def nearestRank (num den : Nat) : Nat :=
  let r := rankBelow (num / den)
  let middle := (unitsOfRank r + unitsOfRank (r + 1)) * den
  if 2 * num < middle then r
  else if middle < 2 * num then r + 1
  else if r % 2 = 0 then r else r + 1

def ofRank (negative : Bool) (r : Nat) : Binary64 :=
  if h : r < finiteRanks then .finite negative ⟨r, h⟩ else .infinite negative

/-- The double nearest to `num / den` units with the given sign. -/
def ofUnits (negative : Bool) (num den : Nat) : Binary64 :=
  ofRank negative (nearestRank num den)

def ofInt (n : Int) : Binary64 := ofUnits (n < 0) (n.natAbs * one) 1

def ofNat (n : Nat) : Binary64 := ofInt n

def zero (negative : Bool) : Binary64 := .finite negative ⟨0, finiteRanks_pos⟩

def isNan : Binary64 → Bool
  | .nan => true
  | _ => false

def signed (negative : Bool) (n : Nat) : Int := if negative then -n else n

/-- The integer toward zero from a finite double. -/
def truncate? : Binary64 → Option Int
  | .finite negative r => some (signed negative (unitsOfRank r / one))
  | _ => none

/-- The value of a double that is an integer. -/
def toInt? : Binary64 → Option Int
  | .finite negative r =>
    if unitsOfRank r % one = 0 then some (signed negative (unitsOfRank r / one)) else none
  | _ => none

/-- Where a double stands on the number line, the two zeros at one point. -/
def position? : Binary64 → Option Int
  | .nan => none
  | .infinite negative => some (signed negative finiteRanks)
  | .finite negative r => some (signed negative r)

/-- Where a double stands on the number line with minus zero just below zero. -/
def place : Binary64 → Int
  | .nan => 0
  | .infinite negative => if negative then -finiteRanks - 1 else finiteRanks
  | .finite negative r => if negative then -r - 1 else r

/-- False when either side is NaN. -/
def lt (a b : Binary64) : Bool :=
  match a.position?, b.position? with
  | some p, some q => p < q
  | _, _ => false

/-- False when either side is NaN. -/
def le (a b : Binary64) : Bool :=
  match a.position?, b.position? with
  | some p, some q => p ≤ q
  | _, _ => false

end Binary64
end MetricPipeline
