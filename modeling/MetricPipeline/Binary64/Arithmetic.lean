import MetricPipeline.Binary64.Basic

/-! Arithmetic on doubles: each operation is exact on the operands' units and rounds once. The least
and the greatest of two doubles are NaN when either is, and hold minus zero below zero. -/

namespace MetricPipeline.Binary64

def signedUnits (negative : Bool) (r : Nat) : Int := signed negative (unitsOfRank r)

protected def neg : Binary64 → Binary64
  | .nan => .nan
  | .infinite negative => .infinite !negative
  | .finite negative r => .finite (!negative) r

/-- A sum that cancels is zero, and minus zero only when both sides are. -/
protected def add : Binary64 → Binary64 → Binary64
  | .nan, _ => .nan
  | _, .nan => .nan
  | .infinite a, .infinite b => if a = b then .infinite a else .nan
  | .infinite a, .finite _ _ => .infinite a
  | .finite _ _, .infinite b => .infinite b
  | .finite a r, .finite b s =>
    let sum := signedUnits a r + signedUnits b s
    if sum = 0 then zero (a && b) else ofUnits (sum < 0) sum.natAbs 1

protected def mul : Binary64 → Binary64 → Binary64
  | .nan, _ => .nan
  | _, .nan => .nan
  | .infinite a, .infinite b => .infinite (a ^^ b)
  | .infinite a, .finite b s => if s.val = 0 then .nan else .infinite (a ^^ b)
  | .finite a r, .infinite b => if r.val = 0 then .nan else .infinite (a ^^ b)
  | .finite a r, .finite b s => ofUnits (a ^^ b) (unitsOfRank r * unitsOfRank s) one

protected def div : Binary64 → Binary64 → Binary64
  | .nan, _ => .nan
  | _, .nan => .nan
  | .infinite _, .infinite _ => .nan
  | .infinite a, .finite b _ => .infinite (a ^^ b)
  | .finite a _, .infinite b => zero (a ^^ b)
  | .finite a r, .finite b s =>
    if s.val = 0 then (if r.val = 0 then .nan else .infinite (a ^^ b))
    else ofUnits (a ^^ b) (unitsOfRank r * one) (unitsOfRank s)

instance : Neg Binary64 := ⟨Binary64.neg⟩
instance : Add Binary64 := ⟨Binary64.add⟩
instance : Sub Binary64 := ⟨fun a b => a + -b⟩
instance : Mul Binary64 := ⟨Binary64.mul⟩
instance : Div Binary64 := ⟨Binary64.div⟩

/-- The greatest integer not above a double, with the sign of the double when it is zero. -/
def floor : Binary64 → Binary64
  | .finite false r => ofUnits false (unitsOfRank r / one * one) 1
  | .finite true r => ofUnits true ((unitsOfRank r + (one - 1)) / one * one) 1
  | x => x

protected def min (a b : Binary64) : Binary64 :=
  if a.isNan || b.isNan then .nan else if a.place ≤ b.place then a else b

protected def max (a b : Binary64) : Binary64 :=
  if a.isNan || b.isNan then .nan else if a.place ≤ b.place then b else a

end MetricPipeline.Binary64
