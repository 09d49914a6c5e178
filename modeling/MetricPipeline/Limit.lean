import MetricPipeline.Binary64.Arithmetic

/-! Limits on requests. A limit that is asked for is brought between one and what the service allows; one
that is not a number bounds nothing. -/

namespace MetricPipeline

inductive Limit where
  | atMost (n : Nat) (pos : 0 < n)
  | unbounded
deriving DecidableEq

namespace Limit

/-- The whole part of what is asked for, but at least one and at most `service`. -/
def clamp (service : Nat) : Option Binary64 → Binary64
  | none => .ofNat service
  | some asked => .max (.ofNat 1) (.min asked.floor (.ofNat service))

def ofBinary64 (x : Binary64) : Limit :=
  match x.toInt? with
  | some n => if h : 0 < n.toNat then .atMost n.toNat h else .unbounded
  | none => .unbounded

def reached : Limit → Nat → Bool
  | atMost n _, used => n ≤ used
  | unbounded, _ => false

end Limit

/-- Limits of one request: on its data, and on the values in them, where a summary counts as one. -/
structure RequestLimits where
  data : Limit
  values : Limit

namespace RequestLimits

def serviceData : Nat := 20

def serviceValues : Nat := 300

def create (data values : Option Binary64) : RequestLimits where
  data := .ofBinary64 (Limit.clamp serviceData data)
  values := .ofBinary64 (Limit.clamp serviceValues values)

end RequestLimits
end MetricPipeline
