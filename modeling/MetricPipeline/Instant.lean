import MetricPipeline.Binary64.Arithmetic

/-! Instants in milliseconds from the epoch. An instant is a whole number of milliseconds within a hundred
million days of the epoch, or invalid. -/

namespace MetricPipeline

def Instant.bound : Nat := 8640000000000000

inductive Instant where
  | invalid
  | millis (t : Int) (inRange : t.natAbs ≤ Instant.bound)
deriving DecidableEq

namespace Instant

def ofInt (t : Int) : Instant := if h : t.natAbs ≤ bound then .millis t h else .invalid

/-- A fraction of a millisecond is cut off toward the epoch. -/
def ofMillis (x : Binary64) : Instant :=
  match x.truncate? with
  | some t => ofInt t
  | none => .invalid

def toMillis : Instant → Binary64
  | .invalid => .nan
  | .millis t _ => .ofInt t

end Instant
end MetricPipeline
