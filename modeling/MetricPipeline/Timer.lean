import MetricPipeline.Binary64.Arithmetic

/-! Timers. What a timer is given is not always how long it runs: delays are cut to whole milliseconds, and
those that are out of range are run as a single one. -/

namespace MetricPipeline

inductive Timer where
  | off
  /-- Started anew each time it has run out. -/
  | interval (since : Binary64)
  | timeout (since : Binary64)
deriving DecidableEq

/-- The longest delay that timers take, in milliseconds. -/
def Timer.longestDelay : Nat := 2147483647

/-- How many milliseconds a timer runs that is given a delay: a single one if the delay is shorter, too long
or no number. -/
def Timer.delay (given : Binary64) : Binary64 :=
  if (Binary64.ofNat 1).le given && given.le (.ofNat longestDelay) then given.floor else .ofNat 1

end MetricPipeline
