import MetricPipeline.Binary64.Arithmetic
import MetricPipeline.Binary64.Decimal

/-! Spans of time, held as a double of nanoseconds. The span between two clock readings is subtracted
before it is rounded, so the size of the readings costs no precision. -/

namespace MetricPipeline

structure Duration where
  nanos : Binary64
deriving DecidableEq

namespace Duration

def nanosPerMilli : Binary64 := .ofNat 1000000

def nanosPerSecond : Binary64 := .ofNat 1000000000

def zero : Duration := ⟨.zero false⟩

def ofMillis (millis : Binary64) : Duration := ⟨millis * nanosPerMilli⟩

def ofSeconds (seconds : Binary64) : Duration := ⟨seconds * nanosPerSecond⟩

/-- The span between two readings of a clock that counts nanoseconds. -/
def between (start stop : Int) : Duration := ⟨.ofInt (stop - start)⟩

def toMillis (d : Duration) : Binary64 := d.nanos / nanosPerMilli

def text (d : Duration) : String := d.toMillis.text ++ "ms"

end Duration
end MetricPipeline
