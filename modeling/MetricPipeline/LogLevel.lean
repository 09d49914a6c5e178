/-! Levels of log lines, from most to least talkative. -/

namespace MetricPipeline

inductive LogLevel where
  | trace
  | debug
  | info
  | warn
  | error
  | fatal
  | silent
deriving DecidableEq

namespace LogLevel

def values : List LogLevel := [trace, debug, info, warn, error, fatal, silent]

def name : LogLevel → String
  | trace => "trace"
  | debug => "debug"
  | info => "info"
  | warn => "warn"
  | error => "error"
  | fatal => "fatal"
  | silent => "silent"

def ofName? (s : String) : Option LogLevel := values.find? (·.name = s)

def severity : LogLevel → Nat
  | trace => 10
  | debug => 20
  | info => 30
  | warn => 40
  | error => 50
  | fatal => 60
  | silent => 70

/-- Whether a logger at level `threshold` writes lines of `level`; no line has level `silent`. -/
def writes (threshold level : LogLevel) : Bool :=
  level ≠ silent && threshold.severity ≤ level.severity

end LogLevel
end MetricPipeline
