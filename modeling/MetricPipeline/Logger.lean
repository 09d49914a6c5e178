import MetricPipeline.LogLevel
import MetricPipeline.Text.UpperCase

/-! How a logger is set up: its name, its level, the fields on every line and whether lines are made
readable for people, which is never done in production. -/

namespace MetricPipeline

/-- What is asked of a logger. An empty name or level counts as none. -/
structure LoggerRequest where
  name : String
  level : String
  pretty : Bool

structure LogTransport where
  target : String
  colorize : Bool
deriving DecidableEq

structure LoggerSettings where
  name? : Option String
  level? : Option String
  transport? : Option LogTransport

inductive LoggerError where
  | unknownLevel (level : String)
deriving DecidableEq

def LoggerError.message : LoggerError → String
  | unknownLevel level => "default level:" ++ level ++ " must be included in custom levels"

namespace LoggerSettings

def prettyTransport : LogTransport := ⟨"pino-pretty", true⟩

def nonEmpty? (s : String) : Option String := if s = "" then none else some s

/-- The settings for a request made where the environment is named `mode?`. -/
def ofRequest (mode? : Option String) (request : LoggerRequest) : LoggerSettings where
  name? := nonEmpty? request.name
  level? := nonEmpty? request.level
  transport? := if request.pretty && mode? ≠ some "production" then some prettyTransport else none

def versionKey : String := "nodeVersion"

/-- The fields on every line: the given ones, and the version in place of any field of its name. -/
def bindings {α : Type} (version : α) : List (String × α) → List (String × α)
  | [] => [(versionKey, version)]
  | (key, value) :: rest =>
    if key = versionKey then (key, version) :: rest else (key, value) :: bindings version rest

/-- How the level of a line is written. -/
def levelLabel (label : String) : String := Text.upper label

/-- Names that are taken for levels and yet have no severity. -/
def mutingNames : List String :=
  ["constructor", "hasOwnProperty", "isPrototypeOf", "propertyIsEnumerable", "toLocaleString", "toString",
    "valueOf", "__proto__", "__defineGetter__", "__defineSetter__", "__lookupGetter__", "__lookupSetter__"]

/-- The level of the logger with these settings, `info` when none is set; none for a name without
severity, with which nothing is written. The case of a level's name does not count, but `silent` is
known in lower case alone. -/
def effectiveLevel? (settings : LoggerSettings) : Except LoggerError (Option LogLevel) :=
  match settings.level? with
  | none => .ok (some .info)
  | some name =>
    match LogLevel.ofName? name, LogLevel.ofName? name.toLower with
    | some level, _ => .ok (some level)
    | none, some level => if level = .silent then .error (.unknownLevel name) else .ok (some level)
    | none, none =>
      if name ∈ mutingNames ∨ name.toLower ∈ mutingNames then .ok none else .error (.unknownLevel name)

end LoggerSettings
end MetricPipeline
