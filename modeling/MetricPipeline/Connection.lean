import MetricPipeline.Url

/-! Connections to the service that data are uploaded to. A connection made from a configuration owns its
client and destroys it at the first close; one made around a client leaves it alone. -/

namespace MetricPipeline

structure Credentials where
  accessKeyId : String
  secretAccessKey : String
  sessionToken? : Option String
deriving DecidableEq

structure ConnectionConfig where
  region? : Option String := none
  endpoint? : Option String := none
  credentials? : Option Credentials := none
deriving DecidableEq

structure Connection where
  config : ConnectionConfig
  owned : Bool
  closed : Bool
  /-- How often the client was destroyed. -/
  destroyed : Nat
deriving DecidableEq

inductive ConnectionError where
  | invalidUrl
  | unsupported (scheme : String)
  | missingRegion
deriving DecidableEq

def ConnectionError.message : ConnectionError → String
  | invalidUrl => "Invalid URL"
  | unsupported scheme => "Unsupported connection type: " ++ scheme ++ ":"
  | missingRegion => "Region is missing"

namespace Connection

/-- The connection of its own that a configuration asks for. The region may be left out, but not empty. -/
def create (config : ConnectionConfig) : Except ConnectionError Connection :=
  if config.region? = some "" then .error .missingRegion else .ok ⟨config, true, false, 0⟩

/-- The connection around a client that was built with `config`. -/
def ofClient (config : ConnectionConfig) : Connection := ⟨config, false, false, 0⟩

def scheme : String := "cloudwatch"

/-- The value of a parameter; an empty one counts as none. -/
def parameter? (url : Url) (name : String) : Option String :=
  (url.parameter? name).filter (· ≠ "")

/-- Both keys together, or no credentials. -/
def credentials? (url : Url) : Option Credentials :=
  match parameter? url "accessKeyId", parameter? url "secretAccessKey" with
  | some accessKeyId, some secretAccessKey =>
    some ⟨accessKeyId, secretAccessKey, parameter? url "sessionToken"⟩
  | _, _ => none

def configOfUrl (url : Url) : ConnectionConfig :=
  ⟨parameter? url "region", parameter? url "endpoint", credentials? url⟩

/-- The connection that a connection string describes. -/
def ofString (text : String) : Except ConnectionError Connection :=
  match Url.parse? text with
  | none => .error .invalidUrl
  | some url =>
    if url.scheme = scheme then create (configOfUrl url) else .error (.unsupported url.scheme)

def close (connection : Connection) : Connection :=
  if connection.closed then connection
  else
    { connection with
      closed := true
      destroyed := if connection.owned then connection.destroyed + 1 else connection.destroyed }

end Connection
end MetricPipeline
