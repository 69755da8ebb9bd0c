/-
The backend's address, and where it comes from.

The command line comes before the environment, the environment before the
settings, and the settings before the default; a blank value counts as none.
The first one given has to be right: a wrong one is an error and never hides
behind the next.
-/
import Provision.Error
import Provision.Settings
import Provision.Text.Blank
import Provision.Url

namespace Provision.Endpoint

/-- Where an endpoint was given. -/
inductive Source where
  | commandLine
  | environment
  | settings
  | default
  deriving DecidableEq, Repr

/-- The name of the environment's variable. -/
def variableName : String := "VPNATOR_ENDPOINT"

/-- The name of a source. -/
def Source.name : Source → String
  | commandLine => "command line"
  | environment => variableName
  | settings => "config file"
  | default => "default"

/-- Why a text cannot be the endpoint. -/
inductive Fault where
  | url (fault : Url.Fault)
  /-- It has another scheme. -/
  | scheme (found : String)
  | noHost
  deriving DecidableEq, Repr

/-- The wording of a fault of the text `raw`. -/
def Fault.message (raw : String) : Fault → String
  | url inner => "invalid endpoint '" ++ raw ++ "': " ++ inner.message
  | scheme found =>
    "endpoint '" ++ raw ++ "' must use ws:// or wss://, not " ++ found ++ "://"
  | noHost => "endpoint '" ++ raw ++ "' has no host"

/-- Check that a text is the URL of a WebSocket. -/
def check (raw : String) : Except Fault Unit := do
  let url ← (Url.read raw).mapError .url
  if url.scheme ≠ "ws" ∧ url.scheme ≠ "wss" then throw (.scheme url.scheme)
  if url.host.isNone then throw .noHost

/-- The text itself, if it is the URL of a WebSocket. -/
def validate (raw : String) : Except Error String :=
  match check raw with
  | .ok () => .ok raw
  | .error fault => .error (.configInvalid (fault.message raw))

/-- An endpoint and where it was given. -/
structure Resolved where
  url : String
  source : Source
  deriving DecidableEq, Repr

/-- A value that is not blank, without the blanks around it. -/
def given? (value : Option String) : Option String :=
  (value.map Text.trim).filter (!·.isEmpty)

/-- The first value that is given, and where. -/
def choose (commandLine environment settings : Option String) : Resolved :=
  match given? commandLine, given? environment, given? settings with
  | some url, _, _ => ⟨url, .commandLine⟩
  | none, some url, _ => ⟨url, .environment⟩
  | none, none, some url => ⟨url, .settings⟩
  | none, none, none => ⟨defaultEndpoint, .default⟩

/-- The endpoint to use, checked. -/
def resolve (commandLine environment settings : Option String) : Except Error Resolved :=
  let chosen := choose commandLine environment settings
  match check chosen.url with
  | .ok () => .ok chosen
  | .error fault =>
    .error (.configInvalid
      (fault.message chosen.url ++ " (from " ++ chosen.source.name ++ ")"))

end Provision.Endpoint
