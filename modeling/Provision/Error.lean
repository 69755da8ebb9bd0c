/-
The errors of the program, by layer.

Each error has one wording, `Error.message`.  An error is recoverable when
the user can mend the form or try again, and fatal when the program has to
stop; no error is both (`not_recoverable_and_fatal`), and an error of reading
or of JSON is neither.
-/
import Provision.Json.Fault

namespace Provision

/-- What went wrong. -/
inductive Error where
  /-- Reading or writing failed. -/
  | io (message : String)
  /-- A JSON text was refused. -/
  | json (fault : Json.Fault)
  /-- The terminal cannot be used. -/
  | terminal (message : String)
  /-- No connection to `target` came about. -/
  | connection (target reason : String)
  /-- An open connection failed. -/
  | transport (message : String)
  /-- A line does not follow the backend's protocol. -/
  | protocol (message : String)
  /-- The configuration cannot be used. -/
  | configInvalid (message : String)
  /-- A value does not fit its field. -/
  | validation (field reason : String)
  /-- All message sources are gone. -/
  | channelClosed
  deriving DecidableEq, Repr

namespace Error

/-- The wording of an error. -/
def message : Error → String
  | io message => "IO error: " ++ message
  | json fault => "JSON parsing error: " ++ fault.message
  | terminal message => "Terminal error: " ++ message
  | connection target reason => "Failed to connect to " ++ target ++ ": " ++ reason
  | transport message => "Transport error: " ++ message
  | protocol message => "Backend protocol error: " ++ message
  | configInvalid message => "Invalid configuration: " ++ message
  | validation field reason => field ++ ": " ++ reason
  | channelClosed => "Channel closed unexpectedly"

/-- Errors that leave the program usable. -/
def recoverable : Error → Bool
  | connection .. | transport .. | protocol .. | validation .. => true
  | _ => false

/-- Errors that end the program. -/
def fatal : Error → Bool
  | terminal .. | configInvalid .. | channelClosed => true
  | _ => false

theorem not_recoverable_and_fatal (e : Error) : (e.recoverable && e.fatal) = false := by
  cases e <;> rfl

end Error

end Provision
