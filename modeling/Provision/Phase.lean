/-
Where a session stands, as the user sees it.
-/

namespace Provision

/-- The progress of the current session. -/
inductive Phase where
  /-- Nothing submitted yet. -/
  | idle
  /-- Submitted; the connection is not open yet. -/
  | connecting
  /-- The connection is open and progress comes in. -/
  | installing
  /-- The backend has finished. -/
  | complete
  /-- The connection failed or ended early. -/
  | failed (reason : String)
  /-- The user gave the session up. -/
  | cancelled
  deriving DecidableEq, Repr, Inhabited

namespace Phase

/-- A session is running: the form is locked. -/
def inProgress : Phase → Bool
  | connecting | installing => true
  | _ => false

/-- The name shown to people. -/
def label : Phase → String
  | idle => "Idle"
  | connecting => "Connecting"
  | installing => "Installing"
  | complete => "Complete"
  | failed _ => "Failed"
  | cancelled => "Cancelled"

end Phase

end Provision
