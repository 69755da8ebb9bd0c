/-
The settings of the program.
-/
import Provision.Protocol

namespace Provision

/-- What a settings file can say. -/
structure Settings where
  /-- The backend's address. -/
  endpoint : Option String := none
  /-- The protocol that a new form has selected. -/
  defaultProtocol : Protocol := .outline
  /-- Ask before quitting while a session runs. -/
  confirmQuit : Bool := true
  deriving DecidableEq, Repr, Inhabited

/-- The backend's address when nothing else is configured. -/
def defaultEndpoint : String := "ws://127.0.0.1:8000/ws"

end Provision
