/-
Connections to WebSockets.

A target that cannot be one is refused before anybody is asked.
-/
import Provision.Network
import Provision.WebSocket.Target

namespace Provision.WebSocket

/-- The answer to an attempt to connect, where `reach` gives that of the one who is
named. -/
def answer (reach : Target → Answer) (target : String) : Answer :=
  match Target.read target with
  | .ok whom => reach whom
  | .error fault => .refuse fault.message

/-- The answer of a network that leads nowhere. -/
def unreachable (_ : Target) : Answer :=
  .refuse "IO error: Network is unreachable (os error 101)"

end Provision.WebSocket
