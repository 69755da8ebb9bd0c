/-
An install request: which protocol to install on which server, and the
credentials for it.
-/
import Provision.Protocol
import Provision.Address

namespace Provision

/-- An account inside the VPN itself. -/
structure Account where
  username : String
  password : String
  deriving DecidableEq, Repr

/-- One request to the backend. -/
structure Request where
  protocol : Protocol
  /-- The server, `host` or `host:port`. -/
  address : String
  /-- The SSH user on the server. -/
  username : String
  /-- The SSH password on the server. -/
  password : String
  /-- The VPN account, for a protocol that needs one. -/
  account : Option Account := none
  deriving DecidableEq, Repr

/-- The server's address, read. -/
def Request.remote (r : Request) : Address :=
  .parse r.address

end Provision
