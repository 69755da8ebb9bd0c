/-
A duplex connection, as its two ends speak of it.

Inbound, a connection carries messages until it ends: by a close frame, by a
read error, or because the stream simply stops.  How it ended is told by a
`CloseInfo`.
-/
import Provision.Error
import Provision.Payload

namespace Provision

/-- Why and how a connection ended. -/
structure CloseInfo where
  /-- The code that the other end gave, if it gave one. -/
  code : Option UInt16 := none
  reason : String := ""
  deriving DecidableEq, Repr, Inhabited

namespace CloseInfo

/-- An end without a close frame. -/
def abnormal (reason : String) : CloseInfo :=
  ⟨none, reason⟩

/-- The wording of an end. -/
def display (info : CloseInfo) : String :=
  match info.code, info.reason.isEmpty with
  | some code, false => info.reason ++ " (code " ++ toString code.toNat ++ ")"
  | some code, true => "closed with code " ++ toString code.toNat
  | none, false => info.reason
  | none, true => "connection closed"

end CloseInfo

/-- One inbound item of a connection. -/
inductive Inbound where
  | message (p : Payload)
  /-- The other end closed; nothing follows. -/
  | close (info : CloseInfo)
  /-- Reading failed. -/
  | failure (error : Error)
  deriving DecidableEq, Repr

end Provision
