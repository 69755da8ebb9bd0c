/-
Messages between client and backend.

A payload is text or bytes.  The backend's last message is the sentinel: a
payload whose text is exactly that word ends the session, and any other one is
a line of progress.  Bytes are read as text with replacement characters.
-/
import Provision.Text.Utf8

namespace Provision

/-- One message on a connection. -/
inductive Payload where
  | text (s : String)
  | binary (bytes : List UInt8)
  deriving DecidableEq, Repr

/-- What an inbound message means. -/
inductive MessageKind where
  /-- A line of progress. -/
  | info
  /-- The backend has finished. -/
  | endOfSession
  deriving DecidableEq, Repr

namespace Payload

/-- The word that ends a session. -/
def sentinel : String := "VPNATOR-COMPLETE"

/-- What a received text means: only the exact word ends the session. -/
def classify (s : String) : MessageKind :=
  if s = sentinel then .endOfSession else .info

/-- The text of a text payload. -/
def text? : Payload → Option String
  | text s => some s
  | binary _ => none

/-- The payload as bytes. -/
def bytes : Payload → List UInt8
  | text s => Text.Utf8.encode s.toList
  | binary bs => bs

/-- The payload as text. -/
def lossyText : Payload → String
  | text s => s
  | binary bs => String.ofList (Text.Utf8.decodeLossy bs)

/-- How many bytes the payload has. -/
def size : Payload → Nat
  | text s => s.utf8ByteSize
  | binary bs => bs.length

def isEmpty (p : Payload) : Bool :=
  p.size == 0

end Payload

end Provision
