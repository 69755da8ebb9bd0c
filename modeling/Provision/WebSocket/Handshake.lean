/-
The handshake of a WebSocket.

The client asks for a target in a request of several lines, with a key.  The
server agrees by an answer of the right status that names the change of protocol
and confirms the key.  An answer is taken apart line by line once it is whole; only
its first bytes are checked before.
-/
import Provision.Text.Decimal
import Provision.Text.Utf8
import Provision.WebSocket.Confirmation
import Provision.WebSocket.Status
import Provision.WebSocket.Target

namespace Provision.WebSocket.Handshake

/-- Why a handshake fails. -/
inductive Fault where
  /-- The answer stops before its end. -/
  | unfinished
  /-- The first bytes name no version that is known. -/
  | version
  | oldVersion
  /-- The status is no number of three digits. -/
  | status
  | smallStatus
  | fieldName
  | fieldValue
  | tooManyFields
  /-- The server answers with another status. -/
  | refused (code : Nat)
  | noUpgrade
  | noConnection
  | wrongConfirmation
  /-- The server chooses a protocol that nobody offered. -/
  | choice
  deriving DecidableEq, Repr

/-- The wording of a fault. -/
def Fault.message : Fault → String
  | unfinished => violation "Handshake not finished"
  | version => unreadable "invalid HTTP version"
  | oldVersion => violation "HTTP version must be 1.1 or higher"
  | status => unreadable "invalid response status"
  | smallStatus => "HTTP format error: invalid status code"
  | fieldName => unreadable "invalid header name"
  | fieldValue => unreadable "invalid header value"
  | tooManyFields => unreadable "too many headers"
  | refused code => "HTTP error: " ++ Status.display code
  | noUpgrade => violation "No \"Upgrade: websocket\" header"
  | noConnection => violation "No \"Connection: upgrade\" header"
  | wrongConfirmation => violation "Key mismatch in \"Sec-WebSocket-Accept\" header"
  | choice => violation "SubProtocol error: Server sent a subprotocol but none was requested"
where
  violation (what : String) : String := "WebSocket protocol error: " ++ what
  unreadable (what : String) : String := violation ("httparse error: " ++ what)

/-! ### The request -/

/-- The key for sixteen bytes. -/
def key (bytes : List UInt8) : String :=
  String.ofList (base64 bytes)

/-- The lines that ask for a target. -/
def requestLines (t : Target) (key : String) : List String :=
  ["GET " ++ t.path ++ " HTTP/1.1", "Host: " ++ t.place, "Connection: Upgrade",
    "Upgrade: websocket", "Sec-WebSocket-Version: 13", "Sec-WebSocket-Key: " ++ key, ""]

/-- The request. -/
def request (t : Target) (key : String) : String :=
  String.join ((requestLines t key).map (· ++ "\r\n"))

/-! ### The answer -/

/-- An answer. -/
structure Answer where
  /-- It is not older than version 1.1. -/
  isRecent : Bool
  status : Nat
  /-- Names in lower case, with their values. -/
  fields : List (String × String) := []
  deriving DecidableEq, Repr

/-- The beginning of every answer, before the last digit of its version. -/
def opening : List Char := "HTTP/1.".toList

/-- Whether an answer may begin so. -/
def canOpen (cs : List Char) : Bool :=
  let start := cs.take opening.length
  start = opening.take start.length && ((cs.drop opening.length).take 1).all "01".toList.contains

/-- The lines before an empty one and the bytes after it, if there is one.  The line
that has begun is given last byte first. -/
def lines? (line : List UInt8) : List UInt8 → Option (List (List UInt8) × List UInt8)
  | [] => none
  | b :: rest =>
    if b = 10 then
      let line := if line.head? = some 13 then line.tail else line
      if line.isEmpty then some ([], rest)
      else (lines? [] rest).map fun (lines, after) => (line.reverse :: lines, after)
    else lines? (b :: line) rest

/-- Characters of values and of the text after a status. -/
def isVisible (c : Char) : Bool :=
  c = '\t' || (0x20 ≤ c.toNat && c.toNat ≠ 0x7F)

/-- Characters of names. -/
def isNameChar (c : Char) : Bool :=
  c.isAlphanum || "!#$%&'*+-.^_\x60|~".toList.contains c

/-- Blanks around values. -/
def isBlank (c : Char) : Bool :=
  c = ' ' || c = '\t'

/-- Read the line of the status. -/
def readStatus (cs : List Char) : Except Fault Answer := do
  if cs.length ≤ opening.length || !canOpen cs then throw .version
  let isRecent : Bool := cs[opening.length]? = some '1'
  match cs.drop (opening.length + 1) with
  | ' ' :: rest =>
    let reason := rest.drop 3
    match Text.Decimal.value? (rest.take 3) with
    | none => throw .status
    | some status =>
      if rest.length < 3 || !(reason.head?.all (· = ' ')) || !reason.all isVisible then
        throw .status
      return { isRecent, status }
  | _ => throw .version

/-- Read the line of a field. -/
def readField (line : List Char) : Except Fault (String × String) := do
  let name := line.takeWhile isNameChar
  match line.dropWhile isNameChar with
  | ':' :: rest =>
    if name.isEmpty then throw .fieldName
    if !rest.all isVisible then throw .fieldValue
    let value := ((rest.dropWhile isBlank).reverse.dropWhile isBlank).reverse
    return ((String.ofList name).toLower, String.ofList value)
  | _ => throw .fieldName

/-- How many fields are read. -/
def mostFields : Nat := 124

/-- Read the lines of an answer. -/
def Answer.ofLines (lines : List (List Char)) : Except Fault Answer := do
  match lines with
  | [] => throw .version
  | first :: rest =>
    let answer ← readStatus first
    let fields ← rest.mapM readField
    if mostFields < fields.length then throw .tooManyFields
    if !answer.isRecent then throw .oldVersion
    if answer.status < 100 then throw .smallStatus
    return { answer with fields }

/-- The first value of a field. -/
def Answer.value? (a : Answer) (name : String) : Option String :=
  a.fields.lookup name

/-- Check that an answer agrees to the request with this key. -/
def Answer.check (a : Answer) (key : String) : Except Fault Unit := do
  if a.status ≠ Status.switching then throw (.refused a.status)
  if (a.value? "upgrade").map (·.toLower) ≠ some "websocket" then throw .noUpgrade
  if (a.value? "connection").map (·.toLower) ≠ some "upgrade" then throw .noConnection
  if a.value? "sec-websocket-accept" ≠ some (confirmation key) then throw .wrongConfirmation
  if (a.value? "sec-websocket-protocol").isSome then throw .choice

/-- Whether the bytes of an answer to the request with this key agree to it: the bytes
after the answer, once it is whole. -/
def read? (key : String) (bytes : List UInt8) : Except Fault (Option (List UInt8)) := do
  let bytes := bytes.dropWhile fun b => b = 10 || b = 13
  let text (bytes : List UInt8) : List Char := bytes.map fun b => Char.ofNat b.toNat
  if !canOpen (text (bytes.take (opening.length + 1))) then throw .version
  match lines? [] bytes with
  | none => return none
  | some (lines, after) =>
    (← Answer.ofLines (lines.map text)).check key
    return some after

end Provision.WebSocket.Handshake
