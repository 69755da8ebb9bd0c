/-
Reading the messages of a WebSocket.

A message comes in one frame or in several.  Frames that steer the connection may
stand between them: a ping is answered by a pong with the same payload, and a
close is the last thing that is read.  Reading also stops at the first fault.
-/
import Provision.Connection
import Provision.Text.Utf8
import Provision.WebSocket.Frame

namespace Provision.WebSocket

/-- The frame for a payload. -/
def Frame.ofPayload : Payload → Frame
  | .text s => { kind := .text, payload := (Payload.text s).bytes }
  | .binary bytes => { kind := .binary, payload := bytes }

/-- A message of which some frames have come. -/
structure Begun where
  /-- It is text, not bytes. -/
  isText : Bool
  bytes : List UInt8 := []
  deriving DecidableEq, Repr

namespace Begun

/-- The longest message that is read. -/
def limit : Nat := 67108864

/-- Go on with a message. -/
def append (m : Begun) (more : List UInt8) : Except StreamFault Begun :=
  let bytes := m.bytes ++ more
  if limit < bytes.length then .error (.tooLong bytes.length limit)
  else if m.isText && !Text.Utf8.isStart bytes then .error .encoding
  else .ok { m with bytes }

/-- The message is over. -/
def payload (m : Begun) : Except StreamFault Payload :=
  if m.isText then
    match Text.Utf8.decode? m.bytes with
    | some cs => .ok (.text (String.ofList cs))
    | none => .error .encoding
  else .ok (.binary m.bytes)

end Begun

/-! ### Closing -/

/-- The codes that a peer may give when it closes. -/
def isCloseCode (code : Nat) : Bool :=
  (1000 ≤ code && code ≤ 1003) || (1007 ≤ code && code ≤ 1013) || (3000 ≤ code && code ≤ 4999)

/-- What the payload of a close says: nothing, or a code and a reason.  A code that
may not be given counts as a violation of the protocol. -/
def closeInfo : List UInt8 → Except StreamFault CloseInfo
  | [] => .ok {}
  | [_] => .error .closeOfOneByte
  | a :: b :: reason =>
    let code := ofBigEndian [a, b]
    match Text.Utf8.decode? reason with
    | none => .error .encoding
    | some reason =>
      if isCloseCode code then .ok ⟨some (UInt16.ofNat code), String.ofList reason⟩
      else .ok ⟨some 1002, "Protocol violation"⟩

/-! ### Frames -/

/-- What a frame leads to. -/
structure Effect where
  begun : Option Begun := none
  inbound : List Inbound := []
  replies : List Frame := []
  /-- Nothing is read after it. -/
  isEnd : Bool := false
  deriving DecidableEq, Repr

/-- The message goes on, or is over. -/
def Effect.ofMessage (m : Begun) (isLast : Bool) : Except StreamFault Effect := do
  if isLast then return { inbound := [.message (← m.payload)] }
  return { begun := some m }

/-- Read a frame, where `begun` is the message that is not over. -/
def readFrame (begun : Option Begun) (f : Frame) : Except StreamFault Effect := do
  if f.reserved then throw .reservedBits
  if f.masked then throw .masked
  if f.kind.isControl then
    if !f.isLast then throw .partedControl
    if 125 < f.payload.length then throw .longControl
  match f.kind, begun with
  | .close, _ => return { inbound := [.close (← closeInfo f.payload)], isEnd := true }
  | .ping, _ => return { begun, replies := [{ kind := .pong, payload := f.payload }] }
  | .pong, _ => return { begun }
  | .more, none => throw .nothingBegun
  | .more, some m => Effect.ofMessage (← m.append f.payload) f.isLast
  | kind, some _ => throw (.unfinished (kind = .text))
  | kind, none =>
    Effect.ofMessage (← Begun.append { isText := kind = .text } f.payload) f.isLast

/-! ### Bytes -/

/-- What has been read so far. -/
structure Reader where
  /-- Bytes that are not a whole frame yet. -/
  bytes : List UInt8 := []
  begun : Option Begun := none
  /-- Nothing more is read. -/
  isOver : Bool := false
  deriving DecidableEq, Repr

namespace Reader

/-- What reading brings: the items for the client, and the frames to be sent. -/
abbrev Outcome := Reader × List Inbound × List Frame

/-- Reading fails. -/
def fail (fault : StreamFault) : Outcome :=
  ({ isOver := true }, [.failure (.transport fault.message)], [])

/-- Read the frames that are whole. -/
def frames (begun : Option Begun) (bytes : List UInt8) : Outcome :=
  match _h : Frame.read? bytes with
  | .error fault => fail fault
  | .ok none => ({ bytes, begun }, [], [])
  | .ok (some (f, rest)) =>
    match readFrame begun f with
    | .error fault => fail fault
    | .ok effect =>
      if effect.isEnd then ({ isOver := true }, effect.inbound, effect.replies)
      else
        let (r, inbound, replies) := frames effect.begun rest
        (r, effect.inbound ++ inbound, effect.replies ++ replies)
termination_by bytes.length
decreasing_by exact Frame.length_of_read? ‹_›

/-- Read more bytes. -/
def feed (r : Reader) (bytes : List UInt8) : Outcome :=
  if r.isOver then (r, [], []) else frames r.begun (r.bytes ++ bytes)

/-- No more bytes come. -/
def finish (r : Reader) : Outcome :=
  if r.isOver then (r, [], []) else fail .cutOff

end Reader

end Provision.WebSocket
