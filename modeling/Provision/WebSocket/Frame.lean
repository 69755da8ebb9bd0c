/-
The frames of a WebSocket.

A frame is a kind, a mark on the last frame of a message, and a payload.  Its
length stands in seven bits of the second byte, or in two or eight bytes after
it.  What a client writes is masked with a key of four bytes; what a server
writes is not.

`Frame.encode` writes a frame for a server.  `Frame.read?` takes the first frame
off the bytes of a server, and waits if it is not whole yet.
-/
import Provision.WebSocket.BigEndian

namespace Provision.WebSocket

/-- What is wrong with a stream of frames. -/
inductive StreamFault where
  /-- No kind has this code. -/
  | unknownKind (code : Nat)
  | reservedBits
  | masked
  /-- A frame that steers the connection is one of several. -/
  | partedControl
  | longControl
  /-- A frame goes on with a message, and none has begun. -/
  | nothingBegun
  /-- A message begins, and another one is not over; `text` tells the kind of the
  new one. -/
  | unfinished (text : Bool)
  | closeOfOneByte
  | encoding
  | tooLong (size limit : Nat)
  /-- The stream stops, and nobody said so before. -/
  | cutOff
  deriving DecidableEq, Repr

/-- The wording of a fault. -/
def StreamFault.message : StreamFault → String
  | unknownKind code => violation ("Encountered invalid opcode: " ++ toString code)
  | reservedBits => violation "Reserved bits are non-zero"
  | masked => violation "Received a masked frame from server"
  | partedControl => violation "Fragmented control frame"
  | longControl => violation "Control frame too big (payload must be 125 bytes or less)"
  | nothingBegun => violation "Continue frame but nothing to continue"
  | unfinished text =>
    violation ("While waiting for more fragments received: " ++ if text then "TEXT" else "BINARY")
  | closeOfOneByte => violation "Invalid close sequence"
  | encoding => "UTF-8 encoding error"
  | tooLong size limit =>
    "Space limit exceeded: Message too long: " ++ toString size ++ " > " ++ toString limit
  | cutOff => violation "Connection reset without closing handshake"
where
  violation (what : String) : String := "WebSocket protocol error: " ++ what

namespace Frame

/-- The kinds of frames. -/
inductive Kind where
  /-- Goes on with the message that has begun. -/
  | more
  | text
  | binary
  | close
  | ping
  | pong
  deriving DecidableEq, Repr

namespace Kind

/-- The code of a kind. -/
def code : Kind → Nat
  | more => 0
  | text => 1
  | binary => 2
  | close => 8
  | ping => 9
  | pong => 10

/-- The kind with a code. -/
def ofCode? (code : Nat) : Option Kind :=
  [more, text, binary, close, ping, pong].find? (·.code = code)

/-- The frame is no part of a message. -/
def isControl (k : Kind) : Bool :=
  8 ≤ k.code

end Kind

end Frame

/-- A frame. -/
structure Frame where
  kind : Frame.Kind
  payload : List UInt8
  /-- The last frame of its message. -/
  isLast : Bool := true
  /-- One of the bits that have no meaning is set. -/
  reserved : Bool := false
  masked : Bool := false
  deriving DecidableEq, Repr

namespace Frame

/-- The longest payload that is read. -/
def limit : Nat := 16777216

/-! ### Writing -/

/-- Mask a payload.  Doing it twice changes nothing. -/
def mask (key : Array UInt8) (payload : List UInt8) : List UInt8 :=
  payload.zipIdx.map fun (b, i) => b ^^^ key.getD (i % 4) 0

/-- The length of a payload: the seven bits, and the bytes after them. -/
def encodeLength (n : Nat) : Nat × List UInt8 :=
  if n < 126 then (n, [])
  else if n < 65536 then (126, bigEndian 2 n)
  else (127, bigEndian 8 n)

/-- The bytes of a frame, masked with a key of four bytes. -/
def encode (key : Array UInt8) (f : Frame) : List UInt8 :=
  let (short, long) := encodeLength f.payload.length
  let first := f.kind.code + if f.isLast then 128 else 0
  UInt8.ofNat first :: UInt8.ofNat (128 + short) :: long ++ key.toList ++ mask key f.payload

/-! ### Reading -/

/-- How many bytes of length follow the seven bits. -/
def longBytes (short : Nat) : Nat :=
  if short = 126 then 2 else if short = 127 then 8 else 0

/-- How many bytes the key of a mask takes. -/
def keyBytes (masked : Bool) : Nat :=
  if masked then 4 else 0

/-- What stands before a payload. -/
structure Head where
  kind : Kind
  isLast : Bool
  reserved : Bool
  masked : Bool
  /-- The length of the payload. -/
  size : Nat
  deriving DecidableEq, Repr

/-- The first head and the bytes after it, if it is whole. -/
def Head.read? : List UInt8 → Except StreamFault (Option (Head × List UInt8))
  | first :: second :: rest =>
    let short := second.toNat % 128
    let masked : Bool := 128 ≤ second.toNat
    let long := longBytes short
    let others := long + keyBytes masked
    if rest.length < others then .ok none
    else
      match Kind.ofCode? (first.toNat % 16) with
      | none => .error (.unknownKind (first.toNat % 16))
      | some kind =>
        let head := {
          kind
          isLast := 128 ≤ first.toNat
          reserved := first.toNat / 16 % 8 ≠ 0
          masked
          size := if long = 0 then short else ofBigEndian (rest.take long) }
        .ok (some (head, rest.drop others))
  | _ => .ok none

/-- The first frame and the bytes after it, if it is whole. -/
def read? (bytes : List UInt8) : Except StreamFault (Option (Frame × List UInt8)) :=
  match Head.read? bytes with
  | .error fault => .error fault
  | .ok none => .ok none
  | .ok (some (head, rest)) =>
    if limit < head.size then .error (.tooLong head.size limit)
    else if rest.length < head.size then .ok none
    else
      let payload := rest.take head.size
      .ok (some (⟨head.kind, payload, head.isLast, head.reserved, head.masked⟩, rest.drop head.size))

theorem Head.length_of_read? {bytes rest : List UInt8} {head : Head}
    (h : Head.read? bytes = .ok (some (head, rest))) : rest.length < bytes.length := by
  unfold Head.read? at h
  split at h
  · dsimp only at h
    split at h
    · cases h
    · split at h
      · cases h
      · injection h with h
        injection h with h
        injection h with _ h
        subst h
        grind
  · cases h

/-- A frame takes some bytes. -/
theorem length_of_read? {bytes rest : List UInt8} {f : Frame}
    (h : read? bytes = .ok (some (f, rest))) : rest.length < bytes.length := by
  unfold read? at h
  split at h
  · cases h
  · cases h
  · next head others hhead =>
    have := Head.length_of_read? hhead
    split at h
    · cases h
    · split at h
      · cases h
      · injection h with h
        injection h with h
        injection h with _ h
        subst h
        grind

end Frame

end Provision.WebSocket
