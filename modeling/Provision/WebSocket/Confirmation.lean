/-
The answer to the key of a handshake.

A server shows that it has understood a client by its answer: the digest of the
client's key and a fixed text, in letters.  The digest is SHA-1, the letters are
Base64.
-/
import Provision.WebSocket.BigEndian

namespace Provision.WebSocket

/-! ### Base64 -/

/-- The sign for six bits. -/
def sign (n : Nat) : Char :=
  if n < 26 then Char.ofNat (n + 'A'.toNat)
  else if n < 52 then Char.ofNat (n - 26 + 'a'.toNat)
  else if n < 62 then Char.ofNat (n - 52 + '0'.toNat)
  else if n = 62 then '+' else '/'

/-- Bytes as text: three bytes as four signs. -/
def base64 : List UInt8 → List Char
  | [] => []
  | [a] =>
    let n := a.toNat * 16
    [sign (n / 64), sign (n % 64), '=', '=']
  | [a, b] =>
    let n := (a.toNat * 256 + b.toNat) * 4
    [sign (n / 4096), sign (n / 64 % 64), sign (n % 64), '=']
  | a :: b :: c :: rest =>
    let n := (a.toNat * 256 + b.toNat) * 256 + c.toNat
    sign (n / 262144) :: sign (n / 4096 % 64) :: sign (n / 64 % 64) :: sign (n % 64) :: base64 rest

/-! ### SHA-1 -/

namespace Sha1

/-- The digest of what was read so far, as five words. -/
structure State where
  a : UInt32 := 0x67452301
  b : UInt32 := 0xEFCDAB89
  c : UInt32 := 0x98BADCFE
  d : UInt32 := 0x10325476
  e : UInt32 := 0xC3D2E1F0
  deriving DecidableEq, Repr

/-- Turn a word to the left. -/
def rotate (w n : UInt32) : UInt32 :=
  (w <<< n) ||| (w >>> (32 - n))

/-- The bytes with a mark, zeros and their length in bits after them, so that they
fill blocks of 64. -/
def pad (bytes : List UInt8) : List UInt8 :=
  let zeros := (119 - bytes.length % 64) % 64
  bytes ++ 0x80 :: List.replicate zeros 0 ++ bigEndian 8 (bytes.length * 8)

/-- The words of a block. -/
def words (block : List UInt8) : List UInt32 :=
  (List.range 16).map fun i => UInt32.ofNat (ofBigEndian ((block.drop (4 * i)).take 4))

/-- The words that follow the newest sixteen, which come last first. -/
def extend : Nat → List UInt32 → List UInt32
  | 0, ws => ws
  | count + 1, ws =>
    let w := rotate (ws.getD 2 0 ^^^ ws.getD 7 0 ^^^ ws.getD 13 0 ^^^ ws.getD 15 0) 1
    extend count (w :: ws)

/-- One of eighty rounds. -/
def round (s : State) (w : UInt32) (i : Nat) : State :=
  let (f, k) :=
    if i < 20 then ((s.b &&& s.c) ||| (~~~s.b &&& s.d), 0x5A827999)
    else if i < 40 then (s.b ^^^ s.c ^^^ s.d, 0x6ED9EBA1)
    else if i < 60 then ((s.b &&& s.c) ||| (s.b &&& s.d) ||| (s.c &&& s.d), 0x8F1BBCDC)
    else (s.b ^^^ s.c ^^^ s.d, 0xCA62C1D6)
  { a := rotate s.a 5 + f + s.e + k + w, b := s.a, c := rotate s.b 30, d := s.c, e := s.d }

/-- The digest after one more block. -/
def block (s : State) (bytes : List UInt8) : State :=
  let ws := (extend 64 (words bytes).reverse).reverse
  let t := ws.zipIdx.foldl (fun s (w, i) => round s w i) s
  ⟨s.a + t.a, s.b + t.b, s.c + t.c, s.d + t.d, s.e + t.e⟩

/-- The digest of bytes. -/
def digest (bytes : List UInt8) : List UInt8 :=
  let padded := pad bytes
  let s := (List.range (padded.length / 64)).foldl
    (fun s i => block s ((padded.drop (64 * i)).take 64)) {}
  [s.a, s.b, s.c, s.d, s.e].flatMap fun w => bigEndian 4 w.toNat

end Sha1

/-- The answer to a key. -/
def confirmation (key : String) : String :=
  let text := key ++ "258EAFA5-E914-47DA-95CA-C5AB0DC85B11"
  String.ofList (base64 (Sha1.digest text.toUTF8.toList))

end Provision.WebSocket
