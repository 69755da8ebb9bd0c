/-
UTF-8: the byte form of text, and reading it back.

`encode` writes each character in one to four bytes.  Reading follows the
table of well-formed byte sequences: `continuations` gives, for a leading
byte, the ranges that the bytes after it must lie in.  `decode?` reads a
whole well-formed sequence and refuses everything else.  `decodeLossy` never
fails: each maximal prefix of a well-formed sequence that cannot be completed
becomes one replacement character, and every other byte stands as it is read.
-/

namespace Provision.Text.Utf8

/-- U+FFFD, which stands for bytes that are no text. -/
def replacement : Char := '\uFFFD'

/-- An inclusive range of bytes. -/
structure ByteRange where
  low : UInt8
  high : UInt8
  deriving DecidableEq, Repr

def ByteRange.contains (r : ByteRange) (b : UInt8) : Bool :=
  r.low ≤ b && b ≤ r.high

/-- Any continuation byte. -/
def tail : ByteRange := ⟨0x80, 0xBF⟩

/-- The ranges of the bytes that must follow a leading byte, or `none` for a
byte that starts no character.  The narrower ranges after `E0`, `ED`, `F0` and
`F4` leave out overlong forms, surrogates and values above U+10FFFF. -/
def continuations (b : UInt8) : Option (List ByteRange) :=
  if b ≤ 0x7F then some []
  else if b ≤ 0xC1 then none
  else if b ≤ 0xDF then some [tail]
  else if b = 0xE0 then some [⟨0xA0, 0xBF⟩, tail]
  else if b = 0xED then some [⟨0x80, 0x9F⟩, tail]
  else if b ≤ 0xEF then some [tail, tail]
  else if b = 0xF0 then some [⟨0x90, 0xBF⟩, tail, tail]
  else if b ≤ 0xF3 then some [tail, tail, tail]
  else if b = 0xF4 then some [⟨0x80, 0x8F⟩, tail, tail]
  else none

/-- The bits of the character that a leading byte with `n` continuation bytes
carries. -/
def leadingBits (n : Nat) (b : UInt8) : Nat :=
  match n with
  | 0 => b.toNat
  | 1 => b.toNat % 32
  | 2 => b.toNat % 16
  | _ => b.toNat % 8

/-- What a try to read continuation bytes finds: the code point, if all were
there, and the bytes that are left. -/
def readTail (ranges : List ByteRange) (acc : Nat) (bytes : List UInt8) :
    Option Nat × List UInt8 :=
  match ranges, bytes with
  | [], bytes => (some acc, bytes)
  | _ :: _, [] => (none, [])
  | r :: ranges, b :: bytes =>
    if r.contains b then readTail ranges (acc * 64 + b.toNat % 64) bytes
    else (none, b :: bytes)

theorem length_readTail_le (ranges : List ByteRange) (acc : Nat) (bytes : List UInt8) :
    (readTail ranges acc bytes).2.length ≤ bytes.length := by
  fun_induction readTail ranges acc bytes with
  | case1 => simp
  | case2 => simp
  | case3 acc r ranges b bytes hb ih => simp only [List.length_cons]; omega
  | case4 => simp

/-- One character off the front of `b :: bytes`, or `none` for the maximal
prefix that is no character; with the bytes after it. -/
def readChar (b : UInt8) (bytes : List UInt8) : Option Char × List UInt8 :=
  match continuations b with
  | none => (none, bytes)
  | some ranges =>
    let (code, rest) := readTail ranges (leadingBits ranges.length b) bytes
    (code.map Char.ofNat, rest)

theorem length_readChar_le (b : UInt8) (bytes : List UInt8) :
    (readChar b bytes).2.length ≤ bytes.length := by
  unfold readChar
  split
  · simp
  · exact length_readTail_le _ _ _

/-- Text from any bytes; what is no text becomes replacement characters. -/
def decodeLossy (bytes : List UInt8) : List Char :=
  match bytes with
  | [] => []
  | b :: bytes =>
    (readChar b bytes).1.getD replacement :: decodeLossy (readChar b bytes).2
termination_by bytes.length
decreasing_by
  have := length_readChar_le b bytes
  simp only [List.length_cons]
  omega

/-- Text from well-formed bytes only. -/
def decode? (bytes : List UInt8) : Option (List Char) :=
  match bytes with
  | [] => some []
  | b :: bytes =>
    match (readChar b bytes).1 with
    | none => none
    | some c => (decode? (readChar b bytes).2).map (c :: ·)
termination_by bytes.length
decreasing_by
  have := length_readChar_le b bytes
  simp only [List.length_cons]
  omega

/-- Whether bytes are the start of some text, which may end within a character. -/
def isStart (bytes : List UInt8) : Bool :=
  match bytes with
  | [] => true
  | b :: bytes =>
    match continuations b with
    | none => false
    | some ranges =>
      match (readTail ranges 0 bytes).1 with
      | some _ => isStart (readTail ranges 0 bytes).2
      | none => (readTail ranges 0 bytes).2.isEmpty
termination_by bytes.length
decreasing_by
  have := length_readTail_le ranges 0 bytes
  simp only [List.length_cons]
  omega

/-- The byte form of a text. -/
def encode (cs : List Char) : List UInt8 :=
  cs.flatMap String.utf8EncodeChar

end Provision.Text.Utf8
