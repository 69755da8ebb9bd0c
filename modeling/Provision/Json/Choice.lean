/-
Reading one of several names from a JSON text.

A name is written either as a string or as an object with that single key and
the value `null`.  Everything else is refused with the cause and the position
of the first fault: a fault that the reader finds by looking ahead is placed
at the byte it looks at, any other one after the last byte it has taken.
-/
import Provision.Json.Fault
import Provision.Json.Number
import Provision.Text.Decimal
import Provision.Text.Quoted
import Provision.Text.Utf8

namespace Provision.Json

/-- A place in a text: how many bytes were taken, and those that are left. -/
structure Cursor where
  taken : Nat
  rest : List UInt8

/-- A refusal: the cause, and the number of bytes before its position. -/
abbrev Refusal := Cause × Nat

namespace Cursor

/-- The next byte. -/
def peek (c : Cursor) : Option UInt8 := c.rest.head?

/-- The cursor after `n` more bytes. -/
def drop (c : Cursor) (n : Nat) : Cursor :=
  ⟨c.taken + min n c.rest.length, c.rest.drop n⟩

/-- A fault after the bytes that were taken. -/
def here {α : Type} (c : Cursor) (cause : Cause) : Except Refusal α :=
  .error (cause, c.taken)

/-- A fault at the next byte. -/
def ahead {α : Type} (c : Cursor) (cause : Cause) : Except Refusal α :=
  .error (cause, c.taken + min 1 c.rest.length)

/-- The cursor after any white space of JSON. -/
def skipSpace (c : Cursor) : Cursor :=
  c.drop (c.rest.takeWhile fun b => b = 0x20 ∨ b = 0x0A ∨ b = 0x09 ∨ b = 0x0D).length

/-- Take exactly the bytes of a word. -/
def word (letters : List UInt8) (c : Cursor) : Except Refusal Cursor :=
  match letters with
  | [] => .ok c
  | letter :: letters =>
    match c.peek with
    | none => c.here .endInValue
    | some b => if b = letter then word letters (c.drop 1) else (c.drop 1).here .expectedIdent

/-- Four hexadecimal digits. -/
def hex4 (c : Cursor) : Except Refusal (Nat × Cursor) :=
  match c.rest with
  | a :: b :: d :: e :: _ =>
    match Text.Decimal.read? 16 Text.Decimal.hexDigit?
        ([a, b, d, e].map fun x => Char.ofNat x.toNat) with
    | some n => .ok (n, c.drop 4)
    | none => (c.drop 4).here .invalidEscape
  | _ => (c.drop c.rest.length).here .endInString

/-- Take the byte `b`, which a pair of surrogates needs here. -/
def pairByte (b : UInt8) (c : Cursor) : Except Refusal Cursor :=
  match c.peek with
  | none => c.here .endInString
  | some x => if x = b then .ok (c.drop 1) else (c.drop 1).here .endOfHexEscape

/-- The character of a `\u` escape, whose digits come next. -/
def unicodeEscape (c : Cursor) : Except Refusal (List UInt8 × Cursor) := do
  let (n, c) ← c.hex4
  if 0xDC00 ≤ n ∧ n ≤ 0xDFFF then
    c.here .loneSurrogate
  else if 0xD800 ≤ n ∧ n ≤ 0xDBFF then
    let c ← c.pairByte 0x5C
    let c ← c.pairByte 0x75
    let (low, c) ← c.hex4
    if 0xDC00 ≤ low ∧ low ≤ 0xDFFF then
      .ok (String.utf8EncodeChar (Char.ofNat ((n - 0xD800) * 1024 + (low - 0xDC00) + 0x10000)), c)
    else
      c.here .loneSurrogate
  else
    .ok (String.utf8EncodeChar (Char.ofNat n), c)

/-- The bytes of one escape, after its backslash. -/
def escape (c : Cursor) : Except Refusal (List UInt8 × Cursor) :=
  match c.peek with
  | none => c.here .endInString
  | some b =>
    let after := c.drop 1
    if b = 0x22 ∨ b = 0x5C ∨ b = 0x2F then .ok ([b], after)
    else if b = 0x62 then .ok ([0x08], after)
    else if b = 0x66 then .ok ([0x0C], after)
    else if b = 0x6E then .ok ([0x0A], after)
    else if b = 0x72 then .ok ([0x0D], after)
    else if b = 0x74 then .ok ([0x09], after)
    else if b = 0x75 then after.unicodeEscape
    else after.here .invalidEscape

/-- The bytes of a string whose opening quote was taken.  Each turn takes at
least one byte, so `fuel` above the number of bytes is enough. -/
def stringBytes (fuel : Nat) (c : Cursor) : Except Refusal (List UInt8 × Cursor) := do
  match fuel, c.peek with
  | 0, _ | _, none => c.here .endInString
  | fuel + 1, some b =>
    if b = 0x22 then .ok ([], c.drop 1)
    else if b = 0x5C then
      let (bytes, c) ← (c.drop 1).escape
      let (more, c) ← stringBytes fuel c
      return (bytes ++ more, c)
    else if b < 0x20 then (c.drop 1).here .controlCharacter
    else
      let (more, c) ← stringBytes fuel (c.drop 1)
      return (b :: more, c)

/-- The text of a string whose opening quote comes next. -/
def string (c : Cursor) : Except Refusal (String × Cursor) := do
  let (bytes, c) ← (c.drop 1).stringBytes (c.rest.length + 1)
  return (String.ofList (Text.Utf8.decodeLossy bytes), c)

/-- The digits that come next. -/
def digits (c : Cursor) : List Char × Cursor :=
  let run := c.rest.takeWhile fun b => 0x30 ≤ b ∧ b ≤ 0x39
  (run.map fun b => Char.ofNat b.toNat, c.drop run.length)

/-- The exponent of a number, whose letter was taken. -/
def exponent (c : Cursor) : Except Refusal (Int × Cursor) := do
  let (negative, c) := match c.peek with
    | some 0x2D => (true, c.drop 1)
    | some 0x2B => (false, c.drop 1)
    | _ => (false, c)
  match c.digits with
  | ([], c) =>
    match c.peek with
    | none => c.here .endInValue
    | some _ => (c.drop 1).here .invalidNumber
  | (ds, c) =>
    let n := (Text.Decimal.value? ds).getD 0
    return (if negative then -(n : Int) else n, c)

/-- The number that comes next, after its sign. -/
def number (negative : Bool) (c : Cursor) : Except Refusal (Number × Cursor) := do
  match c.digits with
  | ([], c) =>
    match c.peek with
    | none => c.here .endInValue
    | some _ => (c.drop 1).here .invalidNumber
  | ('0' :: _ :: _, _) => (c.drop 1).ahead .invalidNumber
  | (whole, c) =>
    let (fraction, c) ← match c.peek with
      | some 0x2E =>
        match (c.drop 1).digits with
        | ([], c) => c.ahead (if c.rest.isEmpty then .endInValue else .invalidNumber)
        | (ds, c) => pure (some ds, c)
      | _ => pure (none, c)
    let (power, c) ← match c.peek with
      | some 0x65 | some 0x45 => do
        let (e, c) ← (c.drop 1).exponent
        pure (some e, c)
      | _ => pure (none, c)
    match Number.ofParts? negative whole fraction power with
    | some n => return (n, c)
    | none => c.here .numberOutOfRange

/-- Refuse the value that comes next, of which `expected` was wanted. -/
def wrongType {α : Type} (expected : String) (c : Cursor) : Except Refusal α := do
  match c.peek with
  | some 0x6E =>
    (← (c.drop 1).word [0x75, 0x6C, 0x6C]).here (.wrongType "unit value" expected)
  | some 0x74 =>
    (← (c.drop 1).word [0x72, 0x75, 0x65]).here (.wrongType "boolean `true`" expected)
  | some 0x66 =>
    (← (c.drop 1).word [0x61, 0x6C, 0x73, 0x65]).here
      (.wrongType "boolean `false`" expected)
  | some 0x2D =>
    let (n, c) ← (c.drop 1).number true
    c.here (.wrongType n.describe expected)
  | some 0x22 =>
    let (s, c) ← c.string
    c.here (.wrongType ("string " ++ Text.quoted s) expected)
  | some 0x5B => c.here (.wrongType "sequence" expected)
  | some 0x7B => c.here (.wrongType "map" expected)
  | some b =>
    if 0x30 ≤ b ∧ b ≤ 0x39 then
      let (n, c) ← c.number false
      c.here (.wrongType n.describe expected)
    else
      c.ahead .expectedValue
  | none => c.ahead .expectedValue

/-- One of `names`, as a string. -/
def name (names : List String) (c : Cursor) : Except Refusal (String × Cursor) := do
  match c.skipSpace.peek with
  | none => c.skipSpace.ahead .endInValue
  | some 0x22 =>
    let (s, c) ← c.skipSpace.string
    if s ∈ names then return (s, c) else c.here (.unknownVariant s names)
  | some _ => c.skipSpace.wrongType "variant identifier"

/-- The value `null`. -/
def null (c : Cursor) : Except Refusal Cursor :=
  match c.skipSpace.peek with
  | none => c.skipSpace.ahead .endInValue
  | some 0x6E => (c.skipSpace.drop 1).word [0x75, 0x6C, 0x6C]
  | some _ => c.skipSpace.wrongType "unit"

/-- One of `names`, as a string or as the only key of an object. -/
def choice (names : List String) (c : Cursor) : Except Refusal (String × Cursor) := do
  let c := c.skipSpace
  match c.peek with
  | none => c.ahead .endInValue
  | some 0x22 => c.name names
  | some 0x7B =>
    let (s, c) ← (c.drop 1).name names
    let c := c.skipSpace
    match c.peek with
    | none => c.ahead .endInObject
    | some 0x3A =>
      let c := (← (c.drop 1).null).skipSpace
      match c.peek with
      | none => c.here .endInObject
      | some 0x7D => return (s, c.drop 1)
      | some _ => c.here .expectedValue
    | some _ => c.ahead .expectedColon
  | some _ => c.ahead .expectedValue

end Cursor

/-- The line and the column after the first `n` of `bytes`. -/
def position (bytes : List UInt8) (n : Nat) : Nat × Nat :=
  let before := bytes.take n
  (before.count 0x0A + 1, (before.reverse.takeWhile (· ≠ 0x0A)).length)

/-- The one of `names` that a JSON text writes. -/
def readChoice (names : List String) (text : String) : Except Fault String :=
  let bytes := Text.Utf8.encode text.toList
  let read : Except Refusal String := do
    let (s, c) ← Cursor.choice names ⟨0, bytes⟩
    let c := c.skipSpace
    if c.rest.isEmpty then return s else c.ahead .trailingCharacters
  read.mapError fun (cause, n) =>
    let (line, column) := position bytes n
    ⟨cause, line, column⟩

end Provision.Json
