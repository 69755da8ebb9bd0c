/-
Reading a JSON text whole.

A document is a value of JSON with everything in it: the members of an object
stand in the order in which they were written.  `Document.read?` reads a text
that is one value, with white space wherever JSON allows it, and refuses every
other text; values may be nested up to a depth.
-/
import Provision.Json.Choice

namespace Provision.Json

/-- A value of JSON. -/
inductive Document where
  | null
  | boolean (b : Bool)
  | number (n : Number)
  | string (s : String)
  | array (items : List Document)
  | object (members : List (String × Document))

namespace Cursor

/-- The byte `b`, which may come after white space. -/
def token? (b : UInt8) (c : Cursor) : Option Cursor :=
  if c.skipSpace.peek = some b then some (c.skipSpace.drop 1) else none

/-- One item or several, with commas between them, up to the byte `close`.  Each turn
takes at least one byte, so `fuel` above the number of bytes is enough. -/
def items? {α : Type} (item : Cursor → Option (α × Cursor)) (close : UInt8) :
    Nat → Cursor → Option (List α × Cursor)
  | 0, _ => none
  | fuel + 1, c => do
    let (x, c) ← item c
    match c.token? close with
    | some c => return ([x], c)
    | none =>
      let (xs, c) ← items? item close fuel (← c.token? 0x2C)
      return (x :: xs, c)

/-- Any number of items, with commas between them, up to the byte `close`. -/
def list? {α : Type} (item : Cursor → Option (α × Cursor)) (close : UInt8) (c : Cursor) :
    Option (List α × Cursor) :=
  match c.token? close with
  | some c => some ([], c)
  | none => c.items? item close (c.rest.length + 1)

/-- A key, a colon and a value. -/
def member? (value : Cursor → Option (Document × Cursor)) (c : Cursor) :
    Option ((String × Document) × Cursor) := do
  let _ ← c.token? 0x22
  let (key, c) ← c.skipSpace.string.toOption
  let (v, c) ← value (← c.token? 0x3A)
  return ((key, v), c)

/-- The value that comes next, in which there may be as many values in each other as
`depth` says. -/
def value? (depth : Nat) (c : Cursor) : Option (Document × Cursor) :=
  let c := c.skipSpace
  match c.peek with
  | none => none
  | some b =>
    if 0x30 ≤ b ∧ b ≤ 0x39 then (c.number false).toOption.map fun (n, c) => (.number n, c)
    else
      match b, depth with
      | 0x2D, _ => ((c.drop 1).number true).toOption.map fun (n, c) => (.number n, c)
      | 0x22, _ => c.string.toOption.map fun (s, c) => (.string s, c)
      | 0x6E, _ => (c.word [0x6E, 0x75, 0x6C, 0x6C]).toOption.map (.null, ·)
      | 0x74, _ => (c.word [0x74, 0x72, 0x75, 0x65]).toOption.map (.boolean true, ·)
      | 0x66, _ => (c.word [0x66, 0x61, 0x6C, 0x73, 0x65]).toOption.map (.boolean false, ·)
      | 0x5B, depth + 1 =>
        ((c.drop 1).list? (value? depth) 0x5D).map fun (xs, c) => (.array xs, c)
      | 0x7B, depth + 1 =>
        ((c.drop 1).list? (member? (value? depth)) 0x7D).map fun (ms, c) => (.object ms, c)
      | _, _ => none

end Cursor

namespace Document

/-- The value that a text writes. -/
def read? (text : String) : Option Document := do
  let (d, c) ← Cursor.value? 127 ⟨0, Text.Utf8.encode text.toList⟩
  if c.skipSpace.rest.isEmpty then return d else none

/-- The member of an object that has this key. -/
def member? : Document → String → Option Document
  | object members, key => (members.find? (·.1 = key)).map (·.2)
  | _, _ => none

def string? : Document → Option String
  | string s => some s
  | _ => none

def boolean? : Document → Option Bool
  | boolean b => some b
  | _ => none

def integer? : Document → Option Int
  | number (.integer n) => some n
  | _ => none

/-- The text of the member that has this key. -/
def text? (d : Document) (key : String) : Option String :=
  (d.member? key).bind string?

end Document

end Provision.Json
