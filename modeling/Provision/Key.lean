/-
Keys, and how a terminal's key events become keys.

A key is what the program reacts to: a character, a character with Control, a
function key or one of the named keys.  A terminal reports more than that; an
event that is no key here is ignored.
-/

namespace Provision

/-- A key. -/
inductive Key where
  | char (c : Char)
  /-- A character with Control held. -/
  | control (c : Char)
  | up
  | down
  | left
  | right
  | home
  | endKey
  | pageUp
  | pageDown
  | enter
  | escape
  | tab
  /-- Tab with Shift held. -/
  | backTab
  | backspace
  | delete
  | function (n : Nat)
  deriving DecidableEq, Repr

/-- The character that a key types, if it types one. -/
def Key.text? : Key → Option Char
  | char c => some c
  | _ => none

/-- The key of a terminal's event: a character, one of the keys that are keys
here too, or one that is not. -/
inductive KeyCode where
  | char (c : Char)
  | function (n : Nat)
  | named (key : Key)
  | unknown
  deriving DecidableEq, Repr

/-- The keys held together with another one. -/
structure Modifiers where
  shift : Bool := false
  control : Bool := false
  alt : Bool := false
  deriving DecidableEq, Repr

/-- The key that a terminal's event stands for. -/
def Key.ofEvent? (code : KeyCode) (held : Modifiers) : Option Key :=
  match code with
  | .char c => some (if held.control then .control c else .char c)
  | .named .tab => some (if held.shift then .backTab else .tab)
  | .named key => some key
  | .function n => some (.function n)
  | .unknown => none

end Provision
