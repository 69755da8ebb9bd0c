/-
Settings read from a file.

The file is a TOML document with a section for each group of settings.  Every
section and every setting may be left out.  A file that says anything wrong
counts as a whole as if it were not there.
-/
import Provision.Settings
import Provision.Text.Utf8
import Provision.Toml.Document

namespace Provision.Settings

open Toml (Node Entries)

/-- What a section gives for its one setting, if it can be a section at all.  A
table gives the setting by name, an array its first item, and a date nothing. -/
def setting? (name : String) : Node → Option (Option Node)
  | .table _ es => some (Entries.get? es name)
  | .array items => some items.head?
  | .tables items => some items.head?
  | .datetime _ => some none
  | _ => none

/-- A setting read by `read`, or its default if it is left out. -/
def field (root : Entries) (part name : String) (default : α) (read : Node → Option α) :
    Option α :=
  match root.get? part with
  | none => some default
  | some node =>
    match setting? name node with
    | none => none
    | some none => some default
    | some (some v) => read v

/-- The text of a string. -/
def text? : Node → Option String
  | .string s => some s
  | _ => none

/-- The truth value of a boolean. -/
def truth? : Node → Option Bool
  | .boolean b => some b
  | _ => none

/-- Whether a value is a table or an array with nothing in it. -/
def isHollow : Node → Bool
  | .table _ es => es.isEmpty
  | .array items => items.isEmpty
  | .tables items => items.isEmpty
  | _ => false

/-- A protocol by its wire name, which may also be the only key of a table, with
a hollow value. -/
def protocol? : Node → Option Protocol
  | .string s => Protocol.ofWireName? s
  | .table _ [(name, v)] => if isHollow v then Protocol.ofWireName? name else none
  | _ => none

/-- The settings that a document gives. -/
def ofDocument? (root : Entries) : Option Settings := do
  let settings : Settings := {}
  let endpoint ← field root "backend" "endpoint" settings.endpoint fun v => (text? v).map some
  let defaultProtocol ← field root "form" "default_protocol" settings.defaultProtocol protocol?
  let confirmQuit ← field root "behavior" "confirm_quit" settings.confirmQuit truth?
  some { endpoint, defaultProtocol, confirmQuit }

/-- The settings of a file with these bytes, where `none` is a file that does not
exist or cannot be read. -/
def ofFile (bytes : Option (List UInt8)) : Settings :=
  let settings? := do
    let text ← Text.Utf8.decode? (← bytes)
    ofDocument? (← Toml.parse? (String.ofList text))
  settings?.getD {}

end Provision.Settings
