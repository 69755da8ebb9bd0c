/-
The VPN protocols that the backend can install.

A protocol has a wire name, which the install command and the settings file
use, and a label for people.  The protocols form a ring in selector order:
`next` and `previous` are inverse to each other (`previous_next`,
`next_previous`).
-/
import Provision.Text.Blank

namespace Provision

/-- A VPN protocol; the first one is the default. -/
inductive Protocol where
  | outline
  | openConnect
  | xray
  deriving DecidableEq, Repr, Inhabited

namespace Protocol

/-- Every protocol, in selector order. -/
def all : List Protocol :=
  [outline, openConnect, xray]

/-- The name in install commands and settings. -/
def wireName : Protocol → String
  | outline => "outline"
  | openConnect => "openconnect"
  | xray => "xray"

/-- The name shown to people. -/
def label : Protocol → String
  | outline => "Outline"
  | openConnect => "OpenConnect"
  | xray => "XRay"

/-- Whether the protocol has accounts of its own, beside the one on the server. -/
def needsAccount : Protocol → Bool
  | openConnect => true
  | _ => false

/-- The protocol after this one in selector order. -/
def next : Protocol → Protocol
  | outline => openConnect
  | openConnect => xray
  | xray => outline

/-- The protocol before this one in selector order. -/
def previous : Protocol → Protocol
  | outline => xray
  | openConnect => outline
  | xray => openConnect

/-- The protocol whose wire name is exactly `name`. -/
def ofWireName? (name : String) : Option Protocol :=
  all.find? (·.wireName = name)

/-- A name as people type it, brought to the form of wire names: blanks at its
ends do not count, nor does the case of ASCII letters. -/
def normalName (name : String) : String :=
  String.ofList ((Text.trimList name.toList).map Char.toLower)

/-- The protocol that `name` stands for, as people type it. -/
def ofName? (name : String) : Option Protocol :=
  ofWireName? (normalName name)

@[simp] theorem previous_next (p : Protocol) : p.next.previous = p := by
  cases p <;> rfl

@[simp] theorem next_previous (p : Protocol) : p.previous.next = p := by
  cases p <;> rfl

end Protocol

end Provision
