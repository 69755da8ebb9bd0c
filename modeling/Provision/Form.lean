/-
The settings form: a protocol selector and the text inputs for one request.

The inputs for a VPN account are part of the form only while the selected
protocol needs an account; selecting another one empties them.  `submit` turns
the visible inputs into a request, or names the first one that does not fit
the install command: an input that is empty or holds a blank.
-/
import Provision.Error
import Provision.Form.Field
import Provision.Request
import Provision.Text.Blank
import Provision.Text.Quoted

namespace Provision

/-- The state of the form. -/
structure Form where
  protocol : Protocol := .outline
  remoteAddress : Input := {}
  username : Input := {}
  password : Input := {}
  vpnUsername : Input := {}
  vpnPassword : Input := {}
  focus : Field := .protocol
  deriving DecidableEq, Repr, Inhabited

/-- Why a field does not fit the install command. -/
inductive FieldFault where
  | missing
  | blank
  deriving DecidableEq, Repr

def FieldFault.message : FieldFault → String
  | missing => "is required"
  | blank => "must not contain spaces"

namespace Form

/-- An empty form with a protocol selected. -/
def ofProtocol (p : Protocol) : Form :=
  { protocol := p }

/-- The fields that belong to the form for a protocol, in focus order. -/
def fieldsFor (p : Protocol) : List Field :=
  [.protocol, .remoteAddress, .username, .password] ++
    if p.needsAccount then [.vpnUsername, .vpnPassword] else []

/-- The fields that are shown, in focus order. -/
def visible (f : Form) : List Field :=
  fieldsFor f.protocol

/-- Select a protocol.  One without accounts empties the account's inputs and
takes the focus away from them. -/
def select (f : Form) (p : Protocol) : Form :=
  let f := { f with protocol := p }
  if p.needsAccount then f
  else
    { f with
      vpnUsername := {}
      vpnPassword := {}
      focus := if f.focus = .vpnUsername ∨ f.focus = .vpnPassword then .password else f.focus }

def selectNext (f : Form) : Form :=
  f.select f.protocol.next

def selectPrevious (f : Form) : Form :=
  f.select f.protocol.previous

/-- Move the focus to a field, if it is shown. -/
def focusOn (f : Form) (field : Field) : Form :=
  if field ∈ f.visible then { f with focus := field } else f

/-- Move the focus `steps` fields on, around the end. -/
def moveFocus (f : Form) (steps : Nat) : Form :=
  let fields := f.visible
  let current := (fields.idxOf? f.focus).getD 0
  { f with focus := fields.getD ((current + steps) % fields.length) .protocol }

def focusNext (f : Form) : Form :=
  f.moveFocus 1

def focusPrevious (f : Form) : Form :=
  f.moveFocus (f.visible.length - 1)

/-- The text input of a field. -/
def input? (f : Form) : Field → Option Input
  | .protocol => none
  | .remoteAddress => some f.remoteAddress
  | .username => some f.username
  | .password => some f.password
  | .vpnUsername => some f.vpnUsername
  | .vpnPassword => some f.vpnPassword

/-- Change the text input of a field; the selector has none. -/
def modifyInput (f : Form) (field : Field) (change : Input → Input) : Form :=
  match field with
  | .protocol => f
  | .remoteAddress => { f with remoteAddress := change f.remoteAddress }
  | .username => { f with username := change f.username }
  | .password => { f with password := change f.password }
  | .vpnUsername => { f with vpnUsername := change f.vpnUsername }
  | .vpnPassword => { f with vpnPassword := change f.vpnPassword }

/-- Set the text of a field, shown or not. -/
def setValue (f : Form) (field : Field) (value : String) : Form :=
  f.modifyInput field fun _ => ⟨value⟩

/-- Type a character into the focused input. -/
def type (f : Form) (c : Char) : Form :=
  f.modifyInput f.focus (·.push c)

/-- Take back the last character of the focused input. -/
def backspace (f : Form) : Form :=
  f.modifyInput f.focus (·.backspace)

/-- Empty the focused input. -/
def clearFocused (f : Form) : Form :=
  f.modifyInput f.focus (·.clear)

/-- What is wrong with the text of a field. -/
def fault? (value : String) : Option FieldFault :=
  if value.isEmpty then some .missing
  else if Text.hasBlank value then some .blank
  else none

/-- The first field shown that does not fit, and why. -/
def firstFault? (f : Form) : Option (Field × FieldFault) :=
  f.visible.findSome? fun field =>
    (f.input? field).bind fun input => (fault? input.value).map (field, ·)

/-- The request that the visible inputs make. -/
def request (f : Form) : Request :=
  { protocol := f.protocol
    address := f.remoteAddress.value
    username := f.username.value
    password := f.password.value
    account :=
      if f.protocol.needsAccount then some ⟨f.vpnUsername.value, f.vpnPassword.value⟩ else none }

/-- The request, if every field shown fits the install command. -/
def submit (f : Form) : Except Error Request :=
  match f.firstFault? with
  | some (field, fault) => .error (.validation field.label fault.message)
  | none => .ok f.request

end Form

end Provision
