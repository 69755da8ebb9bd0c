/-
The fields of the settings form, and the text inputs behind them.
-/

namespace Provision

/-- A field of the form. -/
inductive Field where
  | protocol
  | remoteAddress
  | username
  | password
  | vpnUsername
  | vpnPassword
  deriving DecidableEq, Repr, Inhabited

namespace Field

/-- The name shown before the field and in its errors. -/
def label : Field → String
  | protocol => "Protocol"
  | remoteAddress => "Remote address"
  | username => "Username"
  | password => "Password"
  | vpnUsername => "VPN username"
  | vpnPassword => "VPN password"

/-- Shown masked, and never in debug texts. -/
def isSecret : Field → Bool
  | password | vpnPassword => true
  | _ => false

/-- Takes free text: every field but the protocol selector. -/
def isText : Field → Bool
  | protocol => false
  | _ => true

/-- What stands in the field while it is empty. -/
def placeholder : Field → String
  | protocol => ""
  | remoteAddress => "host or host:port"
  | username => "SSH user"
  | password => "SSH password"
  | vpnUsername => "VPN account user"
  | vpnPassword => "VPN account password"

end Field

/-- A text input: the text typed so far. -/
structure Input where
  value : String := ""
  deriving DecidableEq, Repr, Inhabited

namespace Input

/-- Type one character. -/
def push (i : Input) (c : Char) : Input :=
  ⟨i.value.push c⟩

/-- Take the last character back, if there is one. -/
def backspace (i : Input) : Input :=
  ⟨String.ofList i.value.toList.dropLast⟩

/-- Empty the input. -/
def clear (_ : Input) : Input :=
  {}

def isEmpty (i : Input) : Bool :=
  i.value.isEmpty

/-- The text as shown: one bullet for each character of a secret. -/
def shown (i : Input) (secret : Bool) : String :=
  if secret then String.ofList (List.replicate i.value.length '•') else i.value

end Input

end Provision
