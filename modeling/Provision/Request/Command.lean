/-
The install command: a request as one line of text.

    install <protocol> <address> <username> <password> [<user> <password>]

The arguments are separated by blanks and nothing is quoted, so a text with a
blank in it cannot be sent.  `encode` writes the line with single spaces;
`decode` reads any line that starts with the verb, with any blanks between the
arguments and any ASCII case of the protocol's name.
-/
import Provision.Error
import Provision.Request
import Provision.Text.Blank

namespace Provision.Request.Command

/-- The verb of the line. -/
def verb : String := "install"

/-- The arguments that a request is written with. -/
def arguments (r : Request) : List String :=
  [r.protocol.wireName, r.address, r.username, r.password] ++
    match r.account with
    | some account => [account.username, account.password]
    | none => []

/-- The line for a request. -/
def encode (r : Request) : String :=
  String.intercalate " " (verb :: arguments r)

/-- Why a line is no install command. -/
inductive Fault where
  /-- The line does not start with the verb. -/
  | otherVerb (line : String)
  /-- The line has `count` arguments, and neither four nor six. -/
  | argumentCount (count : Nat)
  /-- No protocol has this name. -/
  | unknownProtocol (name : String)
  deriving DecidableEq, Repr

/-- The error to report for an unknown protocol name. -/
def unknownProtocol (name : String) : Error :=
  .validation "Protocol" ("unknown VPN protocol '" ++ name ++ "'")

/-- The error to report for a fault. -/
def Fault.error : Fault → Error
  | otherVerb line => .protocol ("not an install command: " ++ line)
  | argumentCount count =>
    .protocol ("install expects 4 or 6 arguments, got " ++ toString count)
  | unknownProtocol name => Command.unknownProtocol name

/-- The protocol that an argument names. -/
def protocol (name : String) : Except Fault Protocol :=
  match Protocol.ofName? name with
  | some p => .ok p
  | none => .error (.unknownProtocol (Protocol.normalName name))

/-- The rest of `cs` after `start`, if `cs` starts with it. -/
def dropStart? (start cs : List Char) : Option (List Char) :=
  match start, cs with
  | [], cs => some cs
  | _ :: _, [] => none
  | s :: start, c :: cs => if s = c then dropStart? start cs else none

/-- The request that a line writes.  The verb need not be followed by a blank. -/
def decode (line : String) : Except Fault Request := do
  match dropStart? verb.toList line.toList with
  | none => .error (.otherVerb line)
  | some rest =>
    match (Text.words rest).map String.ofList with
    | [name, address, username, password] =>
      return ⟨← protocol name, address, username, password, none⟩
    | [name, address, username, password, user, secret] =>
      return ⟨← protocol name, address, username, password, some ⟨user, secret⟩⟩
    | args => .error (.argumentCount args.length)

end Provision.Request.Command
