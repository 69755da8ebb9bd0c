/-
The address of a remote server: a host and, if given, the port for SSH.

An address is written `host:port`.  The text after the last colon is the port
when it is a number of sixteen bits; otherwise the whole text is the host.
Without a port, SSH's own is meant.
-/
import Provision.Text.Blank
import Provision.Text.Decimal

namespace Provision

/-- Where a server is reached. -/
structure Address where
  host : String
  port : Option UInt16
  deriving DecidableEq, Repr

namespace Address

/-- The port of SSH. -/
def sshPort : UInt16 := 22

/-- The texts before and after the last colon, if there is one. -/
def splitLastColon? (cs : List Char) : Option (List Char × List Char) :=
  match cs with
  | [] => none
  | c :: rest =>
    match splitLastColon? rest with
    | some (before, after) => some (c :: before, after)
    | none => if c = ':' then some ([], rest) else none

/-- Read an address; every text is one. -/
def parse (s : String) : Address :=
  let cs := Text.trimList s.toList
  match splitLastColon? cs with
  | some (host, port) =>
    match Text.Decimal.word? port with
    | some n => ⟨String.ofList host, some n⟩
    | none => ⟨String.ofList cs, none⟩
  | none => ⟨String.ofList cs, none⟩

/-- The port to use. -/
def effectivePort (a : Address) : UInt16 :=
  a.port.getD sshPort

/-- Host and port, with the port always written. -/
def display (a : Address) : String :=
  a.host ++ ":" ++ toString a.effectivePort.toNat

end Address

end Provision
