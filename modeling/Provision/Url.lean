/-
URLs, as far as their scheme and host.

What follows the host cannot be wrong, so a text is a URL if its scheme and
its authority are.  Controls and spaces at the ends of the text do not count,
nor do tabs and line ends anywhere.  The special schemes of the web take any
number of slashes, in either direction, before a host that must not be empty;
other schemes have a host after exactly two slashes, and it has no form.
-/
import Provision.Url.Host

namespace Provision

/-- A URL. -/
structure Url where
  /-- The scheme, in small letters. -/
  scheme : String
  host : Option Url.Host
  deriving DecidableEq, Repr

namespace Url

/-- The text without what does not count. -/
def clean (cs : List Char) : List Char :=
  let isEdge (c : Char) : Bool := c.toNat ≤ 0x20
  let inner := ((cs.dropWhile isEdge).reverse.dropWhile isEdge).reverse
  inner.filter fun c => !(c = '\t' || c = '\n' || c = '\r')

/-- The scheme, in small letters, and the text after its colon. -/
def splitScheme? (cs : List Char) : Option (String × List Char) :=
  let isPart (c : Char) : Bool := c.isAlphanum || c = '+' || c = '-' || c = '.'
  match cs.dropWhile isPart with
  | ':' :: rest =>
    if cs.head?.any Char.isAlpha then
      some (String.ofList ((cs.takeWhile isPart).map Char.toLower), rest)
    else none
  | _ => none

/-- The schemes that give their hosts a meaning, apart from files. -/
def isSpecial (scheme : String) : Bool :=
  ["http", "https", "ws", "wss", "ftp"].contains scheme

/-- A slash, in either direction. -/
def isSlash (c : Char) : Bool :=
  c = '/' || c = '\\'

/-- The end of an authority. -/
def endsAuthority (special : Bool) (c : Char) : Bool :=
  c = '/' || c = '?' || c = '#' || (special && c = '\\')

/-- The texts before and after the last `@`, if there is one. -/
def splitUser? (cs : List Char) : Option (List Char × List Char) :=
  if cs.contains '@' then
    let host := (cs.reverse.takeWhile (· ≠ '@')).reverse
    some (cs.take (cs.length - host.length - 1), host)
  else none

/-- The text before the first colon outside brackets, and the rest from there. -/
def splitPort (inside : Bool) : List Char → List Char × List Char
  | [] => ([], [])
  | c :: rest =>
    if c = ':' ∧ !inside then ([], c :: rest)
    else
      let (host, port) := splitPort (c = '[' || (inside && c ≠ ']')) rest
      (c :: host, port)

/-- Whether the text after a host is a port: a colon, and perhaps a number. -/
def isPort (cs : List Char) : Bool :=
  match cs with
  | [] => true
  | _ :: rest =>
    let digits := rest.takeWhile (· ≠ '\\')
    digits.isEmpty || (Text.Decimal.value? digits).any (· ≤ 65535)

/-- The host of an authority that stands in front of `cs`; nothing if it is empty
and may be. -/
def readAuthority (special : Bool) (cs : List Char) : Except Fault (Option Host) := do
  let authority := cs.takeWhile (!endsAuthority special ·)
  let (user, place) := (splitUser? authority).getD ([], authority)
  let (host, port) := splitPort false place
  if authority.head? = some '@' ∧ place.isEmpty ∧ authority.length < cs.length then
    throw .emptyHost
  if special && host.isEmpty then throw .emptyHost
  let result ← if special then Host.read host else Host.readVerbatim host
  if host.isEmpty && !port.isEmpty then throw .emptyHost
  if !isPort port then throw .port
  if host.isEmpty then
    if user.isEmpty || user = [':'] then return none else throw .emptyHost
  return some result

/-- A drive of a file system, which can stand where the host of a file does. -/
def isDrive (cs : List Char) : Bool :=
  match cs with
  | [letter, mark] => letter.isAlpha && (mark = ':' || mark = '|')
  | _ => false

/-- The host of a file; nothing if it is this one. -/
def readFileHost (cs : List Char) : Except Fault (Option Host) := do
  let host := cs.takeWhile (!endsAuthority true ·)
  if host.isEmpty || isDrive host then return none
  let result ← Host.read host
  return if result = .name ["localhost".toList] then none else some result

/-- The URL that a text writes. -/
def read (text : String) : Except Fault Url := do
  match splitScheme? (clean text.toList) with
  | none => throw .noScheme
  | some (scheme, rest) =>
    if scheme = "file" then
      match rest with
      | a :: b :: rest =>
        if isSlash a && isSlash b then return ⟨scheme, ← readFileHost rest⟩
        else return ⟨scheme, none⟩
      | _ => return ⟨scheme, none⟩
    else if isSpecial scheme then
      return ⟨scheme, ← readAuthority true (rest.dropWhile isSlash)⟩
    else
      match rest with
      | '/' :: '/' :: rest => return ⟨scheme, ← readAuthority false rest⟩
      | _ => return ⟨scheme, none⟩

end Url

end Provision
