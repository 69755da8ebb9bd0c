/-
Targets of WebSocket connections.

A target is taken apart by the rules of request lines, which are stricter than
those of `Url`: nothing is cleaned up, and what is not ASCII may stand in a path
only.  A port may be left out where the scheme is that of a WebSocket.
-/
import Provision.Text.Decimal
import Provision.Text.Utf8

namespace Provision.WebSocket

/-- Why a target cannot be connected to. -/
inductive TargetFault where
  | empty
  | tooLong
  | character
  | authority
  | format
  | schemeTooLong
  | noHost
  | unknownScheme
  | secure
  deriving DecidableEq, Repr

/-- The wording of a fault. -/
def TargetFault.message : TargetFault → String
  | empty => "HTTP format error: empty string"
  | tooLong => "HTTP format error: uri too long"
  | character => "HTTP format error: invalid uri character"
  | authority => "HTTP format error: invalid authority"
  | format => "HTTP format error: invalid format"
  | schemeTooLong => "HTTP format error: scheme too long"
  | noHost => "URL error: No host name in the URL"
  | unknownScheme => "URL error: URL scheme not supported"
  | secure => "URL error: TLS support not compiled in"

/-- Whom to connect to, and what to ask for. -/
structure Target where
  host : String
  port : UInt16
  /-- Host and port, as written. -/
  place : String
  /-- Path and query, as written. -/
  path : String
  scheme : Option String
  deriving DecidableEq, Repr

namespace Target

/-! ### The parts of a target -/

/-- Characters of a scheme. -/
def isSchemeChar (c : Char) : Bool :=
  c.isAlphanum || c = '+' || c = '-' || c = '.'

/-- The scheme in front of `://`, if there is one, and what comes after it.  The
mark alone is no scheme. -/
def splitScheme? (cs : List Char) : Except TargetFault (Option (List Char × List Char)) :=
  let scheme := cs.takeWhile isSchemeChar
  match cs.dropWhile isSchemeChar with
  | ':' :: '/' :: '/' :: rest =>
    if cs.length = 3 then .ok none
    else if 64 < scheme.length then .error .schemeTooLong
    else .ok (some (scheme, rest))
  | _ => .ok none

/-- The end of an authority. -/
def endsAuthority (c : Char) : Bool :=
  c = '/' || c = '?' || c = '#'

/-- Characters of an authority. -/
def isAuthorityChar (c : Char) : Bool :=
  c.isAlphanum || "-._~:[]@!$&'()*+,;=%".toList.contains c

/-- What was seen of an authority so far. -/
structure Seen where
  /-- Colons since the last `@` or bracket. -/
  colons : Nat := 0
  opened : Bool := false
  closed : Bool := false
  /-- A percent sign since the last `@` or bracket. -/
  percent : Bool := false

/-- Take note of one character of an authority. -/
def Seen.step (s : Seen) (c : Char) : Except TargetFault Seen :=
  if !isAuthorityChar c then .error .character
  else
    match c with
    | ':' => if 8 ≤ s.colons then .error .authority else .ok { s with colons := s.colons + 1 }
    | '[' =>
      if s.percent || s.opened then .error .authority else .ok { s with opened := true }
    | ']' =>
      if !s.opened || s.closed then .error .authority
      else .ok { s with closed := true, colons := 0, percent := false }
    | '@' => .ok { s with colons := 0, percent := false }
    | '%' => .ok { s with percent := true }
    | _ => .ok s

/-- Check an authority. -/
def checkAuthority (cs : List Char) : Except TargetFault Unit := do
  let s ← cs.foldlM Seen.step {}
  if s.opened ≠ s.closed ∨ 1 < s.colons ∨ cs.getLast? = some '@' ∨ s.percent then
    throw .authority

/-- Characters of a path. -/
def isPathChar (c : Char) : Bool :=
  0x20 < c.toNat && !"#<>?`".toList.contains c

/-- Characters of a query. -/
def isQueryChar (c : Char) : Bool :=
  0x20 < c.toNat && !"\"#<>".toList.contains c

/-- Check what comes after an authority. -/
def checkPath (cs : List Char) : Except TargetFault Unit :=
  let shown := cs.takeWhile (· ≠ '#')
  let path := shown.takeWhile (· ≠ '?')
  let query := (shown.dropWhile (· ≠ '?')).drop 1
  if path.all isPathChar && query.all isQueryChar then .ok () else .error .character

/-- A target taken apart. -/
structure Parts where
  scheme : Option (List Char) := none
  authority : List Char := []
  path : List Char := []

/-- The parts of a target. -/
def parts (cs : List Char) : Except TargetFault Parts := do
  if cs.isEmpty then throw .empty
  if 65534 < (Text.Utf8.encode cs).length then throw .tooLong
  if cs = ['*'] then return { path := cs }
  if cs.head? = some '/' then
    checkPath cs
    return { path := cs }
  match ← splitScheme? cs with
  | none =>
    let authority := cs.takeWhile (!endsAuthority ·)
    checkAuthority authority
    if authority.length < cs.length then throw .format
    return { authority }
  | some (scheme, rest) =>
    if rest.isEmpty then throw .empty
    let authority := rest.takeWhile (!endsAuthority ·)
    let path := rest.dropWhile (!endsAuthority ·)
    checkAuthority authority
    if authority.isEmpty then throw .format
    checkPath path
    return { scheme := some scheme, authority, path := path.takeWhile (· ≠ '#') }

/-! ### Whom a target names -/

/-- The text after the last `c`; all of it if there is none. -/
def afterLast (c : Char) (cs : List Char) : List Char :=
  (cs.reverse.takeWhile (· ≠ c)).reverse

/-- The host of an authority. -/
def hostOf (authority : List Char) : List Char :=
  let place := afterLast '@' authority
  match place with
  | '[' :: rest => '[' :: rest.takeWhile (· ≠ ']') ++ [']']
  | _ => place.takeWhile (· ≠ ':')

/-- The port of an authority. -/
def portOf? (authority : List Char) : Option UInt16 :=
  if authority.contains ':' then Text.Decimal.word? (afterLast ':' authority) else none

/-- The port that a scheme stands for. -/
def usualPort? (scheme : Option String) : Option UInt16 :=
  match scheme with
  | some "ws" => some 80
  | some "wss" => some 443
  | _ => none

/-- Whom a target names. -/
def read (target : String) : Except TargetFault Target := do
  let p ← parts target.toList
  let scheme := p.scheme.map String.ofList
  if p.authority.isEmpty then throw .noHost
  match (portOf? p.authority).or (usualPort? scheme) with
  | none => throw .unknownScheme
  | some port =>
    return {
      host := String.ofList (hostOf p.authority)
      port
      place := String.ofList (afterLast '@' p.authority)
      path := if p.path.isEmpty then "/" else String.ofList p.path
      scheme }

/-- Why a connection to the target is of no use, if it is not.  Only plain
connections can be made. -/
def fault? (t : Target) : Option TargetFault :=
  match t.scheme with
  | some "ws" => none
  | some "wss" => some .secure
  | _ => some .unknownScheme

end Target

end Provision.WebSocket
