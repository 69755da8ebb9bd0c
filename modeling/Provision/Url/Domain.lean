/-
Domain names, as people write them.

`read?` brings a name to its normal form, label by label, and refuses one that
cannot be a name.  Capitals and compatibility forms are replaced, some
characters are dropped, and others cannot stand in a name; a label that starts
with `xn--` is written in Punycode.  A label outside ASCII may not start with a
mark; joiners may stand only where they show; and in a name with letters that
run from right to left every label has to have one direction.
-/
import Provision.Text.Utf8
import Provision.Url.Punycode
import Provision.Url.Table.Bidi
import Provision.Url.Table.Joining
import Provision.Url.Table.Mapping
import Provision.Url.Table.Status

namespace Provision.Url.Domain

/-! ### Characters -/

/-- ASCII characters that no host name holds. -/
def isForbidden (c : Char) : Bool :=
  c.toNat ≤ 0x20 || c.toNat = 0x7F || "%#/:<>?@[\\]^|".toList.contains c

/-- What a character stands for, if it can stand in a name. -/
def normalize? (c : Char) : Option (List Char) :=
  let image :=
    if Table.disallowed.contains c then none
    else if Table.ignored.contains c then some []
    else some ((Table.mapping.find? c).getD [c])
  image.filter (!·.any isForbidden)

/-- Whether a character stands for itself. -/
def isNormal (c : Char) : Bool :=
  normalize? c = some [c]

/-! ### Joiners -/

/-- Whether letters join over a place: `before` it, the nearest first, and
`after` it. -/
def joined (before after : List Char) : Bool :=
  let left := before.dropWhile Table.transparent.contains
  let right := after.dropWhile Table.transparent.contains
  left.head?.any (fun c => Table.joinsLeft.contains c || Table.joinsBoth.contains c) &&
    right.head?.any (fun c => Table.joinsRight.contains c || Table.joinsBoth.contains c)

/-- Whether every joiner of a text shows, where `before` comes before the text,
the nearest first. -/
def joinersShow (before : List Char) : List Char → Bool
  | [] => true
  | c :: rest =>
    let isShown :=
      if c = '\u200C' then before.head?.any Table.virama.contains || joined before rest
      else if c = '\u200D' then before.head?.any Table.virama.contains
      else true
    isShown && joinersShow (c :: before) rest

/-! ### Directions -/

/-- How a character behaves beside letters that run from right to left. -/
inductive Direction where
  | leftToRight
  | rightToLeft
  | arabicNumber
  | europeanNumber
  | nonspacing
  | neutral
  deriving DecidableEq, Repr

/-- The direction of a character. -/
def Direction.of (c : Char) : Direction :=
  if Table.rightToLeft.contains c || Table.arabicLetter.contains c then rightToLeft
  else if Table.arabicNumber.contains c then arabicNumber
  else if Table.europeanNumber.contains c then europeanNumber
  else if Table.nonspacing.contains c then nonspacing
  else if Table.neutral.contains c then neutral
  else leftToRight

/-- Whether a label makes the directions of its name matter. -/
def runsBack (label : List Char) : Bool :=
  label.any fun c => Direction.of c = .rightToLeft ∨ Direction.of c = .arabicNumber

/-- Whether a label has one direction: that of its first character.  It ends, but
for marks, in a letter of that direction or a number, and it does not mix two
kinds of numbers. -/
def hasOneDirection (label : List Char) : Bool :=
  match label.map Direction.of with
  | [] => true
  | first :: rest =>
    let body := (rest.reverse.dropWhile (· = .nonspacing)).reverse
    let last := body.getLast?
    match first with
    | .leftToRight =>
      last.all (fun d => d = .leftToRight ∨ d = .europeanNumber) &&
        body.all fun d => d ≠ .rightToLeft ∧ d ≠ .arabicNumber
    | .rightToLeft =>
      last.all (fun d => d = .rightToLeft ∨ d = .europeanNumber ∨ d = .arabicNumber) &&
        body.all (· ≠ .leftToRight) &&
        !(body.contains .europeanNumber && body.contains .arabicNumber)
    | _ => false

/-! ### Names -/

/-- Whether a text can be a label by itself. -/
def isLabel (label : List Char) : Bool :=
  label.all (·.toNat < 0x80) || (!label.head?.any Table.mark.contains && joinersShow [] label)

/-- The text of a label that is written in Punycode, after its mark. -/
def decodeLabel? (cs : List Char) : Option (List Char) :=
  (Punycode.decode? cs).filter fun label =>
    label.any (0x80 ≤ ·.toNat) && label.all isNormal && isLabel label

/-- The text of a label in normal form. -/
def readLabel? (label : List Char) : Option (List Char) :=
  match label with
  | 'x' :: 'n' :: '-' :: '-' :: rest => decodeLabel? rest
  | _ => if isLabel label then some label else none

/-- The labels of a name. -/
def read? (cs : List Char) : Option (List (List Char)) := do
  let name ← cs.mapM normalize?
  let labels ← (Text.CodeSet.split '.' name.flatten).mapM readLabel?
  if labels.any runsBack && !labels.all hasOneDirection then none else some labels

end Provision.Url.Domain
