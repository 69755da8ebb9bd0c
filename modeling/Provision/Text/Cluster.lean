/-
Grapheme clusters: what people take for one character.

A text is cut between two characters unless a rule joins them: a carriage
return and its line feed, the parts of a Hangul syllable, a character and the
marks that extend it, a sign and the character it precedes, consonants with a
joining sign between them, emoji with a joiner between them, and the two
letters of a flag.  Nothing joins a control character.

Whether a character joins the ones before it is decided from a summary of
them, `Context`, so `clusters` reads the text once.  No character is lost:
the clusters, one after the other, are the text.
-/
import Provision.Text.Table.Cluster
import Provision.Text.Table.Extend

namespace Provision.Text

/-- The classes of characters that the rules speak of. -/
inductive BreakClass where
  | other
  | carriageReturn
  | lineFeed
  | control
  | extend
  | joiner
  | regional
  | prepend
  | spacingMark
  | leadingJamo
  | vowelJamo
  | trailingJamo
  | openSyllable
  | closedSyllable
  deriving DecidableEq, Repr

/-- The class of a character. -/
def BreakClass.of (c : Char) : BreakClass :=
  let n := c.toNat
  if n = 0x0D then carriageReturn
  else if n = 0x0A then lineFeed
  else if 0x20 ≤ n ∧ n ≤ 0x7E then other
  else if n = 0x200D then joiner
  else if Table.control.contains c then control
  else if Table.graphemeExtend.contains c || Table.emojiModifier.contains c then extend
  else if 0x1F1E6 ≤ n ∧ n ≤ 0x1F1FF then regional
  else if Table.prepend.contains c then prepend
  else if Table.spacingMark.contains c then spacingMark
  else if 0x1100 ≤ n ∧ n ≤ 0x115F ∨ 0xA960 ≤ n ∧ n ≤ 0xA97C then leadingJamo
  else if 0x1160 ≤ n ∧ n ≤ 0x11A7 ∨ 0xD7B0 ≤ n ∧ n ≤ 0xD7C6 then vowelJamo
  else if 0x11A8 ≤ n ∧ n ≤ 0x11FF ∨ 0xD7CB ≤ n ∧ n ≤ 0xD7FB then trailingJamo
  else if 0xAC00 ≤ n ∧ n ≤ 0xD7A3 then
    if (n - 0xAC00) % 28 = 0 then openSyllable else closedSyllable
  else other

/-- What of the characters before decides whether the next one joins them. -/
structure Context where
  /-- The class of the last character. -/
  last : BreakClass
  /-- An odd number of flag letters ends the text. -/
  oddRegionals : Bool
  /-- An emoji, extended or not, ends the text. -/
  emoji : Bool
  /-- Such an emoji and a joiner end the text. -/
  emojiJoiner : Bool
  /-- A consonant, extended or not, ends the text. -/
  consonant : Bool
  /-- There is a joining sign among the extensions of that consonant. -/
  linked : Bool

/-- The summary of one character that starts a cluster. -/
def Context.start (c : Char) : Context :=
  { last := .of c
    oddRegionals := BreakClass.of c = .regional
    emoji := Table.pictographic.contains c
    emojiJoiner := false
    consonant := Table.conjunctConsonant.contains c
    linked := false }

/-- The summary after one more character of the same cluster. -/
def Context.push (k : Context) (c : Char) : Context :=
  let cls := BreakClass.of c
  let extending := cls = .extend ∨ cls = .joiner
  { last := cls
    oddRegionals := cls = .regional ∧ ¬k.oddRegionals
    emoji := Table.pictographic.contains c || (k.emoji && decide (cls = .extend))
    emojiJoiner := k.emoji && decide (cls = .joiner)
    consonant := Table.conjunctConsonant.contains c || (k.consonant && decide extending)
    linked := k.consonant && decide extending && (k.linked || Table.conjunctLinker.contains c) }

/-- Whether `c` belongs to the cluster that `k` sums up. -/
def Context.joins (k : Context) (c : Char) : Bool :=
  match k.last, BreakClass.of c with
  | .carriageReturn, .lineFeed => true
  | .carriageReturn, _ | .lineFeed, _ | .control, _ => false
  | _, .carriageReturn | _, .lineFeed | _, .control => false
  | .leadingJamo, .leadingJamo | .leadingJamo, .vowelJamo => true
  | .leadingJamo, .openSyllable | .leadingJamo, .closedSyllable => true
  | .openSyllable, .vowelJamo | .openSyllable, .trailingJamo => true
  | .vowelJamo, .vowelJamo | .vowelJamo, .trailingJamo => true
  | .closedSyllable, .trailingJamo | .trailingJamo, .trailingJamo => true
  | _, .extend | _, .joiner | _, .spacingMark => true
  | .prepend, _ => true
  | .regional, .regional => k.oddRegionals
  | _, _ =>
    (k.emojiJoiner && Table.pictographic.contains c) ||
      (k.linked && Table.conjunctConsonant.contains c)

/-- The clusters of `cs`, where `cluster` (last character first), summed up by
`k`, stands before it. -/
def clustersAfter (cluster : List Char) (k : Context) : List Char → List (List Char)
  | [] => [cluster.reverse]
  | c :: cs =>
    if k.joins c then clustersAfter (c :: cluster) (k.push c) cs
    else cluster.reverse :: clustersAfter [c] (.start c) cs

/-- The grapheme clusters of a text, in order. -/
def clusters : List Char → List (List Char)
  | [] => []
  | c :: cs => clustersAfter [c] (.start c) cs

end Provision.Text
