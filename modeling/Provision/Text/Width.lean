/-
How many columns a text takes on a screen of equal cells.

A text takes the columns of its characters together, but for the sequences that are shown
as one sign: a carriage return with its line feed, the characters of one emoji, and the
ligatures of some scripts.  In such a sequence it is the characters before the last one
that add less than alone, or even take a column back.  So a text is read from its end,
and `After` is what is kept in mind of the characters that were read.

The width of a text is not the sum of those of its clusters: the letters of a ligature
can be clusters of their own.  A control character counts as one column here; whoever
draws a text leaves it out.
-/
import Provision.Text.Table.Cluster
import Provision.Text.Table.Width

namespace Provision.Text

/-! ### Characters alone -/

/-- The columns of a character that stands alone, unless it is an emoji. -/
def charWidth (c : Char) : Nat :=
  if Table.zeroWidth.contains c then 0
  else if c.toNat = 0x17D8 then 3
  else if Table.wide.contains c then 2
  else 1

/-- A letter of which two make a flag. -/
def isFlagLetter (c : Char) : Bool :=
  0x1F1E6 ≤ c.toNat && c.toNat ≤ 0x1F1FF

/-- An emoji shown in colour, or one that U+FE0F makes so. -/
def startsEmoji (c : Char) : Bool :=
  Table.textStyle.contains c || Table.textPresentation.contains c ||
    c.toNat = 0x1F21A || c.toNat = 0x1F22F

/-- A mark over which Arabic letters are joined. -/
def isTransparent (c : Char) : Bool :=
  Table.zeroWidth.contains c && !Table.opaqueMark.contains c

/-! ### What follows a character -/

/-- What stands between a character and the joiner in front of an emoji. -/
inductive Bond where
  | nothing
  /-- U+20E3, the shape of a key. -/
  | keycap
  | flagLetter
  /-- Whole flags. -/
  | flags
  /-- Flags, and a letter in front of them. -/
  | oddFlags
  /-- Letters for a region, with the end of their tag. -/
  | tagLetters (count : Nat)
  /-- Digits for a region, in front of letters or of the end. -/
  | tagDigits (count : Nat)
  deriving DecidableEq, Repr

/-- The last part of a ligature; `joined` if a joiner stands in front of it. -/
inductive Ending where
  | alef
  | lamed (joined : Bool)
  /-- The Buginese letter ya. -/
  | ya (joined : Bool)
  /-- The Buginese vowel sign i, a joiner and ya. -/
  | vowelYa
  | tifinagh (joined : Bool)
  /-- U+2D7F and a consonant of Tifinagh. -/
  | joinerTifinagh
  /-- A tone letter of Lisu that can be the second one. -/
  | lisuTone
  /-- The Old Turkic letter i. -/
  | orkhonI (joined : Bool)
  /-- A Khmer letter that has a form below the line. -/
  | coengLetter
  /-- The Kirat Rai vowel sign e. -/
  | kiratE
  /-- The Kirat Rai vowel sign ai, or the one for e twice. -/
  | kiratAi
  deriving DecidableEq, Repr

/-- The characters after one, as far as they change what it adds. -/
inductive Next where
  | other
  | lineFeed
  | skinTone
  | flagLetter
  | flagLetters
  /-- An emoji shown in colour. -/
  | emoji
  /-- An emoji with a joiner in front of it, and what stands in front of that. -/
  | joined (bond : Bond)
  | ligature (ending : Ending)
  deriving DecidableEq, Repr

/-- How a selector asks for an emoji to be shown. -/
inductive Presentation where
  | text
  | emoji
  deriving DecidableEq, Repr

/-- What was read after a character: a selector, perhaps, and the characters behind it. -/
structure After where
  next : Next := .other
  selector : Option Presentation := none
  deriving DecidableEq, Repr

/-! ### Reading backwards -/

/-- What a character adds before `other`, and what it is for the ones before it. -/
def alone (c : Char) : Int × Next :=
  let n := c.toNat
  if Table.alef.contains c then (1, .ligature .alef)
  else if n = 0x5DC then (1, .ligature (.lamed false))
  else if Table.coengLetter.contains c then (1, .ligature .coengLetter)
  else if n = 0x1A10 then (1, .ligature (.ya false))
  else if Table.tifinagh.contains c then (1, .ligature (.tifinagh false))
  else if n = 0xA4FC ∨ n = 0xA4FD then (1, .ligature .lisuTone)
  else if n = 0x10C03 then (1, .ligature (.orkhonI false))
  else if n = 0x16D67 then (1, .ligature .kiratE)
  else if n = 0x16D68 then (1, .ligature .kiratAi)
  else if isFlagLetter c then (1, .flagLetter)
  else if Table.emojiModifier.contains c then (2, .skinTone)
  else if Table.emojiStyle.contains c then (2, .emoji)
  else (charWidth c, .other)

/-- A joiner in front of an emoji. -/
def joiner? (c : Char) : Option (Int × Next) :=
  if c = '\u200D' then some (0, .joined .nothing) else none

/-- The same in front of a bond; `none` if the character has no part in the emoji. -/
def Bond.before? (b : Bond) (c : Char) : Option (Int × Next) :=
  let n := c.toNat
  match b with
  | nothing =>
    if n = 0x20E3 then some (0, .joined keycap)
    else if isFlagLetter c then some (1, .joined flagLetter)
    else if Table.emojiModifier.contains c then some (0, .skinTone)
    else if n = 0xE007F then some (0, .joined (tagLetters 0))
    else if Table.emojiStyle.contains c then some (0, .emoji)
    else none
  | keycap => none
  | flagLetter => if isFlagLetter c then some (-1, .joined flags) else none
  | flags => if isFlagLetter c then some (3, .joined oddFlags) else joiner? c
  | oddFlags => if isFlagLetter c then some (-1, .joined flags) else joiner? c
  | tagLetters count =>
    if 0xE0061 ≤ n ∧ n ≤ 0xE007A ∧ count < 6 then some (0, .joined (tagLetters (count + 1)))
    else if 0xE0030 ≤ n ∧ n ≤ 0xE0039 ∧ count ≤ 4 then some (0, .joined (tagDigits 1))
    else if n = 0x1F3F4 ∧ 3 ≤ count then some (0, .emoji)
    else none
  | tagDigits count =>
    if 0xE0030 ≤ n ∧ n ≤ 0xE0039 ∧ count < 3 then some (0, .joined (tagDigits (count + 1)))
    else if n = 0x1F3F4 ∧ count = 3 then some (0, .emoji)
    else none

/-- The ending with a joiner in front of it. -/
def Ending.join : Ending → Ending
  | lamed _ => lamed true
  | ya _ => ya true
  | tifinagh _ => tifinagh true
  | orkhonI _ => orkhonI true
  | e => e

/-- The same in front of the last part of a ligature.  Marks that nothing is drawn of are
passed over, and outside of Arabic so are joiners. -/
def Ending.before? (e : Ending) (c : Char) : Option (Int × Next) :=
  let n := c.toNat
  if e ≠ alef ∧ c = '\u200D' then some (0, .ligature e.join)
  else if e ≠ alef ∧ Table.ignorableMark.contains c then some (0, .ligature e)
  else
    match e with
    | alef =>
      if Table.lam.contains c then some (0, .other)
      else if isTransparent c then some (0, .ligature alef)
      else none
    | lamed true => if n = 0x5D0 then some (0, .other) else none
    | ya true => if n = 0x1A17 then some (0, .ligature vowelYa) else none
    | vowelYa => if n = 0x1A15 then some (0, .other) else none
    | tifinagh joined =>
      if n = 0x2D7F then some (1, .ligature joinerTifinagh)
      else if joined ∧ Table.tifinagh.contains c then some (0, .other)
      else none
    | joinerTifinagh => if Table.tifinagh.contains c then some (-1, .other) else none
    | lisuTone => if 0xA4F8 ≤ n ∧ n ≤ 0xA4FB then some (0, .other) else none
    | orkhonI true => if n = 0x10C32 then some (0, .other) else none
    | coengLetter => if n = 0x17D2 then some (-1, .other) else none
    | kiratE =>
      if n = 0x16D63 ∨ n = 0x16D69 then some (0, .other)
      else if n = 0x16D67 then some (0, .ligature kiratAi)
      else if n = 0x16D68 then some (1, .ligature kiratE)
      else none
    | kiratAi => if n = 0x16D63 then some (0, .other) else none
    | lamed false | ya false | orkhonI false => none

/-- What a character adds to the columns of the sequence that follows it; `none` if it
does not belong to it. -/
def Next.before? (next : Next) (c : Char) : Option (Int × Next) :=
  match next with
  | other | lineFeed => none
  | skinTone => if Table.modifierBase.contains c then some (0, emoji) else joiner? c
  | flagLetter => if isFlagLetter c then some (1, flagLetters) else none
  | flagLetters => if isFlagLetter c then some (1, flagLetters) else joiner? c
  | emoji => joiner? c
  | joined bond => bond.before? c
  | ligature ending => ending.before? c

/-- Whether a selector leaves what follows it in force. -/
def Next.outlasts (next : Next) (p : Presentation) : Bool :=
  match next, p with
  | ligature _, _ => true
  | joined .nothing, .emoji | joined .keycap, .emoji => true
  | _, _ => false

/-- A selector in front of what follows. -/
def After.select (a : After) (p : Presentation) : After :=
  { next := if a.next.outlasts p then a.next else .other, selector := some p }

/-- What follows a character that is no emoji: the selector for emoji is spent, and only a
ligature goes on behind it. -/
def After.spend (a : After) : After :=
  match a.selector, a.next with
  | some .emoji, .ligature ending => { next := .ligature ending }
  | some .emoji, _ => {}
  | _, _ => a

/-- What a character adds, and what follows the ones before it. -/
def step (c : Char) (a : After) : Int × After :=
  if a.selector = some .emoji ∧ startsEmoji c then
    match a.next with
    | .joined _ => (0, { next := .emoji })
    | _ => (2, { next := .emoji })
  else
    let a := a.spend
    if c = '\n' then (1, { next := .lineFeed })
    else if c = '\r' ∧ a.next = .lineFeed then (0, {})
    else if c.toNat ≤ 0xA0 then (1, {})
    else if c = '\uFE0F' then (0, a.select .emoji)
    else if c = '\uFE0E' then (0, a.select .text)
    else if a.selector = some .text ∧ Table.textPresentation.contains c then (1, {})
    else
      let (columns, next) := (a.next.before? c).getD (alone c)
      (columns, { next })

/-- The columns of characters, and what they are for a character before them. -/
def readBack (cs : List Char) : Int × After :=
  cs.foldr
    (fun c (columns, a) =>
      let (more, a) := step c a
      (more + columns, a))
    (0, {})

/-- The columns of characters. -/
def widthOf (cs : List Char) : Nat :=
  (readBack cs).1.toNat

/-- The columns of a text. -/
def width (s : String) : Nat :=
  widthOf s.toList

end Provision.Text
