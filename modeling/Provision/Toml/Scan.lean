/-
The words of TOML: white space, comments, keys, strings, numbers and times.

Each scanner reads its word off the front of a text and gives its value with
the text after it, or nothing if the text does not start with such a word.
-/
import Provision.Text.Decimal
import Provision.Text.Decimal.Real
import Provision.Toml.Node

namespace Provision.Toml.Scan

/-- Space and tab. -/
def isSpace (c : Char) : Bool :=
  c = ' ' ∨ c = '\t'

/-- Characters that comments, and strings apart from their marks, may hold. -/
def isPrintable (c : Char) : Bool :=
  c = '\t' ∨ (0x20 ≤ c.toNat ∧ c.toNat ≠ 0x7F)

/-- The text after spaces and tabs. -/
def spaces (cs : List Char) : List Char :=
  cs.dropWhile isSpace

/-- The text after a line ending. -/
def newline? : List Char → Option (List Char)
  | '\n' :: rest => some rest
  | '\r' :: '\n' :: rest => some rest
  | _ => none

/-- The text after a comment, if there is one. -/
def comment : List Char → List Char
  | '#' :: rest => rest.dropWhile isPrintable
  | cs => cs

/-- The text after the end of a line: spaces, perhaps a comment, and a line
ending or the end of the document. -/
def lineEnd? (cs : List Char) : Option (List Char) :=
  match comment (spaces cs) with
  | [] => some []
  | rest => newline? rest

/-- The text after spaces, line endings and comments; `fuel` bounds the length. -/
def blanks (fuel : Nat) (cs : List Char) : List Char :=
  match fuel with
  | 0 => cs
  | fuel + 1 =>
    match cs with
    | '#' :: _ => blanks fuel (comment cs)
    | c :: rest =>
      if isSpace c then blanks fuel rest
      else match newline? cs with
        | some rest => blanks fuel rest
        | none => cs
    | [] => []

/-! ### Strings -/

/-- The character with a number in `count` hexadecimal digits. -/
def codePoint (count : Nat) (cs : List Char) : Option (Char × List Char) := do
  let digits := cs.take count
  if digits.length < count then none
  let n ← Text.Decimal.read? 16 Text.Decimal.hexDigit? digits
  if n < 0xD800 ∨ (0xE000 ≤ n ∧ n < 0x110000) then some (Char.ofNat n, cs.drop count) else none

/-- The character of an escape, after its backslash. -/
def escape : List Char → Option (Char × List Char)
  | 'b' :: rest => some ('\x08', rest)
  | 't' :: rest => some ('\t', rest)
  | 'n' :: rest => some ('\n', rest)
  | 'f' :: rest => some ('\x0C', rest)
  | 'r' :: rest => some ('\r', rest)
  | '"' :: rest => some ('"', rest)
  | '\\' :: rest => some ('\\', rest)
  | 'u' :: rest => codePoint 4 rest
  | 'U' :: rest => codePoint 8 rest
  | _ => none

/-- The text after the line ending that a backslash hides, and all blanks that
follow; `fuel` bounds the length. -/
def hiddenEnding? (fuel : Nat) (cs : List Char) : Option (List Char) :=
  let rec skip (fuel : Nat) (cs : List Char) : List Char :=
    match fuel with
    | 0 => cs
    | fuel + 1 =>
      match newline? (spaces cs) with
      | some rest => skip fuel rest
      | none => spaces cs
  (newline? (spaces cs)).map (skip fuel)

/-- The rest of a string on one line between the marks `mark`.  Only between
double quotes does a backslash start an escape. -/
def lineString (mark : Char) (fuel : Nat) (cs : List Char) : Option (List Char × List Char) :=
  match fuel, cs with
  | 0, _ | _, [] => none
  | fuel + 1, c :: rest =>
    if c = mark then some ([], rest)
    else if c = '\\' ∧ mark = '"' then do
      let (c, rest) ← escape rest
      let (more, rest) ← lineString mark fuel rest
      some (c :: more, rest)
    else if isPrintable c then do
      let (more, rest) ← lineString mark fuel rest
      some (c :: more, rest)
    else none

/-- The rest of a string over several lines between three marks each.  Up to two
marks more may stand before the closing ones and belong to the string. -/
def blockString (mark : Char) (fuel : Nat) (cs : List Char) : Option (List Char × List Char) :=
  match fuel, cs with
  | 0, _ | _, [] => none
  | fuel + 1, c :: rest =>
    if c = mark then
      let marks := (cs.takeWhile (· = mark)).length
      if 3 ≤ marks then
        let inside := min (marks - 3) 2
        some (List.replicate inside mark, cs.drop (inside + 3))
      else do
        let (more, rest) ← blockString mark fuel (cs.drop marks)
        some (List.replicate marks mark ++ more, rest)
    else if c = '\\' ∧ mark = '"' then
      match hiddenEnding? fuel rest with
      | some rest => blockString mark fuel rest
      | none => do
        let (c, rest) ← escape rest
        let (more, rest) ← blockString mark fuel rest
        some (c :: more, rest)
    else
      match newline? cs with
      | some rest => do
        let (more, rest) ← blockString mark fuel rest
        some ('\n' :: more, rest)
      | none =>
        if isPrintable c then do
          let (more, rest) ← blockString mark fuel rest
          some (c :: more, rest)
        else none

/-- A string on one line. -/
def shortString (cs : List Char) : Option (String × List Char) := do
  match cs with
  | '"' :: rest =>
    let (s, rest) ← lineString '"' cs.length rest
    some (String.ofList s, rest)
  | '\'' :: rest =>
    let (s, rest) ← lineString '\'' cs.length rest
    some (String.ofList s, rest)
  | _ => none

/-- A string of any form.  A line ending right after three opening marks does
not count. -/
def string (cs : List Char) : Option (String × List Char) := do
  let block (mark : Char) (body : List Char) : Option (String × List Char) := do
    let (s, rest) ← blockString mark (cs.length + 1) ((newline? body).getD body)
    some (String.ofList s, rest)
  match cs with
  | '"' :: '"' :: '"' :: body => block '"' body
  | '\'' :: '\'' :: '\'' :: body => block '\'' body
  | _ => shortString cs

/-! ### Keys -/

/-- Characters of a key without quotes. -/
def isBare (c : Char) : Bool :=
  c.isAlphanum || c = '_' || c = '-'

/-- One part of a key. -/
def keyPart (cs : List Char) : Option (String × List Char) :=
  match cs with
  | '"' :: _ | '\'' :: _ => shortString cs
  | _ =>
    let part := cs.takeWhile isBare
    if part.isEmpty then none else some (String.ofList part, cs.dropWhile isBare)

/-- The parts of a key with dots between them; `fuel` bounds their number. -/
def keyParts (fuel : Nat) (cs : List Char) : Option (List String × List Char) := do
  match fuel with
  | 0 => none
  | fuel + 1 =>
    let (part, rest) ← keyPart (spaces cs)
    match spaces rest with
    | '.' :: rest =>
      let (parts, rest) ← keyParts fuel rest
      some (part :: parts, rest)
    | rest => some ([part], rest)

/-- How deep values may nest, and how many parts a key may have. -/
def depthLimit : Nat := 79

/-- A key: the parts before the last dot, and the last part. -/
def key (cs : List Char) : Option ((List String × String) × List Char) := do
  let (parts, rest) ← keyParts depthLimit cs
  let last ← parts.getLast?
  some ((parts.dropLast, last), rest)

/-! ### Numbers -/

/-- Digits, between which single underscores may stand; they are left out. -/
def digits (isDigit : Char → Bool) (cs : List Char) : Option (List Char × List Char) :=
  match cs with
  | c :: '_' :: d :: rest =>
    if isDigit c then
      if isDigit d then (digits isDigit (d :: rest)).map fun (ds, rest) => (c :: ds, rest)
      else none
    else none
  | [_, '_'] => none
  | c :: rest =>
    if isDigit c then
      match rest with
      | [] => some ([c], [])
      | d :: _ =>
        if isDigit d then (digits isDigit rest).map fun (ds, rest) => (c :: ds, rest)
        else some ([c], rest)
    else none
  | [] => none

/-- A sign, if there is one: whether it is a minus. -/
def sign : List Char → Bool × List Char
  | '-' :: rest => (true, rest)
  | '+' :: rest => (false, rest)
  | cs => (false, cs)

/-- The digits of a whole number, which starts with zero only if it is zero. -/
def wholeDigits (cs : List Char) : Option (List Char × List Char) :=
  match cs with
  | '0' :: rest => some (['0'], rest)
  | _ => digits Char.isDigit cs

/-- The digits after a point, if there is one. -/
def fraction? (cs : List Char) : Option (Option (List Char) × List Char) :=
  match cs with
  | '.' :: rest => (digits Char.isDigit rest).map fun (ds, rest) => (some ds, rest)
  | _ => some (none, cs)

/-- The power of ten after its letter, if there is one. -/
def power? (cs : List Char) : Option (Option Int × List Char) :=
  match cs with
  | c :: rest =>
    if c = 'e' ∨ c = 'E' then
      let (negative, rest) := sign rest
      (digits Char.isDigit rest).map fun (ds, rest) =>
        let n : Int := (Text.Decimal.value? ds).getD 0
        (some (if negative then -n else n), rest)
    else some (none, cs)
  | [] => some (none, [])

/-- A whole number in base 16, 8 or 2, after its mark. -/
def based (base : Nat) (cs : List Char) : Option (Node × List Char) := do
  let digit? := fun c => (Text.Decimal.hexDigit? c).filter (· < base)
  let (ds, rest) ← digits (fun c => (digit? c).isSome) cs
  let n ← Text.Decimal.read? base digit? ds
  if n < Nat.pow 2 63 then some (.integer n, rest) else none

/-- The text that was read between `cs` and `rest`. -/
def consumed (cs rest : List Char) : String :=
  String.ofList (cs.take (cs.length - rest.length))

/-- A decimal number: a floating-point number if it has a point or a power of
ten.  A whole number has to fit 64 bits with its sign; a positive
floating-point number must not be too large. -/
def decimal (cs : List Char) : Option (Node × List Char) := do
  let (negative, unsigned) := sign cs
  let (whole, rest) ← wholeDigits unsigned
  let (places, rest) ← fraction? rest
  let (power, rest) ← power? rest
  match places, power with
  | none, none =>
    let n ← Text.Decimal.value? whole
    if negative then
      if n ≤ Nat.pow 2 63 then some (.integer (-(n : Int)), rest) else none
    else
      if n < Nat.pow 2 63 then some (.integer n, rest) else none
  | _, _ =>
    let places := places.getD []
    let n ← Text.Decimal.value? (whole ++ places)
    if (Text.Decimal.finite? n (power.getD 0 - places.length)).isNone ∧ !negative then none
    else some (.float (consumed cs rest), rest)

/-- The names of numbers that are none. -/
def specialNumber (cs : List Char) : Option (Node × List Char) :=
  match (sign cs).2 with
  | 'i' :: 'n' :: 'f' :: rest => some (.float (consumed cs rest), rest)
  | 'n' :: 'a' :: 'n' :: rest => some (.float (consumed cs rest), rest)
  | _ => none

/-! ### Words -/

/-- The text after one character. -/
def mark? (c : Char) : List Char → Option (List Char)
  | d :: rest => if d = c then some rest else none
  | [] => none

/-- The text after a word. -/
def word? (word : String) (cs : List Char) : Option (List Char) :=
  if word.toList.isPrefixOf cs then some (cs.drop word.length) else none

/-! ### Dates and times -/

/-- Exactly `count` digits with a value in a range. -/
def field (count low high : Nat) (cs : List Char) : Option (Nat × List Char) := do
  let ds := cs.take count
  if ds.length < count then none
  let n ← Text.Decimal.value? ds
  if low ≤ n ∧ n ≤ high then some (n, cs.drop count) else none

/-- The number of days of a month. -/
def daysIn (year month : Nat) : Nat :=
  if month = 2 then
    if year % 4 = 0 ∧ (year % 100 ≠ 0 ∨ year % 400 = 0) then 29 else 28
  else if month = 4 ∨ month = 6 ∨ month = 9 ∨ month = 11 then 30
  else 31

/-- The text after a date that exists, whose year was read. -/
def monthAndDay? (year : Nat) (cs : List Char) : Option (List Char) := do
  let (month, rest) ← field 2 1 12 cs
  let rest ← mark? '-' rest
  let (_, rest) ← field 2 1 (daysIn year month) rest
  some rest

/-- The text after minutes and seconds, with any fraction of a second. -/
def minuteAndSecond? (cs : List Char) : Option (List Char) := do
  let (_, rest) ← field 2 0 59 cs
  let rest ← mark? ':' rest
  let (_, rest) ← field 2 0 60 rest
  match rest with
  | '.' :: d :: more => if d.isDigit then some (more.dropWhile Char.isDigit) else some rest
  | _ => some rest

/-- The text after the hour of a time of day and its colon. -/
def hour? (cs : List Char) : Option (List Char) := do
  let (_, rest) ← field 2 0 23 cs
  mark? ':' rest

/-- The text after an offset from universal time, if there is one. -/
def offset? (cs : List Char) : Option (List Char) :=
  match cs with
  | 'Z' :: rest | 'z' :: rest => some rest
  | '+' :: rest | '-' :: rest => do
    let rest ← hour? rest
    let (_, rest) ← field 2 0 59 rest
    some rest
  | _ => some cs

/-- The text after the time of day that may follow a date. -/
def timeAfterDate? (cs : List Char) : Option (List Char) :=
  match cs with
  | c :: rest =>
    if c = 'T' ∨ c = 't' ∨ c = ' ' then
      match hour? rest with
      | some rest => (minuteAndSecond? rest).bind offset?
      | none => some cs
    else some cs
  | [] => some []

/-- The year of a date and its dash. -/
def year? (cs : List Char) : Option (Nat × List Char) := do
  let (year, rest) ← field 4 0 9999 cs
  some (year, ← mark? '-' rest)

/-- A number, a date or a time.  What starts like a date or a time has to be
one. -/
def numberOrTime (cs : List Char) : Option (Node × List Char) :=
  let time := fun rest => (Node.datetime (consumed cs rest), rest)
  match year? cs with
  | some (year, rest) => ((monthAndDay? year rest).bind timeAfterDate?).map time
  | none =>
    match hour? cs with
    | some rest => (minuteAndSecond? rest).map time
    | none =>
      match specialNumber cs with
      | some result => some result
      | none =>
        match cs with
        | '0' :: 'x' :: rest => based 16 rest
        | '0' :: 'o' :: rest => based 8 rest
        | '0' :: 'b' :: rest => based 2 rest
        | _ => decimal cs

end Provision.Toml.Scan
