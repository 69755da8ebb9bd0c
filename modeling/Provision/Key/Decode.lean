/-
Keys as a terminal sends them: characters, control codes, and sequences that
start with an escape.

`decode` cuts a text into events.  A sequence that is none of those known here
gives no event; an escape that starts no sequence is the key itself, and before
any other character it stands for Alt held.
-/
import Provision.Key
import Provision.Text.Decimal

namespace Provision.Key

/-- One event: a key, and what is held with it. -/
abbrev Pressed := KeyCode × Modifiers

/-- The event of one character. -/
def ofChar (c : Char) : Pressed :=
  let held (c : Char) : Pressed := (.char c, { control := true })
  let n := c.toNat
  if n = 0x0D then (.named .enter, {})
  else if n = 0x09 then (.named .tab, {})
  else if n = 0x7F then (.named .backspace, {})
  else if n = 0x00 then held ' '
  else if n ≤ 0x1A then held (Char.ofNat (n - 1 + 'a'.toNat))
  else if 0x1C ≤ n ∧ n ≤ 0x1F then held (Char.ofNat (n - 0x1C + '4'.toNat))
  else (.char c, { shift := c.isUpper })

/-- The key of a sequence with a letter at its end. -/
def ofLetter (c : Char) : KeyCode :=
  match c with
  | 'A' => .named .up
  | 'B' => .named .down
  | 'C' => .named .right
  | 'D' => .named .left
  | 'H' => .named .home
  | 'F' => .named .endKey
  | 'Z' => .named .backTab
  | 'P' => .function 1
  | 'Q' => .function 2
  | 'R' => .function 3
  | 'S' => .function 4
  | _ => .unknown

/-- The key of a sequence with a number. -/
def ofNumber (n : Nat) : KeyCode :=
  if n = 1 ∨ n = 7 then .named .home
  else if n = 3 then .named .delete
  else if n = 4 ∨ n = 8 then .named .endKey
  else if n = 5 then .named .pageUp
  else if n = 6 then .named .pageDown
  else if 11 ≤ n ∧ n ≤ 15 then .function (n - 10)
  else if 17 ≤ n ∧ n ≤ 21 then .function (n - 11)
  else if 23 ≤ n ∧ n ≤ 26 then .function (n - 12)
  else if 28 ≤ n ∧ n ≤ 29 then .function (n - 13)
  else if 31 ≤ n ∧ n ≤ 34 then .function (n - 14)
  else .unknown

/-- What the second number of a sequence says is held. -/
def ofMask (n : Nat) : Modifiers :=
  let bits := n - 1
  { shift := bits % 2 = 1, alt := bits / 2 % 2 = 1, control := bits / 4 % 2 = 1 }

/-- The numbers of a sequence, which semicolons separate. -/
def numbers (cs : List Char) : List Nat :=
  ((String.ofList cs).splitOn ";").map fun part => (Text.Decimal.value? part.toList).getD 0

/-- The event of a sequence with parameters and a character at its end. -/
def ofSequence (parameters : List Char) (last : Char) : Pressed :=
  let held := match numbers parameters with
    | [_, mask] => ofMask mask
    | _ => {}
  if last = '~' then (ofNumber ((numbers parameters).headD 0), held) else (ofLetter last, held)

/-- The events that a text stands for; `fuel` bounds its length. -/
def decode (fuel : Nat) (cs : List Char) : List Pressed :=
  match fuel, cs with
  | 0, _ | _, [] => []
  | fuel + 1, '\x1b' :: '[' :: rest =>
    let isParameter (c : Char) : Bool := c.isDigit || c = ';'
    match rest.dropWhile isParameter with
    | [] => []
    | last :: after => ofSequence (rest.takeWhile isParameter) last :: decode fuel after
  | fuel + 1, '\x1b' :: 'O' :: c :: rest => (ofLetter c, {}) :: decode fuel rest
  | _ + 1, ['\x1b'] => [(.named .escape, {})]
  | fuel + 1, '\x1b' :: '\x1b' :: rest => (.named .escape, {}) :: decode fuel rest
  | fuel + 1, '\x1b' :: c :: rest =>
    let (code, held) := ofChar c
    (code, { held with alt := true }) :: decode fuel rest
  | fuel + 1, c :: rest => ofChar c :: decode fuel rest

/-- The keys that a text stands for. -/
def typed (text : String) : List Key :=
  (decode text.length text.toList).filterMap fun (code, held) => ofEvent? code held

end Provision.Key
