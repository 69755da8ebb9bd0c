/-
Text in quotes, as debug output shows it.

Quote, backslash, line feed, carriage return, tab and the null character are
escaped by a letter; every other character that cannot be seen, and every one
that would merge with the character before it, by its number in braces.  An
apostrophe stands as it is.
-/
import Provision.Text.Decimal
import Provision.Text.Table.Extend
import Provision.Text.Table.Unprintable

namespace Provision.Text

/-- How one character is shown between quotes. -/
def quotedChar (c : Char) : List Char :=
  match c with
  | '\x00' => ['\\', '0']
  | '\t' => ['\\', 't']
  | '\r' => ['\\', 'r']
  | '\n' => ['\\', 'n']
  | '\\' => ['\\', '\\']
  | '"' => ['\\', '"']
  | _ =>
    if Table.graphemeExtend.contains c || Table.unprintable.contains c then
      '\\' :: 'u' :: '\x7b' :: (Decimal.hex c.toNat ++ ['\x7d'])
    else
      [c]

/-- `s` in double quotes. -/
def quoted (s : String) : String :=
  String.ofList ('"' :: s.toList.flatMap quotedChar ++ ['"'])

end Provision.Text
