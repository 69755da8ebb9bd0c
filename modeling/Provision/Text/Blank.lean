/-
Blank characters: the ones that separate words.

A character is blank when it has the Unicode property `White_Space`, so a
no-break space or an ideographic space separates words just as a space does,
while the zero-width characters (U+200B, U+2060, U+FEFF) do not.

`trim` drops blanks at both ends of a text, and `words` cuts a text at every
run of blanks, so no word is empty and no word holds a blank.
-/

namespace Provision.Text

/-- The Unicode property `White_Space`. -/
def isBlank (c : Char) : Bool :=
  let n := c.toNat
  (0x09 ≤ n && n ≤ 0x0D) || n == 0x20 || n == 0x85 || n == 0xA0 || n == 0x1680 ||
    (0x2000 ≤ n && n ≤ 0x200A) || n == 0x2028 || n == 0x2029 || n == 0x202F ||
    n == 0x205F || n == 0x3000

/-- `cs` without the blanks at its two ends. -/
def trimList (cs : List Char) : List Char :=
  ((cs.dropWhile isBlank).reverse.dropWhile isBlank).reverse

/-- `s` without the blanks at its two ends. -/
def trim (s : String) : String :=
  String.ofList (trimList s.toList)

/-- The maximal runs of non-blank characters, in order. -/
def words (cs : List Char) : List (List Char) :=
  match cs with
  | [] => []
  | c :: rest =>
    if isBlank c then words rest
    else (c :: rest.takeWhile (!isBlank ·)) :: words (rest.dropWhile (!isBlank ·))
termination_by cs.length
decreasing_by
  · simp
  · have := (List.dropWhile_sublist (l := rest) (p := (!isBlank ·))).length_le
    simp only [List.length_cons]
    omega

/-- Whether `s` holds a blank character anywhere. -/
def hasBlank (s : String) : Bool :=
  s.toList.any isBlank

end Provision.Text
