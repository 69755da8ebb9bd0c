/-
Lines of a text.

A line ends at a line feed; a carriage return right before that line feed
belongs to the ending, any other one to the line.  A text that ends with a
line feed has no empty line after it, and the empty text has no lines.
-/

namespace Provision.Text

/-- `line` without one carriage return at its end. -/
def dropReturn (line : List Char) : List Char :=
  if line.getLast? = some '\r' then line.dropLast else line

/-- The lines of a text, without their endings.  A last line that no line
feed ends keeps its carriage return. -/
def lines (cs : List Char) : List (List Char) :=
  match cs with
  | [] => []
  | c :: rest =>
    let cs := c :: rest
    match _h : cs.dropWhile (· ≠ '\n') with
    | [] => [cs]
    | _ :: after => dropReturn (cs.takeWhile (· ≠ '\n')) :: lines after
termination_by cs.length
decreasing_by
  have hle := (List.dropWhile_sublist (l := c :: rest) (p := (· ≠ '\n'))).length_le
  rw [_h] at hle
  simp only [List.length_cons] at hle ⊢
  omega

end Provision.Text
