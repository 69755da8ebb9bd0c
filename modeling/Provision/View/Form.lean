/-
The form: a row for each field, and one for what is wrong.
-/
import Provision.Form
import Provision.Screen.Frame
import Provision.View.Theme

namespace Provision.View

/-- A text with spaces after it, at least so many characters long. -/
def padded (length : Nat) (s : String) : String :=
  s ++ String.ofList (List.replicate (length - s.length) ' ')

/-- The label in front of a field. -/
def labelSpan (field : Field) (isFocused : Bool) : Span :=
  ⟨" " ++ padded 15 field.label, if isFocused then Theme.focused else Theme.secondary⟩

/-- The protocols, with the selected one marked. -/
def protocolLine (selected : Protocol) (isFocused : Bool) : Line :=
  let names := Protocol.all.map fun p =>
    [⟨p.label, if p = selected then Theme.accentBold else Theme.muted⟩]
  let choices := List.intercalate [⟨"  ", {}⟩] names
  if isFocused then [⟨"◀ ", Theme.accent⟩] ++ choices ++ [⟨" ▶", Theme.accent⟩] else choices

/-- The text of a field, or what stands in its place. -/
def inputLine (field : Field) (input : Input) (isFocused : Bool) : Line :=
  let text : Span :=
    if input.isEmpty && !isFocused then ⟨field.placeholder, Theme.muted⟩
    else ⟨input.shown field.isSecret, Theme.primary⟩
  if isFocused then [text, ⟨"▏", Theme.accent⟩] else [text]

/-- The row of a field. -/
def fieldLine (f : Form) (locked : Bool) (field : Field) : Line :=
  let isFocused := !locked && decide (f.focus = field)
  let content := match f.input? field with
    | some input => inputLine field input isFocused
    | none => protocolLine f.protocol isFocused
  [labelSpan field isFocused, ⟨" ", {}⟩] ++ content

/-- The row below the fields. -/
def footerLine (locked : Bool) : Option String → Line
  | some error => [⟨" ✗ " ++ error, Theme.failure⟩]
  | none => if locked then [⟨" Form locked while a session is in progress", Theme.muted⟩] else []

/-- Write lines into the rows from `y` on, down to `bottom`. -/
def writeRows (s : Screen) (x y bottom room : Nat) : List Line → Screen
  | [] => s
  | line :: rest =>
    if bottom ≤ y then s
    else writeRows (s.writeLine x y room line) x (y + 1) bottom room rest

/-- Draw the form.  While it is `locked`, no field looks focused. -/
def drawForm (s : Screen) (a : Area) (f : Form) (locked : Bool) (error : Option String) : Screen :=
  let s := s.frame a (if locked then Theme.muted else Theme.accent)
  let s := s.title a (" " ++ f.protocol.label ++ " Server ")
  let inner := a.shrink
  if inner.isEmpty then s
  else
    let lines := f.visible.map (fieldLine f locked) ++ [footerLine locked error]
    writeRows s inner.x inner.y inner.bottom inner.width lines

end Provision.View
