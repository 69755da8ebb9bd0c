/-
The log: what the backend has said, the oldest first.

An entry takes a row for each of its lines; the first one shows the time.
Drawing tells the view of the log how many rows there are and how many fit.
-/
import Provision.Log
import Provision.Screen.Frame
import Provision.Text.Lines
import Provision.View.Theme

namespace Provision.View

/-- What an empty log says: a title and a hint. -/
def emptyHint : Phase → String × String
  | .idle => ("No session yet", "Fill in the form and press Enter")
  | .connecting => ("Connecting", "Waiting for the backend")
  | .installing => ("Connected", "Waiting for progress")
  | .complete => ("Complete", "The backend sent no progress lines")
  | .failed _ => ("Failed", "See the status bar for the reason")
  | .cancelled => ("Cancelled", "Press Enter to try again")

/-- The lines of an empty log. -/
def emptyLines (phase : Phase) : List Line :=
  let (title, hint) := emptyHint phase
  [[], [⟨title, Theme.muted.strong⟩], [], [⟨hint, Theme.muted⟩]]

/-- The lines of a message; an empty one has one line as well. -/
def messageLines (message : String) : List String :=
  match Text.lines message.toList with
  | [] => [""]
  | lines => lines.map String.ofList

/-- The rows of an entry. -/
def entryLines (entry : LogEntry) : List Line :=
  let time := " " ++ entry.time.display ++ " "
  let gap := String.ofList (List.replicate time.length ' ')
  let row (gutter : Span) (text : String) : Line := [gutter, ⟨text, Theme.primary⟩]
  match messageLines entry.message with
  | [] => []
  | first :: rest => row ⟨time, Theme.muted⟩ first :: rest.map (row ⟨gap, {}⟩)

/-- Draw the log, and note in its view what was drawn. -/
def drawLog (s : Screen) (a : Area) (entries : List LogEntry) (phase : Phase) (view : LogView) :
    Screen × LogView :=
  let s := s.frame a Theme.muted
  let s := s.title a (" Progress (" ++ toString entries.length ++ ") ")
  let inner := a.shrink
  if entries.isEmpty then
    (s.paragraph inner .center (emptyLines phase), view.resize 0 inner.height)
  else
    let rows := entries.flatMap entryLines
    let view := view.resize rows.length inner.height
    let s := s.paragraph inner .left ((rows.drop view.offset).take inner.height)
    if inner.height < rows.length then (s.scrollbar a rows.length view.offset, view) else (s, view)

end Provision.View
