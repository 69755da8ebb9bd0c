/-
The whole screen of the application.

Drawing changes the application in one place: the view of the log learns how
much of the log was in sight.
-/
import Provision.View.Dialog
import Provision.View.Form
import Provision.View.Header
import Provision.View.Layout
import Provision.View.Log
import Provision.View.Status

namespace Provision.View

/-- What the dialog asks. -/
def quitPrompt : String := "A session is in progress. Quit and cancel it?"

/-- Draw the application on a screen of its own. -/
def draw (a : App) (width height : Nat) : Screen × App :=
  let s := (Screen.blank width height).restyle ⟨0, 0, width, height⟩ (.paper Theme.backdrop)
  let parts := Layout.create ⟨0, 0, width, height⟩ a.form.visible.length
  let s := drawHeader s parts.header a.endpoint a.phase
  let s := drawForm s parts.form a.form a.inProgress a.formError
  let (s, view) := drawLog s parts.log a.log.entries a.phase a.log.view
  let a := a.onLog (·.scroll fun _ => view)
  let s := drawStatus s parts.status a
  match a.mode with
  | .confirm => (drawDialog s s.area quitPrompt, a)
  | .normal => (s, a)

end Provision.View
