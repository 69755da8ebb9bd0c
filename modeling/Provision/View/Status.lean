/-
The status: the phase, why it failed, the protocol, and the place in the log.
-/
import Provision.App.State
import Provision.Screen.Frame
import Provision.View.Theme

namespace Provision.View

/-- The lines of the log that are in sight. -/
def logPosition (v : LogView) : String :=
  if v.total = 0 then "0/0"
  else
    toString (v.offset + 1) ++ "-" ++ toString (min (v.offset + v.height) v.total) ++ "/" ++
      toString v.total

/-- Whether the log follows its end. -/
def followSpan (v : LogView) : Span :=
  if v.follow then ⟨"⬇ Auto", .ink .green⟩ else ⟨"⬆ Manual", .ink .yellow⟩

/-- The line of the status. -/
def statusLine (a : App) : Line :=
  let bar : Span := ⟨" │ ", Theme.muted⟩
  let reason := match a.phase with
    | .failed reason => [bar, ⟨reason, Theme.failure⟩]
    | _ => []
  [⟨" ", {}⟩, ⟨Theme.icon a.phase ++ " " ++ a.phase.label, Theme.ofPhase a.phase⟩] ++ reason ++
    [bar, ⟨a.form.protocol.label, Theme.secondary⟩, bar, followSpan a.log.view, ⟨" ", {}⟩,
      ⟨logPosition a.log.view, Theme.muted⟩, ⟨" ", {}⟩]

/-- Draw the status below a rule. -/
def drawStatus (s : Screen) (area : Area) (a : App) : Screen :=
  let top := area.intersection s.area
  let s := if top.isEmpty then s else s.topRule top Theme.muted
  s.paragraph area.dropRow .left [statusLine a]

end Provision.View
