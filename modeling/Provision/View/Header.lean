/-
The header: the backend, and the keys that can be pressed now.

Its columns are counted in sixteen bits, like all coordinates.
-/
import Provision.Screen.Frame
import Provision.View.Theme

namespace Provision.View

/-- The keys that a phase offers, with what they do. -/
def hints (phase : Phase) : List (String × String) :=
  if phase.inProgress then [("Esc", "Cancel"), ("↑↓", "Scroll"), ("q", "Quit")]
  else [("Tab", "Next"), ("Enter", "Install"), ("Ctrl+C", "Quit")]

/-- One key and what it does. -/
def hint (key label : String) : Line :=
  [⟨"[", Theme.muted⟩, ⟨key, Theme.keyHint⟩, ⟨"] " ++ label, Theme.muted⟩]

/-- The keys in one line. -/
def hintLine (phase : Phase) : Line :=
  List.intercalate [⟨"  ", {}⟩] ((hints phase).map fun (key, label) => hint key label)

/-- The program's name and the backend. -/
def titleLine (endpoint : String) (phase : Phase) : Line :=
  [⟨" ", {}⟩, ⟨Theme.icon phase, Theme.ofPhase phase⟩, ⟨" ", {}⟩, ⟨"VPNator", Theme.accentBold⟩,
    ⟨" ", {}⟩, ⟨"/", Theme.muted⟩, ⟨" ", {}⟩, ⟨endpoint, Theme.secondary⟩]

/-- The columns that the keys take, with one behind them. -/
def keysWidth (keys : Line) : UInt16 :=
  .ofNat keys.width + 1

/-- Whether the keys fit beside the title, two columns apart, in a row of `room`
columns. -/
def keysFit (title keys : Line) (room : Nat) : Bool :=
  (UInt16.ofNat title.width + keysWidth keys + 2).toNat ≤ room

/-- Draw the header.  The keys are shown at the right if there is room for them
beside the title. -/
def drawHeader (s : Screen) (a : Area) (endpoint : String) (phase : Phase) : Screen :=
  let s := s.frame a Theme.muted
  let inner := a.shrink
  if inner.isEmpty then s
  else
    let title := titleLine endpoint phase
    let keys := hintLine phase
    let s := s.writeLine inner.x inner.y inner.width title
    if keysFit title keys inner.width then
      let x := UInt16.ofNat inner.right - keysWidth keys
      s.writeLine x.toNat inner.y (keysWidth keys).toNat keys
    else s

end Provision.View
