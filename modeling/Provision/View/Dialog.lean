/-
The dialog that asks whether to quit, on top of everything else.
-/
import Provision.Screen.Frame
import Provision.View.Theme

namespace Provision.View

/-- Make a rectangle look far away. -/
def dim (s : Screen) (a : Area) : Screen :=
  s.restyle a (Theme.muted.on Theme.backdrop)

/-- A shadow of one cell at the right of a rectangle and below it. -/
def castShadow (s : Screen) (a : Area) : Screen :=
  let style := (Style.ink Theme.shadow).on Theme.shadow
  let right := min a.right Area.limit
  let bottom := min a.bottom Area.limit
  let side : Area := ⟨right, a.y + 1, 1, min (bottom + 1) Area.limit - (a.y + 1)⟩
  let below : Area := ⟨a.x + 1, bottom, min (right + 1) Area.limit - (a.x + 1), 1⟩
  let s := s.modifyArea side (·.put [' '] style)
  s.modifyArea below (·.put [' '] style)

/-- The lines of the dialog. -/
def dialogLines (message : String) : List Line :=
  [[], [⟨message, Theme.primary⟩], [],
    [⟨"[y]", Theme.keyHint⟩, ⟨" Quit    ", Theme.secondary⟩, ⟨"[n]", Theme.keyHint⟩,
      ⟨" Stay", Theme.secondary⟩]]

/-- Draw the dialog in the middle of a rectangle. -/
def drawDialog (s : Screen) (a : Area) (message : String) : Screen :=
  let s := dim s a
  let box := a.centered 48 7
  let s := castShadow (s.clear box) box
  let s := s.restyle box (.paper Theme.dialogPaper)
  let s := (s.frame box Theme.accent).title box " Quit "
  s.paragraph box.shrink .center (dialogLines message)

end Provision.View
