/-
How the screen is divided: the header, the form below it, the log in the rows
that are left, and the status at the bottom.

Spare rows go to the log.  Where rows are missing, the log keeps three, then
the status its two; header and form share what is left, the header first, row
by row until it has its three.
-/
import Provision.Screen.Area

namespace Provision.View

/-- The parts of the screen. -/
structure Layout where
  header : Area
  form : Area
  log : Area
  status : Area
  deriving DecidableEq, Repr

namespace Layout

/-- The rows of the header. -/
def headerHeight : Nat := 3

/-- The rows of the status. -/
def statusHeight : Nat := 2

/-- The rows that the log keeps. -/
def leastLogHeight : Nat := 3

/-- The rows of a form: one for each of `fields`, one for the error, and the
frame. -/
def formHeight (fields : Nat) : Nat :=
  (fields + 3) % 65536

/-- The heights of header, form, log and status in `rows` rows. -/
def heights (rows form : Nat) : Nat × Nat × Nat × Nat :=
  let spare := rows - (headerHeight + form + statusHeight)
  let log := min rows (max spare leastLogHeight)
  let status := min statusHeight (rows - log)
  let rest := rows - log - status
  let header := min headerHeight (max ((rest + 1) / 2) (rest - form))
  (header, rest - header, log, status)

/-- The layout of a rectangle with a form of so many fields. -/
def create (a : Area) (fields : Nat) : Layout :=
  let (header, form, log, status) := heights a.height (formHeight fields)
  { header := ⟨a.x, a.y, a.width, header⟩
    form := ⟨a.x, a.y + header, a.width, form⟩
    log := ⟨a.x, a.y + header + form, a.width, log⟩
    status := ⟨a.x, a.y + header + form + log, a.width, status⟩ }

end Layout

end Provision.View
