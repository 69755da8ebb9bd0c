/-
Where the view of a log stands.

The offset never exceeds `lastOffset`, and a view that follows its content stands
exactly there (`LogView.InRange`).  Each half needs the other: a view that follows
is moved along with its content, and one that does not is only taken back into
the content, so that a view of either kind is in range again once the sizes have
changed.  Every operation on a log and its view keeps this (`inRange_carryOut`).

Main result: `offset_in_range`.
-/
import Provision.Log

namespace Provision

namespace LogView

variable {v : LogView}

/-- The view does not point past the content, and it is at the end if it follows. -/
structure InRange (v : LogView) : Prop where
  offset_le : v.offset ≤ v.lastOffset
  at_end : v.follow = true → v.offset = v.lastOffset

/-- Line `i` has a row in the view. -/
def InSight (v : LogView) (i : Nat) : Prop :=
  v.offset ≤ i ∧ i < v.offset + v.height

/-! ### One operation -/

theorem InRange.up (h : v.InRange) (n : Nat) : (v.up n).InRange where
  offset_le := by
    show v.offset - n ≤ v.lastOffset
    exact Nat.le_trans (Nat.sub_le _ _) h.offset_le
  at_end := by
    intro hfollow
    cases hfollow

theorem InRange.down (h : v.InRange) (n : Nat) : (v.down n).InRange where
  offset_le := Nat.min_le_right _ _
  at_end := by
    intro hfollow
    show min (v.offset + n) v.lastOffset = v.lastOffset
    have hreached : v.follow = true ∨ v.lastOffset ≤ min (v.offset + n) v.lastOffset := by
      simpa [LogView.down] using hfollow
    rcases hreached with hfollow | hreached
    · -- It was at the end already.
      apply Nat.min_eq_right
      rw [h.at_end hfollow]
      exact Nat.le_add_right _ _
    · exact Nat.le_antisymm (Nat.min_le_right _ _) hreached

theorem inRange_top (v : LogView) : v.top.InRange where
  offset_le := Nat.zero_le _
  at_end := by
    intro hfollow
    cases hfollow

theorem inRange_bottom (v : LogView) : v.bottom.InRange where
  offset_le := Nat.le_refl _
  at_end := fun _ => rfl

/-- New sizes put any view in range. -/
theorem inRange_resize (v : LogView) (total height : Nat) : (v.resize total height).InRange where
  offset_le := by
    show (if v.follow = true then total - height else min v.offset (total - height)) ≤
      total - height
    split
    · exact Nat.le_refl _
    · exact Nat.min_le_right _ _
  at_end := by
    intro hfollow
    have hfollow : v.follow = true := hfollow
    exact if_pos hfollow

/-- A view that does not follow stays where it is, if that is not beyond the end. -/
theorem offset_resize (hfollow : v.follow = false) {total height : Nat}
    (hle : v.offset ≤ total - height) : (v.resize total height).offset = v.offset := by
  show (if v.follow = true then total - height else min v.offset (total - height)) = v.offset
  rw [hfollow]
  exact Nat.min_eq_left hle

/-- A view that follows has the last line in sight. -/
theorem InRange.inSight_last (h : v.InRange) (hfollow : v.follow = true) (hheight : 0 < v.height)
    (htotal : 0 < v.total) : v.InSight (v.total - 1) := by
  have hoffset : v.offset = v.total - v.height := h.at_end hfollow
  constructor <;> omega

end LogView

namespace Log

/-! ### Any number of operations -/

/-- What can be done to a log and its view. -/
inductive Operation where
  | push (time : TimeOfDay) (message : String)
  | clear
  | up (n : Nat)
  | down (n : Nat)
  | top
  | bottom
  | pageUp
  | pageDown
  | resize (total height : Nat)
  deriving DecidableEq, Repr

variable {l : Log}

def carryOut (l : Log) : Operation → Log
  | .push time message => l.push time message
  | .clear => l.clear
  | .up n => l.scroll (·.up n)
  | .down n => l.scroll (·.down n)
  | .top => l.scroll (·.top)
  | .bottom => l.scroll (·.bottom)
  | .pageUp => l.scroll (·.pageUp)
  | .pageDown => l.scroll (·.pageDown)
  | .resize total height => l.scroll (·.resize total height)

/-- The log after several operations, the first one first. -/
def carryOutAll (l : Log) (ops : List Operation) : Log :=
  ops.foldl carryOut l

theorem inRange_new : ({} : LogView).InRange :=
  ⟨Nat.le_refl _, fun _ => rfl⟩

theorem inRange_carryOut (h : l.view.InRange) (op : Operation) : (l.carryOut op).view.InRange := by
  cases op with
  | push => exact h
  | clear => exact inRange_new
  | up n => exact h.up n
  | down n => exact h.down n
  | top => exact l.view.inRange_top
  | bottom => exact l.view.inRange_bottom
  | pageUp => exact h.up _
  | pageDown => exact h.down _
  | resize total height => exact l.view.inRange_resize total height

theorem inRange_carryOutAll (h : l.view.InRange) (ops : List Operation) :
    (l.carryOutAll ops).view.InRange := by
  induction ops generalizing l with
  | nil => exact h
  | cons op ops ih => exact ih (inRange_carryOut h op)

/-- The offset of a view stays in range.  Whatever is done to a new log and its view,
in any order and with any sizes: the offset is at most the number of lines less the
rows of the view, or 0 if there are fewer lines, and if the view follows it is
exactly that, so that the last line is in sight. -/
theorem offset_in_range (ops : List Operation) :
    let v := (({} : Log).carryOutAll ops).view
    v.offset ≤ v.total - v.height ∧
      (v.follow = true → v.offset = v.total - v.height) ∧
      (v.follow = true → 0 < v.height → 0 < v.total → v.InSight (v.total - 1)) := by
  intro v
  have h : v.InRange := inRange_carryOutAll inRange_new ops
  exact ⟨h.offset_le, h.at_end, h.inSight_last⟩

/-- Rows were scrolled back, and the window then became too large for that. -/
example : (({} : Log).carryOutAll
    [.resize 30 10, .up 5, .resize 30 20, .pageUp, .resize 12 20]).view = ⟨0, false, 12, 20⟩ := by
  decide

end Log

end Provision
