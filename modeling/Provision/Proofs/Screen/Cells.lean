/-
Drawing, cell by cell.

`cell?` reads one cell of a screen.  What is drawn somewhere changes the cells of
that place and no others: the screens before and after are the same but for that
place (`SameBut`).  This is proved for each operation once, and operations that
follow one another change what the first or the second changes
(`SameBut.trans`).  So text stays in the room that it was given, and a frame with
its title and scrollbar stays on the outermost cells of its rectangle
(`sameBut_frame`, `sameBut_title`, `sameBut_scrollbar`): it never covers what is
drawn inside.
-/
import Provision.Screen.Frame

namespace Provision

/-! ### Rectangles -/

namespace Area

variable {a : Area} {x y : Nat}

/-- The cell in column `x` and row `y` is in the rectangle. -/
def Has (a : Area) (x y : Nat) : Prop :=
  (a.x ≤ x ∧ x < a.x + a.width) ∧ a.y ≤ y ∧ y < a.y + a.height

/-- The outermost cells of a rectangle. -/
def Border (a : Area) (x y : Nat) : Prop :=
  a.Has x y ∧ ¬ a.shrink.Has x y

theorem contains_iff (a : Area) (x y : Nat) : a.contains x y = true ↔ a.Has x y := by
  simp only [contains, Bool.and_eq_true, decide_eq_true_eq]
  simp only [Has, right, bottom, and_assoc]

theorem isEmpty_eq_false_iff (a : Area) : a.isEmpty = false ↔ 0 < a.width ∧ 0 < a.height := by
  simp [isEmpty, Nat.pos_iff_ne_zero]

theorem has_add {j k : Nat} (hj : j < a.width) (hk : k < a.height) : a.Has (a.x + j) (a.y + k) := by
  simp only [Has]
  omega

/-- The cells inside the outermost ones. -/
theorem has_of_shrink (h : a.shrink.Has x y) : a.Has x y := by
  simp only [Has, shrink, right, bottom] at *
  omega

theorem not_border_of_shrink (h : a.shrink.Has x y) : ¬ a.Border x y :=
  fun hborder => hborder.2 h

end Area

namespace Screen

variable {s t u : Screen} {P Q : Nat → Nat → Prop} {a : Area} {x y x' y' : Nat}

/-! ### Cells -/

/-- The cell in column `x` and row `y`, if it is on the screen. -/
def cell? (s : Screen) (x y : Nat) : Option Cell :=
  if x < s.width ∧ y < s.height then s.cells[y * s.width + x]? else none

/-- The rectangle does not reach beyond the edges of the screen. -/
structure Spans (s : Screen) (a : Area) : Prop where
  right_le : a.x + a.width ≤ s.width
  bottom_le : a.y + a.height ≤ s.height

theorem Spans.intersection_eq (h : s.Spans a) : a.intersection s.area = a := by
  obtain ⟨hright, hbottom⟩ := h
  simp only [Area.intersection, area, Area.right, Area.bottom]
  obtain ⟨x, y, width, height⟩ := a
  simp only [Area.mk.injEq] at *
  omega

/-- Two cells of a screen have the same number only if they are the same. -/
theorem index_inj {width : Nat} (hx : x < width) (hx' : x' < width) :
    y * width + x = y' * width + x' ↔ x' = x ∧ y' = y := by
  constructor
  · intro h
    have hcolumn := congrArg (· % width) h
    have hrow := congrArg (· / width) h
    have hpos : 0 < width := Nat.lt_of_le_of_lt (Nat.zero_le _) hx
    simp only [Nat.mul_comm _ width, Nat.mul_add_mod, Nat.mod_eq_of_lt hx,
      Nat.mod_eq_of_lt hx'] at hcolumn
    simp only [Nat.mul_comm _ width, Nat.mul_add_div hpos, Nat.div_eq_of_lt hx,
      Nat.div_eq_of_lt hx', Nat.add_zero] at hrow
    exact ⟨hcolumn.symm, hrow.symm⟩
  · rintro ⟨rfl, rfl⟩
    rfl

theorem cell?_modify (s : Screen) (x y : Nat) (f : Cell → Cell) (x' y' : Nat) :
    (s.modify x y f).cell? x' y' =
      (s.cell? x' y').map fun c => if x' = x ∧ y' = y then f c else c := by
  rw [modify]
  by_cases hon' : x' < s.width ∧ y' < s.height
  · by_cases hon : x < s.width ∧ y < s.height
    · rw [if_pos hon]
      simp only [cell?, if_pos hon', Array.getElem?_modify, index_inj hon.1 hon'.1]
      split
      · rfl
      · exact Option.map_id'.symm
    · have hout : ¬ (x' = x ∧ y' = y) := fun h => hon (h.1 ▸ h.2 ▸ hon')
      simp only [if_neg hon, if_neg hout, Option.map_id']
  · have hnone : ∀ t : Screen, t.width = s.width → t.height = s.height → t.cell? x' y' = none := by
      intro t hwidth hheight
      rw [cell?, hwidth, hheight, if_neg hon']
    rw [hnone s rfl rfl]
    split
    · exact hnone _ rfl rfl
    · exact hnone _ rfl rfl

theorem cell?_modifyArea (s : Screen) (a : Area) (f : Cell → Cell) (x y : Nat) :
    (s.modifyArea a f).cell? x y =
      (s.cell? x y).map fun c => if a.contains x y then f c else c := by
  simp only [cell?, modifyArea]
  by_cases hon : x < s.width ∧ y < s.height
  · have hpos : 0 < s.width := Nat.lt_of_le_of_lt (Nat.zero_le _) hon.1
    have hcolumn : (y * s.width + x) % s.width = x := by
      rw [Nat.mul_comm, Nat.mul_add_mod, Nat.mod_eq_of_lt hon.1]
    have hrow : (y * s.width + x) / s.width = y := by
      rw [Nat.mul_comm, Nat.mul_add_div hpos, Nat.div_eq_of_lt hon.1, Nat.add_zero]
    simp only [if_pos hon, Array.getElem?_mapIdx, hcolumn, hrow]
  · simp only [hon, if_false, Option.map_none]

theorem cell?_blank (width height x y : Nat) :
    (blank width height).cell? x y = if x < width ∧ y < height then some {} else none := by
  simp only [cell?, blank, filled, Array.getElem?_replicate]
  split
  · next hon =>
    apply if_pos
    calc y * width + x < y * width + width := Nat.add_lt_add_left hon.1 _
      _ = (y + 1) * width := (Nat.succ_mul _ _).symm
      _ ≤ height * width := Nat.mul_le_mul_right _ hon.2
      _ = width * height := Nat.mul_comm _ _
  · rfl

/-! ### Screens that differ in one place -/

/-- The screens are the same but for the cells at which `P` holds. -/
structure SameBut (P : Nat → Nat → Prop) (s t : Screen) : Prop where
  width : t.width = s.width
  height : t.height = s.height
  cell?_eq : ∀ x y, ¬ P x y → t.cell? x y = s.cell? x y

theorem SameBut.refl (P : Nat → Nat → Prop) (s : Screen) : SameBut P s s :=
  ⟨rfl, rfl, fun _ _ _ => rfl⟩

theorem SameBut.trans (h : SameBut P s t) (h' : SameBut P t u) : SameBut P s u where
  width := h'.width.trans h.width
  height := h'.height.trans h.height
  cell?_eq x y hout := (h'.cell?_eq x y hout).trans (h.cell?_eq x y hout)

theorem SameBut.mono (h : SameBut P s t) (hPQ : ∀ x y, P x y → Q x y) : SameBut Q s t where
  width := h.width
  height := h.height
  cell?_eq x y hout := h.cell?_eq x y fun hin => hout (hPQ x y hin)

/-- No cell is changed where there is none. -/
theorem SameBut.onScreen (h : SameBut P s t) :
    SameBut (fun x y => P x y ∧ x < s.width ∧ y < s.height) s t where
  width := h.width
  height := h.height
  cell?_eq x y hout := by
    by_cases hon : x < s.width ∧ y < s.height
    · exact h.cell?_eq x y fun hin => hout ⟨hin, hon⟩
    · rw [cell?, cell?, h.width, h.height, if_neg hon, if_neg hon]

theorem SameBut.spans (h : SameBut P s t) (hs : s.Spans a) : t.Spans a where
  right_le := h.width ▸ hs.right_le
  bottom_le := h.height ▸ hs.bottom_le

theorem sameBut_modify (s : Screen) (x y : Nat) (f : Cell → Cell) :
    SameBut (fun x' y' => x' = x ∧ y' = y) s (s.modify x y f) where
  width := by
    rw [modify]
    split <;> rfl
  height := by
    rw [modify]
    split <;> rfl
  cell?_eq x' y' hout := by
    rw [cell?_modify]
    simp only [if_neg hout, Option.map_id']

theorem sameBut_modifyArea (s : Screen) (a : Area) (f : Cell → Cell) :
    SameBut a.Has s (s.modifyArea a f) where
  width := rfl
  height := rfl
  cell?_eq x y hout := by
    have hout : ¬ a.contains x y = true := fun hin => hout ((a.contains_iff x y).mp hin)
    rw [cell?_modifyArea]
    simp only [if_neg hout, Option.map_id']

/-! ### Text -/

theorem sameBut_clearCells (s : Screen) (x y count : Nat) :
    SameBut (Area.mk x y count 1).Has s (s.clearCells x y count) := by
  induction count generalizing s x with
  | zero => exact .refl _ s
  | succ count ih =>
    refine ((s.sameBut_modify x y _).mono ?_).trans ((ih _ (x + 1)).mono ?_) <;>
      · intro x' y'
        simp only [Area.Has]
        omega

/-- Clusters stay in the room that they are given, and so does the column after them. -/
theorem sameBut_writeClusters (s : Screen) (x y room : Nat) (style : Style)
    (clusters : List (List Char × Nat)) :
    SameBut (Area.mk x y room 1).Has s (s.writeClusters x y room style clusters).1 ∧
      x ≤ (s.writeClusters x y room style clusters).2 ∧
      (s.writeClusters x y room style clusters).2 ≤ x + room := by
  induction clusters generalizing s x room with
  | nil => exact ⟨.refl _ s, Nat.le_refl x, Nat.le_add_right x room⟩
  | cons head rest ih =>
    obtain ⟨cluster, w⟩ := head
    rw [writeClusters]
    by_cases hroom : room < w
    · rw [if_pos hroom]
      exact ⟨.refl _ s, Nat.le_refl x, Nat.le_add_right x room⟩
    · rw [if_neg hroom]
      by_cases hw : w = 0
      · rw [if_pos hw]
        exact ih s x room
      · rw [if_neg hw]
        dsimp only
        -- The cluster and the cells that it covers, and then the rest.
        obtain ⟨hrest, hfrom, hto⟩ :=
          ih ((s.modify x y (·.put cluster style)).clearCells (x + 1) y (w - 1)) (x + w) (room - w)
        refine ⟨?_, by omega, by omega⟩
        refine (((s.sameBut_modify x y _).mono ?_).trans
          ((sameBut_clearCells _ (x + 1) y (w - 1)).mono ?_)).trans (hrest.mono ?_) <;>
          · intro x' y'
            simp only [Area.Has]
            omega

/-- A line stays in the room that it is given. -/
theorem sameBut_writeLine (s : Screen) (x y room : Nat) (line : Line) :
    SameBut (Area.mk x y room 1).Has s (s.writeLine x y room line) := by
  induction line generalizing s x room with
  | nil => exact .refl _ s
  | cons span rest ih =>
    obtain ⟨hspan, hfrom, hto⟩ := s.sameBut_writeClusters x y (min room (s.width - x)) span.style
      (Text.printable span.text)
    refine (hspan.mono ?_).trans ((ih _ _ _).mono ?_) <;>
      · intro x' y'
        simp only [Area.Has]
        omega

/-! ### Frames -/

theorem sameBut_putSymbol (s : Screen) (symbol : Char) (style : Style) (h : P x y) :
    SameBut P s (s.putSymbol x y symbol style) :=
  (s.sameBut_modify x y _).mono fun _ _ hplace => hplace.1 ▸ hplace.2 ▸ h

theorem sameBut_topRule (s : Screen) (a : Area) (style : Style) :
    SameBut { a with height := min a.height 1 }.Has s (s.topRule a style) :=
  s.sameBut_modifyArea _ _

/-- A frame is drawn on the outermost cells. -/
theorem sameBut_frame (h : s.Spans a) (style : Style) : SameBut a.Border s (s.frame a style) := by
  rw [frame, h.intersection_eq]
  rcases hempty : a.isEmpty
  · obtain ⟨hwidth, hheight⟩ := a.isEmpty_eq_false_iff.mp hempty
    obtain ⟨hleft, htop, hright, hlow, hcorner⟩ :
        (∀ x y, Area.Has { a with width := 1 } x y → a.Border x y) ∧
        (∀ x y, Area.Has { a with height := min a.height 1 } x y → a.Border x y) ∧
        (∀ x y, Area.Has { a with x := a.right - 1, width := 1 } x y → a.Border x y) ∧
        (∀ x y, Area.Has { a with y := a.bottom - 1, height := 1 } x y → a.Border x y) ∧
        ∀ x y, x = a.x ∨ x = a.right - 1 → y = a.y ∨ y = a.bottom - 1 → a.Border x y := by
      refine ⟨?_, ?_, ?_, ?_, ?_⟩ <;>
      · intro x y
        simp only [Area.Border, Area.Has, Area.shrink, Area.right, Area.bottom]
        omega
    -- The corners, the one drawn last first, and below them the sides.
    refine .trans ?_ (sameBut_putSymbol _ '╭' style (hcorner _ _ (.inl rfl) (.inl rfl)))
    refine .trans ?_ (sameBut_putSymbol _ '╰' style (hcorner _ _ (.inl rfl) (.inr rfl)))
    refine .trans ?_ (sameBut_putSymbol _ '╮' style (hcorner _ _ (.inr rfl) (.inl rfl)))
    refine .trans ?_ (sameBut_putSymbol _ '╯' style (hcorner _ _ (.inr rfl) (.inr rfl)))
    refine .trans ?_ ((sameBut_modifyArea _ _ _).mono hlow)
    refine .trans ?_ ((sameBut_modifyArea _ _ _).mono hright)
    refine .trans ?_ ((sameBut_topRule _ _ _).mono htop)
    exact (s.sameBut_modifyArea _ _).mono hleft
  · exact .refl _ s

/-- A title is drawn in the first row. -/
theorem sameBut_title (h : s.Spans a) (text : String) : SameBut a.Border s (s.title a text) := by
  rw [title, h.intersection_eq]
  rcases hempty : a.isEmpty
  · obtain ⟨hwidth, hheight⟩ := a.isEmpty_eq_false_iff.mp hempty
    refine (s.sameBut_writeLine (a.x + 1) a.y (a.width - 2) [⟨text, {}⟩]).mono ?_
    intro x y hin
    simp only [Area.Border, Area.Has, Area.shrink, Area.right, Area.bottom] at *
    omega
  · exact .refl _ s

/-- The thumb of a scrollbar fits on its track. -/
theorem thumb_le (track height total offset : Nat) :
    (thumb track height total offset).1 + (thumb track height total offset).2 ≤ track := by
  simp only [thumb]
  omega

/-- A scrollbar is drawn in the last column. -/
theorem sameBut_scrollbar (s : Screen) (a : Area) (total offset : Nat) :
    SameBut a.Border s (s.scrollbar a total offset) := by
  rw [scrollbar]
  by_cases hsmall : a.height < 3 ∨ a.width = 0
  · rw [if_pos hsmall]
    exact .refl _ s
  · rw [if_neg hsmall]
    have hthumb := thumb_le (a.height - 2) a.height total offset
    obtain ⟨htrack, hthumb, hfirst, hlast⟩ :
        (∀ x y, Area.Has ⟨a.right - 1, a.y + 1, 1, a.height - 2⟩ x y → a.Border x y) ∧
        (∀ x y, Area.Has ⟨a.right - 1, a.y + 1 + (thumb (a.height - 2) a.height total offset).1, 1,
          (thumb (a.height - 2) a.height total offset).2⟩ x y → a.Border x y) ∧
        a.Border (a.right - 1) a.y ∧ a.Border (a.right - 1) (a.bottom - 1) := by
      simp only [Area.Border, Area.Has, Area.shrink, Area.right, Area.bottom]
      refine ⟨?_, ?_, ?_, ?_⟩ <;> omega
    refine .trans ?_ (sameBut_putSymbol _ '▼' {} hlast)
    refine .trans ?_ ((sameBut_modifyArea _ _ _).mono hthumb)
    refine .trans ?_ ((sameBut_modifyArea _ _ _).mono htrack)
    exact s.sameBut_putSymbol '▲' {} hfirst

end Screen

end Provision
