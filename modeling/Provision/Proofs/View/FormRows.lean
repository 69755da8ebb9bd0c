/-
The rows of the form.

Lines that are written into the rows of a rectangle are cut at its bottom, and so is
each of them at its right edge: `cell?_writeRows` says what becomes of every cell, and
`HoldsRow` that a row has its line.  The form is a frame with a row for each visible
field and one below them for what is wrong (`formLines`).  The layout counts the same
rows (`formHeight_visible`), and it gives them to the form on every screen that has
enough for all parts (`height_form`).  So nothing of the form is missing there, and
nothing is drawn over it (`holdsRow_beneath`).

Main result: `form_rows_shown`.
-/
import Provision.Proofs.Screen.Line
import Provision.Proofs.View.Window

namespace Provision

/-- What a row into which a line is written makes of its cell in column `j`; a row
without a line stays as it is. -/
def Line.written (room : Nat) (line : Option Line) (j : Nat) (c : Cell) : Cell :=
  match line with
  | none => c
  | some line => Line.inked (line.cut room) j c

namespace Screen

variable {r s t u : Screen} {P : Nat → Nat → Prop} {a : Area} {k : Nat} {line : Line}

/-- The rectangle has a row `k`, and in `t` the line is in it, cut at the width of the
rectangle, on what `s` shows there. -/
structure HoldsRow (s t : Screen) (a : Area) (k : Nat) (line : Line) : Prop where
  room : 0 < a.width ∧ k < a.height
  cells : ∀ j < a.width, ∃ c, s.cell? (a.x + j) (a.y + k) = some c ∧
    t.cell? (a.x + j) (a.y + k) = some (Line.inked (line.cut a.width) j c)

/-- Drawing elsewhere does not hide it. -/
theorem HoldsRow.over (h : s.HoldsRow t a k line) (hu : SameBut P t u)
    (hout : ∀ x y, a.Has x y → ¬ P x y) : s.HoldsRow u a k line := by
  refine ⟨h.room, fun j hj => ?_⟩
  obtain ⟨c, hs, ht⟩ := h.cells j hj
  refine ⟨c, hs, ?_⟩
  rw [hu.cell?_eq _ _ (hout _ _ (Area.has_add hj h.room.2)), ht]

/-- Nor does what was drawn elsewhere before. -/
theorem HoldsRow.under (h : s.HoldsRow t a k line) (hr : SameBut P r s)
    (hout : ∀ x y, a.Has x y → ¬ P x y) : r.HoldsRow t a k line := by
  refine ⟨h.room, fun j hj => ?_⟩
  obtain ⟨c, hs, ht⟩ := h.cells j hj
  refine ⟨c, ?_, ht⟩
  rw [← hr.cell?_eq _ _ (hout _ _ (Area.has_add hj h.room.2)), hs]

end Screen

namespace View

open Screen

variable {s : Screen} {a : Area} {lines : List Line} {line : Line} {f : Form} {locked : Bool}
  {error : Option String} {b : App} {width height k : Nat}

/-! ### Lines in rows -/

theorem cell?_writeRows (s : Screen) (x y bottom room : Nat) (lines : List Line) (x' y' : Nat) :
    (writeRows s x y bottom room lines).cell? x' y' =
      (s.cell? x' y').map fun c =>
        if x ≤ x' ∧ y ≤ y' ∧ y' < bottom then
          Line.written (min room (s.width - x)) lines[y' - y]? (x' - x) c
        else c := by
  induction lines generalizing s y with
  | nil =>
    simp only [List.getElem?_nil, Line.written, ite_self, Option.map_id']
    rfl
  | cons line rest ih =>
    rw [writeRows]
    by_cases hbottom : bottom ≤ y
    · have hout : ¬ (x ≤ x' ∧ y ≤ y' ∧ y' < bottom) := by omega
      simp only [if_pos hbottom, if_neg hout, Option.map_id']
    · rw [if_neg hbottom, ih, cell?_writeLine, (s.sameBut_writeLine x y room line).width,
        Option.map_map]
      congr 1
      funext c
      exact rows_cons (Nat.lt_of_not_le hbottom) x x' y'
        (fun line => Line.written (min room (s.width - x)) line (x' - x)) line rest c

/-- There are no more rows than lines. -/
theorem sameBut_writeRows_lines (s : Screen) (x y bottom room : Nat) (lines : List Line) :
    SameBut (fun x' y' =>
        ((x ≤ x' ∧ x' < x + room) ∧ y ≤ y' ∧ y' < bottom) ∧ y' < y + lines.length)
      s (writeRows s x y bottom room lines) := by
  have hrows := sameBut_writeRows s x y bottom room lines
  refine ⟨hrows.width, hrows.height, fun x' y' hout => ?_⟩
  by_cases hline : y' < y + lines.length
  · exact hrows.cell?_eq x' y' fun hin => hout ⟨hin, hline⟩
  · have hnone : lines[y' - y]? = none := List.getElem?_eq_none (by omega)
    rw [cell?_writeRows, hnone]
    simp only [Line.written, ite_self, Option.map_id']

/-- Lines below the bottom do not matter. -/
theorem writeRows_take (s : Screen) (x y bottom room : Nat) (lines : List Line) :
    writeRows s x y bottom room (lines.take (bottom - y)) = writeRows s x y bottom room lines := by
  induction lines generalizing s y with
  | nil => rw [List.take_nil]
  | cons line rest ih =>
    by_cases hbottom : bottom ≤ y
    · rw [Nat.sub_eq_zero_of_le hbottom, List.take_zero, writeRows, writeRows, if_pos hbottom]
    · have hrows : bottom - y = (bottom - (y + 1)) + 1 := by omega
      rw [hrows, List.take_succ_cons, writeRows, writeRows, if_neg hbottom, if_neg hbottom, ih]

theorem holdsRow_writeRows (h : s.Covers a) (ha : a.isEmpty = false) (hk : k < a.height)
    (hline : lines[k]? = some line) :
    s.HoldsRow (writeRows s a.x a.y a.bottom a.width lines) a k line := by
  obtain ⟨hwidth, -⟩ := a.isEmpty_eq_false_iff.mp ha
  refine ⟨⟨hwidth, hk⟩, fun j hj => ?_⟩
  obtain ⟨c, hc⟩ := Option.isSome_iff_exists.mp (h _ _ (Area.has_add hj hk))
  refine ⟨c, hc, ?_⟩
  have hrow : a.x ≤ a.x + j ∧ a.y ≤ a.y + k ∧ a.y + k < a.bottom := by
    rw [Area.bottom]
    omega
  have hroom : min a.width (s.width - a.x) = a.width := by
    have hright := (h.spans ha).right_le
    omega
  rw [cell?_writeRows, hc, Option.map_some, if_pos hrow, hroom, Nat.add_sub_cancel_left,
    Nat.add_sub_cancel_left, hline]
  rfl

/-! ### The form -/

/-- The frame of the form and its title. -/
def formBox (s : Screen) (a : Area) (f : Form) (locked : Bool) : Screen :=
  (s.frame a (if locked then Theme.muted else Theme.accent)).title a
    (" " ++ f.protocol.label ++ " Server ")

/-- The visible fields, and what is wrong below them. -/
def formLines (f : Form) (locked : Bool) (error : Option String) : List Line :=
  f.visible.map (fieldLine f locked) ++ [footerLine locked error]

theorem drawForm_eq (s : Screen) (a : Area) (f : Form) (locked : Bool) (error : Option String) :
    drawForm s a f locked error =
      if a.shrink.isEmpty then formBox s a f locked
      else writeRows (formBox s a f locked) a.shrink.x a.shrink.y a.shrink.bottom a.shrink.width
        (formLines f locked error) :=
  rfl

theorem length_formLines (f : Form) (locked : Bool) (error : Option String) :
    (formLines f locked error).length = f.visible.length + 1 := by
  rw [formLines, List.length_append, List.length_map, List.length_singleton]

theorem getElem?_formLines_field (hk : k < f.visible.length) :
    (formLines f locked error)[k]? = some (fieldLine f locked f.visible[k]) := by
  rw [formLines, List.getElem?_append_left (by simpa using hk), List.getElem?_map,
    List.getElem?_eq_getElem hk, Option.map_some]

theorem getElem?_formLines_footer :
    (formLines f locked error)[f.visible.length]? = some (footerLine locked error) := by
  rw [formLines, List.getElem?_append_right (by simp), List.length_map, Nat.sub_self]
  rfl

/-- The layout counts a row for each field, one for the error, and the two of the frame. -/
theorem formHeight_visible (f : Form) :
    Layout.formHeight f.visible.length = f.visible.length + 3 := by
  rcases hprotocol : f.protocol <;> rw [Form.visible, hprotocol] <;> rfl

/-- Every row inside the frame has its line. -/
theorem holdsRow_drawForm (hon : s.Covers a) (hwidth : 3 ≤ a.width) (hk : k < a.height - 2)
    (hline : (formLines f locked error)[k]? = some line) :
    s.HoldsRow (drawForm s a f locked error) a.shrink k line := by
  have hroom : a.shrink.isEmpty = false :=
    a.shrink.isEmpty_eq_false_iff.mpr ⟨Nat.sub_pos_of_lt hwidth, Nat.zero_lt_of_lt hk⟩
  have hborder : ∀ x y, a.shrink.Has x y → ¬ a.Border x y := fun _ _ => Area.not_border_of_shrink
  have hbox : SameBut a.Border s (formBox s a f locked) :=
    sameBut_box (hon.spans_of_shrink hroom) _ _
  rw [drawForm_eq, hroom, if_neg Bool.false_ne_true]
  exact (holdsRow_writeRows (hbox.covers hon.shrink hborder) hroom hk hline).under hbox hborder

/-- The rows are inside the frame, the footer at most one below the fields. -/
theorem sameBut_formBox (s : Screen) (a : Area) (f : Form) (locked : Bool)
    (error : Option String) :
    SameBut (fun x y => a.shrink.Has x y ∧ y ≤ a.shrink.y + f.visible.length)
      (formBox s a f locked) (drawForm s a f locked error) := by
  rw [drawForm_eq]
  split
  · exact .refl _ _
  · refine (sameBut_writeRows_lines _ _ _ _ _ _).mono fun x y hin => ?_
    rw [length_formLines] at hin
    exact ⟨hin.1, Nat.le_of_lt_succ hin.2⟩

/-- In a rectangle that is too low nothing is seen of the error. -/
theorem drawForm_eq_of_height_lt (h : a.height < Layout.formHeight f.visible.length)
    (error error' : Option String) :
    drawForm s a f locked error' = drawForm s a f locked error := by
  rw [formHeight_visible] at h
  have hfields : a.shrink.bottom - a.shrink.y ≤ (f.visible.map (fieldLine f locked)).length := by
    simp only [List.length_map, Area.bottom, Area.shrink]
    omega
  rw [drawForm_eq, drawForm_eq, ← writeRows_take _ _ _ _ _ (formLines f locked error'),
    ← writeRows_take _ _ _ _ _ (formLines f locked error), formLines, formLines,
    List.take_append_of_le_length hfields, List.take_append_of_le_length hfields]

/-- The rows that the layout counts are the fewest that hold all lines. -/
theorem holdsRow_drawForm_iff (hon : s.Covers a) (hwidth : 3 ≤ a.width) :
    (∀ k line, (formLines f locked error)[k]? = some line →
      s.HoldsRow (drawForm s a f locked error) a.shrink k line) ↔
      Layout.formHeight f.visible.length ≤ a.height := by
  rw [formHeight_visible]
  constructor
  · intro hall
    have hfooter : f.visible.length < a.height - 2 := (hall _ _ getElem?_formLines_footer).room.2
    omega
  · intro hheight k line hline
    have hk := (List.getElem?_eq_some_iff.mp hline).1
    rw [length_formLines] at hk
    exact holdsRow_drawForm hon hwidth (by omega) hline

/-! ### The whole screen -/

/-- The rows that all parts of a screen with this form ask for. -/
def rowsAsked (f : Form) : Nat :=
  Layout.headerHeight + Layout.formHeight f.visible.length + Layout.leastLogHeight +
    Layout.statusHeight

/-- Where there are enough rows for all parts, the form has those that it asks for. -/
theorem height_form (width : Nat) (h : rowsAsked b.form ≤ height) :
    (partsOf b width height).form.height = Layout.formHeight b.form.visible.length := by
  simp only [rowsAsked, Layout.headerHeight, Layout.leastLogHeight, Layout.statusHeight] at h
  simp only [partsOf, Layout.create, Layout.heights, Layout.headerHeight, Layout.leastLogHeight,
    Layout.statusHeight]
  omega

/-- What is drawn around the form leaves its rows alone. -/
theorem holdsRow_beneath (hwidth : 3 ≤ width) (hk : k < (partsOf b width height).form.height - 2)
    (hline : (formLines b.form b.inProgress b.formError)[k]? = some line) :
    (backdrop width height).HoldsRow (beneath b width height)
      (partsOf b width height).form.shrink k line := by
  have hparts := stacked_partsOf b width height
  obtain ⟨hheader, hform, -⟩ := hparts.spans (s := backdrop width height) rfl rfl
  have hcolumns : ∀ part ∈ [(partsOf b width height).header, (partsOf b width height).form],
      part.x = 0 ∧ part.width = width := fun part hmem =>
    hparts.columns part ((List.prefix_append [_, _] [_, _]).subset hmem)
  have htop := sameBut_drawHeader hheader (hcolumns _ (List.mem_cons_self ..)) b.endpoint b.phase
  have hcovers := htop.covers (covers_backdrop hform) fun _ _ => hparts.above_form
  have hrow := holdsRow_drawForm hcovers
    ((hcolumns _ (.tail _ (List.mem_cons_self ..))).2 ▸ hwidth) hk hline
  have habove := hrow.under htop fun x y hin => hparts.above_form (Area.has_of_shrink hin)
  -- The log is drawn after the form, and the status after the log.
  have hsizes := sameBut_aboveLog b width height
  obtain ⟨-, -, hlog, -⟩ := hparts.spans hsizes.width hsizes.height
  have hlogged := habove.over (sameBut_drawLog hlog b.log.entries b.phase b.log.view)
    fun x y hin hlog => (hparts.above_log hlog).2 (Area.has_of_shrink hin)
  exact hlogged.over (sameBut_drawStatus _ _ _)
    fun x y hin hstatus => (hparts.above_status hstatus).2.1 (Area.has_of_shrink hin)

end View

end Provision
