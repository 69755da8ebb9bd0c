/-
The parts of the screen.

The layout cuts the screen into rectangles below each other (`stacked_create`), and
each part is drawn in its own: the header, the form, the log and the status touch
no other cells (`sameBut_drawHeader` and its likes).  So what a part shows is not
changed by the others.
-/
import Provision.Proofs.Screen.Paragraph
import Provision.View

namespace Provision.View

open Screen

/-! ### The layout -/

/-- The rectangles are as wide as the screen, one begins where the one above ends, and
the last one ends with the screen. -/
structure Layout.Stacked (p : Layout) (width height : Nat) : Prop where
  columns : ∀ part ∈ [p.header, p.form, p.log, p.status], part.x = 0 ∧ part.width = width
  header : p.header.y = 0
  form : p.form.y = p.header.y + p.header.height
  log : p.log.y = p.form.y + p.form.height
  status : p.status.y = p.log.y + p.log.height
  bottom : p.status.y + p.status.height = height

/-- Every row is given to one of the parts. -/
theorem heights_sum (rows form : Nat) :
    (Layout.heights rows form).1 + (Layout.heights rows form).2.1 +
      (Layout.heights rows form).2.2.1 + (Layout.heights rows form).2.2.2 = rows := by
  simp only [Layout.heights, Layout.headerHeight, Layout.statusHeight, Layout.leastLogHeight]
  omega

theorem stacked_create (width height fields : Nat) :
    (Layout.create ⟨0, 0, width, height⟩ fields).Stacked width height where
  columns := by simp [Layout.create]
  header := rfl
  form := rfl
  log := rfl
  status := rfl
  bottom := by
    have hsum := heights_sum height (Layout.formHeight fields)
    simp only [Layout.create]
    rcases hparts : Layout.heights height (Layout.formHeight fields) with
      ⟨header, form, log, status⟩
    rw [hparts] at hsum
    dsimp only at hsum ⊢
    omega

namespace Layout.Stacked

variable {p : Layout} {width height : Nat} {s : Screen} {x y : Nat}

theorem spans (h : p.Stacked width height) (hw : s.width = width) (hh : s.height = height) :
    s.Spans p.header ∧ s.Spans p.form ∧ s.Spans p.log ∧ s.Spans p.status := by
  obtain ⟨hcolumns, hheader, hform, hlog, hstatus, hbottom⟩ := h
  have hright : ∀ part ∈ [p.header, p.form, p.log, p.status], part.x + part.width ≤ s.width := by
    intro part hpart
    obtain ⟨hx, hwidth⟩ := hcolumns part hpart
    omega
  simp only [List.forall_mem_cons] at hright
  obtain ⟨hright₁, hright₂, hright₃, hright₄, -⟩ := hright
  exact ⟨⟨hright₁, by omega⟩, ⟨hright₂, by omega⟩, ⟨hright₃, by omega⟩, ⟨hright₄, by omega⟩⟩

/-- The header does not reach into the form. -/
theorem above_form (h : p.Stacked width height) (hin : p.form.Has x y) : ¬ p.header.Has x y := by
  obtain ⟨-, hheader, hform, -⟩ := h
  simp only [Area.Has] at *
  omega

/-- The parts above the log do not reach into it. -/
theorem above_log (h : p.Stacked width height) (hin : p.log.Has x y) :
    ¬ p.header.Has x y ∧ ¬ p.form.Has x y := by
  obtain ⟨-, hheader, hform, hlog, hstatus, hbottom⟩ := h
  simp only [Area.Has] at *
  omega

theorem above_status (h : p.Stacked width height) (hin : p.status.Has x y) :
    ¬ p.header.Has x y ∧ ¬ p.form.Has x y ∧ ¬ p.log.Has x y := by
  obtain ⟨-, hheader, hform, hlog, hstatus, hbottom⟩ := h
  simp only [Area.Has] at *
  omega

end Layout.Stacked

/-! ### Each part in its place -/

variable {s : Screen} {a : Area}

theorem sameBut_framed (h : s.Spans a) (style : Style) : SameBut a.Has s (s.frame a style) :=
  (sameBut_frame h style).mono fun _ _ hedge => hedge.1

theorem sameBut_titled (h : s.Spans a) (text : String) : SameBut a.Has s (s.title a text) :=
  (sameBut_title h text).mono fun _ _ hedge => hedge.1

/-- The header has all columns of the screen, so the keys are in one of its rows
wherever they are. -/
theorem sameBut_drawHeader (h : s.Spans a) (hcolumns : a.x = 0 ∧ a.width = s.width)
    (endpoint : String) (phase : Phase) : SameBut a.Has s (drawHeader s a endpoint phase) := by
  have hframe := sameBut_framed h Theme.muted
  rw [drawHeader]
  dsimp only
  split
  · exact hframe
  · next hinner =>
    -- The title, and the hints beside it if there is room.
    obtain ⟨hwidth, hheight⟩ :=
      a.shrink.isEmpty_eq_false_iff.mp (Bool.eq_false_iff.mpr hinner)
    have htitle : SameBut a.Has (s.frame a Theme.muted)
        ((s.frame a Theme.muted).writeLine a.shrink.x a.shrink.y a.shrink.width
          (titleLine endpoint phase)) := by
      refine (sameBut_writeLine _ _ _ _ _).mono fun x y hin => ?_
      simp only [Area.Has, Area.shrink, Area.right, Area.bottom] at *
      omega
    have htitled := hframe.trans htitle
    split
    · refine htitled.trans ((sameBut_writeLine _ _ _ _ _).onScreen.mono fun x y hin => ?_)
      obtain ⟨hin, hx, hy⟩ := hin
      rw [htitled.width] at hx
      simp only [Area.Has, Area.shrink, Area.right, Area.bottom] at *
      omega
    · exact htitled

theorem sameBut_writeRows (s : Screen) (x y bottom room : Nat) (lines : List Line) :
    SameBut (fun x' y' => (x ≤ x' ∧ x' < x + room) ∧ y ≤ y' ∧ y' < bottom) s
      (writeRows s x y bottom room lines) := by
  induction lines generalizing s y with
  | nil => exact .refl _ s
  | cons line rest ih =>
    rw [writeRows]
    split
    · exact .refl _ s
    · refine ((sameBut_writeLine _ _ _ _ _).mono ?_).trans ((ih _ _).mono ?_)
      · intro x' y'
        simp only [Area.Has]
        omega
      · intro x' y'
        omega

theorem sameBut_drawForm (h : s.Spans a) (f : Form) (locked : Bool) (error : Option String) :
    SameBut a.Has s (drawForm s a f locked error) := by
  have hframe := sameBut_framed h (if locked then Theme.muted else Theme.accent)
  have htitle := sameBut_titled (hframe.spans h) (" " ++ f.protocol.label ++ " Server ")
  rw [drawForm]
  dsimp only
  split
  · exact hframe.trans htitle
  · next hinner =>
    obtain ⟨hwidth, hheight⟩ :=
      a.shrink.isEmpty_eq_false_iff.mp (Bool.eq_false_iff.mpr hinner)
    refine (hframe.trans htitle).trans ((sameBut_writeRows _ _ _ _ _ _).mono fun x y hin => ?_)
    simp only [Area.Has, Area.shrink, Area.right, Area.bottom] at *
    omega

/-- The rule above the status is its first row. -/
theorem sameBut_rule (s : Screen) (area : Area) :
    SameBut (fun x y => area.Has x y ∧ y = area.y) s
      (if (area.intersection s.area).isEmpty then s
        else s.topRule (area.intersection s.area) Theme.muted) := by
  split
  · exact .refl _ s
  · refine (s.sameBut_topRule _ _).mono fun x y hin => ?_
    simp only [Area.Has, Area.intersection, Area.right, Area.bottom, Screen.area] at *
    omega

theorem sameBut_drawStatus (s : Screen) (area : Area) (a : App) :
    SameBut area.Has s (drawStatus s area a) := by
  have hrule := (sameBut_rule s area).mono (Q := area.Has) fun _ _ hin => hin.1
  refine hrule.trans ((sameBut_paragraph _ _ _ _).mono fun x y hin => ?_)
  simp only [Area.Has, Area.dropRow, Area.bottom] at *
  omega

/-- The rows below the first one. -/
theorem has_of_dropRow {x y : Nat} (h : a.dropRow.Has x y) : a.Has x y ∧ y ≠ a.y := by
  simp only [Area.Has, Area.dropRow, Area.bottom] at *
  omega

/-- The status is shown in the row below the rule. -/
theorem shows_drawStatus (h : s.Covers a) (b : App) :
    s.Shows (drawStatus s a b) a.dropRow [statusLine b] := by
  have hrule := sameBut_rule s a
  have hout : ∀ x y, a.dropRow.Has x y → ¬ (a.Has x y ∧ y = a.y) :=
    fun _ _ hrow hfirst => (has_of_dropRow hrow).2 hfirst.2
  have hcovers : s.Covers a.dropRow := fun x y hrow => h x y (has_of_dropRow hrow).1
  exact (shows_paragraph (hrule.covers hcovers hout) _).under hrule hout

end Provision.View
