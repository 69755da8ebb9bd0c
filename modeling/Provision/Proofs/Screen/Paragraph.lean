/-
Paragraphs, cell by cell.

A paragraph draws its lines one to a row, from the first row of its rectangle on,
each cut at the width of the rectangle: `Line.drawn` says what becomes of each cell
of such a row.  A cluster is seen in the cell in which it begins; the other
cells that it covers, and those beside the line, stay what they were.

`Shows` is this for a whole rectangle, and `shows_paragraph` says that a paragraph
does it; it goes on to hold when other places are drawn on (`Shows.over`,
`Shows.under`).
-/
import Provision.Proofs.Screen.Cells

namespace Provision

/-! ### One line -/

namespace Line

variable {j room : Nat} {c : Cell}

/-- The columns that clusters take. -/
def columns (clusters : List (List Char × Nat × Style)) : Nat :=
  clusters.foldr (fun cluster w => cluster.2.1 + w) 0

/-- What becomes of the cell in column `j` when clusters are put one after the other
from column 0 on. -/
def laid : List (List Char × Nat × Style) → Nat → Cell → Cell
  | [], _, c => c
  | (cluster, w, style) :: rest, j, c =>
    if w ≤ j then laid rest (j - w) c
    else if j = 0 then c.put cluster style else c

/-- What a line of a paragraph makes of the cell in column `j` of its row; a row
without a line stays as it is. -/
def drawn (align : Screen.Alignment) (room : Nat) (line : Option Line) (j : Nat) (c : Cell) :
    Cell :=
  match line with
  | none => c
  | some line =>
    let clusters := fitting room room line.printable
    let indent := align.indent room (columns clusters)
    if indent ≤ j then laid clusters (j - indent) c else c

theorem laid_of_columns_le (clusters : List (List Char × Nat × Style)) (h : columns clusters ≤ j) :
    laid clusters j c = c := by
  induction clusters generalizing j with
  | nil => rfl
  | cons head rest ih =>
    obtain ⟨cluster, w, style⟩ := head
    have hcolumns : w + columns rest ≤ j := h
    rw [laid, if_pos (Nat.le_of_add_right_le hcolumns)]
    exact ih (by omega)

theorem columns_fitting_le (width room : Nat) (clusters : List (List Char × Nat × Style)) :
    columns (fitting width room clusters) ≤ room := by
  induction clusters generalizing room with
  | nil => exact Nat.zero_le room
  | cons head rest ih =>
    obtain ⟨cluster, w, style⟩ := head
    rw [fitting]
    split
    · exact ih room
    · split
      · exact Nat.zero_le room
      · have hrest := ih (room - w)
        show w + columns (fitting width (room - w) rest) ≤ room
        omega

/-- Wherever a line begins, it ends within its room. -/
theorem indent_add_le (align : Screen.Alignment) {width : Nat} (h : width ≤ room) :
    align.indent room width + width ≤ room := by
  cases align with
  | left =>
    show 0 + width ≤ room
    omega
  | center =>
    show room / 2 - width / 2 + width ≤ room
    omega

/-- The cells beside the room of a line stay. -/
theorem drawn_of_room_le (align : Screen.Alignment) (line : Option Line) (h : room ≤ j) :
    drawn align room line j c = c := by
  cases line with
  | none => rfl
  | some line =>
    have hend := indent_add_le align (columns_fitting_le room room line.printable)
    show (if _ then _ else _) = c
    split
    · apply laid_of_columns_le
      omega
    · rfl

end Line

namespace Screen

variable {r s t u : Screen} {P : Nat → Nat → Prop} {a : Area} {lines : List Line}

theorem cell?_putClusters (s : Screen) (x y : Nat) (clusters : List (List Char × Nat × Style))
    (x' y' : Nat) :
    (s.putClusters x y clusters).cell? x' y' =
      (s.cell? x' y').map fun c =>
        if x ≤ x' ∧ y' = y then Line.laid clusters (x' - x) c else c := by
  induction clusters generalizing s x with
  | nil =>
    simp only [Line.laid, ite_self, Option.map_id']
    rfl
  | cons head rest ih =>
    obtain ⟨cluster, w, style⟩ := head
    rw [putClusters]
    by_cases hw : w = 0
    · simp only [ih, Line.laid, hw, Nat.zero_le, if_true, Nat.sub_zero]
    · rw [if_neg hw, ih, cell?_modify, Option.map_map]
      -- A cell left of the cluster, in its first column, covered by it, or right of it.
      congr 1
      funext c
      simp only [Function.comp, Line.laid, Nat.sub_sub]
      grind

theorem sizes_putClusters (s : Screen) (x y : Nat) (clusters : List (List Char × Nat × Style)) :
    (s.putClusters x y clusters).width = s.width ∧
      (s.putClusters x y clusters).height = s.height := by
  induction clusters generalizing s x with
  | nil => exact ⟨rfl, rfl⟩
  | cons head rest ih =>
    obtain ⟨cluster, w, style⟩ := head
    rw [putClusters]
    split
    · exact ih s x
    · have hput := s.sameBut_modify x y (·.put cluster style)
      exact ⟨(ih _ _).1.trans hput.width, (ih _ _).2.trans hput.height⟩

/-! ### Lines below each other -/

/-- Where a line is put into its row and then the rest into the rows below, every row of
the whole has its line. -/
theorem rows_cons {y bottom : Nat} (hy : y < bottom) (x x' y' : Nat)
    (put : Option Line → Cell → Cell) (line : Line) (rest : List Line) (c : Cell) :
    (if x ≤ x' ∧ y + 1 ≤ y' ∧ y' < bottom then
      put rest[y' - (y + 1)]? (if x ≤ x' ∧ y' = y then put (some line) c else c)
    else if x ≤ x' ∧ y' = y then put (some line) c else c) =
      if x ≤ x' ∧ y ≤ y' ∧ y' < bottom then put (line :: rest)[y' - y]? c else c := by
  rcases Nat.lt_trichotomy y' y with habove | rfl | hbelow
  · grind
  · have hline : (line :: rest)[y' - y']? = some line := by
      rw [Nat.sub_self]
      rfl
    rw [hline]
    grind
  · have hline : (line :: rest)[y' - y]? = rest[y' - (y + 1)]? := by
      rw [List.getElem?_cons, if_neg (by omega), Nat.sub_sub]
    rw [hline]
    grind

theorem cell?_putLines (s : Screen) (x y bottom room : Nat) (align : Alignment)
    (lines : List Line) (x' y' : Nat) :
    (s.putLines x y bottom room align lines).cell? x' y' =
      (s.cell? x' y').map fun c =>
        if x ≤ x' ∧ y ≤ y' ∧ y' < bottom then
          Line.drawn align room lines[y' - y]? (x' - x) c
        else c := by
  induction lines generalizing s y with
  | nil =>
    simp only [List.getElem?_nil, Line.drawn, ite_self, Option.map_id']
    rfl
  | cons line rest ih =>
    rw [putLines]
    by_cases hbottom : bottom ≤ y
    · have hout : ¬ (x ≤ x' ∧ y ≤ y' ∧ y' < bottom) := by omega
      simp only [if_pos hbottom, if_neg hout, Option.map_id']
    · rw [if_neg hbottom]
      dsimp only
      rw [ih, cell?_putClusters, Option.map_map]
      congr 1
      funext c
      rw [← rows_cons (Nat.lt_of_not_le hbottom) x x' y'
        (fun line => Line.drawn align room line (x' - x)) line rest c]
      simp only [Function.comp, Line.drawn, Line.columns]
      grind

theorem sizes_putLines (s : Screen) (x y bottom room : Nat) (align : Alignment)
    (lines : List Line) :
    (s.putLines x y bottom room align lines).width = s.width ∧
      (s.putLines x y bottom room align lines).height = s.height := by
  induction lines generalizing s y with
  | nil => exact ⟨rfl, rfl⟩
  | cons line rest ih =>
    rw [putLines]
    split
    · exact ⟨rfl, rfl⟩
    · exact ⟨(ih _ _).1.trans (sizes_putClusters _ _ _ _).1,
        (ih _ _).2.trans (sizes_putClusters _ _ _ _).2⟩

/-- A paragraph stays in its rectangle. -/
theorem sameBut_paragraph (s : Screen) (a : Area) (align : Alignment) (lines : List Line) :
    SameBut a.Has s (s.paragraph a align lines) := by
  rw [paragraph]
  split
  · exact .refl _ s
  · obtain ⟨hwidth, hheight⟩ := s.sizes_putLines (a.intersection s.area).x (a.intersection s.area).y
      (a.intersection s.area).bottom (a.intersection s.area).width align lines
    refine ⟨hwidth, hheight, fun x y hout => ?_⟩
    rw [cell?_putLines]
    -- A cell in one of its rows but not in the rectangle is beside the room.
    have hsame : ∀ c, (if (a.intersection s.area).x ≤ x ∧ (a.intersection s.area).y ≤ y ∧
        y < (a.intersection s.area).bottom then
        Line.drawn align (a.intersection s.area).width lines[y - (a.intersection s.area).y]?
          (x - (a.intersection s.area).x) c else c) = c := by
      intro c
      split
      · next hrow =>
        apply Line.drawn_of_room_le
        simp only [Area.Has, Area.intersection, Area.bottom, Area.right, area] at *
        omega
      · rfl
    simp only [hsame, Option.map_id']

/-! ### What a rectangle shows -/

/-- Every cell of the rectangle is on the screen. -/
def Covers (s : Screen) (a : Area) : Prop :=
  ∀ x y, a.Has x y → (s.cell? x y).isSome = true

/-- In `t` the rows of the rectangle show the lines, the first row the first line and
so on, on what `s` shows there; rows for which there is no line are as in `s`. -/
def Shows (s t : Screen) (a : Area) (lines : List Line) : Prop :=
  ∀ j k, j < a.width → k < a.height → ∃ c, s.cell? (a.x + j) (a.y + k) = some c ∧
    t.cell? (a.x + j) (a.y + k) = some (Line.drawn .left a.width lines[k]? j c)

theorem Covers.spans (h : s.Covers a) (ha : a.isEmpty = false) : s.Spans a := by
  obtain ⟨hwidth, hheight⟩ := a.isEmpty_eq_false_iff.mp ha
  have hlast : a.Has (a.x + a.width - 1) (a.y + a.height - 1) := by
    simp only [Area.Has]
    omega
  have hcell := h _ _ hlast
  rw [cell?] at hcell
  split at hcell
  · next hon => exact ⟨by omega, by omega⟩
  · cases hcell

theorem Covers.shrink (h : s.Covers a) : s.Covers a.shrink :=
  fun x y hin => h x y (Area.has_of_shrink hin)

theorem Covers.spans_of_shrink (h : s.Covers a) (hinner : a.shrink.isEmpty = false) :
    s.Spans a := by
  obtain ⟨hwidth, hheight⟩ := a.shrink.isEmpty_eq_false_iff.mp hinner
  refine h.spans (a.isEmpty_eq_false_iff.mpr ?_)
  simp only [Area.shrink] at hwidth hheight
  omega

theorem shows_paragraph (h : s.Covers a) (lines : List Line) :
    s.Shows (s.paragraph a .left lines) a lines := by
  intro j k hj hk
  have ha : a.isEmpty = false := a.isEmpty_eq_false_iff.mpr ⟨by omega, by omega⟩
  obtain ⟨c, hc⟩ := Option.isSome_iff_exists.mp (h _ _ (Area.has_add hj hk))
  refine ⟨c, hc, ?_⟩
  have hrow : a.x ≤ a.x + j ∧ a.y ≤ a.y + k ∧ a.y + k < a.bottom := by
    rw [Area.bottom]
    omega
  rw [paragraph, (h.spans ha).intersection_eq, ha, if_neg Bool.false_ne_true, cell?_putLines, hc]
  simp only [Option.map_some, if_pos hrow, Nat.add_sub_cancel_left]

/-- Drawing elsewhere does not hide it. -/
theorem Shows.over (h : s.Shows t a lines) (hu : SameBut P t u)
    (hout : ∀ x y, a.Has x y → ¬ P x y) : s.Shows u a lines := by
  intro j k hj hk
  obtain ⟨c, hs, ht⟩ := h j k hj hk
  refine ⟨c, hs, ?_⟩
  rw [hu.cell?_eq _ _ (hout _ _ (Area.has_add hj hk)), ht]

/-- Nor does what was drawn elsewhere before. -/
theorem Shows.under (h : s.Shows t a lines) (hr : SameBut P r s)
    (hout : ∀ x y, a.Has x y → ¬ P x y) : r.Shows t a lines := by
  intro j k hj hk
  obtain ⟨c, hs, ht⟩ := h j k hj hk
  refine ⟨c, ?_, ht⟩
  rw [← hr.cell?_eq _ _ (hout _ _ (Area.has_add hj hk)), hs]

/-- The rows of the lines that two screens have in common look the same. -/
theorem Shows.cell?_eq_of_prefix {more : List Line} (h : s.Shows t a lines)
    (h' : s.Shows u a more) (hmore : lines <+: more) {j k : Nat} (hj : j < a.width)
    (hk : k < lines.length) (hroom : k < a.height) :
    u.cell? (a.x + j) (a.y + k) = t.cell? (a.x + j) (a.y + k) := by
  obtain ⟨c, hs, ht⟩ := h j k hj hroom
  obtain ⟨c', hs', hu⟩ := h' j k hj hroom
  obtain rfl : c = c' := Option.some.inj (hs.symm.trans hs')
  have hline : more[k]? = lines[k]? := by
    obtain ⟨rest, rfl⟩ := hmore
    exact List.getElem?_append_left hk
  rw [ht, hu, hline]

theorem SameBut.covers (h : SameBut P s t) (hs : s.Covers a) (hout : ∀ x y, a.Has x y → ¬ P x y) :
    t.Covers a := by
  intro x y hin
  rw [h.cell?_eq x y (hout x y hin)]
  exact hs x y hin

end Screen

end Provision
