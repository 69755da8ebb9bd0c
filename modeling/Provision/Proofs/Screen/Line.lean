/-
Lines, cell by cell.

A line that is written into a row is cut where it does not fit any more
(`Line.cut`), and `Line.inked` says what becomes of each cell of the row: a
cluster is seen in the cell in which it begins, and the other cells that it covers are
emptied.  So a line stays within its own columns (`sameBut_writeLine_columns`), it can be
read where it was written if there is room for all of it (`reads_writeLine`), and it
brings no cells to the screen but its own (`Every.writeLine`).

Main result: `cell?_writeLine`.
-/
import Provision.Proofs.Screen.Paragraph
import Provision.Proofs.Text.Columns

namespace Provision

/-! ### What is written of a line -/

namespace Line

variable {room j : Nat} {c : Cell} {P : Cell → Prop}
  {clusters more : List (List Char × Nat × Style)}

theorem columns_append (clusters more : List (List Char × Nat × Style)) :
    columns (clusters ++ more) = columns clusters + columns more := by
  induction clusters with
  | nil => exact (Nat.zero_add _).symm
  | cons head rest ih =>
    show head.2.1 + columns (rest ++ more) = head.2.1 + columns rest + columns more
    rw [ih, Nat.add_assoc]

theorem columns_le_of_sublist (h : List.Sublist clusters more) : columns clusters ≤ columns more := by
  induction h with
  | slnil => exact Nat.le_refl 0
  | cons head _ ih => exact Nat.le_trans ih (Nat.le_add_left _ _)
  | cons_cons head _ ih => exact Nat.add_le_add_left ih _

/-- The clusters of a text in one style. -/
def styled (style : Style) (clusters : List (List Char × Nat)) :
    List (List Char × Nat × Style) :=
  clusters.map fun (cluster, w) => (cluster, w, style)

theorem width_le (line : Line) :
    line.width ≤ 3 * (line.flatMap fun span => span.text.toList).length := by
  induction line with
  | nil => exact Nat.le_refl 0
  | cons span rest ih =>
    have hspan := Text.width_le span.text
    have hwidth : width (span :: rest) = Text.width span.text + width rest := rfl
    rw [hwidth, List.flatMap_cons, List.length_append]
    omega

theorem columns_styled (style : Style) (text : String) :
    columns (styled style (Text.printable text)) = Text.columns text := by
  rw [Text.columns]
  induction Text.printable text with
  | nil => rfl
  | cons cluster rest ih =>
    show cluster.2 + columns (styled style rest) = _
    rw [ih, List.foldr_cons]

/-- A line is shown in the columns of its texts. -/
theorem columns_printable (line : Line) :
    columns line.printable = line.foldr (fun span w => Text.columns span.text + w) 0 := by
  induction line with
  | nil => rfl
  | cons span rest ih =>
    calc columns (Line.printable (span :: rest))
        = columns (styled span.style (Text.printable span.text)) + columns (printable rest) :=
          columns_append _ _
      _ = Text.columns span.text + rest.foldr (fun span w => Text.columns span.text + w) 0 := by
          rw [columns_styled, ih]

/-- If none of its texts is shown in more columns than it is measured as, nor is the line. -/
theorem columns_printable_le {line : Line}
    (h : ∀ span ∈ line, Text.columns span.text ≤ Text.width span.text) :
    columns line.printable ≤ line.width := by
  rw [columns_printable]
  induction line with
  | nil => exact Nat.le_refl 0
  | cons span rest ih =>
    obtain ⟨hspan, hrest⟩ := List.forall_mem_cons.mp h
    exact Nat.add_le_add hspan (ih hrest)

/-- The clusters up to the first one for which there is no room. -/
def upTo (room : Nat) : List (List Char × Nat × Style) → List (List Char × Nat × Style)
  | [] => []
  | (cluster, w, style) :: rest =>
    if room < w then [] else (cluster, w, style) :: upTo (room - w) rest

theorem columns_upTo_le (room : Nat) (clusters : List (List Char × Nat × Style)) :
    columns (upTo room clusters) ≤ room := by
  fun_induction upTo room clusters with
  | case1 | case2 => exact Nat.zero_le _
  | case3 room cluster w style rest hroom ih =>
    show w + columns (upTo (room - w) rest) ≤ room
    omega

theorem upTo_sublist (room : Nat) (clusters : List (List Char × Nat × Style)) :
    List.Sublist (upTo room clusters) clusters := by
  fun_induction upTo room clusters with
  | case1 => exact .slnil
  | case2 => exact List.nil_sublist _
  | case3 room cluster w style rest hroom ih => exact ih.cons_cons _

theorem upTo_of_columns_le (h : columns clusters ≤ room) : upTo room clusters = clusters := by
  fun_induction upTo room clusters with
  | case1 => rfl
  | case2 room cluster w style rest hroom =>
    have hcolumns : w + columns rest ≤ room := h
    omega
  | case3 room cluster w style rest hroom ih =>
    have hcolumns : w + columns rest ≤ room := h
    rw [ih (by omega)]

/-- What is written of a line into `room` columns: each text is cut where it does not
fit any more. -/
def cut (room : Nat) : Line → List (List Char × Nat × Style)
  | [] => []
  | span :: rest =>
    let clusters := upTo room (styled span.style (Text.printable span.text))
    clusters ++ cut (room - columns clusters) rest

theorem cut_sublist (room : Nat) (line : Line) : List.Sublist (cut room line) line.printable := by
  induction line generalizing room with
  | nil => exact .slnil
  | cons span rest ih => exact (upTo_sublist _ _).append (ih _)

theorem cut_of_columns_le {line : Line} (h : columns line.printable ≤ room) :
    cut room line = line.printable := by
  induction line generalizing room with
  | nil => rfl
  | cons span rest ih =>
    have hcolumns : columns (styled span.style (Text.printable span.text)) +
        columns (printable rest) ≤ room := by
      rw [← columns_append]
      exact h
    rw [cut, upTo_of_columns_le (by omega), ih (by omega)]
    rfl

/-! ### What becomes of a cell -/

/-- What becomes of the cell in column `j` when clusters are written from column 0 on. -/
def inked : List (List Char × Nat × Style) → Nat → Cell → Cell
  | [], _, c => c
  | (cluster, w, style) :: rest, j, c =>
    if w ≤ j then inked rest (j - w) c
    else if j = 0 then c.put cluster style else {}

theorem inked_of_columns_le (clusters : List (List Char × Nat × Style))
    (h : columns clusters ≤ j) : inked clusters j c = c := by
  induction clusters generalizing j with
  | nil => rfl
  | cons head rest ih =>
    obtain ⟨cluster, w, style⟩ := head
    have hcolumns : w + columns rest ≤ j := h
    rw [inked, if_pos (Nat.le_of_add_right_le hcolumns)]
    exact ih (by omega)

theorem inked_append (clusters more : List (List Char × Nat × Style)) (j : Nat) (c : Cell) :
    inked (clusters ++ more) j c =
      if columns clusters ≤ j then inked more (j - columns clusters) c
      else inked clusters j c := by
  induction clusters generalizing j with
  | nil => exact (if_pos (Nat.zero_le j)).symm
  | cons head rest ih =>
    obtain ⟨cluster, w, style⟩ := head
    have hcolumns : columns ((cluster, w, style) :: rest) = w + columns rest := rfl
    rw [List.cons_append, inked, inked, ih, hcolumns]
    grind

theorem put_put (c : Cell) (cluster : List Char) (style : Style) :
    (c.put cluster style).put cluster style = c.put cluster style := by
  obtain ⟨foreground, background, bold⟩ := style
  cases foreground <;> cases background <;> simp [Cell.put, Cell.restyle]

/-- Writing the same clusters once more changes nothing. -/
theorem inked_inked (clusters : List (List Char × Nat × Style)) (h : j < columns clusters) :
    inked clusters j (inked clusters j c) = inked clusters j c := by
  induction clusters generalizing j with
  | nil => exact absurd h (Nat.not_lt_zero j)
  | cons head rest ih =>
    obtain ⟨cluster, w, style⟩ := head
    have hcolumns : j < w + columns rest := h
    simp only [inked]
    split
    · exact ih (by omega)
    · split
      · exact put_put c cluster style
      · rfl

/-- What all clusters leave behind, and an empty cell and the one before have too, the
written cells have. -/
theorem inked_induction (hc : P c) (hempty : P {})
    (hput : ∀ cluster ∈ clusters, ∀ c : Cell, P (c.put cluster.1 cluster.2.2)) :
    P (inked clusters j c) := by
  induction clusters generalizing j with
  | nil => exact hc
  | cons head rest ih =>
    obtain ⟨hhead, hrest⟩ := List.forall_mem_cons.mp hput
    rw [inked]
    split
    · exact ih hrest
    · split
      · exact hhead c
      · exact hempty

end Line

/-! ### Writing -/

namespace Screen

variable {s t : Screen} {P : Cell → Prop} {x y x' y' room : Nat} {line : Line}
  {clusters : List (List Char × Nat × Style)}

theorem cell?_clearCells (s : Screen) (x y count x' y' : Nat) :
    (s.clearCells x y count).cell? x' y' =
      (s.cell? x' y').map fun c =>
        if x ≤ x' ∧ x' < x + count ∧ y' = y then {} else c := by
  induction count generalizing s x with
  | zero =>
    have hout : ¬ (x ≤ x' ∧ x' < x + 0 ∧ y' = y) := by omega
    simp only [if_neg hout, Option.map_id']
    rfl
  | succ count ih =>
    rw [clearCells, ih, cell?_modify, Option.map_map]
    congr 1
    funext c
    simp only [Function.comp]
    grind

/-- Clusters are written up to the first one that does not fit. -/
theorem cell?_writeClusters (s : Screen) (x y room : Nat) (style : Style)
    (clusters : List (List Char × Nat)) (x' y' : Nat) :
    (s.writeClusters x y room style clusters).1.cell? x' y' =
      ((s.cell? x' y').map fun c => if x ≤ x' ∧ y' = y then
        Line.inked (Line.upTo room (Line.styled style clusters)) (x' - x) c else c) ∧
    (s.writeClusters x y room style clusters).2 =
      x + Line.columns (Line.upTo room (Line.styled style clusters)) := by
  induction clusters generalizing s x room with
  | nil =>
    refine ⟨?_, rfl⟩
    simp only [Line.styled, List.map_nil, Line.upTo, Line.inked, ite_self, Option.map_id']
    rfl
  | cons head rest ih =>
    obtain ⟨cluster, w⟩ := head
    rw [writeClusters]
    have hstyled : Line.styled style ((cluster, w) :: rest) =
        (cluster, w, style) :: Line.styled style rest := rfl
    rw [hstyled, Line.upTo]
    by_cases hroom : room < w
    · rw [if_pos hroom, if_pos hroom]
      refine ⟨?_, rfl⟩
      simp only [Line.inked, ite_self, Option.map_id']
    · rw [if_neg hroom, if_neg hroom]
      have hcolumns : Line.columns ((cluster, w, style) ::
          Line.upTo (room - w) (Line.styled style rest)) =
          w + Line.columns (Line.upTo (room - w) (Line.styled style rest)) := rfl
      rw [hcolumns, ← Nat.add_assoc]
      by_cases hw : w = 0
      · subst hw
        simpa only [if_true, Line.inked, Nat.zero_le, Nat.sub_zero, Nat.add_zero] using
          ih s x room
      · rw [if_neg hw]
        dsimp only
        obtain ⟨hcell, hnext⟩ :=
          ih ((s.modify x y (·.put cluster style)).clearCells (x + 1) y (w - 1)) (x + w) (room - w)
        refine ⟨?_, hnext⟩
        rw [hcell, cell?_clearCells, cell?_modify, Option.map_map, Option.map_map]
        -- A cell left of the cluster, in its first column, covered by it, or right of it.
        congr 1
        funext c
        simp only [Function.comp, Line.inked, Nat.sub_sub]
        grind

theorem cell?_writeLine (s : Screen) (x y room : Nat) (line : Line) (x' y' : Nat) :
    (s.writeLine x y room line).cell? x' y' =
      (s.cell? x' y').map fun c => if x ≤ x' ∧ y' = y then
        Line.inked (line.cut (min room (s.width - x))) (x' - x) c else c := by
  induction line generalizing s x room with
  | nil =>
    simp only [Line.cut, Line.inked, ite_self, Option.map_id']
    rfl
  | cons span rest ih =>
    have hsizes := s.sameBut_writeClusters x y (min room (s.width - x)) span.style
      (Text.printable span.text)
    obtain ⟨hcell, hnext⟩ := s.cell?_writeClusters x y (min room (s.width - x)) span.style
      (Text.printable span.text) x' y'
    have hfits := Line.columns_upTo_le (min room (s.width - x))
      (Line.styled span.style (Text.printable span.text))
    rw [writeLine]
    dsimp only
    rw [ih, hcell, hnext, hsizes.1.width, Option.map_map, Line.cut]
    generalize Line.upTo (min room (s.width - x))
      (Line.styled span.style (Text.printable span.text)) = clusters at hfits ⊢
    -- What the first text leaves of the room is what the rest is written into.
    have hrest : min (room - (x + Line.columns clusters - x))
        (s.width - (x + Line.columns clusters)) =
        min room (s.width - x) - Line.columns clusters := by omega
    rw [hrest]
    congr 1
    funext c
    simp only [Function.comp, Line.inked_append, Nat.sub_sub]
    by_cases hrow : x ≤ x' ∧ y' = y
    · by_cases hafter : Line.columns clusters ≤ x' - x
      · rw [if_pos hrow, if_pos hrow, if_pos hafter, if_pos (by omega),
          Line.inked_of_columns_le clusters hafter]
      · rw [if_pos hrow, if_pos hrow, if_neg hafter, if_neg (by omega)]
    · rw [if_neg hrow, if_neg hrow, if_neg (by omega)]

theorem Covers.writeLine {a : Area} (h : s.Covers a) (x y room : Nat) (line : Line) :
    (s.writeLine x y room line).Covers a := by
  intro x' y' hin
  rw [cell?_writeLine, Option.isSome_map]
  exact h x' y' hin

/-- A line stays within its own columns. -/
theorem sameBut_writeLine_columns (s : Screen) (x y room : Nat) (line : Line) :
    SameBut (Area.mk x y (Line.columns line.printable) 1).Has s (s.writeLine x y room line) where
  width := (s.sameBut_writeLine x y room line).width
  height := (s.sameBut_writeLine x y room line).height
  cell?_eq x' y' hout := by
    rw [cell?_writeLine]
    have hcut := Line.columns_le_of_sublist (Line.cut_sublist (min room (s.width - x)) line)
    have hsame : ∀ c, (if x ≤ x' ∧ y' = y then
        Line.inked (line.cut (min room (s.width - x))) (x' - x) c else c) = c := by
      intro c
      split
      · apply Line.inked_of_columns_le
        simp only [Area.Has] at hout
        omega
      · rfl
    simp only [hsame, Option.map_id']

/-! ### Reading -/

/-- The row `y` shows the clusters from column `x` on: to write them there once more
would change nothing. -/
def Reads (s : Screen) (x y : Nat) (clusters : List (List Char × Nat × Style)) : Prop :=
  ∀ j < Line.columns clusters, ∃ c, s.cell? (x + j) y = some c ∧ Line.inked clusters j c = c

theorem reads_writeLine (hcovers : s.Covers ⟨x, y, Line.columns line.printable, 1⟩)
    (hroom : Line.columns line.printable ≤ min room (s.width - x)) :
    (s.writeLine x y room line).Reads x y line.printable := by
  intro j hj
  have hin : Area.Has ⟨x, y, Line.columns line.printable, 1⟩ (x + j) y := by
    simp only [Area.Has]
    omega
  obtain ⟨c, hc⟩ := Option.isSome_iff_exists.mp (hcovers _ _ hin)
  refine ⟨Line.inked line.printable j c, ?_, Line.inked_inked _ hj⟩
  rw [cell?_writeLine, hc, Line.cut_of_columns_le hroom, Option.map_some,
    if_pos ⟨Nat.le_add_right x j, rfl⟩, Nat.add_sub_cancel_left]

/-! ### Every cell -/

/-- Every cell of the screen has the property. -/
def Every (s : Screen) (P : Cell → Prop) : Prop :=
  ∀ x y c, s.cell? x y = some c → P c

theorem Every.map {f : Nat → Nat → Cell → Cell} (h : s.Every P)
    (hcell : ∀ x y, t.cell? x y = (s.cell? x y).map (f x y))
    (hf : ∀ x y c, P c → P (f x y c)) : t.Every P := by
  intro x y c hc
  rw [hcell] at hc
  obtain ⟨c', hc', rfl⟩ := Option.map_eq_some_iff.mp hc
  exact hf x y c' (h x y c' hc')

theorem Every.modify {f : Cell → Cell} (h : s.Every P) (x y : Nat) (hf : ∀ c, P c → P (f c)) :
    (s.modify x y f).Every P := by
  refine h.map (s.cell?_modify x y f) fun x' y' c hc => ?_
  split
  · exact hf c hc
  · exact hc

theorem Every.modifyArea {f : Cell → Cell} (h : s.Every P) (a : Area)
    (hf : ∀ c, P c → P (f c)) : (s.modifyArea a f).Every P := by
  refine h.map (s.cell?_modifyArea a f) fun x y c hc => ?_
  split
  · exact hf c hc
  · exact hc

theorem covers_blank (width height : Nat) : (blank width height).Covers ⟨0, 0, width, height⟩ := by
  intro x y hin
  have hon : x < width ∧ y < height := by
    simp only [Area.Has] at hin
    omega
  rw [cell?_blank, if_pos hon]
  rfl

theorem every_blank (width height : Nat) (h : P {}) : (blank width height).Every P := by
  intro x y c hc
  rw [cell?_blank] at hc
  split at hc
  · exact Option.some.inj hc ▸ h
  · cases hc

/-- A line brings no cells but its own. -/
theorem Every.writeLine (h : s.Every P) (x y room : Nat) (hempty : P {})
    (hput : ∀ cluster ∈ line.printable, ∀ c : Cell, P (c.put cluster.1 cluster.2.2)) :
    (s.writeLine x y room line).Every P := by
  refine h.map (s.cell?_writeLine x y room line) fun x' y' c hc => ?_
  split
  · exact Line.inked_induction hc hempty fun cluster hmem =>
      hput cluster ((Line.cut_sublist _ line).subset hmem)
  · exact hc

/-- A frame brings none but those of its sides and corners. -/
theorem Every.frame (h : s.Every P) (a : Area) (style : Style)
    (hput : ∀ symbol ∈ "│─╯╮╰╭".toList, ∀ c : Cell, P (c.put [symbol] style)) :
    (s.frame a style).Every P := by
  have hside : ∀ {t : Screen} (b : Area) (symbol : Char), symbol ∈ "│─╯╮╰╭".toList →
      t.Every P → (t.modifyArea b (·.put [symbol] style)).Every P :=
    fun b symbol hmem ht => ht.modifyArea b fun c _ => hput symbol hmem c
  have hcorner : ∀ {t : Screen} (x y : Nat) (symbol : Char), symbol ∈ "│─╯╮╰╭".toList →
      t.Every P → (t.putSymbol x y symbol style).Every P :=
    fun x y symbol hmem ht => ht.modify x y fun c _ => hput symbol hmem c
  rw [Screen.frame]
  dsimp only
  split
  · exact h
  · refine hcorner _ _ '╭' (by decide) (hcorner _ _ '╰' (by decide) (hcorner _ _ '╮' (by decide)
      (hcorner _ _ '╯' (by decide) (hside _ '─' (by decide) (hside _ '│' (by decide)
      (hside _ '─' (by decide) (hside _ '│' (by decide) h)))))))

end Screen

end Provision
