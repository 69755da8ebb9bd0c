/-
How many columns a text is measured as, and in how many it is shown.

A character adds three columns at most, so a text cannot be wider than three times its
length (`width_le`), whatever the tables say.  Plain characters need no tables: each adds
one column, whatever follows (`readBack_append_of_plain`).

A text is shown cluster by cluster, in `columns` together.  Characters that are `IsSingle`
are clusters of their own, so such a text is shown in as many columns as it has characters
(`columns_of_single`).  A plain text is measured as just as many (`columns_of_plain`), but
others are measured as fewer: the letters lam and alef are single, and both of them
together add one column (`readBack_lamAlef`).
-/
import Provision.Proofs.Text.CodeSet
import Provision.Screen.Span

namespace Provision

namespace Text

variable {c : Char} {cs : List Char} {a : After} {text : String}

/-! ### Bounds -/

theorem charWidth_le (c : Char) : charWidth c ≤ 3 := by
  rw [charWidth]
  repeat' split
  all_goals omega

theorem ite_fst_le {p : Prop} [Decidable p] {x y : Int × Next} (hx : x.1 ≤ 3) (hy : y.1 ≤ 3) :
    (if p then x else y).1 ≤ 3 := by
  split
  · exact hx
  · exact hy

theorem alone_le (c : Char) : (alone c).1 ≤ 3 := by
  have hwidth : (charWidth c : Int) ≤ 3 := Int.ofNat_le.mpr (charWidth_le c)
  rw [alone]
  repeat refine ite_fst_le (by simp) ?_
  exact hwidth

theorem le_of_joiner? {x : Int × Next} (h : joiner? c = some x) : x.1 ≤ 3 := by
  rw [joiner?] at h
  split at h <;> cases h
  decide

theorem Bond.le_of_before? {b : Bond} {x : Int × Next} (h : b.before? c = some x) : x.1 ≤ 3 := by
  cases b <;> simp only [Bond.before?] at h <;> (repeat' split at h) <;>
    first
    | exact le_of_joiner? h
    | cases h <;> simp

theorem Ending.le_of_before? {e : Ending} {x : Int × Next} (h : e.before? c = some x) :
    x.1 ≤ 3 := by
  simp only [Ending.before?.eq_def] at h
  repeat' split at h
  all_goals cases h <;> simp

theorem Next.le_of_before? {n : Next} {x : Int × Next} (h : n.before? c = some x) : x.1 ≤ 3 := by
  cases n with
  | other | lineFeed => cases h
  | emoji => exact le_of_joiner? h
  | joined b => exact Bond.le_of_before? h
  | ligature e => exact Ending.le_of_before? h
  | skinTone | flagLetter | flagLetters =>
    simp only [Next.before?] at h
    split at h
    · cases h
      decide
    · first
      | exact le_of_joiner? h
      | cases h

theorem step_le (c : Char) (a : After) : (step c a).1 ≤ 3 := by
  have hadded : ((a.spend.next.before? c).getD (alone c)).1 ≤ 3 := by
    rcases hbefore : a.spend.next.before? c with - | x
    · exact alone_le c
    · exact Next.le_of_before? hbefore
  rw [step]
  dsimp only
  repeat' split
  all_goals first
    | exact hadded
    | simp

theorem readBack_cons (c : Char) (cs : List Char) :
    readBack (c :: cs) =
      ((step c (readBack cs).2).1 + (readBack cs).1, (step c (readBack cs).2).2) :=
  rfl

theorem widthOf_singleton (c : Char) : widthOf [c] = (step c {}).1.toNat := by
  show ((step c {}).1 + 0).toNat = _
  rw [Int.add_zero]

theorem readBack_le (cs : List Char) : (readBack cs).1 ≤ 3 * cs.length := by
  induction cs with
  | nil => exact Int.le_refl 0
  | cons c cs ih =>
    have hstep := step_le c (readBack cs).2
    rw [readBack_cons, List.length_cons]
    omega

theorem width_le (text : String) : width text ≤ 3 * text.toList.length := by
  have hread := readBack_le text.toList
  rw [width, widthOf]
  omega

/-! ### Plain text -/

/-- A character that is printed as it is, in one column. -/
def IsPlain (c : Char) : Prop :=
  0x20 ≤ c.toNat ∧ c.toNat ≤ 0x7E

instance (c : Char) : Decidable (IsPlain c) :=
  inferInstanceAs (Decidable (_ ∧ _))

/-- A plain character adds one column, whatever follows but for the selector that makes
an emoji of a digit. -/
theorem step_of_plain (h : IsPlain c) (ha : a.selector ≠ some .emoji) : step c a = (1, {}) := by
  obtain ⟨hlow, hhigh⟩ := h
  have hfeed : c ≠ '\n' ∧ c ≠ '\r' := by
    constructor <;>
    · rintro rfl
      exact absurd hlow (by decide)
  rw [step, if_neg fun hemoji => ha hemoji.1]
  dsimp only
  rw [if_neg hfeed.1, if_neg fun hreturn => hfeed.2 hreturn.1, if_pos (by omega)]

theorem readBack_append_of_plain (h : ∀ c ∈ cs, IsPlain c) (ds : List Char)
    (hds : (readBack ds).2.selector ≠ some .emoji) :
    (readBack (cs ++ ds)).1 = cs.length + (readBack ds).1 ∧
      (readBack (cs ++ ds)).2.selector ≠ some .emoji := by
  induction cs with
  | nil => exact ⟨(Int.zero_add _).symm, hds⟩
  | cons c cs ih =>
    obtain ⟨hc, hcs⟩ := List.forall_mem_cons.mp h
    obtain ⟨hcolumns, hselector⟩ := ih hcs
    rw [List.cons_append, readBack_cons, step_of_plain hc hselector, hcolumns, List.length_cons]
    refine ⟨?_, nofun⟩
    omega

theorem width_of_plain (h : ∀ c ∈ text.toList, IsPlain c) : width text = text.toList.length := by
  have hread := (readBack_append_of_plain h [] nofun).1
  rw [List.append_nil] at hread
  rw [width, widthOf, hread]
  exact Int.toNat_natCast _

theorem class_of_plain (h : IsPlain c) : BreakClass.of c = .other := by
  obtain ⟨hlow, hhigh⟩ := h
  rw [BreakClass.of, if_neg (by omega), if_neg (by omega), if_pos ⟨hlow, hhigh⟩]

/-! ### Clusters -/

/-- No character is lost. -/
theorem flatten_clusters (cs : List Char) : (clusters cs).flatten = cs := by
  have hafter : ∀ (cs cluster : List Char) (k : Context),
      (clustersAfter cluster k cs).flatten = cluster.reverse ++ cs := by
    intro cs
    induction cs with
    | nil => simp [clustersAfter]
    | cons c cs ih =>
      intro cluster k
      rw [clustersAfter]
      split
      · simp [ih]
      · simp [ih]
  cases cs with
  | nil => rfl
  | cons c cs => simp [clusters, hafter]

/-- A cluster that is shown is a piece of the text. -/
theorem mem_of_mem_printable {cluster : List Char × Nat} (h : cluster ∈ printable text)
    (hc : c ∈ cluster.1) : c ∈ text.toList := by
  simp only [printable, List.mem_map, List.mem_filter] at h
  obtain ⟨piece, ⟨hpiece, -⟩, rfl⟩ := h
  rw [← flatten_clusters text.toList]
  exact List.mem_flatten.mpr ⟨piece, hpiece, hc⟩

/-- No rule joins characters without a class. -/
theorem clusters_of_other (h : ∀ c ∈ cs, BreakClass.of c = .other) :
    clusters cs = cs.map fun c => [c] := by
  have hafter : ∀ (cs : List Char) (c : Char), BreakClass.of c = .other →
      (∀ d ∈ cs, BreakClass.of d = .other) →
      clustersAfter [c] (.start c) cs = (c :: cs).map fun c => [c] := by
    intro cs
    induction cs with
    | nil => simp [clustersAfter]
    | cons d cs ih =>
      intro c hc hcs
      obtain ⟨hd, hcs⟩ := List.forall_mem_cons.mp hcs
      have hjoins : (Context.start c).joins d = false := by
        simp [Context.joins, Context.start, hc, hd]
      rw [clustersAfter, hjoins, if_neg Bool.false_ne_true, ih d hd hcs]
      rfl
  cases cs with
  | nil => rfl
  | cons c cs =>
    obtain ⟨hc, hcs⟩ := List.forall_mem_cons.mp h
    exact hafter cs c hc hcs

/-- A character that is shown as a cluster of its own, in one column. -/
structure IsSingle (c : Char) : Prop where
  class_eq : BreakClass.of c = .other
  width_eq : widthOf [c] = 1
  isControl_eq : isControl c = false

theorem isSingle_of_plain (h : IsPlain c) : IsSingle c where
  class_eq := class_of_plain h
  width_eq := by
    rw [widthOf_singleton, step_of_plain h (by nofun)]
    rfl
  isControl_eq := by
    obtain ⟨hlow, hhigh⟩ := h
    simp only [isControl, Bool.or_eq_false_iff, Bool.and_eq_false_iff, decide_eq_false_iff_not]
    omega

theorem printable_of_single (h : ∀ c ∈ text.toList, IsSingle c) :
    printable text = text.toList.map fun c => ([c], 1) := by
  have hshown : ((text.toList.map fun c => [c]).filter fun cluster => !cluster.any isControl) =
      text.toList.map fun c => [c] := by
    refine List.filter_eq_self.mpr fun cluster hmem => ?_
    obtain ⟨c, hc, rfl⟩ := List.mem_map.mp hmem
    simp [(h c hc).isControl_eq]
  rw [printable, clusters_of_other fun c hc => (h c hc).class_eq, hshown,
    List.map_map]
  refine List.map_congr_left fun c hc => ?_
  simp [(h c hc).width_eq]

/-- The columns in which a text is shown, one cluster after the other. -/
def columns (text : String) : Nat :=
  (printable text).foldr (fun cluster w => cluster.2 + w) 0

theorem columns_of_single (h : ∀ c ∈ text.toList, IsSingle c) :
    columns text = text.toList.length := by
  rw [columns, printable_of_single h, List.foldr_map]
  generalize text.toList = cs
  induction cs with
  | nil => rfl
  | cons c cs ih => rw [List.foldr_cons, ih, List.length_cons, Nat.add_comm]

/-- Plain text is shown in the columns that it is measured as. -/
theorem columns_of_plain (h : ∀ c ∈ text.toList, IsPlain c) : columns text = width text := by
  rw [columns_of_single fun c hc => isSingle_of_plain (h c hc), width_of_plain h]

/-- So is a single character, unless it is not shown at all. -/
theorem columns_le_of_toList_eq_singleton (h : text.toList = [c]) : columns text ≤ width text := by
  have hclusters : clusters text.toList = [[c]] := by
    rw [h]
    rfl
  rw [columns, printable, hclusters, width, h, List.filter_cons]
  split
  · exact Nat.le_trans (Nat.le_of_eq (Nat.add_zero _)) (Nat.mod_le _ _)
  · exact Nat.zero_le _

/-! ### Arrows and letters -/

/-- The arrows up and down, and the Arabic letter lam. -/
def signs : List Char :=
  ['↑', '↓', '\u0644']

/-- These, and the letter alef. -/
def signsAndAlef : List Char :=
  '\u0627' :: signs

set_option maxRecDepth 20000 in
theorem class_of_signs : ∀ c ∈ signsAndAlef, BreakClass.of c = .other := by
  have hcontrol : ∀ c ∈ signsAndAlef, Table.control.contains c = false :=
    CodeSet.contains_ofText_eq_false (by decide +kernel)
  have hextend : ∀ c ∈ signsAndAlef, Table.graphemeExtend.contains c = false :=
    CodeSet.contains_ofText_eq_false (by decide +kernel)
  have hmodifier : ∀ c ∈ signsAndAlef, Table.emojiModifier.contains c = false :=
    CodeSet.contains_ofText_eq_false (by decide +kernel)
  have hprepend : ∀ c ∈ signsAndAlef, Table.prepend.contains c = false :=
    CodeSet.contains_ofText_eq_false (by decide +kernel)
  have hspacing : ∀ c ∈ signsAndAlef, Table.spacingMark.contains c = false :=
    CodeSet.contains_ofText_eq_false (by decide +kernel)
  intro c hc
  simp only [BreakClass.of, hcontrol c hc, hextend c hc, hmodifier c hc, hprepend c hc,
    hspacing c hc]
  simp only [signsAndAlef, signs, List.mem_cons, List.not_mem_nil, or_false] at hc
  rcases hc with rfl | rfl | rfl | rfl <;> rfl

set_option maxRecDepth 20000 in
theorem alone_of_signs : ∀ c ∈ signs, alone c = (1, .other) := by
  have halef : ∀ c ∈ signs, Table.alef.contains c = false :=
    CodeSet.contains_ofText_eq_false (by decide +kernel)
  have hcoeng : ∀ c ∈ signs, Table.coengLetter.contains c = false :=
    CodeSet.contains_ofText_eq_false (by decide +kernel)
  have htifinagh : ∀ c ∈ signs, Table.tifinagh.contains c = false :=
    CodeSet.contains_ofText_eq_false (by decide +kernel)
  have hmodifier : ∀ c ∈ signs, Table.emojiModifier.contains c = false :=
    CodeSet.contains_ofText_eq_false (by decide +kernel)
  have hemoji : ∀ c ∈ signs, Table.emojiStyle.contains c = false :=
    CodeSet.contains_ofText_eq_false (by decide +kernel)
  have hzero : ∀ c ∈ signs, Table.zeroWidth.contains c = false :=
    CodeSet.contains_ofText_eq_false (by decide +kernel)
  have hwide : ∀ c ∈ signs, Table.wide.contains c = false :=
    CodeSet.contains_ofText_eq_false (by decide +kernel)
  intro c hc
  simp only [alone, charWidth, halef c hc, hcoeng c hc, htifinagh c hc, hmodifier c hc,
    hemoji c hc, hzero c hc, hwide c hc]
  simp only [signs, List.mem_cons, List.not_mem_nil, or_false] at hc
  rcases hc with rfl | rfl | rfl <;> rfl

theorem alone_alef : alone '\u0627' = (1, .ligature .alef) := by
  have halef : Table.alef.contains '\u0627' = true := by decide +kernel
  rw [alone, if_pos halef]

theorem step_of_alone (hlatin : 0xA0 < c.toNat) (hselector : c ≠ '\uFE0F' ∧ c ≠ '\uFE0E') :
    step c {} = ((alone c).1, { next := (alone c).2 }) := by
  have hfeed : c ≠ '\n' ∧ c ≠ '\r' := by
    constructor <;>
    · rintro rfl
      exact absurd hlatin (by decide)
  simp [step, After.spend, Next.before?, hfeed, hselector, Nat.not_le.mpr hlatin]

theorem step_of_signs (h : c ∈ signs) : step c {} = (1, {}) := by
  have hsign : ∀ c ∈ signs, 0xA0 < c.toNat ∧ c ≠ '\uFE0F' ∧ c ≠ '\uFE0E' := by simp [signs]
  obtain ⟨hlatin, hselector⟩ := hsign c h
  rw [step_of_alone hlatin hselector, alone_of_signs c h]

theorem step_alef : step '\u0627' {} = (1, { next := .ligature .alef }) := by
  rw [step_of_alone (by decide) (by decide), alone_alef]

/-- Before alef, the letter lam adds nothing. -/
theorem step_lam : step '\u0644' { next := .ligature .alef } = (0, {}) := by
  have hlam : Table.lam.contains '\u0644' = true := by decide +kernel
  simp [step, After.spend, Next.before?, Ending.before?, hlam]

theorem isSingle_of_signs : ∀ c ∈ signsAndAlef, IsSingle c := by
  have hcontrol : ∀ c ∈ signsAndAlef, isControl c = false := by
    simp [signsAndAlef, signs, isControl]
  have hwidth : ∀ c ∈ signsAndAlef, widthOf [c] = 1 := by
    intro c hc
    rcases List.mem_cons.mp hc with rfl | hc
    · rw [widthOf_singleton, step_alef]
      rfl
    · rw [widthOf_singleton, step_of_signs hc]
      rfl
  exact fun c hc => ⟨class_of_signs c hc, hwidth c hc, hcontrol c hc⟩

theorem width_of_signs (h : ∀ c ∈ text.toList, c ∈ signs) : width text = text.toList.length := by
  have hread : ∀ cs : List Char, (∀ c ∈ cs, c ∈ signs) → readBack cs = ((cs.length : Int), {}) := by
    intro cs hcs
    induction cs with
    | nil => rfl
    | cons c cs ih =>
      obtain ⟨hc, hcs⟩ := List.forall_mem_cons.mp hcs
      rw [readBack_cons, ih hcs, step_of_signs hc, List.length_cons, Int.natCast_succ, Int.add_comm]
  rw [width, widthOf, hread _ h]
  exact Int.toNat_natCast _

/-- The letters lam and alef, `n` times. -/
def lamAlef (n : Nat) : List Char :=
  (List.replicate n ['\u0644', '\u0627']).flatten

theorem length_lamAlef (n : Nat) : (lamAlef n).length = 2 * n := by
  simp [lamAlef, Nat.mul_comm]

theorem mem_of_mem_lamAlef {n : Nat} (h : c ∈ lamAlef n) : c ∈ signsAndAlef := by
  obtain ⟨pair, hpair, hc⟩ := List.mem_flatten.mp h
  rw [List.eq_of_mem_replicate hpair] at hc
  have hletters : ∀ c ∈ ['\u0644', '\u0627'], c ∈ signsAndAlef := by simp [signsAndAlef, signs]
  exact hletters c hc

/-- They are measured as `n` columns. -/
theorem readBack_lamAlef (n : Nat) : readBack (lamAlef n) = ((n : Int), {}) := by
  induction n with
  | zero => rfl
  | succ n ih =>
    have hpair : lamAlef (n + 1) = '\u0644' :: '\u0627' :: lamAlef n := by
      rw [lamAlef, List.replicate_succ, List.flatten_cons]
      rfl
    rw [hpair, readBack_cons, readBack_cons, ih, step_alef, step_lam, Int.natCast_succ,
      Int.zero_add, Int.add_comm]

end Text

end Provision
