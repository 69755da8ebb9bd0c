/-
Paging through a log.

A page moves the view by at least one row and by at most its height, whatever its
height is.  So from one page to the next no row is left out, and pages enough come
to the end: after `k` pages down from the top the offset is `k` times the page, as
far as the content goes (`offset_pageDown_iterate`), and after `k` pages up from
the bottom it is that much before the end.

Main result: `paging_covers`.
-/
import Mathlib.Data.Nat.Find
import Mathlib.Logic.Function.Iterate
import Provision.Proofs.Log.Scroll

namespace Provision.LogView

variable {v : LogView}

/-! ### One page -/

theorem page_pos (v : LogView) : 0 < v.page :=
  Nat.lt_of_lt_of_le Nat.one_pos (Nat.le_max_right _ _)

theorem page_le_height (h : 0 < v.height) : v.page ≤ v.height :=
  Nat.max_le.mpr ⟨Nat.sub_le _ _, h⟩

/-- No row is left out by a page down: a row from the first one that was in sight to
the last one that is in sight now was in sight or is. -/
theorem pageDown_skips_none (h : 0 < v.height) {i : Nat} (hfrom : v.offset ≤ i)
    (hto : i < v.pageDown.offset + v.height) : v.InSight i ∨ v.pageDown.InSight i := by
  by_cases hbefore : i < v.offset + v.height
  · exact .inl ⟨hfrom, hbefore⟩
  · -- The page has not moved further than the height.
    refine .inr ⟨?_, hto⟩
    have hmoved : v.pageDown.offset ≤ v.offset + v.page := Nat.min_le_left _ _
    have hpage := page_le_height h
    omega

theorem pageUp_skips_none (h : 0 < v.height) {i : Nat} (hfrom : v.pageUp.offset ≤ i)
    (hto : i < v.offset + v.height) : v.InSight i ∨ v.pageUp.InSight i := by
  by_cases hafter : v.offset ≤ i
  · exact .inl ⟨hafter, hto⟩
  · refine .inr ⟨hfrom, ?_⟩
    show i < v.offset - v.page + v.height
    have hpage := page_le_height h
    omega

/-! ### Page after page -/

/-- Paging leaves the sizes alone. -/
theorem sizes_pageDown_iterate (v : LogView) (k : Nat) :
    (pageDown^[k] v).total = v.total ∧ (pageDown^[k] v).height = v.height := by
  induction k with
  | zero => exact ⟨rfl, rfl⟩
  | succ k ih =>
    rw [Function.iterate_succ_apply']
    exact ih

theorem sizes_pageUp_iterate (v : LogView) (k : Nat) :
    (pageUp^[k] v).total = v.total ∧ (pageUp^[k] v).height = v.height := by
  induction k with
  | zero => exact ⟨rfl, rfl⟩
  | succ k ih =>
    rw [Function.iterate_succ_apply']
    exact ih

theorem page_pageDown_iterate (v : LogView) (k : Nat) : (pageDown^[k] v).page = v.page := by
  rw [page, (v.sizes_pageDown_iterate k).2, page]

theorem page_pageUp_iterate (v : LogView) (k : Nat) : (pageUp^[k] v).page = v.page := by
  rw [page, (v.sizes_pageUp_iterate k).2, page]

theorem lastOffset_pageDown_iterate (v : LogView) (k : Nat) :
    (pageDown^[k] v).lastOffset = v.lastOffset := by
  rw [lastOffset, (v.sizes_pageDown_iterate k).1, (v.sizes_pageDown_iterate k).2, lastOffset]

/-- Where `k` pages down come to. -/
theorem offset_pageDown_iterate (h : v.offset ≤ v.lastOffset) (k : Nat) :
    (pageDown^[k] v).offset = min (v.offset + k * v.page) v.lastOffset := by
  induction k with
  | zero =>
    show v.offset = min (v.offset + 0 * v.page) v.lastOffset
    omega
  | succ k ih =>
    rw [Function.iterate_succ_apply']
    show min ((pageDown^[k] v).offset + (pageDown^[k] v).page) (pageDown^[k] v).lastOffset = _
    rw [ih, page_pageDown_iterate, lastOffset_pageDown_iterate, Nat.succ_mul]
    omega

/-- Where `k` pages up come to. -/
theorem offset_pageUp_iterate (v : LogView) (k : Nat) :
    (pageUp^[k] v).offset = v.offset - k * v.page := by
  induction k with
  | zero =>
    show v.offset = v.offset - 0 * v.page
    omega
  | succ k ih =>
    rw [Function.iterate_succ_apply']
    show (pageUp^[k] v).offset - (pageUp^[k] v).page = _
    rw [ih, page_pageUp_iterate, Nat.succ_mul]
    omega

/-- The last line is the number of lines at most the height after `lastOffset`. -/
theorem total_le (v : LogView) : v.total ≤ v.lastOffset + v.height := by
  show v.total ≤ v.total - v.height + v.height
  omega

/-- Every line is in sight after some of the pages down that lead to the end. -/
theorem pageDown_reaches (hheight : 0 < v.height) (hoffset : v.offset = 0) {n i : Nat}
    (hn : v.lastOffset ≤ n * v.page) (hi : i < v.total) :
    ∃ k ≤ n, (pageDown^[k] v).InSight i := by
  have hplace := offset_pageDown_iterate (v := v) (hoffset ▸ Nat.zero_le _)
  have hpage := page_le_height hheight
  have htotal := v.total_le
  rw [hoffset] at hplace
  -- The page that begins at the line or before it, unless the end is reached earlier.
  by_cases hlast : v.lastOffset ≤ i
  · refine ⟨n, Nat.le_refl _, ?_, ?_⟩
    · rw [hplace]
      omega
    · rw [hplace, (v.sizes_pageDown_iterate n).2]
      omega
  · have hbegin : i / v.page * v.page ≤ i := Nat.div_mul_le_self _ _
    have hend : i < i / v.page * v.page + v.page := Nat.lt_div_mul_add v.page_pos
    have hk : i / v.page ≤ n := by
      apply Nat.div_le_of_le_mul
      rw [Nat.mul_comm]
      omega
    refine ⟨i / v.page, hk, ?_, ?_⟩
    · rw [hplace]
      omega
    · rw [hplace, (v.sizes_pageDown_iterate _).2]
      omega

/-- Every line is in sight after some of the pages up that lead to the beginning. -/
theorem pageUp_reaches (hheight : 0 < v.height) (hoffset : v.offset = v.lastOffset) {n i : Nat}
    (hn : v.lastOffset ≤ n * v.page) (hi : i < v.total) :
    ∃ k ≤ n, (pageUp^[k] v).InSight i := by
  have hpage := page_le_height hheight
  have htotal := v.total_le
  -- The first page that begins at the line or before it.
  have hreached : ∃ k, v.lastOffset - k * v.page ≤ i := ⟨n, by omega⟩
  obtain ⟨k, hk, hfirst⟩ : ∃ k, v.lastOffset - k * v.page ≤ i ∧
      ∀ j < k, i < v.lastOffset - j * v.page :=
    ⟨Nat.find hreached, Nat.find_spec hreached,
      fun j hj => Nat.lt_of_not_le (Nat.find_min hreached hj)⟩
  have hkn : k ≤ n := by
    by_contra hlater
    have := hfirst n (by omega)
    omega
  refine ⟨k, hkn, ?_, ?_⟩
  · rw [offset_pageUp_iterate, hoffset]
    exact hk
  · rw [offset_pageUp_iterate, hoffset, (v.sizes_pageUp_iterate k).2]
    -- The page before began after the line, so this one reaches to it.
    cases k with
    | zero => omega
    | succ k =>
      have hbefore := hfirst k (Nat.lt_succ_self k)
      rw [Nat.succ_mul]
      omega

/-- Pages enough to come from one end of the content to the other. -/
def pages (v : LogView) : Nat :=
  v.lastOffset / v.page + 1

theorem lastOffset_le_pages (v : LogView) : v.lastOffset ≤ v.pages * v.page := by
  have hrest := Nat.lt_div_mul_add (a := v.lastOffset) v.page_pos
  rw [pages, Nat.succ_mul]
  omega

/-- Paging down reaches the end, and then the view follows. -/
theorem pageDown_iterate_end (h : v.offset ≤ v.lastOffset) {k : Nat}
    (hk : v.lastOffset ≤ k * v.page) (hpos : 0 < k) :
    (pageDown^[k] v).offset = v.lastOffset ∧ (pageDown^[k] v).follow = true := by
  have hoffset : (pageDown^[k] v).offset = v.lastOffset := by
    rw [offset_pageDown_iterate h]
    omega
  refine ⟨hoffset, ?_⟩
  -- The last of these pages has ended at the end.
  obtain ⟨k, rfl⟩ := Nat.exists_eq_succ_of_ne_zero (Nat.ne_of_gt hpos)
  rw [Function.iterate_succ_apply'] at hoffset ⊢
  have hend : (pageDown^[k] v).lastOffset ≤ (pageDown (pageDown^[k] v)).offset := by
    rw [hoffset, lastOffset_pageDown_iterate]
  exact Bool.or_eq_true_iff.mpr (.inr (decide_eq_true hend))

/-- Paging reaches every line.  Let a view have at least one row, and any number of
lines.  From the top, pages down reach the end after finitely many steps, and there
the view follows; from the bottom, pages up reach the first line.  Every line is
in sight on the way.  No page, up or down and from wherever, leaves a row out; and
the sum that a page down forms never exceeds the larger one of the sizes. -/
theorem paging_covers (h : 0 < v.height) :
    (∃ n, (∀ k ≥ n, (pageDown^[k] v.top).offset = v.lastOffset ∧
        (pageDown^[k] v.top).follow = true) ∧
      ∀ i < v.total, ∃ k ≤ n, (pageDown^[k] v.top).InSight i) ∧
    (∃ n, (∀ k ≥ n, (pageUp^[k] v.bottom).offset = 0) ∧
      ∀ i < v.total, ∃ k ≤ n, (pageUp^[k] v.bottom).InSight i) ∧
    (∀ i, v.offset ≤ i → i < v.pageDown.offset + v.height →
      v.InSight i ∨ v.pageDown.InSight i) ∧
    (∀ i, v.pageUp.offset ≤ i → i < v.offset + v.height →
      v.InSight i ∨ v.pageUp.InSight i) ∧
    ∀ k, (pageDown^[k] v.top).offset + (pageDown^[k] v.top).page ≤ max v.total v.height := by
  have hpages : ∀ k ≥ v.pages, v.lastOffset ≤ k * v.page := fun k hk =>
    Nat.le_trans v.lastOffset_le_pages (Nat.mul_le_mul_right _ hk)
  refine ⟨⟨v.pages, fun k hk => ?_, fun i hi => ?_⟩, ⟨v.pages, fun k hk => ?_, fun i hi => ?_⟩,
    fun i => pageDown_skips_none h, fun i => pageUp_skips_none h, fun k => ?_⟩
  · exact pageDown_iterate_end (v := v.top) (Nat.zero_le _) (hpages k hk)
      (Nat.lt_of_lt_of_le (Nat.succ_pos _) hk)
  · exact pageDown_reaches (v := v.top) h rfl v.lastOffset_le_pages hi
  · rw [offset_pageUp_iterate]
    exact Nat.sub_eq_zero_of_le (hpages k hk)
  · exact pageUp_reaches (v := v.bottom) h rfl v.lastOffset_le_pages hi
  · rw [offset_pageDown_iterate (v := v.top) (Nat.zero_le _), page_pageDown_iterate]
    have hpage : v.top.page ≤ v.height := page_le_height h
    have hlast : v.top.lastOffset = v.total - v.height := rfl
    omega

/-- Thirty lines in two rows: a page is one row, and the end is at the offset 28. -/
theorem paging_covers_two_rows :
    (⟨5, true, 30, 2⟩ : LogView).page = 1 ∧
      (∃ k, (pageDown^[k] (⟨5, true, 30, 2⟩ : LogView).top).InSight 17) ∧
      ∃ n, (pageDown^[n] (⟨5, true, 30, 2⟩ : LogView).top).offset = 28 := by
  obtain ⟨⟨n, hend, hlines⟩, -⟩ := paging_covers (v := ⟨5, true, 30, 2⟩) (by decide)
  obtain ⟨k, -, hk⟩ := hlines 17 (by decide)
  exact ⟨by decide, ⟨k, hk⟩, n, (hend n (Nat.le_refl n)).1⟩

end Provision.LogView
