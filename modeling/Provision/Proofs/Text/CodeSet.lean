/-
Characters that are not in a table.

A table is searched by halving, so a character is found only in one of its ranges
(`exists_range_of_search`).  A character that none of the ranges has is therefore not in
the set, and that is checked on the text of the table (`contains_ofText_eq_false`).
-/
import Provision.Text.CodeSet

namespace Provision.Text.CodeSet

/-- None of the ranges has one of the characters. -/
def Misses (ranges : List (Nat × Nat)) (cs : List Char) : Bool :=
  ranges.all fun range => cs.all fun c => c.toNat < range.1 || range.2 < c.toNat

theorem exists_range_of_search {ranges : Array (Nat × Nat)} {n low high : Nat}
    (h : search ranges n low high = true) : ∃ range ∈ ranges.toList, range.1 ≤ n ∧ n ≤ range.2 := by
  fun_induction search ranges n low high with
  | case1 low high hlt mid hnone => cases h
  | case2 low high hlt mid first last hrange hless ih => exact ih h
  | case3 low high hlt mid first last hrange hless hmore ih => exact ih h
  | case4 low high hlt mid first last hrange hless hmore =>
    exact ⟨(first, last), Array.mem_toList_iff.mpr (Array.mem_of_getElem? hrange),
      Nat.le_of_not_lt hless, Nat.le_of_not_lt hmore⟩
  | case5 low high hge => cases h

/-- A table is given by its text, so that its ranges are those of a list of characters. -/
theorem contains_ofText_eq_false {marks cs : List Char}
    (h : Misses (rangesOf marks) cs = true) :
    ∀ c ∈ cs, (ofText (String.ofList marks)).contains c = false := by
  intro c hc
  rw [Bool.eq_false_iff]
  intro hfound
  obtain ⟨range, hmem, hlow, hhigh⟩ := exists_range_of_search hfound
  simp only [ofText, String.toList_ofList] at hmem
  have hout := List.all_eq_true.mp (List.all_eq_true.mp h range hmem) c hc
  simp only [Bool.or_eq_true, decide_eq_true_eq] at hout
  omega

end Provision.Text.CodeSet
