/-
Texts without the blanks around them.

A text is trimmed if no blank stands at either end of it.  What `trimList` gives is
trimmed (`trimmed_trimList`), and it leaves a trimmed text as it is, so to trim twice
is to trim once.  Nothing is left exactly of the texts that hold blanks only.
-/
import Mathlib.Data.List.DropRight
import Provision.Text.Blank

namespace Provision.Text

variable {cs : List Char}

/-- No blank stands at either end. -/
structure Trimmed (cs : List Char) : Prop where
  head : ∀ c ∈ cs.head?, isBlank c = false
  last : ∀ c ∈ cs.getLast?, isBlank c = false

theorem trimList_eq_rdropWhile (cs : List Char) :
    trimList cs = (cs.dropWhile isBlank).rdropWhile isBlank := rfl

theorem trimmed_trimList (cs : List Char) : Trimmed (trimList cs) := by
  rw [trimList_eq_rdropWhile]
  constructor
  · -- It begins as the text does after its leading blanks.
    intro c hc
    have hfirst := List.head?_dropWhile_not isBlank cs
    obtain ⟨rest, hrest⟩ := List.rdropWhile_prefix isBlank (cs.dropWhile isBlank)
    rw [← hrest, List.head?_append, Option.mem_def.mp hc] at hfirst
    exact hfirst
  · intro c hc
    obtain ⟨hne, rfl⟩ := List.mem_getLast?_eq_getLast hc
    exact Bool.eq_false_iff.mpr (List.rdropWhile_last_not isBlank _ hne)

/-- Nothing is taken off a trimmed text. -/
theorem Trimmed.trimList_eq (h : Trimmed cs) : trimList cs = cs := by
  have hfront : cs.dropWhile isBlank = cs := by
    cases cs with
    | nil => rfl
    | cons c cs => exact List.dropWhile_cons_of_neg (by simp [h.head c rfl])
  rw [trimList_eq_rdropWhile, hfront, List.rdropWhile_eq_self_iff]
  intro hne
  rw [h.last _ (List.getLast?_eq_some_getLast hne)]
  exact Bool.false_ne_true

theorem trimList_trimList (cs : List Char) : trimList (trimList cs) = trimList cs :=
  (trimmed_trimList cs).trimList_eq

theorem trim_trim (s : String) : trim (trim s) = trim s := by
  rw [trim, trim, String.toList_ofList, trimList_trimList]

theorem trimList_eq_nil_iff : trimList cs = [] ↔ ∀ c ∈ cs, isBlank c = true := by
  rw [trimList_eq_rdropWhile, List.rdropWhile_eq_nil_iff]
  constructor
  · intro h c hc
    rw [← List.takeWhile_append_dropWhile (p := isBlank) (l := cs), List.mem_append] at hc
    rcases hc with hc | hc
    · exact List.mem_takeWhile_imp hc
    · exact h c hc
  · exact fun h c hc => h c ((List.dropWhile_sublist isBlank).subset hc)

end Provision.Text
