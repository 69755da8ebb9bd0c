/-
The words of a text.

Cutting a text at its blanks gives words and nothing else: no piece is empty
and none holds a blank (`isWord_of_mem_words`).  A text that was written with a
space before each of its words is cut into exactly these (`words_spaced`).
-/
import Provision.Text.Blank

namespace Provision.Text

variable {w cs : List Char} {ws : List (List Char)}

/-- A word: there is something in it, and no blank. -/
def IsWord (w : List Char) : Prop :=
  w ≠ [] ∧ ∀ c ∈ w, isBlank c = false

theorem isWord_iff_all : IsWord w ↔ w ≠ [] ∧ w.all (!isBlank ·) = true := by
  simp [IsWord]

instance (w : List Char) : Decidable (IsWord w) :=
  decidable_of_iff _ isWord_iff_all.symm

/-- Texts in a row, a space before each. -/
def spaced (ws : List (List Char)) : List Char :=
  ws.flatMap (' ' :: ·)

theorem words_cons_of_blank {c : Char} (hc : isBlank c = true) : words (c :: cs) = words cs := by
  rw [words, if_pos hc]

theorem words_cons_of_not_blank {c : Char} (hc : isBlank c = false) :
    words (c :: cs) =
      (c :: cs.takeWhile (!isBlank ·)) :: words (cs.dropWhile (!isBlank ·)) := by
  rw [words, if_neg (by simp [hc])]

/-- A word ends where the text ends, or at a blank. -/
theorem words_append (hw : IsWord w) (hcs : ∀ c rest, cs = c :: rest → isBlank c = true) :
    words (w ++ cs) = w :: words cs := by
  obtain ⟨hne, hfree⟩ := hw
  cases w with
  | nil => exact absurd rfl hne
  | cons c w =>
    have hfree' : ∀ d ∈ w, (!isBlank d) = true :=
      fun d hd => by simpa using hfree d (List.mem_cons_of_mem c hd)
    have hstop : cs.takeWhile (!isBlank ·) = [] ∧ cs.dropWhile (!isBlank ·) = cs := by
      cases cs with
      | nil => exact ⟨rfl, rfl⟩
      | cons d rest => simp [hcs d rest rfl]
    rw [List.cons_append, words, if_neg (by simp [hfree c List.mem_cons_self]),
      List.takeWhile_append_of_pos hfree', List.dropWhile_append_of_pos hfree', hstop.1, hstop.2,
      List.append_nil]

/-- A word that is written onto the front of another one makes one word with it. -/
theorem words_append_word {v : List Char} (hw : IsWord w)
    (hcs : ∀ c rest, cs = c :: rest → isBlank c = false) (hv : words cs = v :: ws) :
    words (w ++ cs) = (w ++ v) :: ws := by
  obtain ⟨hne, hfree⟩ := hw
  cases cs with
  | nil => simp [words] at hv
  | cons d rest =>
    have hd : (!isBlank d) = true := by simp [hcs d rest rfl]
    rw [words_cons_of_not_blank (hcs d rest rfl)] at hv
    cases hv
    cases w with
    | nil => exact absurd rfl hne
    | cons c w =>
      have hfree' : ∀ d ∈ w, (!isBlank d) = true :=
        fun d hd => by simpa using hfree d (List.mem_cons_of_mem c hd)
      rw [List.cons_append, words_cons_of_not_blank (hfree c List.mem_cons_self),
        List.takeWhile_append_of_pos hfree', List.dropWhile_append_of_pos hfree',
        List.takeWhile_cons_of_pos (p := (!isBlank ·)) hd,
        List.dropWhile_cons_of_pos (p := (!isBlank ·)) hd, List.cons_append]

theorem trimList_of_isWord (h : IsWord w) : trimList w = w := by
  have hkept : ∀ cs : List Char, (∀ c ∈ cs, isBlank c = false) → cs.dropWhile isBlank = cs := by
    intro cs hcs
    cases cs with
    | nil => rfl
    | cons c cs => rw [List.dropWhile_cons_of_neg (by simp [hcs c List.mem_cons_self])]
  rw [trimList, hkept w h.2, hkept _ fun c hc => h.2 c (List.mem_reverse.mp hc),
    List.reverse_reverse]

/-- What follows a word is the space before the next one, or nothing. -/
theorem isBlank_of_spaced {c : Char} {rest : List Char} (h : spaced ws = c :: rest) :
    isBlank c = true := by
  cases ws with
  | nil => cases h
  | cons v vs =>
    cases h
    rfl

theorem words_spaced (h : ∀ w ∈ ws, IsWord w) : words (spaced ws) = ws := by
  induction ws with
  | nil => exact words.eq_1
  | cons w ws ih =>
    show words (' ' :: (w ++ spaced ws)) = w :: ws
    rw [words_cons_of_blank rfl, words_append (h w List.mem_cons_self) fun _ _ => isBlank_of_spaced,
      ih fun v hv => h v (List.mem_cons_of_mem w hv)]

theorem isWord_of_mem_words (h : w ∈ words cs) : IsWord w := by
  induction cs using words.induct with
  | case1 => simp [words] at h
  | case2 c rest hc ih =>
    rw [words_cons_of_blank hc] at h
    exact ih h
  | case3 c rest hc ih =>
    rw [words, if_neg hc, List.mem_cons] at h
    rcases h with rfl | h
    · refine ⟨by simp, fun d hd => ?_⟩
      rcases List.mem_cons.mp hd with rfl | hd
      · simpa using hc
      · have := List.all_takeWhile (p := (!isBlank ·)) (l := rest)
        simpa using List.all_eq_true.mp this d hd
    · exact ih h

end Provision.Text
