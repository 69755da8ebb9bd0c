/-
Numbers in text are read back.

The digits of a number are digits, none but zero starts with the digit zero, and
to read them gives the number again (`value?_toDigits`).  What is read at all is a
numeral: digits, and at least one (`value?_eq_some_iff`), with a plus sign before them
where one is allowed (`word?_eq_some_iff`).  The four hexadecimal digits of a control
character are read back as well (`read?_fourDigits`).
-/
import Provision.Text.Decimal

namespace Provision.Text.Decimal

variable {cs : List Char} {n : Nat}

theorem toNat_of_isDigit {c : Char} (h : c.isDigit = true) : 0x30 ≤ c.toNat ∧ c.toNat ≤ 0x39 := by
  rw [Char.isDigit, Bool.and_eq_true, decide_eq_true_eq, decide_eq_true_eq] at h
  exact h

theorem foldlM_digit? (h : ∀ c ∈ cs, c.isDigit = true) (acc : Nat) :
    cs.foldlM (fun acc c => (digit? c).map (acc * 10 + ·)) acc =
      some (Nat.ofDigitChars 10 cs acc) := by
  induction cs generalizing acc with
  | nil => rfl
  | cons c cs ih =>
    rw [List.foldlM_cons, digit?, if_pos (h c List.mem_cons_self), Nat.ofDigitChars_cons,
      Nat.mul_comm 10 acc]
    exact ih (fun d hd => h d (List.mem_cons_of_mem c hd)) _

theorem value?_of_isDigit (hne : cs ≠ []) (h : ∀ c ∈ cs, c.isDigit = true) :
    value? cs = some (Nat.ofDigitChars 10 cs 0) := by
  cases cs with
  | nil => exact absurd rfl hne
  | cons c cs => exact foldlM_digit? h 0

theorem isDigit_of_foldlM_digit? {acc : Nat}
    (h : cs.foldlM (fun acc c => (digit? c).map (acc * 10 + ·)) acc = some n) :
    ∀ c ∈ cs, c.isDigit = true := by
  induction cs generalizing acc with
  | nil => exact fun c hc => absurd hc List.not_mem_nil
  | cons d cs ih =>
    rw [List.foldlM_cons, digit?] at h
    rcases hd : d.isDigit
    · rw [hd, if_neg Bool.false_ne_true] at h
      cases h
    · rw [if_pos hd] at h
      exact List.forall_mem_cons.mpr ⟨hd, ih h⟩

/-- The text is the number `n` in ASCII digits. -/
structure IsNumeral (cs : List Char) (n : Nat) : Prop where
  ne_nil : cs ≠ []
  isDigit : ∀ c ∈ cs, c.isDigit = true
  value_eq : Nat.ofDigitChars 10 cs 0 = n

theorem value?_eq_some_iff : value? cs = some n ↔ IsNumeral cs n := by
  constructor
  · intro h
    have hne : cs ≠ [] := by
      rintro rfl
      cases h
    have hdigits : ∀ c ∈ cs, c.isDigit = true := by
      cases cs with
      | nil => exact absurd rfl hne
      | cons c cs => exact isDigit_of_foldlM_digit? h
    rw [value?_of_isDigit hne hdigits] at h
    exact ⟨hne, hdigits, Option.some.inj h⟩
  · intro h
    rw [value?_of_isDigit h.ne_nil h.isDigit, h.value_eq]

theorem isDigit_of_mem_toDigits {c : Char} (h : c ∈ Nat.toDigits 10 n) : c.isDigit = true :=
  Nat.isDigit_of_mem_toDigits (by decide) (by decide) h

theorem value?_toDigits (n : Nat) : value? (Nat.toDigits 10 n) = some n := by
  rw [value?_of_isDigit Nat.toDigits_ne_nil fun c => isDigit_of_mem_toDigits,
    Nat.ofDigitChars_ten_toDigits]

theorem isNumeral_toDigits (n : Nat) : IsNumeral (Nat.toDigits 10 n) n :=
  value?_eq_some_iff.mp (value?_toDigits n)

/-- A number of sixteen bits is a numeral with a plus sign before it, or with none. -/
theorem word?_eq_some_iff {w : UInt16} :
    word? cs = some w ↔ IsNumeral cs w.toNat ∨ ∃ digits, cs = '+' :: digits ∧
      IsNumeral digits w.toNat := by
  have hword : ∀ digits, (value? digits).bind
      (fun n => if n < 65536 then some (UInt16.ofNat n) else none) = some w ↔
        IsNumeral digits w.toNat := by
    intro digits
    rw [← value?_eq_some_iff, Option.bind_eq_some_iff]
    constructor
    · rintro ⟨n, hn, hw⟩
      split at hw
      · next hlt =>
        cases hw
        rw [hn, UInt16.toNat_ofNat', Nat.mod_eq_of_lt hlt]
      · cases hw
    · intro h
      refine ⟨_, h, ?_⟩
      rw [if_pos w.toNat_lt, UInt16.ofNat_toNat]
  rw [word?.eq_def]
  dsimp only
  split
  · next rest =>
    rw [hword]
    constructor
    · exact fun h => .inr ⟨rest, rfl, h⟩
    · rintro (h | ⟨digits, heq, h⟩)
      · exact absurd (h.isDigit '+' List.mem_cons_self) (by decide)
      · exact (List.cons.inj heq).2 ▸ h
  · next hsign =>
    rw [hword]
    constructor
    · exact .inl
    · rintro (h | ⟨digits, heq, -⟩)
      · exact h
      · exact absurd heq (hsign digits)

/-- A number that is not zero does not start with the digit zero. -/
theorem head?_toDigits_ne (h : 0 < n) : (Nat.toDigits 10 n).head? ≠ some '0' := by
  induction n using Nat.strongRecOn with
  | _ n ih =>
    by_cases hn : n < 10
    · have hdigit : ∀ m < 10, 0 < m → [m.digitChar].head? ≠ some '0' := by decide
      rw [Nat.toDigits_of_lt_base hn]
      exact hdigit n hn h
    · have hrest := ih (n / 10) (by omega) (by omega)
      rw [Nat.toDigits_of_base_le (by decide) (by omega), List.head?_append]
      rcases hhead : (Nat.toDigits 10 (n / 10)).head? with - | d
      · exact absurd (List.head?_eq_none_iff.mp hhead) Nat.toDigits_ne_nil
      · rw [hhead] at hrest
        exact hrest

/-- So no digits follow a zero in front. -/
theorem toDigits_ne_zero_cons (n : Nat) (d : Char) (ds : List Char) :
    Nat.toDigits 10 n ≠ '0' :: d :: ds := by
  intro h
  rcases Nat.eq_zero_or_pos n with rfl | hn
  · rw [Nat.toDigits_zero] at h
    cases h
  · exact head?_toDigits_ne hn (by rw [h]; rfl)

/-! ### Hexadecimal digits -/

/-- The hexadecimal digits of a number, four at least. -/
def fourDigits (n : Nat) : List Char :=
  List.replicate (4 - (hex n).length) '0' ++ hex n

/-- The digits of a control character: there are four, each is written as one byte, and
together they are read as its code point. -/
theorem read?_fourDigits (h : n < 0x20) :
    (fourDigits n).length = 4 ∧ (∀ c ∈ fourDigits n, 0x20 ≤ c.toNat ∧ c.toNat ≤ 0x7F) ∧
      read? 16 hexDigit? (fourDigits n) = some n := by
  have hall : ∀ n < 0x20, (fourDigits n).length = 4 ∧
      ((fourDigits n).all fun c => decide (0x20 ≤ c.toNat ∧ c.toNat ≤ 0x7F)) = true ∧
      read? 16 hexDigit? (fourDigits n) = some n := by decide
  obtain ⟨hlength, hascii, hread⟩ := hall n h
  exact ⟨hlength, fun c hc => of_decide_eq_true (List.all_eq_true.mp hascii c hc), hread⟩

end Provision.Text.Decimal
