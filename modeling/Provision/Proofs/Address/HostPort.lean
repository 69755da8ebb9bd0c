/-
Which texts give a port.

The last colon of a text divides it into a host and the rest
(`splitLastColon?_eq_some_iff`), and the rest is a port if it is a number of sixteen
bits.  So the texts with a port are hosts with a colon and digits behind them
(`WithPort`); but numbers are read with a plus sign before them as well, so such a
text is divided, too (`WithSignedPort`).

Main result: `parse_of_port`.
-/
import Provision.Address
import Provision.Proofs.Text.Decimal
import Provision.Proofs.Text.Trim

namespace Provision.Address

open Text Decimal

variable {cs before after host : List Char} {port : UInt16}

/-! ### The last colon -/

theorem splitLastColon?_eq_none_iff : splitLastColon? cs = none ↔ ':' ∉ cs := by
  induction cs with
  | nil => simp [splitLastColon?]
  | cons c cs ih =>
    rw [splitLastColon?, List.mem_cons, not_or, ← ih]
    rcases splitLastColon? cs with - | ⟨before, after⟩
    · by_cases hc : c = ':'
      · simp [hc]
      · simp [hc, Ne.symm hc]
    · simp

theorem splitLastColon?_append (h : ':' ∉ after) :
    splitLastColon? (before ++ ':' :: after) = some (before, after) := by
  induction before with
  | nil => simp [splitLastColon?, splitLastColon?_eq_none_iff.mpr h]
  | cons c before ih => simp [splitLastColon?, ih]

theorem splitLastColon?_eq_some_iff :
    splitLastColon? cs = some (before, after) ↔ cs = before ++ ':' :: after ∧ ':' ∉ after := by
  constructor
  · intro h
    have hcolon : ':' ∈ cs := by
      by_contra hnone
      rw [splitLastColon?_eq_none_iff.mpr hnone] at h
      cases h
    -- The last colon is the first one from behind.
    obtain ⟨rest, front, hrev, hrest⟩ :=
      List.eq_append_cons_of_mem (List.mem_reverse.mpr hcolon)
    obtain rfl : cs = front.reverse ++ ':' :: rest.reverse := by
      rw [← List.reverse_reverse cs, hrev]
      simp
    have hrest : ':' ∉ rest.reverse := fun hmem => hrest (List.mem_reverse.mp hmem)
    rw [splitLastColon?_append hrest] at h
    cases h
    exact ⟨rfl, hrest⟩
  · rintro ⟨rfl, hafter⟩
    exact splitLastColon?_append hafter

/-! ### Ports -/

/-- The text is a host, a colon and the digits of a port. -/
def WithPort (cs host : List Char) (port : UInt16) : Prop :=
  ∃ digits, cs = host ++ ':' :: digits ∧ IsNumeral digits port.toNat

/-- The text is a host, a colon, a plus sign and the digits of a port. -/
def WithSignedPort (cs host : List Char) (port : UInt16) : Prop :=
  ∃ digits, cs = host ++ ':' :: '+' :: digits ∧ IsNumeral digits port.toNat

/-- The text is taken for a host and a port. -/
def Divides (cs host : List Char) (port : UInt16) : Prop :=
  WithPort cs host port ∨ WithSignedPort cs host port

theorem colon_not_mem_of_isNumeral {n : Nat} (h : IsNumeral cs n) : ':' ∉ cs :=
  fun hmem => absurd (h.isDigit ':' hmem) (by decide)

theorem colon_not_mem_of_word? (h : word? after = some port) : ':' ∉ after := by
  rcases word?_eq_some_iff.mp h with hnum | ⟨digits, rfl, hnum⟩
  · exact colon_not_mem_of_isNumeral hnum
  · exact List.not_mem_cons_of_ne_of_not_mem (by decide) (colon_not_mem_of_isNumeral hnum)

/-- A text is divided exactly if a number stands behind its last colon. -/
theorem divides_iff : Divides cs host port ↔
    ∃ after, splitLastColon? cs = some (host, after) ∧ word? after = some port := by
  constructor
  · intro h
    obtain ⟨after, rfl, hword⟩ :
        ∃ after, cs = host ++ ':' :: after ∧ word? after = some port := by
      rcases h with ⟨digits, rfl, hnum⟩ | ⟨digits, rfl, hnum⟩
      · exact ⟨digits, rfl, word?_eq_some_iff.mpr (.inl hnum)⟩
      · exact ⟨'+' :: digits, rfl, word?_eq_some_iff.mpr (.inr ⟨digits, rfl, hnum⟩)⟩
    exact ⟨after, splitLastColon?_append (colon_not_mem_of_word? hword), hword⟩
  · rintro ⟨after, hsplit, hword⟩
    obtain ⟨rfl, -⟩ := splitLastColon?_eq_some_iff.mp hsplit
    rcases word?_eq_some_iff.mp hword with hnum | ⟨digits, rfl, hnum⟩
    · exact .inl ⟨after, rfl, hnum⟩
    · exact .inr ⟨digits, rfl, hnum⟩

theorem parse_of_divides {s : String} (h : Divides (trimList s.toList) host port) :
    parse s = ⟨String.ofList host, some port⟩ := by
  obtain ⟨after, hsplit, hword⟩ := divides_iff.mp h
  simp [parse, hsplit, hword]

theorem parse_of_not_divides {s : String}
    (h : ∀ host port, ¬ Divides (trimList s.toList) host port) : parse s = ⟨trim s, none⟩ := by
  simp only [divides_iff, not_exists, not_and] at h
  rw [parse, trim]
  rcases hsplit : splitLastColon? (trimList s.toList) with - | ⟨host, after⟩
  · rfl
  · have hword : word? after = none :=
      Option.eq_none_iff_forall_ne_some.mpr fun port => h host port after hsplit
    simp [hword]

/-- How a text is read.  Take away the blanks around it.  If what is left is a host, a colon
and a non-empty row of the digits 0 to 9 whose decimal value is a number of sixteen bits,
then the host and this value are read; a plus sign before the digits is passed over.  In
every other case all that is left is the host, and there is no port.  So without such a
sign there is a port exactly if digits of one stand behind the last colon. -/
theorem parse_of_port (s : String) :
    (∀ port, (parse s).port = some port ↔ ∃ host, Divides (trimList s.toList) host port) ∧
    (∀ host port, Divides (trimList s.toList) host port →
      parse s = ⟨String.ofList host, some port⟩) ∧
    ((∀ host port, ¬ Divides (trimList s.toList) host port) → parse s = ⟨trim s, none⟩) ∧
    ((∀ host rest, trimList s.toList ≠ host ++ ':' :: '+' :: rest) →
      ∀ port, (parse s).port = some port ↔ ∃ host, WithPort (trimList s.toList) host port) := by
  have hport : ∀ port, (parse s).port = some port ↔
      ∃ host, Divides (trimList s.toList) host port := by
    intro port
    constructor
    · intro h
      by_cases hdivided : ∃ host port, Divides (trimList s.toList) host port
      · obtain ⟨host, port', hdivided⟩ := hdivided
        rw [parse_of_divides hdivided] at h
        cases h
        exact ⟨host, hdivided⟩
      · rw [parse_of_not_divides fun host port h => hdivided ⟨host, port, h⟩] at h
        cases h
    · rintro ⟨host, h⟩
      exact congrArg Address.port (parse_of_divides h)
  refine ⟨hport, fun _ _ => parse_of_divides, parse_of_not_divides, fun hsign port => ?_⟩
  rw [hport]
  refine exists_congr fun host => or_iff_left ?_
  rintro ⟨digits, heq, -⟩
  exact hsign host digits heq

example : parse "\u3000a:b:0022\t" = ⟨"a:b", some 22⟩ := by decide

/-- It is not true that only digits are read as a port. -/
theorem sign_before_port :
    ¬ ∀ s port, (parse s).port = some port → ∃ host, WithPort (trimList s.toList) host port := by
  intro h
  have hparse : parse "host:+22" = ⟨"host", some 22⟩ := by decide
  obtain ⟨host, digits, heq, hnum⟩ := h "host:+22" 22 (congrArg Address.port hparse)
  have hsplit : splitLastColon? (trimList "host:+22".toList) = some ("host".toList, "+22".toList) :=
    by decide
  rw [heq, splitLastColon?_append (colon_not_mem_of_isNumeral hnum)] at hsplit
  obtain rfl : digits = "+22".toList := (Prod.mk.inj (Option.some.inj hsplit)).2
  exact absurd (hnum.isDigit '+' (by decide)) (by decide)

end Provision.Address
