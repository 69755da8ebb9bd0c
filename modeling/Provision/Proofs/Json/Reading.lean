/-
Objects are read back.

The members of an object are written one after the other, and each of them is
read from the front of what is left, whatever comes behind it: a key
(`string_string`), a number (`number_toDigits`), any value (`value?_render`), a
member (`member?_render`), and then all of them (`items?_members`).

Main result: `read?_object`.
-/
import Mathlib.Algebra.Ring.Int.Defs
import Mathlib.Algebra.Ring.Nat
import Provision.Proofs.Json.Document
import Provision.Proofs.Json.Strings

namespace Provision

open Text Utf8

namespace Headless.Value

theorem toList_render_ofNat (n : Nat) :
    (int (.ofNat n)).render.toList = Nat.toDigits 10 n :=
  Nat.toList_repr

theorem toList_render_negSucc (n : Nat) :
    (int (.negSucc n)).render.toList = '-' :: Nat.toDigits 10 (n + 1) := by
  rw [← Nat.toList_repr]
  exact String.toList_append

/-- What the value is, as a value of JSON. -/
def document : Value → Json.Document
  | string s => .string s
  | bool b => .boolean b
  | int n => .number (.integer n)
  | null => .null

/-- An integer has at most 64 bits, with or without a sign. -/
def Fits : Value → Prop
  | int n => -2 ^ 63 ≤ n ∧ n < 2 ^ 64
  | _ => True

end Headless.Value

namespace Json.Cursor

variable {b : UInt8} {rest : List UInt8} {t n depth : Nat} {ds : List Char} {negative : Bool}
  {value : Number}

/-! ### Single bytes -/

/-- White space of JSON. -/
def IsSpace (b : UInt8) : Prop :=
  b = 0x20 ∨ b = 0x0A ∨ b = 0x09 ∨ b = 0x0D

instance : DecidablePred IsSpace := fun b =>
  inferInstanceAs (Decidable (b = 0x20 ∨ b = 0x0A ∨ b = 0x09 ∨ b = 0x0D))

theorem skipSpace_cons (h : ¬ IsSpace b) :
    (⟨t, b :: rest⟩ : Cursor).skipSpace = ⟨t, b :: rest⟩ := by
  rw [skipSpace, List.takeWhile_cons_of_neg (by simpa [IsSpace] using h)]
  simp [drop]

@[simp] theorem skipSpace_nil : (⟨t, []⟩ : Cursor).skipSpace = ⟨t, []⟩ := rfl

theorem token?_self (h : ¬ IsSpace b) :
    (⟨t, b :: rest⟩ : Cursor).token? b = some ⟨t + 1, rest⟩ := by
  rw [token?, skipSpace_cons h, peek_cons, if_pos rfl, drop_one_cons]

theorem token?_of_ne {x : UInt8} (h : ¬ IsSpace b) (hx : b ≠ x) :
    (⟨t, b :: rest⟩ : Cursor).token? x = none := by
  rw [token?, skipSpace_cons h, peek_cons, if_neg (by simpa using hx)]

/-! ### Numbers -/

/-- The next member comes next, or the end of the object. -/
def Ends (rest : List UInt8) : Prop :=
  ∃ b more, rest = b :: more ∧ (b = 0x2C ∨ b = 0x7D)

theorem digits_encode (h : ∀ c ∈ ds, c.isDigit = true) (hrest : Ends rest) :
    (⟨t, encode ds ++ rest⟩ : Cursor).digits = (ds, ⟨t + (encode ds).length, rest⟩) := by
  have hascii : ∀ c ∈ ds, c.toNat ≤ 0x7F := fun c hc => by
    have := Decimal.toNat_of_isDigit (h c hc)
    omega
  have hrun : ((encode ds ++ rest).takeWhile fun b => decide (0x30 ≤ b ∧ b ≤ 0x39)) =
      encode ds := by
    rw [List.takeWhile_append_of_pos]
    · obtain ⟨b, more, rfl, rfl | rfl⟩ := hrest <;>
        rw [List.takeWhile_cons_of_neg (by decide), List.append_nil]
    · intro b hb
      rw [encode_of_ascii hascii] at hb
      obtain ⟨c, hc, rfl⟩ := List.mem_map.mp hb
      have hdigit := Decimal.toNat_of_isDigit (h c hc)
      have hbyte := toNat_ofNat_toNat (hascii c hc)
      simp only [decide_eq_true_eq, UInt8.le_iff_toNat_le, hbyte, UInt8.reduceToNat]
      omega
  rw [digits, hrun, map_ofNat_encode hascii, drop_append]

theorem number_toDigits (hrest : Ends rest)
    (h : Number.ofParts? negative (Nat.toDigits 10 n) none none = some value) :
    number negative ⟨t, encode (Nat.toDigits 10 n) ++ rest⟩ =
      .ok (value, ⟨t + (encode (Nat.toDigits 10 n)).length, rest⟩) := by
  rw [number, digits_encode (fun _ => Decimal.isDigit_of_mem_toDigits) hrest]
  split
  · next heq => exact absurd (congrArg Prod.fst heq) Nat.toDigits_ne_nil
  · next heq => exact absurd (congrArg Prod.fst heq) (Decimal.toDigits_ne_zero_cons n _ _)
  · next heq =>
    cases heq
    -- Neither a point nor an exponent follows.
    obtain ⟨b, more, rfl, rfl | rfl⟩ := hrest <;>
      simp only [peek_cons, pure, Except.pure, bind, Except.bind, h] <;>
      rfl

theorem ofParts?_toDigits (n : Nat) (h : n < 2 ^ 64) :
    Number.ofParts? false (Nat.toDigits 10 n) none none = some (.integer n) := by
  rw [Number.ofParts?, Decimal.value?_toDigits]
  exact if_pos h

theorem ofParts?_toDigits_neg (n : Nat) (hpos : 0 < n) (h : n ≤ 2 ^ 63) :
    Number.ofParts? true (Nat.toDigits 10 n) none none = some (.integer (-n)) := by
  rw [Number.ofParts?, Decimal.value?_toDigits]
  have hboth : 0 < n ∧ n ≤ Nat.pow 2 63 := ⟨hpos, h⟩
  exact if_pos hboth

/-! ### Values -/

theorem value?_digit (hb : 0x30 ≤ b ∧ b ≤ 0x39) :
    value? depth ⟨t, b :: rest⟩ =
      (number false ⟨t, b :: rest⟩).toOption.map fun (n, c) => (.number n, c) := by
  have hspace : ¬ IsSpace b := by
    rintro (rfl | rfl | rfl | rfl) <;> revert hb <;> decide
  rw [value?]
  simp only [skipSpace_cons hspace, peek_cons]
  rw [if_pos hb]

theorem value?_minus : value? depth ⟨t, 0x2D :: rest⟩ =
    (number true ⟨t + 1, rest⟩).toOption.map fun (n, c) => (.number n, c) := by
  rw [value?]
  rfl

theorem value?_quote : value? depth ⟨t, 0x22 :: rest⟩ =
    (string ⟨t, 0x22 :: rest⟩).toOption.map fun (s, c) => (.string s, c) := by
  rw [value?]
  rfl

theorem value?_natural {m : Nat} (hm : m < 2 ^ 64) (hrest : Ends rest) :
    value? depth ⟨t, encode (Nat.toDigits 10 m) ++ rest⟩ =
      some (.number (.integer m), ⟨t + (encode (Nat.toDigits 10 m)).length, rest⟩) := by
  have hread := number_toDigits (t := t) hrest (ofParts?_toDigits m hm)
  rcases hds : Nat.toDigits 10 m with - | ⟨d, ds⟩
  · exact absurd hds Nat.toDigits_ne_nil
  · have hd := Decimal.toNat_of_isDigit (Decimal.isDigit_of_mem_toDigits (hds ▸ List.mem_cons_self))
    have hb : 0x30 ≤ UInt8.ofNat d.toNat ∧ UInt8.ofNat d.toNat ≤ 0x39 := by
      rw [UInt8.le_iff_toNat_le, UInt8.le_iff_toNat_le, toNat_ofNat_toNat (by omega)]
      exact hd
    have hbytes : encode (d :: ds) = UInt8.ofNat d.toNat :: encode ds := by
      rw [encode_cons, encodeChar_of_ascii (by omega), List.singleton_append]
    rw [hds, hbytes, List.cons_append] at hread
    rw [hbytes, List.cons_append, value?_digit hb, hread]
    rfl

theorem value?_negative {m : Nat} (hpos : 0 < m) (hm : m ≤ 2 ^ 63) (hrest : Ends rest) :
    value? depth ⟨t, encode ('-' :: Nat.toDigits 10 m) ++ rest⟩ =
      some (.number (.integer (-m)), ⟨t + (encode ('-' :: Nat.toDigits 10 m)).length, rest⟩) := by
  have hread := number_toDigits (t := t + 1) hrest (ofParts?_toDigits_neg m hpos hm)
  have hbytes : encode ('-' :: Nat.toDigits 10 m) = 0x2D :: encode (Nat.toDigits 10 m) := rfl
  rw [hbytes, List.cons_append, value?_minus, hread, List.length_cons,
    Nat.add_comm (List.length _) 1, ← Nat.add_assoc]
  rfl

theorem value?_string (s : String) :
    value? depth ⟨t, encode (Headless.string s).toList ++ rest⟩ =
      some (.string s, ⟨t + (encode (Headless.string s).toList).length, rest⟩) := by
  have hread := string_string s t rest
  obtain ⟨more, hbytes⟩ := exists_encode_string s
  rw [hbytes, List.cons_append] at hread ⊢
  rw [value?_quote, hread]
  rfl

theorem value?_render {v : Headless.Value} (hv : v.Fits) (hrest : Ends rest) :
    value? depth ⟨t, encode v.render.toList ++ rest⟩ =
      some (v.document, ⟨t + (encode v.render.toList).length, rest⟩) := by
  cases v with
  | string s => exact value?_string s
  | bool b =>
    -- The words are closed bytes, which the reader takes one by one.
    cases b <;>
    · rw [value?]
      rfl
  | null =>
    rw [value?]
    rfl
  | int n =>
    cases n with
    | ofNat m =>
      have hm : (m : Int) < 2 ^ 64 := hv.2
      rw [Headless.Value.toList_render_ofNat]
      exact value?_natural (by omega) hrest
    | negSucc m =>
      have hm : -2 ^ 63 ≤ Int.negSucc m := hv.1
      rw [Headless.Value.toList_render_negSucc]
      exact value?_negative (by omega) (by omega) hrest

/-! ### Objects -/

/-- A member as it is written. -/
def memberBytes (m : String × Headless.Value) : List UInt8 :=
  encode (Headless.string m.1 ++ ":" ++ m.2.render).toList

theorem memberBytes_eq (m : String × Headless.Value) :
    memberBytes m =
      encode (Headless.string m.1).toList ++ 0x3A :: encode m.2.render.toList := by
  rw [memberBytes, String.toList_append, String.toList_append, encode_append, encode_append,
    List.append_assoc]
  rfl

/-- A member starts with the quote of its key. -/
theorem exists_memberBytes (m : String × Headless.Value) :
    ∃ more, memberBytes m = 0x22 :: more := by
  obtain ⟨more, hbytes⟩ := exists_encode_string m.1
  rw [memberBytes_eq, hbytes]
  exact ⟨_, rfl⟩

theorem member?_render {m : String × Headless.Value} (hm : m.2.Fits) (hrest : Ends rest) :
    member? (value? depth) ⟨t, memberBytes m ++ rest⟩ =
      some ((m.1, m.2.document), ⟨t + (memberBytes m).length, rest⟩) := by
  have hquote : ¬ IsSpace 0x22 := by decide
  have hcolon : ¬ IsSpace 0x3A := by decide
  have hkey := string_string m.1 t (0x3A :: (encode m.2.render.toList ++ rest))
  have hvalue : ∀ t, value? depth ⟨t, encode m.2.render.toList ++ rest⟩ =
      some (m.2.document, ⟨t + (encode m.2.render.toList).length, rest⟩) :=
    fun t => value?_render hm hrest
  obtain ⟨more, hbytes⟩ := exists_encode_string m.1
  rw [memberBytes_eq, List.append_assoc, List.cons_append]
  rw [hbytes, List.cons_append] at hkey ⊢
  rw [member?, token?_self hquote, skipSpace_cons hquote, hkey]
  simp only [bind, Option.bind, Except.toOption, token?_self hcolon, hvalue]
  have hend : t + (0x22 :: more).length + 1 + (encode m.2.render.toList).length =
      t + (0x22 :: (more ++ 0x3A :: encode m.2.render.toList)).length := by
    simp only [List.length_cons, List.length_append]
    omega
  rw [hend]
  rfl

/-- There are at least as many bytes as members. -/
theorem length_le_members (ms : List (String × Headless.Value)) :
    ms.length ≤ (List.intercalate [0x2C] (ms.map memberBytes)).length := by
  induction ms with
  | nil => exact Nat.le_refl 0
  | cons m ms ih =>
    obtain ⟨more, hm⟩ := exists_memberBytes m
    cases ms with
    | nil => simp [hm]
    | cons m' ms =>
      rw [List.map_cons, List.map_cons, List.intercalate_cons_cons, ← List.map_cons]
      simp only [List.length_cons, List.length_append] at ih ⊢
      omega

theorem items?_members {ms : List (String × Headless.Value)} (hne : ms ≠ [])
    (hms : ∀ m ∈ ms, m.2.Fits) {fuel : Nat} (hfuel : ms.length ≤ fuel) (depth t : Nat)
    (rest : List UInt8) :
    items? (member? (value? depth)) 0x7D fuel
        ⟨t, List.intercalate [0x2C] (ms.map memberBytes) ++ 0x7D :: rest⟩ =
      some (ms.map fun m => (m.1, m.2.document),
        ⟨t + (List.intercalate [0x2C] (ms.map memberBytes)).length + 1, rest⟩) := by
  have hend : ¬ IsSpace 0x7D := by decide
  have hcomma : ¬ IsSpace 0x2C := by decide
  induction ms generalizing t fuel with
  | nil => exact absurd rfl hne
  | cons m ms ih =>
    obtain ⟨fuel, rfl⟩ : ∃ n, fuel = n + 1 := ⟨fuel - 1, by simp at hfuel; omega⟩
    have hm := hms m List.mem_cons_self
    cases ms with
    | nil =>
      rw [List.map_singleton, List.intercalate_singleton, items?,
        member?_render hm ⟨0x7D, rest, rfl, .inr rfl⟩]
      simp only [bind, Option.bind, token?_self hend]
      rfl
    | cons m' ms =>
      have hmore := ih (List.cons_ne_nil m' ms) (fun x hx => hms x (List.mem_cons_of_mem m hx))
        (by simpa using hfuel) (t + (memberBytes m).length + 1)
      generalize htail : List.intercalate [0x2C] ((m' :: ms).map memberBytes) = tail at hmore
      have hbytes : List.intercalate [0x2C] ((m :: m' :: ms).map memberBytes) =
          memberBytes m ++ 0x2C :: tail := by
        rw [← htail, List.map_cons, List.map_cons, List.intercalate_cons_cons, List.append_assoc]
        rfl
      rw [hbytes, List.append_assoc, List.cons_append, items?,
        member?_render hm ⟨0x2C, _, rfl, .inl rfl⟩]
      simp only [bind, Option.bind, token?_of_ne hcomma (show (0x2C : UInt8) ≠ 0x7D by decide),
        token?_self hcomma, hmore]
      have hlength : t + (memberBytes m).length + 1 + tail.length + 1 =
          t + (memberBytes m ++ 0x2C :: tail).length + 1 := by
        simp only [List.length_cons, List.length_append]
        omega
      rw [hlength]
      rfl

theorem list?_members {ms : List (String × Headless.Value)} (hms : ∀ m ∈ ms, m.2.Fits) (t : Nat)
    (rest : List UInt8) :
    list? (member? (value? depth)) 0x7D
        ⟨t, List.intercalate [0x2C] (ms.map memberBytes) ++ 0x7D :: rest⟩ =
      some (ms.map fun m => (m.1, m.2.document),
        ⟨t + (List.intercalate [0x2C] (ms.map memberBytes)).length + 1, rest⟩) := by
  cases ms with
  | nil => rfl
  | cons m ms =>
    have hquote : ¬ IsSpace 0x22 := by decide
    have hread := fun fuel (h : (m :: ms).length ≤ fuel) =>
      items?_members (List.cons_ne_nil m ms) hms h depth t rest
    have hlength := length_le_members (m :: ms)
    obtain ⟨more, hbytes⟩ : ∃ more, List.intercalate [0x2C] ((m :: ms).map memberBytes) =
        0x22 :: more := by
      obtain ⟨more, hm⟩ := exists_memberBytes m
      rw [List.map_cons, hm, List.intercalate_cons_cons_left]
      exact ⟨_, rfl⟩
    rw [hbytes, List.cons_append] at hread ⊢
    rw [list?, token?_of_ne hquote (by decide)]
    refine hread _ ?_
    rw [hbytes] at hlength
    simp only [List.length_cons, List.length_append] at hlength ⊢
    omega

theorem encode_object (ms : List (String × Headless.Value)) :
    encode (Headless.object ms).toList =
      0x7B :: (List.intercalate [0x2C] (ms.map memberBytes) ++ [0x7D]) := by
  have hobject : Headless.object ms = "\x7b" ++ String.intercalate "," (ms.map fun m =>
      Headless.string m.1 ++ ":" ++ m.2.render) ++ "\x7d" := rfl
  have hmembers : ((ms.map fun m => Headless.string m.1 ++ ":" ++ m.2.render).map
      String.toList).map encode = ms.map memberBytes := by
    simp only [List.map_map, Function.comp_def]
    rfl
  have hopen : encode "\x7b".toList = [0x7B] := rfl
  have hcomma : encode ",".toList = [0x2C] := rfl
  have hclose : encode "\x7d".toList = [0x7D] := rfl
  rw [hobject, String.toList_append, String.toList_append, encode_append, encode_append,
    String.toList_intercalate, encode_intercalate, hmembers, hopen, hcomma, hclose,
    List.append_assoc, List.singleton_append]

theorem value?_brace : value? (depth + 1) ⟨t, 0x7B :: rest⟩ =
    (list? (member? (value? depth)) 0x7D ⟨t + 1, rest⟩).map fun (ms, c) => (.object ms, c) := by
  have hbrace : ¬ IsSpace 0x7B := by decide
  rw [value?]
  simp only [skipSpace_cons hbrace, peek_cons, drop_one_cons]
  rfl

end Json.Cursor

/-- An object is read as it was written: its members in the same order, with the same
keys and values. -/
theorem Json.Document.read?_object {ms : List (String × Headless.Value)}
    (hms : ∀ m ∈ ms, m.2.Fits) :
    read? (Headless.object ms) = some (.object (ms.map fun m => (m.1, m.2.document))) := by
  rw [read?, Json.Cursor.encode_object, Json.Cursor.value?_brace, Json.Cursor.list?_members hms]
  simp only [Option.map_some, bind, Option.bind, Json.Cursor.skipSpace_nil]
  rfl

end Provision
