/-
Strings of JSON are read back.

Inside a string some bytes stand for others: a plain byte for itself, an escape
for what it names.  What two runs of bytes stand for, they stand for together
(`Spells.append`); so the way in which a string is written need only be looked
at character by character (`spells_escapeChar`), and the reader gives the string
again, whatever follows it (`string_string`).
-/
import Provision.Headless.Event
import Provision.Json.Choice
import Provision.Proofs.Text.Decimal
import Provision.Proofs.Text.Utf8

namespace Provision.Json.Cursor

open Text Utf8

variable {b x y : UInt8} {written plain rest : List UInt8} {t n : Nat} {ds : List Char}

theorem drop_append (t : Nat) (bytes rest : List UInt8) :
    (⟨t, bytes ++ rest⟩ : Cursor).drop bytes.length = ⟨t + bytes.length, rest⟩ := by
  simp [drop]

@[simp] theorem peek_cons : (⟨t, b :: rest⟩ : Cursor).peek = some b := rfl

@[simp] theorem drop_one_cons : (⟨t, b :: rest⟩ : Cursor).drop 1 = ⟨t + 1, rest⟩ :=
  drop_append t [b] rest

/-- Inside a string the bytes `written` stand for `plain`: a reader that comes to them
goes on behind them, and puts `plain` in front of what it finds there. -/
def Spells (written plain : List UInt8) : Prop :=
  ∃ n ≤ written.length, ∀ (fuel t : Nat) (rest out : List UInt8) (c : Cursor),
    stringBytes fuel ⟨t + written.length, rest⟩ = .ok (out, c) →
      stringBytes (fuel + n) ⟨t, written ++ rest⟩ = .ok (plain ++ out, c)

theorem spells_nil : Spells [] [] :=
  ⟨0, Nat.le_refl 0, fun _ _ _ _ _ h => h⟩

theorem Spells.append {more moreplain : List UInt8} (h : Spells written plain)
    (hmore : Spells more moreplain) : Spells (written ++ more) (plain ++ moreplain) := by
  obtain ⟨n, hn, h⟩ := h
  obtain ⟨m, hm, hmore⟩ := hmore
  refine ⟨m + n, by rw [List.length_append]; omega, fun fuel t rest out c hrest => ?_⟩
  rw [List.append_assoc, List.append_assoc, ← Nat.add_assoc]
  apply h
  apply hmore
  rw [Nat.add_assoc, ← List.length_append]
  exact hrest

/-- A string ends at its closing quote. -/
theorem stringBytes_of_spells (h : Spells written plain) {fuel : Nat}
    (hfuel : written.length < fuel) (t : Nat) (rest : List UInt8) :
    stringBytes fuel ⟨t, written ++ 0x22 :: rest⟩ =
      .ok (plain, ⟨t + written.length + 1, rest⟩) := by
  obtain ⟨n, hn, h⟩ := h
  have hquote : stringBytes (fuel - n - 1 + 1) ⟨t + written.length, 0x22 :: rest⟩ =
      .ok ([], ⟨t + written.length + 1, rest⟩) := by
    rw [stringBytes.eq_3 _ _ 0x22 rfl, if_pos rfl, drop_one_cons]
  have hread := h _ t _ _ _ hquote
  rwa [show fuel - n - 1 + 1 + n = fuel by omega, List.append_nil] at hread

/-! ### What stands in a string -/

theorem spells_byte (hquote : b ≠ 0x22) (hescape : b ≠ 0x5C) (hcontrol : 0x20 ≤ b.toNat) :
    Spells [b] [b] := by
  refine ⟨1, Nat.le_refl 1, fun fuel t rest out c hrest => ?_⟩
  have hb : ¬ b < 0x20 := by
    have hspace : (0x20 : UInt8).toNat = 0x20 := rfl
    rw [UInt8.lt_iff_toNat_lt]
    omega
  rw [List.singleton_append, stringBytes.eq_3 _ _ b rfl, if_neg hquote, if_neg hescape,
    if_neg hb, drop_one_cons]
  rw [List.length_singleton] at hrest
  simp only [bind, Except.bind, hrest]
  rfl

/-- Bytes that are neither quote nor backslash nor control characters stand for
themselves. -/
theorem spells_self (h : ∀ b ∈ plain, b ≠ 0x22 ∧ b ≠ 0x5C ∧ 0x20 ≤ b.toNat) :
    Spells plain plain := by
  induction plain with
  | nil => exact spells_nil
  | cons b plain ih =>
    obtain ⟨hquote, hescape, hcontrol⟩ := h b List.mem_cons_self
    exact (spells_byte hquote hescape hcontrol).append
      (ih fun x hx => h x (List.mem_cons_of_mem b hx))

theorem spells_escape
    (h : ∀ t rest, escape ⟨t, written ++ rest⟩ = .ok (plain, ⟨t + written.length, rest⟩)) :
    Spells (0x5C :: written) plain := by
  refine ⟨1, by simp, fun fuel t rest out c hrest => ?_⟩
  rw [List.cons_append, stringBytes.eq_3 _ _ 0x5C rfl, if_neg (by decide), if_pos rfl,
    drop_one_cons, h]
  rw [List.length_cons, Nat.add_comm written.length 1, ← Nat.add_assoc] at hrest
  simp only [bind, Except.bind, hrest]
  rfl

/-- The escapes of one letter. -/
theorem spells_letter
    (h : (x, y) ∈ [((0x22 : UInt8), (0x22 : UInt8)), (0x5C, 0x5C), (0x62, 0x08), (0x66, 0x0C),
      (0x6E, 0x0A), (0x72, 0x0D), (0x74, 0x09)]) : Spells [0x5C, x] [y] := by
  refine spells_escape fun t rest => ?_
  simp only [List.mem_cons, Prod.mk.injEq, List.not_mem_nil, or_false] at h
  rcases h with ⟨rfl, rfl⟩ | ⟨rfl, rfl⟩ | ⟨rfl, rfl⟩ | ⟨rfl, rfl⟩ | ⟨rfl, rfl⟩ | ⟨rfl, rfl⟩ |
      ⟨rfl, rfl⟩ <;>
    exact congrArg (fun c => Except.ok (_, c)) drop_one_cons

theorem hex4_encode (hlength : ds.length = 4) (hascii : ∀ c ∈ ds, c.toNat ≤ 0x7F)
    (hread : Decimal.read? 16 Decimal.hexDigit? ds = some n) (t : Nat) (rest : List UInt8) :
    hex4 ⟨t, encode ds ++ rest⟩ = .ok (n, ⟨t + 4, rest⟩) := by
  have hback := map_ofNat_encode hascii
  have hbytes : (encode ds).length = 4 := by rw [encode_of_ascii hascii, List.length_map, hlength]
  generalize encode ds = bytes at hback hbytes
  match bytes, hbytes with
  | [b₁, b₂, b₃, b₄], _ =>
    simp only [hex4, List.cons_append, List.nil_append]
    rw [hback, hread]
    exact congrArg (fun c => Except.ok (n, c)) (drop_append t [b₁, b₂, b₃, b₄] rest)

/-- The escape of a character by its code point. -/
theorem spells_code (hlength : ds.length = 4) (hascii : ∀ c ∈ ds, c.toNat ≤ 0x7F)
    (hread : Decimal.read? 16 Decimal.hexDigit? ds = some n) (hn : n < 0xD800) :
    Spells (0x5C :: 0x75 :: encode ds) (String.utf8EncodeChar (Char.ofNat n)) := by
  refine spells_escape fun t rest => ?_
  have hbytes : (0x75 :: encode ds).length = 5 := by
    rw [encode_of_ascii hascii, List.length_cons, List.length_map, hlength]
  have hescape : escape ⟨t, 0x75 :: (encode ds ++ rest)⟩ =
      unicodeEscape ⟨t + 1, encode ds ++ rest⟩ :=
    congrArg unicodeEscape drop_one_cons
  rw [List.cons_append, hescape, unicodeEscape, hex4_encode hlength hascii hread, hbytes]
  simp only [bind, Except.bind]
  rw [if_neg (by omega), if_neg (by omega)]

/-! ### Strings as they are written -/

theorem spells_escapeChar (c : Char) :
    Spells (encode (Headless.escapeChar c)) (String.utf8EncodeChar c) := by
  fun_cases Headless.escapeChar c with
  | case1 | case2 | case3 | case4 | case5 | case6 | case7 => exact spells_letter (by decide)
  | case8 _ hcontrol =>
    obtain ⟨hlength, hascii, hread⟩ := Decimal.read?_fourDigits hcontrol
    have hcode := spells_code hlength (fun d hd => (hascii d hd).2) hread (by omega)
    rw [Char.ofNat_toNat] at hcode
    rw [if_pos hcontrol]
    exact hcode
  | case9 _ hcontrol hquote hescape =>
    rw [if_neg hcontrol, encode_cons, encode_nil, List.append_nil]
    refine spells_self fun b hb => ?_
    by_cases hascii : c.toNat ≤ 0x7F
    · rw [encodeChar_of_ascii hascii, List.mem_singleton] at hb
      have hbyte : b.toNat = c.toNat := by rw [hb, toNat_ofNat_toNat hascii]
      refine ⟨?_, ?_, by omega⟩
      · rintro rfl
        exact hquote (Char.toNat_inj.mp hbyte.symm)
      · rintro rfl
        exact hescape (Char.toNat_inj.mp hbyte.symm)
    · have hbyte := le_of_mem_encodeChar (by omega) hb
      simp only [ne_eq, ← UInt8.toNat_inj, UInt8.reduceToNat]
      omega

theorem spells_string (cs : List Char) :
    Spells (encode (cs.flatMap Headless.escapeChar)) (encode cs) := by
  induction cs with
  | nil => exact spells_nil
  | cons c cs ih =>
    rw [List.flatMap_cons, encode_append, encode_cons]
    exact (spells_escapeChar c).append ih

/-- A string starts with its quote. -/
theorem exists_encode_string (s : String) :
    ∃ more, encode (Headless.string s).toList = 0x22 :: more := by
  rw [Headless.string, String.toList_ofList]
  exact ⟨_, rfl⟩

/-- A string is read as it was, whatever follows it. -/
theorem string_string (s : String) (t : Nat) (rest : List UInt8) :
    (⟨t, encode (Headless.string s).toList ++ rest⟩ : Cursor).string =
      .ok (s, ⟨t + (encode (Headless.string s).toList).length, rest⟩) := by
  have hspells := spells_string s.toList
  have hbytes : encode (Headless.string s).toList =
      0x22 :: (encode (s.toList.flatMap Headless.escapeChar) ++ [0x22]) := by
    rw [Headless.string, String.toList_ofList, List.cons_append, encode_cons, encode_append]
    rfl
  generalize encode (s.toList.flatMap Headless.escapeChar) = written at hspells hbytes
  have hfuel : written.length < (0x22 :: (written ++ [0x22] ++ rest)).length + 1 := by
    simp only [List.length_cons, List.length_append]
    omega
  have hread := stringBytes_of_spells hspells hfuel (t + 1) rest
  rw [hbytes, List.cons_append, string, drop_one_cons]
  rw [List.append_assoc, List.singleton_append] at hread ⊢
  simp only [bind, Except.bind, hread, decodeLossy_encode, String.ofList_toList]
  have hend : t + 1 + written.length + 1 = t + (0x22 :: (written ++ [0x22])).length := by
    simp only [List.length_cons, List.length_append, List.length_nil]
    omega
  rw [hend]
  rfl

end Provision.Json.Cursor
