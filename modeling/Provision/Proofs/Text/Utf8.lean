/-
UTF-8 is read back.

`Sequence` lists the well-formed byte sequences by their length, with the code
point of each.  A character is read off the front of some bytes exactly if they
start with such a sequence (`readChar_of_sequence`, `sequence_of_readChar`), and
these sequences are the ones that characters are written as (`sequence_encode`,
`encode_of_sequence`).

So text that was written is read back (`decodeLossy_encode_append`), and bytes
that are read without a replacement character are the byte form of what was read
(`encode_decodeLossy`): a text that has no replacement character in it is read
from its byte form and from nothing else (`decodeLossy_eq_iff`).
-/
import Mathlib.Data.List.Basic
import Provision.Text.Utf8

namespace Provision.Text.Utf8

variable {b x : UInt8} {bytes rest more : List UInt8} {c : Char} {cs ds : List Char}
  {r : ByteRange} {ranges : List ByteRange} {acc n : Nat}

/-- A byte that continues a character. -/
def IsTail (b : UInt8) : Prop :=
  0x80 ≤ b.toNat ∧ b.toNat ≤ 0xBF

/-- The leading byte `b` and the bytes after it are one character, which has the
code point `n`. -/
inductive Sequence (b : UInt8) : List UInt8 → Nat → Prop
  | one : b.toNat ≤ 0x7F → Sequence b [] b.toNat
  | two {x : UInt8} : 0xC2 ≤ b.toNat → b.toNat ≤ 0xDF → IsTail x →
      Sequence b [x] (b.toNat % 32 * 64 + x.toNat % 64)
  | three {x y : UInt8} : 0xE0 ≤ b.toNat → b.toNat ≤ 0xEF → IsTail x → IsTail y →
      (b.toNat = 0xE0 → 0xA0 ≤ x.toNat) → (b.toNat = 0xED → x.toNat ≤ 0x9F) →
      Sequence b [x, y] ((b.toNat % 16 * 64 + x.toNat % 64) * 64 + y.toNat % 64)
  | four {x y z : UInt8} : 0xF0 ≤ b.toNat → b.toNat ≤ 0xF4 → IsTail x → IsTail y → IsTail z →
      (b.toNat = 0xF0 → 0x90 ≤ x.toNat) → (b.toNat = 0xF4 → x.toNat ≤ 0x8F) →
      Sequence b [x, y, z]
        (((b.toNat % 8 * 64 + x.toNat % 64) * 64 + y.toNat % 64) * 64 + z.toNat % 64)

/-! ### Reading one character -/

theorem ByteRange.contains_iff :
    r.contains b = true ↔ r.low.toNat ≤ b.toNat ∧ b.toNat ≤ r.high.toNat := by
  simp [ByteRange.contains, UInt8.le_iff_toNat_le]

theorem contains_tail_iff : tail.contains b = true ↔ IsTail b :=
  ByteRange.contains_iff

/-- The range of the second byte, which depends on the leading one. -/
theorem contains_ite_iff {p q : Prop} [Decidable p] [Decidable q] (low low' high high' : UInt8) :
    (⟨if p then low else low', if q then high else high'⟩ : ByteRange).contains x = true ↔
      (if p then low.toNat else low'.toNat) ≤ x.toNat ∧
        x.toNat ≤ (if q then high.toNat else high'.toNat) := by
  rw [ByteRange.contains_iff, apply_ite UInt8.toNat, apply_ite UInt8.toNat]

theorem readTail_nil_iff : readTail [] acc bytes = (some n, rest) ↔ acc = n ∧ bytes = rest := by
  simp [readTail]

theorem readTail_cons_iff : readTail (r :: ranges) acc bytes = (some n, rest) ↔
    ∃ x more, bytes = x :: more ∧ r.contains x = true ∧
      readTail ranges (acc * 64 + x.toNat % 64) more = (some n, rest) := by
  cases bytes with
  | nil => simp [readTail]
  | cons x more => by_cases h : r.contains x = true <;> simp [readTail, h]

/-- The table of leading bytes, by the number of bytes that follow. -/
theorem continuations_eq_some_iff : continuations b = some ranges ↔
    b.toNat ≤ 0x7F ∧ ranges = [] ∨
    (0xC2 ≤ b.toNat ∧ b.toNat ≤ 0xDF) ∧ ranges = [tail] ∨
    (0xE0 ≤ b.toNat ∧ b.toNat ≤ 0xEF) ∧
      ranges = [⟨if b.toNat = 0xE0 then 0xA0 else 0x80, if b.toNat = 0xED then 0x9F else 0xBF⟩,
        tail] ∨
    (0xF0 ≤ b.toNat ∧ b.toNat ≤ 0xF4) ∧
      ranges = [⟨if b.toNat = 0xF0 then 0x90 else 0x80, if b.toNat = 0xF4 then 0x8F else 0xBF⟩,
        tail, tail] := by
  unfold continuations
  simp only [UInt8.le_iff_toNat_le, ← UInt8.toNat_inj, UInt8.reduceToNat]
  split_ifs <;> grind [tail]

theorem readChar_eq_some_iff : readChar b bytes = (some c, rest) ↔
    ∃ ranges n, continuations b = some ranges ∧
      readTail ranges (leadingBits ranges.length b) bytes = (some n, rest) ∧ Char.ofNat n = c := by
  rcases h : continuations b with - | ranges
  · simp [readChar, h]
  · rcases ht : readTail ranges (leadingBits ranges.length b) bytes with ⟨- | n, rest'⟩ <;>
      simp [readChar, h, ht, and_comm, and_assoc]

theorem readChar_of_sequence (h : Sequence b more n) (rest : List UInt8) :
    readChar b (more ++ rest) = (some (Char.ofNat n), rest) := by
  rw [readChar_eq_some_iff]
  simp only [continuations_eq_some_iff]
  cases h with
  | one hb => exact ⟨_, _, .inl ⟨hb, rfl⟩, rfl, rfl⟩
  | two hlow hhigh hx =>
    refine ⟨_, _, .inr (.inl ⟨⟨hlow, hhigh⟩, rfl⟩), ?_, rfl⟩
    simp only [readTail_cons_iff, readTail_nil_iff, contains_tail_iff]
    exact ⟨_, _, rfl, hx, rfl, rfl⟩
  | three hlow hhigh hx hy hleast hmost =>
    refine ⟨_, _, .inr (.inr (.inl ⟨⟨hlow, hhigh⟩, rfl⟩)), ?_, rfl⟩
    simp only [readTail_cons_iff, readTail_nil_iff, contains_tail_iff, contains_ite_iff]
    refine ⟨_, _, rfl, ?_, _, _, rfl, hy, rfl, rfl⟩
    grind [IsTail]
  | four hlow hhigh hx hy hz hleast hmost =>
    refine ⟨_, _, .inr (.inr (.inr ⟨⟨hlow, hhigh⟩, rfl⟩)), ?_, rfl⟩
    simp only [readTail_cons_iff, readTail_nil_iff, contains_tail_iff, contains_ite_iff]
    refine ⟨_, _, rfl, ?_, _, _, rfl, hy, _, _, rfl, hz, rfl, rfl⟩
    grind [IsTail]

theorem sequence_of_readChar (h : readChar b bytes = (some c, rest)) :
    ∃ more n, Sequence b more n ∧ bytes = more ++ rest ∧ Char.ofNat n = c := by
  obtain ⟨ranges, n, hb, ht, hc⟩ := readChar_eq_some_iff.mp h
  rcases continuations_eq_some_iff.mp hb with
      ⟨hone, rfl⟩ | ⟨⟨hlow, hhigh⟩, rfl⟩ | ⟨⟨hlow, hhigh⟩, rfl⟩ | ⟨⟨hlow, hhigh⟩, rfl⟩ <;>
    simp only [readTail_cons_iff, readTail_nil_iff, contains_tail_iff, contains_ite_iff] at ht
  · obtain ⟨rfl, rfl⟩ := ht
    exact ⟨[], _, .one hone, rfl, hc⟩
  · obtain ⟨x, more, rfl, hx, rfl, rfl⟩ := ht
    exact ⟨[x], _, .two hlow hhigh hx, rfl, hc⟩
  · obtain ⟨x, more, rfl, hx, y, more, rfl, hy, rfl, rfl⟩ := ht
    refine ⟨[x, y], _, .three hlow hhigh ?_ hy ?_ ?_, rfl, hc⟩ <;> grind [IsTail]
  · obtain ⟨x, more, rfl, hx, y, more, rfl, hy, z, more, rfl, hz, rfl, rfl⟩ := ht
    refine ⟨[x, y, z], _, .four hlow hhigh ?_ hy hz ?_ ?_, rfl, hc⟩ <;> grind [IsTail]

/-! ### Writing one character -/

theorem toNat_ofNat (h : n.isValidChar) : (Char.ofNat n).toNat = n := by
  rw [Char.ofNat, dif_pos h]
  rfl

/-- The ranges of the second byte leave out the surrogates, and what is too large. -/
theorem Sequence.isValidChar (h : Sequence b more n) : n.isValidChar := by
  cases h with
  | one | two =>
    left
    omega
  | three hlow hhigh hx hy hleast hmost =>
    simp only [IsTail] at hx hy
    by_cases hb : b.toNat ≤ 0xED
    · left
      omega
    · right
      omega
  | four hlow hhigh hx hy hz hleast hmost =>
    simp only [IsTail] at hx hy hz
    right
    omega

theorem encode_of_sequence (h : Sequence b more n) :
    String.utf8EncodeChar (Char.ofNat n) = b :: more := by
  have hn : (Char.ofNat n).val.toNat = n := toNat_ofNat h.isValidChar
  rw [String.utf8EncodeChar]
  simp only [hn]
  -- The number of bytes is read off the code point; each byte is then a matter of arithmetic.
  cases h with
  | one hb => rw [if_pos hb, UInt8.ofNat_toNat]
  | two hlow hhigh hx =>
    simp only [IsTail] at hx
    rw [if_neg (by omega), if_pos (by omega)]
    simp only [List.cons.injEq, ← UInt8.toNat_inj, UInt8.toNat_ofNat', and_true]
    omega
  | three hlow hhigh hx hy hleast hmost =>
    simp only [IsTail] at hx hy
    rw [if_neg (by omega), if_neg (by omega), if_pos (by omega)]
    simp only [List.cons.injEq, ← UInt8.toNat_inj, UInt8.toNat_ofNat', and_true]
    omega
  | four hlow hhigh hx hy hz hleast hmost =>
    simp only [IsTail] at hx hy hz
    rw [if_neg (by omega), if_neg (by omega), if_neg (by omega)]
    simp only [List.cons.injEq, ← UInt8.toNat_inj, UInt8.toNat_ofNat', and_true]
    omega

theorem sequence_encode (c : Char) :
    ∃ b more, String.utf8EncodeChar c = b :: more ∧ Sequence b more c.toNat := by
  have hvalid : c.toNat < 0xD800 ∨ 0xDFFF < c.toNat ∧ c.toNat < 0x110000 := c.valid
  have hbyte : ∀ n, (UInt8.ofNat n).toNat = n % 256 := fun n => UInt8.toNat_ofNat'
  rw [String.utf8EncodeChar, ← Char.toNat]
  generalize c.toNat = n at hvalid
  split_ifs with hone htwo hthree <;> refine ⟨_, _, rfl, ?_⟩
  · have hn : n = (UInt8.ofNat n).toNat := by
      rw [hbyte]
      omega
    rw [hn, UInt8.ofNat_toNat]
    exact .one (by omega)
  · have h := @Sequence.two (.ofNat (n / 64 % 32 + 0xC0)) (.ofNat (n % 64 + 0x80))
    simp only [IsTail, hbyte] at h
    convert h _ _ _ using 1 <;> omega
  · have h := @Sequence.three (.ofNat (n / 4096 % 16 + 0xE0)) (.ofNat (n / 64 % 64 + 0x80))
      (.ofNat (n % 64 + 0x80))
    simp only [IsTail, hbyte] at h
    convert h _ _ _ _ _ _ using 1 <;> omega
  · have h := @Sequence.four (.ofNat (n / 262144 % 8 + 0xF0)) (.ofNat (n / 4096 % 64 + 0x80))
      (.ofNat (n / 64 % 64 + 0x80)) (.ofNat (n % 64 + 0x80))
    simp only [IsTail, hbyte] at h
    convert h _ _ _ _ _ _ _ using 1 <;> omega

theorem encodeChar_of_ascii (h : c.toNat ≤ 0x7F) : String.utf8EncodeChar c = [.ofNat c.toNat] := by
  have hone : c.val.toNat ≤ 0x7F := h
  rw [String.utf8EncodeChar]
  simp only [if_pos hone]
  rfl

/-- The byte of an ASCII character has the same number. -/
theorem toNat_ofNat_toNat (h : c.toNat ≤ 0x7F) : (UInt8.ofNat c.toNat).toNat = c.toNat := by
  rw [UInt8.toNat_ofNat', Nat.mod_eq_of_lt (by omega)]

/-- The bytes of any other character are none of ASCII. -/
theorem le_of_mem_encodeChar (h : 0x7F < c.toNat) (hb : b ∈ String.utf8EncodeChar c) :
    0x80 ≤ b.toNat := by
  obtain ⟨b', more, hc, hsequence⟩ := sequence_encode c
  rw [hc] at hb
  generalize c.toNat = n at h hsequence
  cases hsequence <;> simp only [List.mem_cons, List.not_mem_nil, or_false] at hb <;>
    grind [IsTail]

/-- A character that was written is read, whatever follows. -/
theorem readChar_encode (h : String.utf8EncodeChar c = b :: more) (rest : List UInt8) :
    readChar b (more ++ rest) = (some c, rest) := by
  obtain ⟨b', more', heq, hsequence⟩ := sequence_encode c
  rw [h] at heq
  cases heq
  rw [readChar_of_sequence hsequence, Char.ofNat_toNat]

/-- A character that is read was written there. -/
theorem encode_of_readChar (h : readChar b bytes = (some c, rest)) :
    b :: bytes = String.utf8EncodeChar c ++ rest := by
  obtain ⟨more, n, hsequence, rfl, rfl⟩ := sequence_of_readChar h
  rw [encode_of_sequence hsequence, List.cons_append]

/-! ### Whole texts -/

@[simp] theorem encode_nil : encode [] = [] := rfl

@[simp] theorem encode_cons : encode (c :: cs) = String.utf8EncodeChar c ++ encode cs := rfl

@[simp] theorem encode_append : encode (cs ++ ds) = encode cs ++ encode ds :=
  List.flatMap_append

theorem encode_intercalate (css : List (List Char)) :
    encode (cs.intercalate css) = (encode cs).intercalate (css.map encode) := by
  induction css with
  | nil => rfl
  | cons ds css ih =>
    cases css with
    | nil => simp
    | cons es css =>
      rw [List.intercalate_cons_cons, encode_append, encode_append, ih, List.map_cons,
        List.map_cons, List.map_cons, List.intercalate_cons_cons]

theorem encode_of_ascii (h : ∀ c ∈ cs, c.toNat ≤ 0x7F) :
    encode cs = cs.map fun c => .ofNat c.toNat := by
  induction cs with
  | nil => rfl
  | cons c cs ih =>
    rw [encode_cons, encodeChar_of_ascii (h c List.mem_cons_self),
      ih fun d hd => h d (List.mem_cons_of_mem c hd)]
    rfl

/-- The bytes of ASCII text, taken as characters, are the text. -/
theorem map_ofNat_encode (h : ∀ c ∈ cs, c.toNat ≤ 0x7F) :
    (encode cs).map (fun b => Char.ofNat b.toNat) = cs := by
  rw [encode_of_ascii h, List.map_map]
  refine (List.map_congr_left fun c hc => ?_).trans (List.map_id cs)
  rw [Function.comp_apply, toNat_ofNat_toNat (h c hc), Char.ofNat_toNat, id]

theorem decodeLossy_encode_append (cs : List Char) (rest : List UInt8) :
    decodeLossy (encode cs ++ rest) = cs ++ decodeLossy rest := by
  induction cs with
  | nil => rfl
  | cons c cs ih =>
    obtain ⟨b, more, hc, -⟩ := sequence_encode c
    rw [encode_cons, hc, List.append_assoc, List.cons_append, decodeLossy, readChar_encode hc, ih]
    rfl

theorem decodeLossy_encode (cs : List Char) : decodeLossy (encode cs) = cs := by
  have h := decodeLossy_encode_append cs []
  rwa [List.append_nil, decodeLossy, List.append_nil] at h

/-- Two texts with one byte form are the same text. -/
theorem encode_injective : Function.Injective encode := fun cs ds h => by
  rw [← decodeLossy_encode cs, h, decodeLossy_encode]

/-- Bytes that are no text leave a replacement character behind. -/
theorem encode_decodeLossy (h : replacement ∉ decodeLossy bytes) :
    encode (decodeLossy bytes) = bytes := by
  fun_induction decodeLossy bytes with
  | case1 => rfl
  | case2 b bytes ih =>
    rcases hread : readChar b bytes with ⟨- | c, rest⟩
    · simp [hread] at h
    · simp only [hread, Option.getD_some, List.mem_cons, not_or] at h ih ⊢
      rw [encode_cons, ih h.2, encode_of_readChar hread]

theorem decodeLossy_eq_iff (h : replacement ∉ cs) : decodeLossy bytes = cs ↔ bytes = encode cs := by
  constructor
  · rintro rfl
    exact (encode_decodeLossy h).symm
  · rintro rfl
    exact decodeLossy_encode cs

end Provision.Text.Utf8
