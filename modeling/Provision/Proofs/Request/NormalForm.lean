/-
The normal form of an install command.

To decode a line and encode what it says again gives a line of the same
arguments, which stand behind the verb with one space before each and the wire
name of the protocol first (`wordsOf_encode`).  That line says the same as the
one that was decoded, so to do it twice changes nothing more; and of the requests
that come back from their lines, no two have the same one.

Main result: `normal_form`.
-/
import Provision.Proofs.Request.Grammar

namespace Provision.Request.Command

variable {line : String} {args : List String} {r : Request}

/-- A word, as a text. -/
theorem isWord_toList_iff {s : String} :
    Text.IsWord s.toList ↔ s ≠ "" ∧ ∀ c ∈ s.toList, Text.isBlank c = false := by
  rw [Text.IsWord, Ne, String.toList_eq_nil_iff]

/-- The words of a command are the verb and the arguments. -/
theorem wordsOf_encode (h : ∀ s ∈ r.texts, Text.IsWord s.toList) :
    wordsOf (encode r).toList = verb :: arguments r := by
  rw [wordsOf, toList_encode, Text.words_append isWord_verb fun _ _ => Text.isBlank_of_spaced,
    List.map_cons, words_arguments h, String.ofList_toList]

/-- Arguments that are read as a request are its own, but for how the name of the
protocol is spelled. -/
theorem Reading.eq_arguments (h : Reading args (.ok r)) :
    ∃ name rest, args = name :: rest ∧ Names name r.protocol ∧
      arguments r = r.protocol.wireName :: rest := by
  cases h with
  | plain hp | withAccount hp => exact ⟨_, _, rfl, hp, rfl⟩

/-- What was read from a line is written with the same arguments. -/
theorem arguments_of_decode (h : decode line = .ok r) :
    ∃ name rest, Cut line (name :: rest) ∧ Names name r.protocol ∧
      wordsOf (encode r).toList = verb :: r.protocol.wireName :: rest := by
  have hverb : verb.toList <+: line.toList := by
    by_contra hother
    rw [decode_of_otherVerb hother] at h
    cases h
  obtain ⟨args, hcut, hreading⟩ := (decode_eq_iff hverb).mp h
  obtain ⟨name, rest, rfl, hname, harguments⟩ := hreading.eq_arguments
  refine ⟨name, rest, hcut, hname, ?_⟩
  rw [wordsOf_encode (isWord_of_decode h), harguments]

/-- Decoding and encoding again is a normal form.  Whatever line is decoded, with
any blanks in any places and any case of the protocol's name: the request is
written as the verb, the wire name of the protocol and the other arguments of the
line, with single spaces in between, and that line is decoded to the same
request.  A request comes back from its line exactly if none of its texts, those of
the account included, is empty or holds a blank; and such requests are written
differently if they differ. -/
theorem normal_form :
    (∀ line r, decode line = .ok r →
      (∃ name rest, Cut line (name :: rest) ∧ Names name r.protocol ∧
        wordsOf (encode r).toList = verb :: r.protocol.wireName :: rest) ∧
      encode r = String.intercalate " " (wordsOf (encode r).toList) ∧
      decode (encode r) = .ok r) ∧
    (∀ r, decode (encode r) = .ok r ↔
      ∀ s ∈ r.texts, s ≠ "" ∧ ∀ c ∈ s.toList, Text.isBlank c = false) ∧
    ∀ r r' : Request, (∀ s ∈ r.texts, s ≠ "" ∧ ∀ c ∈ s.toList, Text.isBlank c = false) →
      (∀ s ∈ r'.texts, s ≠ "" ∧ ∀ c ∈ s.toList, Text.isBlank c = false) →
      encode r = encode r' → r = r' := by
  have hsurvives : ∀ r, decode (encode r) = .ok r ↔
      ∀ s ∈ r.texts, s ≠ "" ∧ ∀ c ∈ s.toList, Text.isBlank c = false := by
    intro r
    rw [decode_encode_iff]
    simp only [isWord_toList_iff]
  refine ⟨fun line r h => ?_, hsurvives, fun r r' hr hr' heq => ?_⟩
  · have hwords := isWord_of_decode h
    refine ⟨arguments_of_decode h, ?_, decode_encode hwords⟩
    rw [wordsOf_encode hwords]
    rfl
  · -- Both come back from the same line.
    have hback := (hsurvives r).mpr hr
    rw [heq, (hsurvives r').mpr hr'] at hback
    exact (Except.ok.inj hback).symm

example : (decode "install\u3000XRAY h \u00a0 u\tp ").map encode = .ok "install xray h u p" := by
  decide +kernel

end Provision.Request.Command
