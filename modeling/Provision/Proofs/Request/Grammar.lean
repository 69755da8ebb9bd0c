/-
The lines that are install commands.

What stands behind the verb is cut into arguments, and these decide: four or six
of them with the name of a protocol in front are a request, and everything else
is a fault (`Reading`).  There is exactly one reading of every list of arguments,
and `decode` gives it (`reading_decode`).

The verb is taken off before the line is cut, so nothing has to stand between it
and the first argument (`Cut`).  Where it stands as a word of its own, the lines
that are accepted are those of the documented grammar.

Main result: `decode_grammar`.
-/
import Provision.Proofs.Request.Wire

namespace Provision.Request.Command

variable {line name : String} {rest : List Char} {args : List String} {r : Request}
  {fault : Fault} {p : Protocol}

/-! ### Names of protocols -/

/-- A text with its ASCII letters in lower case. -/
def lowered (name : String) : String :=
  String.ofList (name.toList.map Char.toLower)

/-- The word is the name of the protocol, in any ASCII case. -/
def Names (name : String) (p : Protocol) : Prop :=
  lowered name = p.wireName

theorem Names.unique {q : Protocol} (h : Names name p) (h' : Names name q) : p = q := by
  have heq : p.wireName = q.wireName := h.symm.trans h'
  revert heq
  cases p <;> cases q <;> decide

theorem ofWireName?_eq_some_iff : Protocol.ofWireName? name = some p ↔ name = p.wireName := by
  constructor
  · intro h
    have hfound := List.find?_some h
    exact (of_decide_eq_true hfound).symm
  · rintro rfl
    cases p <;> rfl

/-- A word has no blanks to be trimmed off. -/
theorem normalName_of_isWord (h : Text.IsWord name.toList) :
    Protocol.normalName name = lowered name := by
  rw [Protocol.normalName, Text.trimList_of_isWord h, lowered]

theorem protocol_eq_ok (h : Text.IsWord name.toList) (hp : Names name p) :
    protocol name = .ok p := by
  have hfound : Protocol.ofName? name = some p := by
    rw [Protocol.ofName?, normalName_of_isWord h]
    exact ofWireName?_eq_some_iff.mpr hp
  rw [protocol, hfound]

theorem protocol_eq_error (h : Text.IsWord name.toList) (hp : ∀ p, ¬ Names name p) :
    protocol name = .error (.unknownProtocol (lowered name)) := by
  have hnone : Protocol.ofName? name = none := by
    rw [Protocol.ofName?, normalName_of_isWord h, Option.eq_none_iff_forall_not_mem]
    intro p hfound
    exact hp p (ofWireName?_eq_some_iff.mp hfound)
  rw [protocol, hnone, normalName_of_isWord h]

/-! ### Arguments -/

/-- What a list of arguments comes to. -/
inductive Reading : List String → Except Fault Request → Prop
  | plain {name address username password : String} {p : Protocol} : Names name p →
      Reading [name, address, username, password] (.ok ⟨p, address, username, password, none⟩)
  | withAccount {name address username password user secret : String} {p : Protocol} :
      Names name p →
      Reading [name, address, username, password, user, secret]
        (.ok ⟨p, address, username, password, some ⟨user, secret⟩⟩)
  /-- Only the name is wrong. -/
  | misnamed {name : String} {args : List String} : args.length = 3 ∨ args.length = 5 →
      (∀ p, ¬ Names name p) →
      Reading (name :: args) (.error (.unknownProtocol (lowered name)))
  | miscounted {args : List String} : args.length ≠ 4 → args.length ≠ 6 →
      Reading args (.error (.argumentCount args.length))

theorem Reading.unique {x y : Except Fault Request} (h : Reading args x) (h' : Reading args y) :
    x = y := by
  cases h with
  | plain hp =>
    cases h' with
    | plain hq => rw [hp.unique hq]
    | misnamed _ hnone => exact absurd hp (hnone _)
    | miscounted hfour => exact absurd rfl hfour
  | withAccount hp =>
    cases h' with
    | withAccount hq => rw [hp.unique hq]
    | misnamed _ hnone => exact absurd hp (hnone _)
    | miscounted _ hsix => exact absurd rfl hsix
  | misnamed hcount hnone =>
    cases h' with
    | plain hq | withAccount hq => exact absurd hq (hnone _)
    | misnamed => rfl
    | miscounted hfour hsix => rcases hcount with h | h <;> simp [h] at hfour hsix
  | miscounted hfour hsix =>
    cases h' with
    | plain => exact absurd rfl hfour
    | withAccount => exact absurd rfl hsix
    | misnamed hcount => rcases hcount with h | h <;> simp [h] at hfour hsix
    | miscounted => rfl

/-- The words of a text. -/
def wordsOf (cs : List Char) : List String :=
  (Text.words cs).map String.ofList

theorem isWord_of_mem_wordsOf {s : String} (h : s ∈ wordsOf rest) : Text.IsWord s.toList := by
  obtain ⟨w, hw, rfl⟩ := List.mem_map.mp h
  rw [String.toList_ofList]
  exact Text.isWord_of_mem_words hw

/-- Of the right number of arguments, only the name can be wrong. -/
theorem reading_of_name (h : Text.IsWord name.toList) (hcount : args.length = 3 ∨ args.length = 5)
    {make : Protocol → Request}
    (hmake : ∀ p, Names name p → Reading (name :: args) (.ok (make p))) :
    Reading (name :: args) (do return make (← protocol name)) := by
  by_cases hp : ∃ p, Names name p
  · obtain ⟨p, hp⟩ := hp
    rw [protocol_eq_ok h hp]
    exact hmake p hp
  · have hnone : ∀ p, ¬ Names name p := fun p hq => hp ⟨p, hq⟩
    rw [protocol_eq_error h hnone]
    exact .misnamed hcount hnone

/-- Behind the verb, `decode` reads the arguments. -/
theorem reading_decode (h : line.toList = verb.toList ++ rest) :
    Reading (wordsOf rest) (decode line) := by
  have hword : ∀ s ∈ wordsOf rest, Text.IsWord s.toList := fun s hs => isWord_of_mem_wordsOf hs
  rw [decode, h, dropStart?_append]
  dsimp only
  rw [← wordsOf]
  generalize wordsOf rest = args at hword ⊢
  split
  · exact reading_of_name (hword _ List.mem_cons_self) (.inl rfl) fun _ hp => .plain hp
  · exact reading_of_name (hword _ List.mem_cons_self) (.inr rfl) fun _ hp => .withAccount hp
  · rename_i hfour hsix
    apply Reading.miscounted
    · intro hlen
      obtain ⟨a, b, c, d, rfl⟩ := List.length_eq_four.mp hlen
      exact hfour a b c d rfl
    · intro hlen
      rcases args with - | ⟨a, - | ⟨b, args⟩⟩ <;> simp at hlen
      obtain ⟨c, d, e, f, rfl⟩ := List.length_eq_four.mp hlen
      exact hsix a b c d e f rfl

/-! ### Where the arguments begin -/

/-- What the words of a line leave behind the verb.  The verb is the first word,
or the first argument is written onto it. -/
inductive Cut (line : String) : List String → Prop
  | apart {args : List String} : wordsOf line.toList = verb :: args → Cut line args
  | onto {arg : String} {args : List String} : arg ≠ "" →
      wordsOf line.toList = (verb ++ arg) :: args → Cut line (arg :: args)

theorem isWord_verb : Text.IsWord verb.toList := by
  decide

theorem Cut.unique {args' : List String} (h : Cut line args) (h' : Cut line args') :
    args = args' := by
  have hne : ∀ {arg : String}, arg ≠ "" → verb ≠ verb ++ arg := by
    intro arg harg heq
    apply harg
    have hlist := congrArg String.toList heq
    rw [String.toList_append, List.self_eq_append_right] at hlist
    exact String.toList_eq_nil_iff.mp hlist
  cases h with
  | apart hwords =>
    cases h' with
    | apart hwords' => exact (List.cons.inj (hwords.symm.trans hwords')).2
    | onto harg hwords' => exact absurd (List.cons.inj (hwords.symm.trans hwords')).1 (hne harg)
  | onto harg hwords =>
    cases h' with
    | apart hwords' => exact absurd (List.cons.inj (hwords'.symm.trans hwords)).1 (hne harg)
    | onto _ hwords' =>
      obtain ⟨hfirst, hargs⟩ := List.cons.inj (hwords.symm.trans hwords')
      have hlist := congrArg String.toList hfirst
      rw [String.toList_append, String.toList_append, List.append_cancel_left_eq] at hlist
      rw [String.toList_inj.mp hlist, hargs]

/-- The line is cut into the words behind the verb. -/
theorem cut_wordsOf (h : line.toList = verb.toList ++ rest) : Cut line (wordsOf rest) := by
  by_cases hblank : ∀ c cs, rest = c :: cs → Text.isBlank c = true
  · apply Cut.apart
    rw [h, wordsOf, Text.words_append isWord_verb hblank, List.map_cons, String.ofList_toList]
    rfl
  · -- The line goes on behind the verb without a blank, so with an argument.
    simp only [not_forall] at hblank
    obtain ⟨c, cs, rfl, hc⟩ := hblank
    have hfree : Text.isBlank c = false := by simpa using hc
    have hwords : Text.words (c :: cs) = _ := Text.words_cons_of_not_blank hfree
    have hline := Text.words_append_word isWord_verb
      (fun d ds heq => by cases heq; exact hfree) hwords
    rw [wordsOf, hwords]
    apply Cut.onto
    · simp
    · rw [h, wordsOf, hline]
      simp

theorem cut_iff (h : line.toList = verb.toList ++ rest) : Cut line args ↔ args = wordsOf rest := by
  constructor
  · intro hcut
    exact hcut.unique (cut_wordsOf h)
  · rintro rfl
    exact cut_wordsOf h

/-! ### Lines -/

theorem dropStart?_eq_none_iff {start cs : List Char} :
    dropStart? start cs = none ↔ ¬ start <+: cs := by
  induction start generalizing cs with
  | nil => cases cs <;> simp [dropStart?]
  | cons s start ih =>
    cases cs with
    | nil => simp [dropStart?]
    | cons c cs => by_cases h : s = c <;> simp [dropStart?, h, ih, List.cons_prefix_cons]

/-- A line without the verb is not looked at. -/
theorem decode_of_otherVerb (h : ¬ verb.toList <+: line.toList) :
    decode line = .error (.otherVerb line) := by
  rw [decode, dropStart?_eq_none_iff.mpr h]

/-- Of a line with the verb, `decode` gives the one reading of what it is cut
into. -/
theorem decode_eq_iff (h : verb.toList <+: line.toList) {x : Except Fault Request} :
    decode line = x ↔ ∃ args, Cut line args ∧ Reading args x := by
  obtain ⟨rest, hrest⟩ := h
  constructor
  · rintro rfl
    exact ⟨_, cut_wordsOf hrest.symm, reading_decode hrest.symm⟩
  · rintro ⟨args, hcut, hreading⟩
    rw [(cut_iff hrest.symm).mp hcut] at hreading
    exact (reading_decode hrest.symm).unique hreading

/-- Only the name of the protocol is wrong. -/
def Misnamed (line : String) : Prop :=
  verb.toList <+: line.toList ∧ ∃ name args, Cut line (name :: args) ∧
    (args.length = 3 ∨ args.length = 5) ∧ ∀ p, ¬ Names name p

/-- That the name is wrong is the one fault that is an error of validation. -/
theorem error_of_decode (h : decode line = .error fault) :
    Misnamed line ∧ (∃ reason, fault.error = .validation "Protocol" reason) ∨
      ¬ Misnamed line ∧ ∃ message, fault.error = .protocol message := by
  by_cases hverb : verb.toList <+: line.toList
  · obtain ⟨args, hcut, hreading⟩ := (decode_eq_iff hverb).mp h
    cases hreading with
    | misnamed hcount hnone => exact .inl ⟨⟨hverb, _, _, hcut, hcount, hnone⟩, _, rfl⟩
    | miscounted hfour hsix =>
      refine .inr ⟨?_, _, rfl⟩
      rintro ⟨-, name, args', hcut', hcount, -⟩
      rw [hcut.unique hcut'] at hfour hsix
      rcases hcount with hcount | hcount <;> simp [hcount] at hfour hsix
  · rw [decode_of_otherVerb hverb] at h
    cases h
    exact .inr ⟨fun hmisnamed => hverb hmisnamed.1, _, rfl⟩

/-- If the first word is no longer than the verb, the arguments are the words
behind it. -/
theorem cut_iff_of_short (h : ∀ w ∈ (wordsOf line.toList).head?, w.length ≤ verb.length) :
    Cut line args ↔ wordsOf line.toList = verb :: args := by
  constructor
  · intro hcut
    cases hcut with
    | apart hwords => exact hwords
    | @onto arg args harg hwords =>
      have hlen := h (verb ++ arg) (by rw [hwords]; rfl)
      rw [String.length_append] at hlen
      have hzero : arg.length = 0 := by omega
      exact absurd (String.length_eq_zero_iff.mp hzero) harg
  · exact .apart

/-- Which lines are install commands.  A line is accepted exactly if it starts
with the verb and what it is cut into behind the verb is the name of a protocol, in any
ASCII case, and three or five more arguments; these are the fields of the
request, in order.  A line without the verb is rejected as such, and any other one for
what its arguments come to.  The error is one of validation exactly if
the number of arguments is right and only the name is unknown, and one of the
protocol otherwise.  Where the first word is no longer than the verb, the arguments
are the words behind it; but an argument that is written onto the verb is read as
well. -/
theorem decode_grammar (line : String) :
    (∀ r, decode line = .ok r ↔
      verb.toList <+: line.toList ∧ ∃ args, Cut line args ∧ Reading args (.ok r)) ∧
    (∀ fault, decode line = .error fault ↔
      ¬ verb.toList <+: line.toList ∧ fault = .otherVerb line ∨
        verb.toList <+: line.toList ∧ ∃ args, Cut line args ∧ Reading args (.error fault)) ∧
    (∀ fault, decode line = .error fault →
      Misnamed line ∧ (∃ reason, fault.error = .validation "Protocol" reason) ∨
        ¬ Misnamed line ∧ ∃ message, fault.error = .protocol message) ∧
    ((∀ w ∈ (wordsOf line.toList).head?, w.length ≤ verb.length) →
      (∀ r, decode line = .ok r ↔ verb.toList <+: line.toList ∧
        ∃ args, wordsOf line.toList = verb :: args ∧ Reading args (.ok r)) ∧
      (Misnamed line ↔ verb.toList <+: line.toList ∧
        ∃ name args, wordsOf line.toList = verb :: name :: args ∧
          (args.length = 3 ∨ args.length = 5) ∧ ∀ p, ¬ Names name p)) := by
  have hok : ∀ r, decode line = .ok r ↔
      verb.toList <+: line.toList ∧ ∃ args, Cut line args ∧ Reading args (.ok r) := by
    intro r
    by_cases hverb : verb.toList <+: line.toList
    · rw [decode_eq_iff hverb, and_iff_right hverb]
    · simp [decode_of_otherVerb hverb, hverb]
  refine ⟨hok, fun fault => ?_, fun fault h => error_of_decode h, fun hshort => ⟨fun r => ?_, ?_⟩⟩
  · by_cases hverb : verb.toList <+: line.toList
    · rw [decode_eq_iff hverb]
      simp [hverb]
    · rw [decode_of_otherVerb hverb]
      simp [hverb, eq_comm]
  · rw [hok r]
    simp only [cut_iff_of_short hshort]
  · simp only [Misnamed, cut_iff_of_short hshort]

/-- It is not true that the verb has to be a word of its own. -/
theorem verb_runs_on :
    ¬ ∀ line r, decode line = .ok r → ∃ args, wordsOf line.toList = verb :: args := by
  intro h
  have haccepted : decode "installoutline 1.2.3.4 bob secret" =
      .ok ⟨.outline, "1.2.3.4", "bob", "secret", none⟩ := by decide +kernel
  have hwords : wordsOf "installoutline 1.2.3.4 bob secret".toList =
      ["installoutline", "1.2.3.4", "bob", "secret"] := by decide +kernel
  obtain ⟨args, hargs⟩ := h _ _ haccepted
  rw [hwords] at hargs
  exact absurd (List.cons.inj hargs).1 (by decide)

end Provision.Request.Command
