/-
Which requests survive the wire.

A line carries words, so a request comes back from its install command exactly
if each of its texts is a word (`decode_encode_iff`).  One direction holds of
any line: whatever is read from it is made of words.  So no two texts that do
not fit can make up for each other.
-/
import Mathlib.Data.List.Basic
import Provision.Proofs.Text.Words
import Provision.Request.Command

namespace Provision.Request

/-- The texts of a request, as they stand in its command. -/
def texts (r : Request) : List String :=
  [r.address, r.username, r.password] ++
    match r.account with
    | some account => [account.username, account.password]
    | none => []

namespace Command

variable {r : Request} {line : String}

theorem toList_encode (r : Request) :
    (encode r).toList = verb.toList ++ Text.spaced ((arguments r).map String.toList) := by
  -- A separator between the parts is one before each part but the first.
  have key : ∀ (w : List Char) (ws : List (List Char)),
      [' '].intercalate (w :: ws) = w ++ Text.spaced ws := by
    intro w ws
    induction ws generalizing w with
    | nil => simp [Text.spaced]
    | cons v vs ih => simp [List.intercalate_cons_cons, ih, Text.spaced]
  rw [encode, String.toList_intercalate, List.map_cons]
  exact key _ _

theorem dropStart?_append (start cs : List Char) : dropStart? start (start ++ cs) = some cs := by
  induction start with
  | nil => cases cs <;> rfl
  | cons c start ih => simpa [dropStart?] using ih

theorem protocol_wireName (p : Protocol) : protocol p.wireName = .ok p := by
  cases p <;> decide

theorem isWord_wireName (p : Protocol) : Text.IsWord p.wireName.toList := by
  cases p <;> decide

/-- The words behind the verb are the arguments again. -/
theorem words_arguments (h : ∀ s ∈ r.texts, Text.IsWord s.toList) :
    (Text.words (Text.spaced ((arguments r).map String.toList))).map String.ofList =
      arguments r := by
  rw [Text.words_spaced, List.map_map]
  · exact List.map_id'' (fun s => String.ofList_toList) (arguments r)
  · intro w hw
    obtain ⟨s, hs, rfl⟩ := List.mem_map.mp hw
    rcases List.mem_cons.mp (show s ∈ r.protocol.wireName :: r.texts from hs) with rfl | hs
    · exact isWord_wireName r.protocol
    · exact h s hs

theorem decode_encode (h : ∀ s ∈ r.texts, Text.IsWord s.toList) : decode (encode r) = .ok r := by
  have hwords := words_arguments h
  obtain ⟨p, address, username, password, account⟩ := r
  rw [decode, toList_encode, dropStart?_append]
  dsimp only
  rw [hwords]
  rcases account with - | ⟨user, secret⟩ <;>
    simp [arguments, protocol_wireName, bind, Except.bind, pure, Except.pure]

/-- Whatever is read from a line, its texts are words. -/
theorem isWord_of_decode (h : decode line = .ok r) : ∀ s ∈ r.texts, Text.IsWord s.toList := by
  rw [decode] at h
  split at h
  · cases h
  · rename_i rest _
    have hword : ∀ s ∈ (Text.words rest).map String.ofList, Text.IsWord s.toList := by
      intro s hs
      obtain ⟨w, hw, rfl⟩ := List.mem_map.mp hs
      rw [String.toList_ofList]
      exact Text.isWord_of_mem_words hw
    split at h
    · rename_i name address username password heq
      rcases hp : protocol name with fault | p <;> rw [hp] at h <;> cases h
      rw [heq] at hword
      exact fun s hs => hword s (List.mem_cons_of_mem name hs)
    · rename_i name address username password user secret heq
      rcases hp : protocol name with fault | p <;> rw [hp] at h <;> cases h
      rw [heq] at hword
      exact fun s hs => hword s (List.mem_cons_of_mem name hs)
    · cases h

theorem decode_encode_iff (r : Request) :
    decode (encode r) = .ok r ↔ ∀ s ∈ r.texts, Text.IsWord s.toList :=
  ⟨isWord_of_decode, decode_encode⟩

end Command

end Provision.Request
