/-
What a task reports.

The reports of one task, in order, are the beginning of a conversation: a
failed handshake and the end it causes, or an opening, frames, and one end,
with a failure before it if there was one.  `Said` ties this to the stage of
the link, and every move keeps it (`Move.said`): also a task that was told to
end only stops in the middle of its conversation.
-/
import Provision.Proofs.Link.Move
import Provision.Session

namespace Provision

/-- The event that a report of the active link gives. -/
def Report.event : Report → Event
  | .opened => .opened
  | .frame p => .message p
  | .failed reason => .error reason
  | .ended info => .closed info

/-- The events of one connection, from the first to the last. -/
inductive Conversation : List Event → Prop
  /-- The handshake failed. -/
  | refused (reason : String) (info : CloseInfo) : Conversation [.error reason, .closed info]
  | ended (ps : List Payload) (info : CloseInfo) :
      Conversation (.opened :: ps.map Event.message ++ [.closed info])
  /-- Something failed on the way. -/
  | broken (ps : List Payload) (reason : String) (info : CloseInfo) :
      Conversation (.opened :: ps.map Event.message ++ [.error reason, .closed info])

/-- No conversation begins with a message. -/
theorem Conversation.not_prefix_message {whole : List Event} (h : Conversation whole)
    (p : Payload) : ¬ [.message p] <+: whole := by
  rintro ⟨more, rfl⟩
  cases h

/-- A connection opens once. -/
theorem Conversation.count_opened_le {whole : List Event} (h : Conversation whole) :
    whole.count .opened ≤ 1 := by
  have hmessages : ∀ ps : List Payload, (ps.map Event.message).count .opened = 0 := fun ps =>
    List.count_eq_zero.mpr (by simp)
  cases h <;> simp [hmessages]

/-- The beginning of a conversation, as a task reports it. -/
def Begun (reports : List Report) : Prop :=
  ∃ whole, Conversation whole ∧ reports.map Report.event <+: whole

theorem begun_nil : Begun [] :=
  ⟨_, .refused "" (.abnormal ""), List.nil_prefix⟩

theorem begun_opened {reports : List Report} {ps : List Payload}
    (h : reports.map Report.event = .opened :: ps.map Event.message) : Begun reports :=
  ⟨_, .ended ps (.abnormal ""), by rw [h]; exact List.prefix_append ..⟩

theorem begun_of_conversation {reports unsaid : List Report}
    (h : Conversation ((reports ++ unsaid).map Report.event)) : Begun reports :=
  ⟨_, h, by rw [List.map_append]; exact List.prefix_append ..⟩

namespace Link

variable {l l' : Link} {n : Network} {o : Link.Outcome} {reports : List Report}

/-- What a task has reported so far, at each of its stages. -/
def Said (l : Link) (reports : List Report) : Prop :=
  match l.stage with
  | .dialing | .waiting _ => reports = []
  | .live _ => ∃ ps, reports.map Report.event = .opened :: List.map Event.message ps
  | .ending _ unsaid => Conversation ((reports ++ unsaid).map Report.event)
  | .finished => Begun reports

theorem said_congr (h : l'.stage = l.stage) : l'.Said reports ↔ l.Said reports := by
  rw [Said, Said, h]

/-- At every stage, a conversation has been begun. -/
theorem Said.begun (h : l.Said reports) : Begun reports := by
  rcases hs : l.stage with - | gate | peer | ⟨peer, unsaid⟩ | - <;> simp only [Said, hs] at h
  · rw [h]
    exact begun_nil
  · rw [h]
    exact begun_nil
  · obtain ⟨ps, hps⟩ := h
    exact begun_opened hps
  · exact begun_of_conversation h
  · exact h

theorem said_hear (l : Link) (n : Network) (answer : Answer) :
    (l.hear n answer).1.Said (l.hear n answer).2.2.toList := by
  cases answer with
  | accept => exact ⟨[], rfl⟩
  | refuse reason => exact .refused _ _

/-- A conversation goes on with a frame, or comes to its end. -/
theorem said_absorb (l : Link) (n : Network) (peer : Nat) (item : Inbound)
    (hs : l.stage = .live peer) (h : l.Said reports) :
    (l.absorb n peer item).1.Said (reports ++ (l.absorb n peer item).2.2.toList) := by
  have hlive := h
  simp only [Said, hs] at hlive
  obtain ⟨ps, hps⟩ := hlive
  cases item with
  | message p =>
    simp only [Said, absorb, hs]
    exact ⟨ps ++ [p], by simp [hps, Report.event]⟩
  | close info =>
    show Conversation ((reports ++ [] ++ [Report.ended info]).map Report.event)
    rw [List.append_nil, List.map_append, hps]
    exact .ended ps info
  | failure error =>
    show Conversation ((reports ++ [] ++ Report.failure error).map Report.event)
    rw [List.append_nil, List.map_append, hps]
    exact .broken ps _ _

/-- Every move of a task goes on with its conversation, or leaves it. -/
theorem Move.said (hm : l.Move n o) (h : l.Said reports) :
    o.1.Said (reports ++ o.2.2.toList) := by
  have hat := h
  cases hm with
  | dial hs =>
    simp only [Said, hs] at hat
    subst hat
    rcases ha : n.attempt l.target with ⟨answer | gate, n'⟩ <;> simp only [Link.dial, ha]
    · exact said_hear l n' answer
    · rfl
  | dialInVain hs =>
    simp only [Said, hs] at hat
    subst hat
    rcases ha : n.attempt l.target with ⟨answer | gate, n'⟩ <;>
      simp only [Link.dialInVain, Link.desert, ha] <;> exact begun_nil
  | answered hs =>
    simp only [Said, hs] at hat
    subst hat
    exact said_hear l n _
  | desert | leave =>
    show Begun (reports ++ [])
    rw [List.append_nil]
    exact h.begun
  | absorb hs => exact said_absorb l n _ _ hs h
  | lose hs =>
    simp only [Said, hs] at hat
    obtain ⟨ps, hps⟩ := hat
    show Conversation ((reports ++ [] ++ [Report.ended _]).map Report.event)
    rw [List.append_nil, List.map_append, hps]
    exact .ended ps _
  | @transmit peer p _ hs =>
    rcases hw : n.write peer p with error | n'
    · -- A failed write breaks the conversation off; a successful one is not told.
      simp only [Said, hs] at hat
      obtain ⟨ps, hps⟩ := hat
      simp only [Link.transmit, hw]
      show Conversation ((reports ++ [] ++ Report.failure error).map Report.event)
      rw [List.append_nil, List.map_append, hps]
      exact .broken ps _ _
    · simp only [Link.transmit, hw, Option.toList_none, List.append_nil]
      exact (said_congr rfl).mpr h
  | @conclude peer unsaid hs =>
    cases unsaid with
    | nil =>
      show Begun (reports ++ [])
      rw [List.append_nil]
      exact h.begun
    | cons r unsaid =>
      -- The whole conversation stays the same, one report more of it is made.
      simp only [Said, hs] at hat
      show Conversation ((reports ++ [r] ++ unsaid).map Report.event)
      rw [List.append_assoc]
      exact hat

/-- A task that ends without being told to has come to the end of its
conversation. -/
theorem Move.conversation_of_finished (hm : l.Move n o) (h : l.Said reports)
    (hup : l.hungUp = false) (hfin : o.1.stage = .finished) :
    Conversation ((reports ++ o.2.2.toList).map Report.event) := by
  have hhear : ∀ (n : Network) (answer : Answer), (l.hear n answer).1.stage ≠ .finished := by
    intro n answer
    cases answer <;> simp [hear, goLive, breakOff]
  cases hm with
  | dial =>
    rcases ha : n.attempt l.target with ⟨answer | gate, n'⟩ <;> simp only [Link.dial, ha] at hfin
    · exact absurd hfin (hhear n' answer)
    · cases hfin
  | answered => exact absurd hfin (hhear n _)
  | dialInVain _ htold | desert _ htold | leave _ htold =>
    rw [hup] at htold
    cases htold
  | @absorb peer item items hs => cases item <;> simp [Link.absorb, breakOff, hs] at hfin
  | lose => cases hfin
  | @transmit peer p ps hs =>
    rcases hw : n.write peer p with error | n' <;>
      simp [Link.transmit, hw, breakOff, hs] at hfin
  | @conclude peer unsaid hs =>
    rw [Said, hs] at h
    cases unsaid with
    | nil => exact h
    | cons r unsaid => cases hfin

end Link

end Provision
