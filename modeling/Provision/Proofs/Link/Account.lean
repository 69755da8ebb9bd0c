/-
What became of the payloads that were handed to a link.

A payload that the mailbox accepted was received by the peer, or its own write
failed, or it is still in the mailbox.  `Accounted` says so, and that at most
one write failed and was reported.  A task that ends leaves what is in its
mailbox where it is: nobody takes it out again.
-/
import Mathlib.Data.List.Basic
import Provision.Proofs.Link.Served

namespace Provision

/-- The task writes no more. -/
def Stage.isOver : Stage → Bool
  | .ending _ _ | .finished => true
  | .dialing | .waiting _ | .live _ => false

/-- At most one payload, and a failed write was reported for it. -/
def Excused (failed : List Payload) (reports : List Report) : Prop :=
  failed = [] ∨
    ∃ p text, failed = [p] ∧ Report.failed (Error.transport text).message ∈ reports

namespace Link

variable {l l' : Link} {n n' : Network} {o : Link.Outcome} {peers : List Nat}
  {reports reports' : List Report}

/-- The reports that the task is still to make. -/
def unsaid (l : Link) : List Report :=
  match l.stage with
  | .ending _ unsaid => unsaid
  | .dialing | .waiting _ | .live _ | .finished => []

/-- What the peers of a link have received. -/
def received (n : Network) (peers : List Nat) : List Payload :=
  peers.flatMap n.written

/-- What the task took out of the mailbox, but no peer received. -/
def unwritten (l : Link) (n : Network) (peers : List Nat) : List Payload :=
  (l.mailbox.accepted.take l.mailbox.taken).drop (received n peers).length

/-- What the task took out was received, except for a payload whose own write
failed. -/
def Accounted (l : Link) (n : Network) (peers : List Nat) (reports : List Report) : Prop :=
  ∃ failed, l.mailbox.accepted.take l.mailbox.taken = received n peers ++ failed ∧
    Excused failed (reports ++ l.unsaid)

/-- What was accepted, in three parts. -/
theorem Accounted.split (h : l.Accounted n peers reports) :
    l.mailbox.accepted = received n peers ++ l.unwritten n peers ++ l.mailbox.waiting ∧
      Excused (l.unwritten n peers) (reports ++ l.unsaid) := by
  obtain ⟨failed, htaken, hexcused⟩ := h
  have hfailed : l.unwritten n peers = failed := by rw [unwritten, htaken, List.drop_left]
  rw [hfailed, ← htaken]
  exact ⟨(List.take_append_drop ..).symm, hexcused⟩

theorem received_congr (hw : ∀ peer ∈ peers, n'.written peer = n.written peer) :
    received n' peers = received n peers :=
  List.flatMap_congr hw

/-- Until its task is over, everything that was taken was received. -/
theorem Served.received_eq (h : l.Served n peers) (hs : l.stage.isOver = false) :
    received n peers = l.mailbox.accepted.take l.mailbox.taken := by
  obtain ⟨-, h⟩ := h
  rcases hstage : l.stage with - | gate | peer | ⟨peer, unsaid⟩ | - <;> rw [hstage] at h hs
  · rw [h.1, h.2]
    rfl
  · rw [h.1, h.2]
    rfl
  · rw [h.1, ← h.2]
    simp [received]
  · cases hs
  · cases hs

theorem accounted_of_served (h : l.Served n peers) (hs : l.stage.isOver = false) :
    l.Accounted n peers reports :=
  ⟨[], by rw [h.received_eq hs, List.append_nil], .inl rfl⟩

/-- Calls and other tasks leave the account alone. -/
theorem Accounted.mono (h : l.Accounted n peers reports)
    (hle : l.mailbox.taken ≤ l.mailbox.accepted.length) (hstage : l'.stage = l.stage)
    (htaken : l'.mailbox.taken = l.mailbox.taken)
    (hacc : l.mailbox.accepted <+: l'.mailbox.accepted)
    (hw : ∀ peer ∈ peers, n'.written peer = n.written peer) : l'.Accounted n' peers reports := by
  obtain ⟨failed, heq, hexcused⟩ := h
  obtain ⟨more, hmore⟩ := hacc
  refine ⟨failed, ?_, by rwa [unsaid, hstage]⟩
  rw [htaken, ← hmore, List.take_append_of_le_length hle, received_congr hw]
  exact heq

/-- A task that stops without a write of its own has lost nothing on the way. -/
theorem accounted_stop (h : l.Served n peers) (hs : l.stage.isOver = false)
    (hmailbox : l'.mailbox.accepted = l.mailbox.accepted ∧ l'.mailbox.taken = l.mailbox.taken)
    (hlen : n'.peers.length = n.peers.length) (hw : ∀ peer, n'.written peer = n.written peer) :
    l'.Accounted n' (peers ++ n.joinedSince n') reports := by
  refine ⟨[], ?_, .inl rfl⟩
  rw [Network.joinedSince_of_length hlen, List.append_nil, List.append_nil, hmailbox.1, hmailbox.2,
    received_congr fun peer _ => hw peer, h.received_eq hs]

theorem accounted_refused (h : l.Served n peers) (hs : l.stage.isOver = false) {reason : String}
    (hpeers : n'.peers = n.peers) :
    (l.hear n' (.refuse reason)).1.Accounted (l.hear n' (.refuse reason)).2.1
      (peers ++ n.joinedSince (l.hear n' (.refuse reason)).2.1) reports :=
  accounted_stop h hs ⟨rfl, rfl⟩ (congrArg List.length hpeers) (Network.written_congr hpeers)

/-- Every move of a task keeps account of what it was handed. -/
theorem Move.accounted (hm : l.Move n o) (hserved : l.Served n peers)
    (h : l.Accounted n peers reports) :
    o.1.Accounted o.2.1 (peers ++ n.joinedSince o.2.1) (reports ++ o.2.2.toList) := by
  by_cases hover : o.1.stage.isOver = false
  · exact accounted_of_served (hm.served hserved) hover
  -- So the task stops now, or has stopped already.
  cases hm with
  | dial hs =>
    have hrun : l.stage.isOver = false := by rw [hs]; rfl
    have hpeers := Network.peers_attempt n l.target
    rcases ha : n.attempt l.target with ⟨(- | reason) | gate, n'⟩ <;> rw [ha] at hpeers <;>
      simp only [Link.dial, ha] at hover ⊢
    · exact absurd rfl hover
    · exact accounted_refused hserved hrun hpeers
    · exact absurd rfl hover
  | dialInVain hs =>
    have hrun : l.stage.isOver = false := by rw [hs]; rfl
    have hpeers := Network.peers_attempt n l.target
    rcases ha : n.attempt l.target with ⟨answer | gate, n'⟩ <;> rw [ha] at hpeers <;>
      simp only [Link.dialInVain, Link.desert, ha] <;>
      exact accounted_stop hserved hrun ⟨rfl, rfl⟩ (congrArg List.length hpeers)
        (Network.written_congr hpeers)
  | @answered gate answer hs =>
    have hrun : l.stage.isOver = false := by rw [hs]; rfl
    cases answer with
    | accept => exact absurd rfl hover
    | refuse reason => exact accounted_refused hserved hrun rfl
  | desert hs =>
    have hrun : l.stage.isOver = false := by rw [hs]; rfl
    exact accounted_stop hserved hrun ⟨rfl, rfl⟩ rfl fun _ => rfl
  | @absorb peer item items hs =>
    have hrun : l.stage.isOver = false := by rw [hs]; rfl
    cases item with
    | message p => exact absurd hrun hover
    | close | failure =>
      exact accounted_stop hserved hrun ⟨rfl, rfl⟩ (by simp [Link.absorb]) (by simp [Link.absorb])
  | lose hs =>
    have hrun : l.stage.isOver = false := by rw [hs]; rfl
    exact accounted_stop hserved hrun ⟨rfl, rfl⟩ rfl fun _ => rfl
  | leave hs =>
    have hrun : l.stage.isOver = false := by rw [hs]; rfl
    exact accounted_stop hserved hrun ⟨rfl, rfl⟩ (by simp [Link.leave]) (by simp [Link.leave])
  | @transmit peer p ps hs hwait =>
    have hrun : l.stage.isOver = false := by rw [hs]; rfl
    rcases hw : n.write peer p with error | n'
    · -- Here alone a payload is taken that nobody receives.
      obtain ⟨text, rfl⟩ := Network.write_eq_error hw
      simp only [Link.transmit, hw, Network.joinedSince_self, List.append_nil]
      refine ⟨[p], ?_, .inr ⟨p, text, rfl, ?_⟩⟩
      · rw [hserved.received_eq hrun]
        exact Mailbox.take_accepted_succ hwait
      · exact List.mem_append_right _ List.mem_cons_self
    · simp only [Link.transmit, hw] at hover
      exact absurd hrun hover
  | @conclude peer unsaid hs =>
    obtain ⟨failed, htaken, hexcused⟩ := h
    rw [Link.unsaid, hs] at hexcused
    cases unsaid with
    | cons r unsaid =>
      simp only [Link.conclude, Network.joinedSince_self, List.append_nil]
      exact ⟨failed, htaken, by simpa [Link.unsaid, breakOff] using hexcused⟩
    | nil =>
      have hlen : n.joinedSince (peer.elim n n.release) = [] :=
        Network.joinedSince_of_length (by cases peer <;> simp)
      have hw : ∀ i ∈ peers, (peer.elim n n.release).written i = n.written i := by
        intro i _
        cases peer <;> simp
      simp only [Link.conclude, hlen, List.append_nil]
      refine ⟨failed, ?_, by simpa [Link.unsaid, finish] using hexcused⟩
      rw [received_congr hw]
      exact htaken

end Link

end Provision
