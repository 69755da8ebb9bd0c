/-
What a task has written.

`Served l n peers` ties a link to the peers that its task has joined: none
before the handshake, then one, which has received exactly what the task took
out of the mailbox; and once the task writes no more, what it received is still
the beginning of what the mailbox accepted.  Every move of the link keeps this
(`Move.served`), and no move of another link touches it (`Move.written_of_ne`).
Nor does one read what comes in for another (`Move.unmoved`).
-/
import Provision.Proofs.Link.Move
import Provision.Proofs.Network.Drift

namespace Provision.Link

variable {l l' : Link} {n n' : Network} {o : Link.Outcome} {peers : List Nat}

/-- The peers of a link have received the beginning of what was handed to it. -/
def Served (l : Link) (n : Network) (peers : List Nat) : Prop :=
  l.mailbox.taken ≤ l.mailbox.accepted.length ∧
    match l.stage with
    | .dialing | .waiting _ => peers = [] ∧ l.mailbox.taken = 0
    | .live peer => peers = [peer] ∧ n.written peer = l.mailbox.accepted.take l.mailbox.taken
    | .ending _ _ | .finished =>
      peers = [] ∨ ∃ peer, peers = [peer] ∧ n.written peer <+: l.mailbox.accepted

theorem served_new (id : ConnectionId) (target : String) (n : Network) :
    Served { id, target } n [] :=
  ⟨Nat.le_refl _, rfl, rfl⟩

/-- What the peers have received, whatever the stage. -/
theorem Served.written_prefix (h : l.Served n peers) {peer : Nat} (hp : peer ∈ peers) :
    n.written peer <+: l.mailbox.accepted := by
  obtain ⟨-, h⟩ := h
  rcases hs : l.stage with - | gate | q | ⟨q, unsaid⟩ | - <;> rw [hs] at h
  · rw [h.1] at hp
    cases hp
  · rw [h.1] at hp
    cases hp
  · obtain ⟨rfl, hw⟩ := h
    rw [List.mem_singleton.mp hp, hw]
    exact List.take_prefix ..
  all_goals
    rcases h with rfl | ⟨r, rfl, hw⟩
    · cases hp
    · rw [List.mem_singleton.mp hp]
      exact hw

/-- A task joins one peer at most. -/
theorem Served.length_le (h : l.Served n peers) : peers.length ≤ 1 := by
  obtain ⟨-, h⟩ := h
  rcases hs : l.stage with - | gate | q | ⟨q, unsaid⟩ | - <;> rw [hs] at h
  · simp [h.1]
  · simp [h.1]
  · simp [h.1]
  all_goals
    rcases h with rfl | ⟨r, rfl, -⟩ <;> simp

/-- What its mailbox accepts, and what others write, leaves a link served. -/
theorem Served.mono (h : l.Served n peers) (hstage : l'.stage = l.stage)
    (htaken : l'.mailbox.taken = l.mailbox.taken)
    (hacc : l.mailbox.accepted <+: l'.mailbox.accepted)
    (hw : ∀ peer ∈ peers, n'.written peer = n.written peer) : l'.Served n' peers := by
  obtain ⟨hle, h⟩ := h
  refine ⟨htaken ▸ Nat.le_trans hle hacc.length_le, ?_⟩
  rw [hstage]
  rcases hs : l.stage with - | gate | q | ⟨q, unsaid⟩ | - <;> rw [hs] at h
  · exact ⟨h.1, htaken ▸ h.2⟩
  · exact ⟨h.1, htaken ▸ h.2⟩
  · obtain ⟨rfl, h⟩ := h
    refine ⟨rfl, ?_⟩
    rw [hw q (List.mem_singleton.mpr rfl), h, htaken]
    obtain ⟨more, hmore⟩ := hacc
    rw [← hmore, List.take_append_of_le_length hle]
  all_goals
    rcases h with rfl | ⟨r, rfl, h⟩
    · exact .inl rfl
    · refine .inr ⟨r, rfl, ?_⟩
      rw [hw r (List.mem_singleton.mpr rfl)]
      exact h.trans hacc

/-! ### A link's own moves -/

/-- A task that stops writing leaves its peer with a beginning. -/
theorem served_stop {mailbox : Mailbox} {stage : Stage} (h : l.Served n peers)
    (hstage : stage = .finished ∨ ∃ peer unsaid, stage = .ending peer unsaid)
    (hacc : mailbox.accepted = l.mailbox.accepted)
    (htaken : mailbox.taken ≤ l.mailbox.accepted.length)
    (hpeers : peers = [] ∨ ∃ peer, peers = [peer])
    (hw : ∀ peer ∈ peers, n'.written peer = n.written peer) :
    Served { l with stage, mailbox } n' peers := by
  have hend : peers = [] ∨ ∃ peer, peers = [peer] ∧ n'.written peer <+: mailbox.accepted := by
    rcases hpeers with rfl | ⟨peer, rfl⟩
    · exact .inl rfl
    · have hmem : peer ∈ [peer] := List.mem_singleton.mpr rfl
      refine .inr ⟨peer, rfl, ?_⟩
      rw [hw peer hmem, hacc]
      exact h.written_prefix hmem
  refine ⟨by dsimp only; rw [hacc]; exact htaken, ?_⟩
  rcases hstage with rfl | ⟨peer, unsaid, rfl⟩ <;> exact hend

/-- Before the handshake, a link has joined nothing; a handshake joins one
peer, which has received nothing yet. -/
theorem served_hear {answer : Answer} (hle : l.mailbox.taken = 0) :
    (l.hear n answer).1.Served (l.hear n answer).2.1
      (n.joinedSince (l.hear n answer).2.1) := by
  cases answer with
  | accept =>
    refine ⟨?_, ?_⟩
    · show l.mailbox.taken ≤ l.mailbox.accepted.length
      rw [hle]
      exact Nat.zero_le _
    show n.joinedSince (n.connect l.target).2 = [n.peers.length] ∧ _
    refine ⟨Network.joinedSince_connect n l.target, ?_⟩
    show (n.connect l.target).2.written n.peers.length = _
    rw [Network.written_connect, Network.written_length_peers]
    show [] = l.mailbox.accepted.take l.mailbox.taken
    rw [hle]
    rfl
  | refuse reason =>
    refine ⟨?_, .inl ?_⟩
    · show l.mailbox.taken ≤ l.mailbox.accepted.length
      rw [hle]
      exact Nat.zero_le _
    · exact Network.joinedSince_of_length rfl

theorem served_idle (hle : l.mailbox.taken = 0) (n' : Network) : l.finish.Served n' [] :=
  ⟨by simp [finish, hle], .inl rfl⟩

theorem length_peers_attempt (n : Network) (target : String) :
    (n.attempt target).2.peers.length = n.peers.length := by
  rw [Network.peers_attempt]

/-- The attempt changes the plans only. -/
theorem joinedSince_attempt (n n' : Network) (target : String) :
    (n.attempt target).2.joinedSince n' = n.joinedSince n' := by
  rw [Network.joinedSince, Network.joinedSince, length_peers_attempt]

theorem Move.served (hm : l.Move n o) (h : l.Served n peers) :
    o.1.Served o.2.1 (peers ++ n.joinedSince o.2.1) := by
  have hat := h
  obtain ⟨hle, hat⟩ := hat
  cases hm with
  | dial hs =>
    rw [hs] at hat
    obtain ⟨rfl, h0⟩ := hat
    have hlen := length_peers_attempt n l.target
    have hjoin := joinedSince_attempt n
    rcases ha : n.attempt l.target with ⟨answer | gate, n'⟩
    · simp only [Link.dial, ha, List.nil_append]
      rw [← hjoin _ l.target, ha]
      exact served_hear h0
    · rw [ha] at hlen
      simp only [Link.dial, ha, Network.joinedSince_of_length hlen]
      exact ⟨hle, rfl, h0⟩
  | dialInVain hs =>
    -- Whatever the answer would have been, nobody joins.
    rw [hs] at hat
    obtain ⟨rfl, h0⟩ := hat
    have hlen := length_peers_attempt n l.target
    rcases ha : n.attempt l.target with ⟨answer | gate, n'⟩ <;> rw [ha] at hlen <;>
      simp only [Link.dialInVain, Link.desert, ha]
    · rw [Network.joinedSince_of_length hlen]
      exact served_idle h0 n'
    · rw [show n.joinedSince (n'.desert gate) = [] from Network.joinedSince_of_length hlen]
      exact served_idle h0 _
  | answered hs =>
    rw [hs] at hat
    obtain ⟨rfl, h0⟩ := hat
    exact served_hear h0
  | desert hs =>
    rw [hs] at hat
    obtain ⟨rfl, h0⟩ := hat
    rw [show n.joinedSince (l.desert n _).2.1 = [] from Network.joinedSince_of_length rfl]
    exact served_idle h0 _
  | @absorb peer item items hs =>
    rw [hs] at hat
    have hlen : n.joinedSince (n.read peer) = [] := Network.joinedSince_of_length (by simp)
    have hw : ∀ i ∈ peers, (n.read peer).written i = n.written i := by simp
    cases item with
    | message p =>
      simp only [Link.absorb, hlen, List.append_nil]
      exact h.mono rfl rfl List.prefix_rfl hw
    | close info =>
      simp only [Link.absorb, hlen, List.append_nil]
      exact served_stop h (.inr ⟨_, _, rfl⟩) rfl hle (.inr ⟨peer, hat.1⟩) hw
    | failure error =>
      simp only [Link.absorb, hlen, List.append_nil]
      exact served_stop h (.inr ⟨_, _, rfl⟩) rfl hle (.inr ⟨peer, hat.1⟩) hw
  | @lose peer hs =>
    rw [hs] at hat
    simp only [Link.lose, Network.joinedSince_self, List.append_nil]
    exact served_stop h (.inr ⟨_, _, rfl⟩) rfl hle (.inr ⟨peer, hat.1⟩) fun _ _ => rfl
  | @transmit peer p ps hs hwait =>
    rw [hs] at hat
    obtain ⟨rfl, hat⟩ := hat
    have hlt : l.mailbox.taken < l.mailbox.accepted.length := by
      have := congrArg List.length hwait
      simp only [Mailbox.waiting, List.length_drop, List.length_cons] at this
      omega
    rcases hw : n.write peer p with error | n'
    · -- The payload is taken and lost; what was written before is still a beginning.
      simp only [Link.transmit, hw, Network.joinedSince_self, List.append_nil]
      show Served { l with stage := .ending _ _, mailbox := l.mailbox.take } n [peer]
      exact served_stop h (.inr ⟨_, _, rfl⟩) rfl hlt (.inr ⟨peer, rfl⟩) fun _ _ => rfl
    · obtain ⟨hlen, hself, -⟩ := Network.written_write hw
      simp only [Link.transmit, hw, Network.joinedSince_of_length hlen, List.append_nil]
      refine ⟨hlt, ?_⟩
      simp only [hs, Mailbox.accepted_take, Mailbox.taken_take, true_and]
      rw [hself, hat, Mailbox.take_accepted_succ hwait]
  | @leave peer hs =>
    rw [hs] at hat
    have hlen : n.joinedSince (n.release peer) = [] := Network.joinedSince_of_length (by simp)
    simp only [Link.leave, hlen, List.append_nil]
    exact served_stop h (.inl rfl) rfl hle (.inr ⟨peer, hat.1⟩) (by simp)
  | @conclude peer unsaid hs =>
    rw [hs] at hat
    have hpeers : peers = [] ∨ ∃ q, peers = [q] := by
      rcases hat with hnone | ⟨q, hq, -⟩
      · exact .inl hnone
      · exact .inr ⟨q, hq⟩
    cases unsaid with
    | cons r unsaid =>
      simp only [Link.conclude, Network.joinedSince_self, List.append_nil]
      exact served_stop h (.inr ⟨_, _, rfl⟩) rfl hle hpeers fun _ _ => rfl
    | nil =>
      have hlen : n.joinedSince (peer.elim n n.release) = [] :=
        Network.joinedSince_of_length (by cases peer <;> simp)
      simp only [Link.conclude, hlen, List.append_nil]
      refine served_stop h (.inl rfl) rfl hle hpeers fun i _ => ?_
      cases peer <;> simp

/-! ### The moves of others -/

/-- A move adds peers, and writes to no peer but its link's own. -/
theorem Move.written_of_ne (hm : l.Move n o) {i : Nat} (hi : l.stage ≠ .live i) :
    n.peers.length ≤ o.2.1.peers.length ∧ o.2.1.written i = n.written i := by
  have hhear : ∀ (n : Network) (answer : Answer),
      n.peers.length ≤ (l.hear n answer).2.1.peers.length ∧
        (l.hear n answer).2.1.written i = n.written i := by
    intro n answer
    cases answer with
    | accept => exact ⟨by simp [hear, goLive, Network.connect], n.written_connect l.target i⟩
    | refuse reason => exact ⟨Nat.le_refl _, rfl⟩
  have hlen := length_peers_attempt n l.target
  have hpeers := Network.peers_attempt n l.target
  cases hm with
  | dial =>
    rcases ha : n.attempt l.target with ⟨answer | gate, n'⟩ <;> rw [ha] at hlen hpeers <;>
      simp only [Link.dial, ha]
    · have := hhear n' answer
      rw [hlen, Network.written_congr hpeers] at this
      exact this
    · exact ⟨Nat.le_of_eq hlen.symm, Network.written_congr hpeers i⟩
  | dialInVain =>
    rcases ha : n.attempt l.target with ⟨answer | gate, n'⟩ <;> rw [ha] at hlen hpeers <;>
      simp only [Link.dialInVain, Link.desert, ha]
    · exact ⟨Nat.le_of_eq hlen.symm, Network.written_congr hpeers i⟩
    · have hpeers : (n'.desert gate).peers = n.peers := hpeers
      exact ⟨Nat.le_of_eq hlen.symm, Network.written_congr hpeers i⟩
  | answered => exact hhear n _
  | desert | lose => exact ⟨Nat.le_refl _, rfl⟩
  | absorb => cases ‹Inbound› <;> simp [Link.absorb]
  | @transmit peer p ps hs =>
    rcases hw : n.write peer p with error | n'
    · simp [Link.transmit, hw]
    · obtain ⟨hlen, -, hother⟩ := Network.written_write hw
      simp only [Link.transmit, hw]
      exact ⟨Nat.le_of_eq hlen.symm, hother i fun heq => hi (heq ▸ hs)⟩
  | leave => simp [Link.leave]
  | @conclude peer unsaid =>
    cases unsaid with
    | cons r unsaid => exact ⟨Nat.le_refl _, rfl⟩
    | nil => cases peer <;> simp [Link.conclude]

theorem Move.length_peers_le (hm : l.Move n o) : n.peers.length ≤ o.2.1.peers.length := by
  have hi : ∃ i, l.stage ≠ .live i := by
    rcases l.stage with - | gate | peer | ⟨peer, unsaid⟩ | -
    case live => exact ⟨peer + 1, by simp⟩
    all_goals exact ⟨0, by simp⟩
  obtain ⟨i, hi⟩ := hi
  exact (hm.written_of_ne hi).1

/-- A move leaves what has come in, and reads from no peer but its link's own. -/
theorem Move.unmoved (hm : l.Move n o) {i : Nat} {p : Peer} (hp : n.peers[i]? = some p) :
    ∃ p', o.2.1.peers[i]? = some p' ∧ p.Unmoved p' ∧
      (l.stage ≠ .live i → p'.readCount = p.readCount) := by
  have hself : ∀ {n' : Network}, n'.peers = n.peers → ∃ p', n'.peers[i]? = some p' ∧
      p.Unmoved p' ∧ (l.stage ≠ .live i → p'.readCount = p.readCount) :=
    fun h => ⟨p, h ▸ hp, ⟨rfl, rfl⟩, fun _ => rfl⟩
  have hquiet : ∀ {n' : Network},
      (∃ p', n'.peers[i]? = some p' ∧ p.Unmoved p' ∧ p'.readCount = p.readCount) →
      ∃ p', n'.peers[i]? = some p' ∧ p.Unmoved p' ∧
        (l.stage ≠ .live i → p'.readCount = p.readCount) :=
    fun ⟨p', hp', hunmoved, hread⟩ => ⟨p', hp', hunmoved, fun _ => hread⟩
  have hhear : ∀ {n' : Network} (answer : Answer), n'.peers = n.peers →
      ∃ p', (l.hear n' answer).2.1.peers[i]? = some p' ∧ p.Unmoved p' ∧
        (l.stage ≠ .live i → p'.readCount = p.readCount) := by
    intro n' answer hpeers
    cases answer with
    | accept => exact hquiet (Network.unmoved_connect (hpeers ▸ hp) l.target)
    | refuse reason => exact hself hpeers
  have hpeers := Network.peers_attempt n l.target
  cases hm with
  | dial =>
    rcases ha : n.attempt l.target with ⟨answer | gate, n'⟩ <;> rw [ha] at hpeers <;>
      simp only [Link.dial, ha]
    · exact hhear answer hpeers
    · exact hself hpeers
  | dialInVain =>
    rcases ha : n.attempt l.target with ⟨answer | gate, n'⟩ <;> rw [ha] at hpeers <;>
      simp only [Link.dialInVain, Link.desert, ha]
    · exact hself hpeers
    · have hdesert : (n'.desert gate).peers = n.peers := hpeers
      exact hself hdesert
  | answered => exact hhear _ rfl
  | desert | lose => exact hself rfl
  | @absorb peer item items hs =>
    have hread : ∃ p', (n.read peer).peers[i]? = some p' ∧ p.Unmoved p' ∧
        (l.stage ≠ .live i → p'.readCount = p.readCount) := by
      refine ⟨_, Network.getElem?_modifyPeer hp peer _, ?_⟩
      by_cases hi : peer = i
      · rw [if_pos hi]
        exact ⟨⟨rfl, rfl⟩, fun hne => absurd (hi ▸ hs) hne⟩
      · rw [if_neg hi]
        exact ⟨⟨rfl, rfl⟩, fun _ => rfl⟩
    cases item <;> exact hread
  | @transmit peer q ps hs =>
    rcases hw : n.write peer q with error | n' <;> simp only [Link.transmit, hw]
    · exact hself rfl
    · exact hquiet (Network.unmoved_write hw hp)
  | leave => exact hquiet (Network.unmoved_release hp _)
  | @conclude peer unsaid =>
    cases unsaid with
    | cons r unsaid => exact hself rfl
    | nil =>
      cases peer with
      | none => exact hself rfl
      | some peer => exact hquiet (Network.unmoved_release hp peer)

/-- Tasks do not restart a stream. -/
theorem Move.orderly (hm : l.Move n o) : n.Orderly o.2.1 := by
  intro i p p' hp hp' hl
  obtain ⟨q, hq, hunmoved, -⟩ := hm.unmoved hp
  exact Option.some.inj (hq.symm.trans hp') ▸ hunmoved.onward.left hl

end Provision.Link
