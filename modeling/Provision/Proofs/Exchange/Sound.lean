/-
Transports that hold.

A transport is sound as long as the peer has sent messages only and is there, and
writes succeed (`Network.Sound`).  On a sound transport no task comes to an end by
itself (`Move.unbroken`), and no task makes it unsound (`Move.sound`).  `RunOn` is a
run on networks of one kind.

Main result: `RunOn.unbroken`.
-/
import Provision.Proofs.Exchange.Followed

namespace Provision

namespace Network

variable {n : Network} {peer : Nat}

/-- The connection to a peer, if there is one, has neither failed nor ended: the
peer has sent messages only and is there, and writes succeed. -/
def Sound (peer : Nat) (n : Network) : Prop :=
  ∀ p, n.peers[peer]? = some p →
    n.writeFault = none ∧ p.left = false ∧ ∀ item ∈ p.inbound, ∃ q, item = .message q

theorem Sound.unread {items : List Inbound} {item : Inbound} (h : n.Sound peer)
    (hr : n.unread peer = item :: items) : ∃ q, item = .message q := by
  rcases hp : n.peers[peer]? with - | p <;> simp only [Network.unread, hp] at hr
  · cases hr
  · refine (h p hp).2.2 item (List.mem_of_mem_drop (i := p.readCount) ?_)
    rw [Peer.unread] at hr
    rw [hr]
    exact List.mem_cons_self

/-- Whoever has joined, has not left. -/
theorem Sound.hasLeft (h : n.Sound peer) (hlt : peer < n.peers.length) :
    n.hasLeft peer = false := by
  have hp := List.getElem?_eq_getElem hlt
  rw [Network.hasLeft, hp]
  exact (h _ hp).2.1

theorem Sound.write (h : n.Sound peer) (hlt : peer < n.peers.length) (p : Payload) :
    ∃ n', n.write peer p = .ok n' := by
  have hp := List.getElem?_eq_getElem hlt
  have hfault := (h _ hp).1
  exact ⟨_, by rw [Network.write, hfault, h.hasLeft hlt]; rfl⟩

end Network

namespace Link

variable {l l' : Link} {n : Network} {o : Link.Outcome} {peer : Nat} {peers : List Nat}
  {reports : List Report}

/-! ### What keeps a transport sound -/

/-- No task makes writes fail. -/
theorem Move.writeFault_eq (hm : l.Move n o) : o.2.1.writeFault = n.writeFault := by
  have hattempt : (n.attempt l.target).2.writeFault = n.writeFault := by
    rcases hp : n.plans with - | ⟨plan, plans⟩ <;> simp [Network.attempt, hp]
  have hhear : ∀ (n' : Network) (answer : Answer),
      (l.hear n' answer).2.1.writeFault = n'.writeFault := by
    intro n' answer
    cases answer <;> rfl
  cases hm with
  | dial =>
    rcases ha : n.attempt l.target with ⟨answer | gate, n'⟩ <;> rw [ha] at hattempt <;>
      simp only [Link.dial, ha]
    · exact (hhear n' answer).trans hattempt
    · exact hattempt
  | dialInVain =>
    rcases ha : n.attempt l.target with ⟨answer | gate, n'⟩ <;> rw [ha] at hattempt <;>
      simp only [Link.dialInVain, Link.desert, ha] <;> exact hattempt
  | answered => exact hhear n _
  | desert | lose | leave => rfl
  | @absorb i item => cases item <;> rfl
  | @transmit i p =>
    rcases hw : n.write i p with error | n' <;> simp only [Link.transmit, hw]
    rw [(Network.write_eq_ok hw).2]
    rfl
  | @conclude last unsaid => cases unsaid <;> cases last <;> rfl

/-- A transport stays sound while the far side does nothing to it. -/
theorem Move.sound (hm : l.Move n o) (hlt : peer < n.peers.length) (h : n.Sound peer) :
    o.2.1.Sound peer := by
  have hp := List.getElem?_eq_getElem hlt
  obtain ⟨p', hp', hunmoved, -⟩ := hm.unmoved hp
  obtain ⟨hwrites, hleft, hinbound⟩ := h _ hp
  intro q hq
  obtain rfl := Option.some.inj (hp'.symm.trans hq)
  exact ⟨hm.writeFault_eq.trans hwrites, hunmoved.left.trans hleft, hunmoved.inbound ▸ hinbound⟩

/-- A task that is not at its end has a mailbox, and keeps it but by ending. -/
theorem Move.finished_of_abandoned (hm : l.Move n o) (h : l.mailbox.isAbandoned = false)
    (hab : o.1.mailbox.isAbandoned = true) : o.1.stage = .finished := by
  have hkeeps : ∀ {m : Mailbox}, m.room = l.mailbox.room → ¬ m.isAbandoned = true := by
    intro m hroom hm
    rw [Mailbox.isAbandoned, hroom] at hm
    rw [Mailbox.isAbandoned, hm] at h
    cases h
  cases hm with
  | dial =>
    rcases ha : n.attempt l.target with ⟨answer | gate, n'⟩ <;> simp only [Link.dial, ha] at hab ⊢
    · cases answer <;> exact (hkeeps rfl hab).elim
    · exact (hkeeps rfl hab).elim
  | dialInVain =>
    rcases ha : n.attempt l.target with ⟨answer | gate, n'⟩ <;>
      simp only [Link.dialInVain, Link.desert, ha] <;> rfl
  | @answered _ answer => cases answer <;> exact (hkeeps rfl hab).elim
  | desert | leave => rfl
  | lose => exact (hkeeps rfl hab).elim
  | @absorb _ item => cases item <;> exact (hkeeps rfl hab).elim
  | @transmit i p =>
    rcases hw : n.write i p with error | n' <;> simp only [Link.transmit, hw] at hab ⊢ <;>
      exact (hkeeps rfl hab).elim
  | @conclude _ unsaid =>
    cases unsaid with
    | cons r unsaid => exact (hkeeps rfl hab).elim
    | nil => rfl

/-! ### Tasks on a sound transport -/

/-- If the task has joined the peer and says so, it has no end to report. -/
def Unbroken (peer : Nat) (l : Link) (peers : List Nat) (reports : List Report) : Prop :=
  peer ∈ peers → Report.opened ∈ reports ++ l.unsaid →
    ∀ info, Report.ended info ∉ reports ++ l.unsaid

/-- It matters only what there is to report altogether. -/
theorem Unbroken.of_whole {reports' : List Report} (h : l.Unbroken peer peers reports)
    (hw : reports' ++ l'.unsaid = reports ++ l.unsaid) : l'.Unbroken peer peers reports' := by
  rw [Unbroken, hw]
  exact h

/-- A task that has reported nothing says that it was opened, or that it has come to
an end, but not both. -/
theorem unbroken_hear (l : Link) (n : Network) (answer : Answer) :
    (l.hear n answer).1.Unbroken peer peers (l.hear n answer).2.2.toList := by
  intro _ hopened info hended
  cases answer with
  | accept => simp [hear, goLive, unsaid] at hended
  | refuse reason => simp [hear, breakOff, unsaid, Report.failure] at hopened

theorem unbroken_nil (hs : l.unsaid = []) : l.Unbroken peer peers [] := by
  intro _ hopened
  rw [hs] at hopened
  cases hopened

/-- On a sound transport, no task comes to an end by itself. -/
theorem Move.unbroken (hm : l.Move n o) (hserved : l.Served n peers)
    (hlt : ∀ i ∈ peers, i < n.peers.length) (hsaid : l.Said reports) (hsound : n.Sound peer)
    (h : l.Unbroken peer peers reports) :
    o.1.Unbroken peer (peers ++ n.joinedSince o.2.1) (reports ++ o.2.2.toList) := by
  -- A task that has joined a peer joins no other.
  have hsame : peers ≠ [] → n.joinedSince o.2.1 = [] := by
    intro hne
    have hlen := (hm.served hserved).length_le
    have hpos := List.length_pos_of_ne_nil hne
    rw [List.length_append] at hlen
    exact List.length_eq_zero_iff.mp (by omega)
  -- So if it is live, and we ask about one that it has joined, this is the one.
  have hlive : ∀ {i : Nat}, l.stage = .live i → peer ∈ peers ++ n.joinedSince o.2.1 →
      i = peer ∧ peer ∈ peers := by
    intro i hs hmem
    obtain ⟨-, hserved⟩ := hserved
    rw [hs] at hserved
    rw [hsame (by simp [hserved.1]), List.append_nil] at hmem
    exact ⟨(List.mem_singleton.mp (hserved.1 ▸ hmem)).symm, hmem⟩
  have hat := hsaid
  cases hm with
  | dial hs =>
    simp only [Said, hs] at hat
    subst hat
    rcases ha : n.attempt l.target with ⟨answer | gate, n'⟩ <;> simp only [Link.dial, ha]
    · exact l.unbroken_hear n' answer
    · exact unbroken_nil rfl
  | dialInVain hs =>
    simp only [Said, hs] at hat
    subst hat
    rcases ha : n.attempt l.target with ⟨answer | gate, n'⟩ <;>
      simp only [Link.dialInVain, Link.desert, ha] <;> exact unbroken_nil rfl
  | answered hs =>
    simp only [Said, hs] at hat
    subst hat
    exact l.unbroken_hear n _
  | desert hs =>
    simp only [Said, hs] at hat
    subst hat
    exact unbroken_nil rfl
  | absorb hs hr =>
    intro hmem hopened info
    obtain ⟨hi, hjoined⟩ := hlive hs hmem
    obtain ⟨q, rfl⟩ := hsound.unread (hi ▸ hr)
    have hopened : Report.opened ∈ reports := by
      simpa [Link.absorb, Link.unsaid, hs] using hopened
    simpa [Link.absorb, Link.unsaid, hs] using h hjoined (List.mem_append_left _ hopened) info
  | lose hs _ hl =>
    intro hmem
    obtain ⟨hi, hjoined⟩ := hlive hs hmem
    rw [hi, hsound.hasLeft (hlt _ hjoined)] at hl
    cases hl
  | @transmit i p _ hs =>
    intro hmem
    obtain ⟨rfl, hjoined⟩ := hlive hs hmem
    obtain ⟨n', hw⟩ := hsound.write (hlt _ hjoined) p
    exact h.of_whole (by simp [Link.transmit, hw, Link.unsaid]) hjoined
  | leave hs =>
    intro hmem
    obtain ⟨-, hjoined⟩ := hlive hs hmem
    exact h.of_whole (by simp [Link.leave, Link.finish, Link.unsaid, hs]) hjoined
  | @conclude last unsaid hs =>
    have hnone : n.joinedSince (l.conclude n last unsaid).2.1 = [] :=
      Network.joinedSince_of_length (by cases unsaid <;> cases last <;> simp [Link.conclude])
    rw [hnone, List.append_nil]
    exact h.of_whole (by cases unsaid <;> simp [Link.conclude, breakOff, finish, Link.unsaid, hs])

end Link

namespace Exchange

variable {e : Exchange} {t : Trace} {peer : Nat}

/-! ### Runs on sound transports -/

/-- A run in which every network on the way is one that `P` allows. -/
inductive RunOn (P : Network → Prop) : Exchange → Trace → Prop
  | start {n : Network} : n.peers = [] → P n → RunOn P { network := n } []
  | call {e : Exchange} {t : Trace} (c : Call) :
      RunOn P e t → RunOn P (e.call c) (t ++ e.session.observed c)
  | background {e e' : Exchange} {t u : Trace} :
      RunOn P e t → Background e u e' → P e'.network → RunOn P e' (t ++ u)

theorem RunOn.run {P : Network → Prop} (h : RunOn P e t) : Run e t := by
  induction h with
  | start hn => exact .start hn
  | call c _ ih => exact ih.call c
  | background _ hb _ ih => exact ih.background hb

theorem RunOn.allowed {P : Network → Prop} (h : RunOn P e t) : P e.network := by
  induction h with
  | start _ hP => exact hP
  | call _ _ ih => exact ih
  | background _ _ hP => exact hP

/-- While the transport to a peer is sound, its task has no end to report. -/
theorem RunOn.unbroken (h : RunOn (Network.Sound peer) e t) :
    ∀ l ∈ e.session.links, l.Unbroken peer (t.joinedBy l.id) (t.reportsOf l.id) := by
  induction h with
  | start => simp
  | @call e t c hrun ih =>
    intro l' hl'
    obtain ⟨done, hf⟩ := hrun.run.coherent.call c
    rw [joinedBy_call, reportsOf_call]
    rcases hf.links l' hl' with ⟨l, hl, hspared⟩ | ⟨target, -, rfl⟩
    · rw [hspared.id]
      exact (ih l hl).of_whole (by rw [Link.unsaid, Link.unsaid, hspared.stage])
    · rw [hrun.run.heard.1.unborn _ hrun.run.coherent.succ_lastId_not_mem]
      exact Link.unbroken_nil rfl
  | @background e e' t u hrun hb _ ih =>
    intro l' hl'
    have ht := hrun.run.tracked
    rw [Trace.joinedBy_append, Trace.reportsOf_append]
    rcases hb.link_cases ht.coherent hl' with
      ⟨l, hl, o, hm, rfl, hnetwork, rfl⟩ | ⟨l, hl, hstays, huntouched⟩
    · rw [hm.kept.id, joinedBy_moveObserved, reportsOf_moveObserved, if_pos rfl, if_pos rfl]
      refine hm.unbroken (ht.served l hl) (fun i hi => ?_) (hrun.run.heard.1.said l hl)
        hrun.allowed (ih l hl)
      exact ht.lt_of_joined (Trace.mem_joinedBy.mp hi)
    · rw [hstays.id, huntouched.joinedBy, huntouched.reportsOf, List.append_nil, List.append_nil]
      exact (ih l hl).of_whole (by rw [Link.unsaid, Link.unsaid, hstays.stage])

end Exchange

end Provision
