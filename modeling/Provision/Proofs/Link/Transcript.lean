/-
What a task reports of what its peer sends.

The items of a peer determine what there is to report of it: the opening, the
messages up to the first item that ends the connection, and that end.  This is
the transcript of the peer; it only grows while more items come in.  `Faithful`
says that a task reports a beginning of the transcript, unless one of its own
writes has failed.  Without a peer, a refused attempt is all there is to report
(`Refused`).  Both are `Lasting`: whatever happens to the link keeps them.
-/
import Provision.Proofs.Link.Account
import Provision.Proofs.Link.Conversation

namespace Provision

/-! ### Transcripts -/

/-- The reports of inbound items.  After the last one the stream may have
stopped. -/
def Report.ofInbound (left : Bool) : List Inbound → List Report
  | [] => if left then [.ended (.abnormal "connection lost")] else []
  | .message p :: items => .frame p :: ofInbound left items
  | .close info :: _ => [.ended info]
  | .failure error :: _ => Report.failure error

/-- All there is to report of a peer. -/
def Peer.transcript (p : Peer) : List Report :=
  .opened :: Report.ofInbound p.left p.inbound

theorem Report.ofInbound_messages (left : Bool) (ps : List Payload) (items : List Inbound) :
    ofInbound left (ps.map Inbound.message ++ items) =
      ps.map Report.frame ++ ofInbound left items := by
  induction ps with
  | nil => rfl
  | cons p ps ih => simpa [ofInbound] using ih

/-- Further items change nothing before them. -/
theorem Report.ofInbound_prefix (left : Bool) (items more : List Inbound) :
    ofInbound false items <+: ofInbound left (items ++ more) := by
  induction items with
  | nil => exact List.nil_prefix
  | cons item items ih =>
    cases item with
    | message p => exact List.cons_prefix_cons.mpr ⟨rfl, ih⟩
    | close | failure => exact List.prefix_rfl

theorem Peer.Onward.transcript {p p' : Peer} (h : p.Onward p') :
    p.transcript <+: p'.transcript := by
  refine List.cons_prefix_cons.mpr ⟨rfl, ?_⟩
  rcases hl : p.left
  · obtain ⟨more, hmore⟩ := h.inbound
    rw [← hmore]
    exact Report.ofInbound_prefix ..
  · obtain ⟨hl', hi⟩ := h.left hl
    have hsame : Report.ofInbound p'.left p'.inbound = Report.ofInbound true p.inbound := by
      rw [hl', hi]
    exact hsame ▸ List.prefix_rfl

namespace Link

variable {l l' : Link} {n n' : Network} {o : Link.Outcome} {peers : List Nat}
  {reports : List Report}

/-! ### Faithful tasks -/

/-- A live task has reported exactly what it has read, and these were messages.
A task that is over will have reported a beginning of its peer's transcript,
unless a write of its own has failed. -/
def Faithful (l : Link) (n : Network) (peers : List Nat) (reports : List Report) : Prop :=
  match l.stage with
  | .dialing | .waiting _ => True
  | .live peer => ∃ (p : Peer) (ps : List Payload), n.peers[peer]? = some p ∧
      ps.length = p.readCount ∧ p.inbound.take p.readCount = ps.map Inbound.message ∧
      reports = .opened :: ps.map Report.frame
  | .ending _ _ | .finished => l.unwritten n peers = [] → ∀ peer ∈ peers,
      ∃ p, n.peers[peer]? = some p ∧ reports ++ l.unsaid <+: p.transcript

/-- What is a fact of a link, its peers and its reports is lasting if it
survives calls, the moves of the link, and what others do. -/
structure Lasting (Q : Link → Network → List Nat → List Report → Prop) : Prop where
  keep {l l' : Link} {n n' : Network} {peers : List Nat} {reports : List Report} :
    Q l n peers reports → l.Served n peers →
    l'.target = l.target → l'.stage = l.stage → l'.mailbox.taken = l.mailbox.taken →
    l.mailbox.accepted <+: l'.mailbox.accepted →
    (∀ peer ∈ peers, n'.written peer = n.written peer) →
    (∀ peer ∈ peers, ∀ p, n.peers[peer]? = some p →
      ∃ p', n'.peers[peer]? = some p' ∧ p.Onward p' ∧ p'.readCount = p.readCount) →
    Q l' n' peers reports
  move {l : Link} {n : Network} {o : Outcome} {peers : List Nat} {reports : List Report} :
    Q l n peers reports → l.Served n peers → l.Said reports → l.Move n o →
    Q o.1 o.2.1 (peers ++ n.joinedSince o.2.1) (reports ++ o.2.2.toList)

theorem unwritten_congr (hle : l.mailbox.taken ≤ l.mailbox.accepted.length)
    (htaken : l'.mailbox.taken = l.mailbox.taken)
    (hacc : l.mailbox.accepted <+: l'.mailbox.accepted)
    (hw : ∀ peer ∈ peers, n'.written peer = n.written peer) :
    l'.unwritten n' peers = l.unwritten n peers := by
  obtain ⟨more, hmore⟩ := hacc
  rw [unwritten, unwritten, htaken, ← hmore, List.take_append_of_le_length hle,
    received_congr hw]

/-- What was read stays what was read. -/
theorem onward_take {p p' : Peer} {ps : List Payload} (h : p.Onward p')
    (hcount : p'.readCount = p.readCount) (hlen : ps.length = p.readCount)
    (hread : p.inbound.take p.readCount = ps.map Inbound.message) :
    p'.inbound.take p'.readCount = ps.map Inbound.message := by
  have hle : p.readCount ≤ p.inbound.length := by
    have := congrArg List.length hread
    rw [List.length_take, List.length_map, hlen] at this
    omega
  obtain ⟨more, hmore⟩ := h.inbound
  rw [hcount, ← hmore, List.take_append_of_le_length hle]
  exact hread

/-- What a live task has read, and what there still is to read. -/
theorem inbound_eq {peer : Nat} {p : Peer} {ps : List Payload} (hp : n.peers[peer]? = some p)
    (hread : p.inbound.take p.readCount = ps.map Inbound.message) :
    p.inbound = ps.map Inbound.message ++ n.unread peer := by
  simp only [Network.unread, hp, Peer.unread]
  rw [← hread, List.take_append_drop]

theorem faithful_over {mailbox : Mailbox} {stage : Stage} (hs : stage.isOver = true)
    (h : Link.unwritten { l with stage, mailbox } n peers = [] → ∀ peer ∈ peers,
      ∃ p, n.peers[peer]? = some p ∧
        reports ++ Link.unsaid { l with stage, mailbox } <+: p.transcript) :
    Faithful { l with stage, mailbox } n peers reports := by
  rcases stage with - | gate | peer | ⟨peer, unsaid⟩ | -
  · cases hs
  · cases hs
  · cases hs
  · exact h
  · exact h

/-- Without a peer there is no transcript to follow. -/
theorem faithful_alone {mailbox : Mailbox} {stage : Stage} (hs : stage.isOver = true) :
    Faithful { l with stage, mailbox } n [] reports :=
  faithful_over hs fun _ _ hpeer => absurd hpeer List.not_mem_nil

theorem faithful_hear {answer : Answer} :
    (l.hear n answer).1.Faithful (l.hear n answer).2.1
      (n.joinedSince (l.hear n answer).2.1) (l.hear n answer).2.2.toList := by
  cases answer with
  | accept =>
    exact ⟨{ target := l.target }, [], by simp [hear, goLive, Network.connect], rfl, rfl, rfl⟩
  | refuse reason =>
    rw [show n.joinedSince (l.hear n (.refuse reason)).2.1 = [] from
      Network.joinedSince_of_length rfl]
    exact faithful_alone rfl

/-- A task stops reading with what it has reported, or with the item that it
has just read. -/
theorem faithful_stop {mailbox : Mailbox} {stage : Stage} {peer : Nat}
    {p : Peer} {ps : List Payload} (hs : stage.isOver = true)
    (hp : n.peers[peer]? = some p) (hread : p.inbound.take p.readCount = ps.map Inbound.message)
    (hunsaid : Link.unsaid { l with stage, mailbox } <+: Report.ofInbound p.left (n.unread peer))
    (hon : ∃ p', n'.peers[peer]? = some p' ∧ p'.inbound = p.inbound ∧ p'.left = p.left) :
    Faithful { l with stage, mailbox } n' [peer] (.opened :: ps.map Report.frame) := by
  refine faithful_over hs fun _ i hi => ?_
  rw [List.mem_singleton.mp hi]
  obtain ⟨p', hp', hinbound, hleft⟩ := hon
  refine ⟨p', hp', ?_⟩
  rw [Peer.transcript, hleft, hinbound, inbound_eq hp hread, Report.ofInbound_messages,
    List.cons_append]
  exact List.cons_prefix_cons.mpr ⟨rfl, (List.prefix_append_right_inj _).mpr hunsaid⟩

theorem Faithful.keep (h : l.Faithful n peers reports) (hserved : l.Served n peers)
    (hstage : l'.stage = l.stage) (htaken : l'.mailbox.taken = l.mailbox.taken)
    (hacc : l.mailbox.accepted <+: l'.mailbox.accepted)
    (hw : ∀ peer ∈ peers, n'.written peer = n.written peer)
    (hon : ∀ peer ∈ peers, ∀ p, n.peers[peer]? = some p →
      ∃ p', n'.peers[peer]? = some p' ∧ p.Onward p' ∧ p'.readCount = p.readCount) :
    l'.Faithful n' peers reports := by
  have hunsaid : l'.unsaid = l.unsaid := by rw [Link.unsaid, Link.unsaid, hstage]
  have hover : (l.unwritten n peers = [] → ∀ peer ∈ peers,
        ∃ p, n.peers[peer]? = some p ∧ reports ++ l.unsaid <+: p.transcript) →
      l'.unwritten n' peers = [] → ∀ peer ∈ peers,
        ∃ p, n'.peers[peer]? = some p ∧ reports ++ l'.unsaid <+: p.transcript := by
    intro h hnone peer hpeer
    rw [unwritten_congr hserved.1 htaken hacc hw] at hnone
    obtain ⟨p, hp, hprefix⟩ := h hnone peer hpeer
    obtain ⟨p', hp', honward, -⟩ := hon peer hpeer p hp
    exact ⟨p', hp', hunsaid ▸ hprefix.trans honward.transcript⟩
  have hserved := hserved.2
  rw [Faithful] at h ⊢
  rw [hstage]
  rcases hs : l.stage with - | gate | peer | ⟨peer, unsaid⟩ | - <;> rw [hs] at h hserved
  · trivial
  · trivial
  · obtain ⟨p, ps, hp, hlen, hread, hreports⟩ := h
    have hpeer : peer ∈ peers := by rw [hserved.1]; exact List.mem_singleton.mpr rfl
    obtain ⟨p', hp', honward, hcount⟩ := hon peer hpeer p hp
    exact ⟨p', ps, hp', hlen.trans hcount.symm, onward_take honward hcount hlen hread, hreports⟩
  · exact hover h
  · exact hover h

/-- A live task reads on, or stops. -/
theorem Faithful.absorb (h : l.Faithful n peers reports) (hserved : l.Served n peers) {peer : Nat}
    {item : Inbound} {items : List Inbound} (hs : l.stage = .live peer)
    (hr : n.unread peer = item :: items) :
    (l.absorb n peer item).1.Faithful (l.absorb n peer item).2.1
      (peers ++ n.joinedSince (l.absorb n peer item).2.1)
      (reports ++ (l.absorb n peer item).2.2.toList) := by
  have hserved := hserved.2
  rw [Faithful, hs] at h
  rw [hs] at hserved
  obtain ⟨rfl, -⟩ := hserved
  obtain ⟨p, ps, hp, hlen, hread, rfl⟩ := h
  have hjoin : n.joinedSince (n.read peer) = [] := Network.joinedSince_of_length (by simp)
  have hp' : (n.read peer).peers[peer]? = some { p with readCount := p.readCount + 1 } := by
    simp [Network.read, Network.modifyPeer, hp]
  cases item with
  | message q =>
    simp only [Link.absorb, hjoin, List.append_nil]
    simp only [Faithful, hs]
    refine ⟨_, ps ++ [q], hp', by simp [hlen], ?_, by simp⟩
    have hsplit := inbound_eq hp hread
    rw [hr] at hsplit
    have hcount : p.readCount + 1 = (ps.map Inbound.message ++ [Inbound.message q]).length := by
      simp [hlen]
    show p.inbound.take (p.readCount + 1) = _
    rw [hsplit, List.append_cons, hcount, List.take_left, List.map_append]
    rfl
  | close info =>
    simp only [Link.absorb, hjoin, List.append_nil, Option.toList_none]
    exact faithful_stop rfl hp hread (by rw [hr]; exact List.prefix_rfl) ⟨_, hp', rfl, rfl⟩
  | failure error =>
    simp only [Link.absorb, hjoin, List.append_nil, Option.toList_none]
    exact faithful_stop rfl hp hread (by rw [hr]; exact List.prefix_rfl) ⟨_, hp', rfl, rfl⟩

/-- A live task writes, or breaks off with a payload that nobody has received. -/
theorem Faithful.transmit (h : l.Faithful n peers reports) (hserved : l.Served n peers) {peer : Nat}
    {q : Payload} {qs : List Payload} (hs : l.stage = .live peer)
    (hwait : l.mailbox.waiting = q :: qs) :
    (l.transmit n peer q).1.Faithful (l.transmit n peer q).2.1
      (peers ++ n.joinedSince (l.transmit n peer q).2.1)
      (reports ++ (l.transmit n peer q).2.2.toList) := by
  have hrun : l.stage.isOver = false := by rw [hs]; rfl
  rw [Faithful, hs] at h
  obtain ⟨p, ps, hp, hlen, hread, rfl⟩ := h
  rcases hw : n.write peer q with error | n'
  · simp only [Link.transmit, hw, Network.joinedSince_self, List.append_nil]
    refine faithful_over rfl fun hnone => ?_
    have htaken : l.mailbox.take.accepted.take l.mailbox.take.taken = received n peers ++ [q] := by
      rw [hserved.received_eq hrun]
      exact Mailbox.take_accepted_succ hwait
    rw [unwritten] at hnone
    simp only [htaken, List.drop_left] at hnone
    cases hnone
  · obtain ⟨hlength, -⟩ := Network.written_write hw
    obtain ⟨p', hp', hunmoved, hcount⟩ := Network.unmoved_write hw hp
    simp only [Link.transmit, hw, Network.joinedSince_of_length hlength, List.append_nil,
      Option.toList_none]
    simp only [Faithful, hs]
    have honward := hunmoved.onward
    exact ⟨p', ps, hp', hlen.trans hcount.symm, onward_take honward hcount hlen hread, rfl⟩

/-- A task that is over makes a report that was still to be made, or lets go of
its peer. -/
theorem Faithful.conclude (h : l.Faithful n peers reports) (hserved : l.Served n peers)
    {peer : Option Nat} {unsaid : List Report} (hs : l.stage = .ending peer unsaid) :
    (l.conclude n peer unsaid).1.Faithful (l.conclude n peer unsaid).2.1
      (peers ++ n.joinedSince (l.conclude n peer unsaid).2.1)
      (reports ++ (l.conclude n peer unsaid).2.2.toList) := by
  rw [Faithful, hs] at h
  simp only [Link.unsaid, hs] at h
  cases unsaid with
  | cons r unsaid =>
    simp only [Link.conclude, Network.joinedSince_self, List.append_nil]
    refine faithful_over rfl fun hnone i hi => ?_
    obtain ⟨p, hp, hprefix⟩ := h hnone i hi
    exact ⟨p, hp, by simpa [Link.unsaid] using hprefix⟩
  | nil =>
    have hjoin : n.joinedSince (peer.elim n n.release) = [] :=
      Network.joinedSince_of_length (by cases peer <;> simp)
    have hw : ∀ i ∈ peers, (peer.elim n n.release).written i = n.written i := by
      intro i _
      cases peer <;> simp
    simp only [Link.conclude, hjoin, List.append_nil, Option.toList_none]
    refine faithful_over rfl fun hnone i hi => ?_
    have hsame : l.unwritten n peers = [] := by
      rw [← hnone]
      exact (unwritten_congr hserved.1 rfl List.prefix_rfl hw).symm
    obtain ⟨p, hp, hprefix⟩ := h hsame i hi
    have hrelease : ∃ p', (peer.elim n n.release).peers[i]? = some p' ∧ p.Onward p' := by
      cases peer with
      | none => exact ⟨p, hp, .refl p⟩
      | some peer =>
        obtain ⟨p', hp', hunmoved, -⟩ := Network.unmoved_release hp peer
        exact ⟨p', hp', hunmoved.onward⟩
    obtain ⟨p', hp', honward⟩ := hrelease
    exact ⟨p', hp', by simpa [Link.unsaid] using hprefix.trans honward.transcript⟩

/-- Every move of a task keeps it faithful to its peer. -/
theorem Move.faithful (hm : l.Move n o) (h : l.Faithful n peers reports)
    (hserved : l.Served n peers) (hsaid : l.Said reports) :
    o.1.Faithful o.2.1 (peers ++ n.joinedSince o.2.1) (reports ++ o.2.2.toList) := by
  have hsrv := hserved.2
  have hlive := h
  cases hm with
  | dial hs =>
    rw [hs] at hsrv
    rw [Said, hs] at hsaid
    obtain ⟨rfl, -⟩ := hsrv
    subst hsaid
    have hjoin := joinedSince_attempt n
    rcases ha : n.attempt l.target with ⟨answer | gate, n'⟩ <;> simp only [Link.dial, ha]
    · rw [List.nil_append, ← hjoin _ l.target, ha]
      exact faithful_hear
    · trivial
  | dialInVain hs =>
    rw [hs] at hsrv
    obtain ⟨rfl, -⟩ := hsrv
    have hlen := length_peers_attempt n l.target
    rcases ha : n.attempt l.target with ⟨answer | gate, n'⟩ <;> rw [ha] at hlen <;>
      simp only [Link.dialInVain, Link.desert, ha]
    · rw [Network.joinedSince_of_length hlen]
      exact faithful_alone rfl
    · rw [show n.joinedSince (n'.desert gate) = [] from Network.joinedSince_of_length hlen]
      exact faithful_alone rfl
  | answered hs =>
    rw [hs] at hsrv
    rw [Said, hs] at hsaid
    obtain ⟨rfl, -⟩ := hsrv
    subst hsaid
    exact faithful_hear
  | desert hs =>
    rw [hs] at hsrv
    obtain ⟨rfl, -⟩ := hsrv
    rw [show n.joinedSince (l.desert n _).2.1 = [] from Network.joinedSince_of_length rfl]
    exact faithful_alone rfl
  | absorb hs hr => exact h.absorb hserved hs hr
  | @lose peer hs hr hl =>
    rw [hs] at hsrv
    rw [Faithful, hs] at hlive
    obtain ⟨rfl, -⟩ := hsrv
    obtain ⟨p, ps, hp, hlen, hread, rfl⟩ := hlive
    have hleft : p.left = true := by simpa [Network.hasLeft, hp] using hl
    simp only [Link.lose, Network.joinedSince_self, List.append_nil, Option.toList_none]
    refine faithful_stop rfl hp hread ?_ ⟨p, hp, rfl, rfl⟩
    rw [hr, hleft]
    exact List.prefix_rfl
  | @leave peer hs =>
    rw [hs] at hsrv
    rw [Faithful, hs] at hlive
    obtain ⟨rfl, -⟩ := hsrv
    obtain ⟨p, ps, hp, hlen, hread, rfl⟩ := hlive
    have hjoin : n.joinedSince (n.release peer) = [] := Network.joinedSince_of_length (by simp)
    simp only [Link.leave, hjoin, List.append_nil, Option.toList_none]
    exact faithful_stop rfl hp hread List.nil_prefix
      ⟨{ p with released := true }, by simp [Network.release, Network.modifyPeer, hp], rfl, rfl⟩
  | transmit hs hwait => exact h.transmit hserved hs hwait
  | conclude hs => exact h.conclude hserved hs

/-- What a task has reported is a beginning of the transcript, unless a write of
its own has failed. -/
theorem Faithful.reports_prefix {peer : Nat} (h : l.Faithful n [peer] reports)
    (hserved : l.Served n [peer]) (hw : l.unwritten n [peer] = []) {p : Peer}
    (hp : n.peers[peer]? = some p) : reports <+: p.transcript := by
  have hpeer := hserved.2
  have hover : (l.unwritten n [peer] = [] → ∀ i ∈ [peer],
      ∃ q, n.peers[i]? = some q ∧ reports ++ l.unsaid <+: q.transcript) →
      reports <+: p.transcript := by
    intro h
    obtain ⟨q, hq, hprefix⟩ := h hw peer (List.mem_singleton.mpr rfl)
    rw [hp] at hq
    cases hq
    exact (List.prefix_append ..).trans hprefix
  rw [Faithful] at h
  rcases hs : l.stage with - | gate | i | ⟨i, unsaid⟩ | - <;> rw [hs] at h hpeer
  · cases hpeer.1
  · cases hpeer.1
  · obtain ⟨q, ps, hq, -, hread, rfl⟩ := h
    cases hpeer.1
    rw [hp] at hq
    cases hq
    rw [Peer.transcript, inbound_eq hp hread, Report.ofInbound_messages]
    exact List.cons_prefix_cons.mpr ⟨rfl, List.prefix_append ..⟩
  · exact hover h
  · exact hover h

/-- A live task that has nothing to read has reported everything. -/
theorem Faithful.reports_eq {peer : Nat} (h : l.Faithful n peers reports)
    (hs : l.stage = .live peer) (hr : n.unread peer = []) (hl : n.hasLeft peer = false) {p : Peer}
    (hp : n.peers[peer]? = some p) : reports = p.transcript := by
  rw [Faithful, hs] at h
  obtain ⟨q, ps, hq, -, hread, rfl⟩ := h
  rw [hp] at hq
  cases hq
  have hleft : p.left = false := by simpa [Network.hasLeft, hp] using hl
  rw [Peer.transcript, inbound_eq hp hread, Report.ofInbound_messages, hr, hleft]
  simp [Report.ofInbound]

theorem faithful_lasting : Lasting Faithful where
  keep h hserved _ := h.keep hserved
  move h hserved hsaid hm := hm.faithful h hserved hsaid

/-! ### Refused attempts -/

/-- The attempt was refused: the task is over, with this error to report. -/
def Refused (error : Error) (l : Link) (_ : Network) (_ : List Nat) (reports : List Report) :
    Prop :=
  l.stage.isOver = true ∧ reports ++ l.unsaid = Report.failure error

theorem Move.refused {error : Error} (hm : l.Move n o) (h : l.Refused error n peers reports) :
    o.1.Refused error o.2.1 (peers ++ n.joinedSince o.2.1) (reports ++ o.2.2.toList) := by
  obtain ⟨hover, hall⟩ := h
  cases hm with
  | dial hs | dialInVain hs | answered hs | desert hs | absorb hs | lose hs | transmit hs
  | leave hs =>
    rw [hs] at hover
    cases hover
  | @conclude peer unsaid hs =>
    rw [Link.unsaid, hs] at hall
    cases unsaid with
    | cons r unsaid => exact ⟨rfl, by simpa [Link.conclude, Link.unsaid, breakOff] using hall⟩
    | nil => exact ⟨rfl, by simpa [Link.conclude, Link.unsaid, finish] using hall⟩

theorem refused_lasting (error : Error) : Lasting (Refused error) where
  keep h _ _ hstage _ _ _ _ := by
    obtain ⟨hover, hall⟩ := h
    exact ⟨hstage ▸ hover, by rw [Link.unsaid, hstage]; exact hall⟩
  move h _ _ hm := hm.refused h

/-- The address of a link never changes. -/
theorem target_lasting (target : String) : Lasting fun l _ _ _ => l.target = target where
  keep h _ htarget _ _ _ _ _ := htarget.trans h
  move h _ _ hm := hm.kept.target.trans h

end Link

end Provision
