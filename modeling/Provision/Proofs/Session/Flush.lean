/-
What a flush leaves of the queue.

A mailbox accepts the first payloads of an offer, as many as it has room for
(`Mailbox.offerAll_eq`).  So a flush cuts the queue in two: the first part goes
to the active link, and the queue is the second part then (`flush_eq_divided`).

A session is `Stuck` on a link if it is open and the task of the link has let go
of its mailbox.  Nothing can be handed over then (`Stuck.handOver_eq`): what is
sent is put at the end of the queue, and a flush changes nothing.
-/
import Provision.Proofs.Session.Calls

namespace Provision

/-! ### Mailboxes -/

namespace Mailbox

/-- The mailbox after it has accepted payloads. -/
def accept (m : Mailbox) (ps : List Payload) : Mailbox :=
  { m with accepted := m.accepted ++ ps, room := m.room.map (· - ps.length) }

@[simp] theorem accepted_accept (m : Mailbox) (ps : List Payload) :
    (m.accept ps).accepted = m.accepted ++ ps := rfl

@[simp] theorem taken_accept (m : Mailbox) (ps : List Payload) :
    (m.accept ps).taken = m.taken := rfl

theorem accept_nil (m : Mailbox) : m.accept [] = m := by
  obtain ⟨accepted, taken, - | room⟩ := m <;> simp [accept]

theorem offer_eq_accept {m m' : Mailbox} {p : Payload} (h : m.offer p = some m') :
    m' = m.accept [p] := by
  rcases hr : m.room with - | - | room <;> simp only [offer, hr] at h <;> cases h <;>
    simp [accept, hr]

theorem accept_accept (m : Mailbox) (ps qs : List Payload) :
    (m.accept ps).accept qs = m.accept (ps ++ qs) := by
  rcases h : m.room with - | room <;> simp [accept, h, Nat.sub_sub]

/-- Of an offer, the first payloads are accepted, as many as there is room for, and the
others are left over. -/
theorem offerAll_eq (m : Mailbox) (ps : List Payload) :
    m.offerAll ps =
      (m.accept (ps.take (m.room.getD ps.length)), ps.drop (m.room.getD ps.length)) := by
  induction ps generalizing m with
  | nil => simp [offerAll, accept_nil]
  | cons p ps ih =>
    rcases ho : m.offer p with - | m'
    · have hroom : m.room = some 0 := by simpa [isAbandoned] using offer_eq_none_iff.mp ho
      simp [offerAll, ho, hroom, accept_nil]
    · have hm' := offer_eq_accept ho
      have hroom : m.room.getD (ps.length + 1) = (m.accept [p]).room.getD ps.length + 1 := by
        rcases hr : m.room with - | - | room
        · simp [accept, hr]
        · simp [offer, hr] at ho
        · simp [accept, hr]
      simp only [offerAll, ho, ih, hm', accept_accept, List.length_cons, hroom, List.take_succ_cons,
        List.drop_succ_cons, List.singleton_append]

end Mailbox

namespace Session

variable {s : Session} {l : Link} {id : ConnectionId}

/-! ### The queue, cut in two -/

/-- The session with its queue cut after `k` payloads: those before are accepted by the
link `l`, and the others are queued. -/
def divided (s : Session) (l : Link) (k : Nat) : Session :=
  { s.modifyLink l.id ({ · with mailbox := l.mailbox.accept (s.outbox.toList.take k) }) with
    outbox := ⟨s.outbox.toList.drop k⟩ }

@[simp] theorem toList_outbox_divided (s : Session) (l : Link) (k : Nat) :
    (s.divided l k).outbox.toList = s.outbox.toList.drop k := rfl

theorem activeLink?_modifyLink (h : s.activeLink? = some l) {f : Link → Link}
    (hf : ∀ l, (f l).id = l.id) : (s.modifyLink l.id f).activeLink? = some (f l) := by
  obtain ⟨hactive, hlink⟩ := link?_of_activeLink? h
  have hfollowed : (s.modifyLink l.id f).activeLink? = (s.modifyLink l.id f).link? l.id := by
    simp [activeLink?, modifyLink, hactive]
  rw [hfollowed, link?_modifyLink s l.id hf, hlink, Option.map_some, if_pos rfl]

theorem activeLink?_divided (h : s.activeLink? = some l) (k : Nat) :
    (s.divided l k).activeLink? =
      some { l with mailbox := l.mailbox.accept (s.outbox.toList.take k) } :=
  activeLink?_modifyLink (f := ({ · with mailbox := l.mailbox.accept (s.outbox.toList.take k) }))
    h fun _ => rfl

theorem pushAll_nil (ps : List Payload) : Outbox.pushAll {} ps = ⟨ps⟩ := by
  have h := Outbox.toList_pushAll {} ps
  rcases hq : Outbox.pushAll {} ps with ⟨qs⟩
  rw [hq] at h
  exact congrArg Outbox.mk (by simpa using h)

/-- Without a link to follow, the queue stays. -/
theorem flush_eq_self (h : s.activeLink? = none) : s.flush = s := by
  simp [flush, h]

/-- The queue is cut where the active link has no more room. -/
theorem flush_eq_divided (h : s.activeLink? = some l) :
    s.flush = s.divided l (l.mailbox.room.getD s.outbox.toList.length) := by
  have hdrained : activeLink? { s with outbox := s.outbox.drain.2 } = some l := h
  simp only [flush, h, handOver, hdrained, Outbox.drain_fst, Mailbox.offerAll_eq]
  show ({ s.modifyLink l.id _ with outbox := Outbox.pushAll {} _ } : Session) = _
  rw [pushAll_nil]
  rfl

/-! ### Tasks that have let go -/

/-- The session is open on a link whose task has let go of its mailbox. -/
structure Stuck (s : Session) (id : ConnectionId) : Prop where
  active : s.active = some id
  status : s.status = .opened
  abandoned : ∀ l ∈ s.links, l.id = id → l.mailbox.isAbandoned = true

/-- Nothing is handed over. -/
theorem Stuck.handOver_eq (h : s.Stuck id) (hc : s.Coherent) (ps : List Payload) :
    s.handOver ps = (s, ps) := by
  obtain ⟨l, hl, hid⟩ := hc.exists_activeLink h.active
  have hmem := mem_of_link? (link?_of_activeLink? hl).2
  -- The mailbox that is put back is the one that is there.
  have hsame : s.modifyLink l.id ({ · with mailbox := l.mailbox }) = s := by
    have hlinks : s.links.map (fun k => if k.id = l.id then { k with mailbox := l.mailbox } else k)
        = s.links := by
      refine (List.map_congr_left fun k hk => ?_).trans (List.map_id _)
      by_cases hkl : k.id = l.id
      · rw [if_pos hkl, hc.eq_of_id hk hmem hkl]
        rfl
      · rw [if_neg hkl]
        rfl
    rw [modifyLink, hlinks]
  simp only [handOver, hl, Mailbox.offerAll_of_isAbandoned (h.abandoned l hmem hid), hsame]

/-- What is sent is put at the end of the queue. -/
theorem Stuck.send_eq (h : s.Stuck id) (hc : s.Coherent) (p : Payload) :
    s.send p = { s with outbox := s.outbox.push p } := by
  simp only [send, h.status, if_true, h.handOver_eq hc]
  rfl

theorem Stuck.flush_eq (h : s.Stuck id) (hc : s.Coherent) : s.flush = s := by
  obtain ⟨l, hl, -⟩ := hc.exists_activeLink h.active
  have hdrained : Stuck { s with outbox := s.outbox.drain.2 } id :=
    ⟨h.active, h.status, h.abandoned⟩
  have hcoherent : Coherent { s with outbox := s.outbox.drain.2 } :=
    ⟨hc.ids, hc.following, hc.reports, fun _ hne => absurd rfl hne⟩
  simp only [flush, hl, hdrained.handOver_eq hcoherent]
  exact congrArg (fun q => ({ s with outbox := q } : Session)) (pushAll_nil _)

end Session

end Provision
