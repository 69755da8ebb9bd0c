/-
Nothing that was submitted disappears without a trace.

Once no task can move, every payload that was submitted is in exactly one
place: a peer has received it, or its own write failed, or it is queued, or it
was queued at a close, or it is stranded: a task has ended and left it in its
mailbox.  The mailbox of a task that has ended is not emptied, so what a flush
has handed over behind a failed write does not go back to the queue.

Main result: `payloads_accounted`.
-/
import Mathlib.Data.List.Induction
import Mathlib.Data.List.Perm.Basic
import Provision.Proofs.Exchange.Opening
import Provision.Proofs.Link.Account

namespace Provision

namespace Trace

variable {t : Trace}

/-- Everything that was queued at a close. -/
def discarded (t : Trace) : List Payload :=
  t.flatMap fun | .closed lost => lost | _ => []

/-- What was submitted has survived, or was queued at a close. -/
theorem sent_perm (h : t.Throughout fun t₁ o => ∀ lost, o = .closed lost → lost <:+ t₁.survivors) :
    t.sent.Perm (t.survivors ++ t.discarded) := by
  induction t using List.reverseRecOn with
  | nil => exact .refl _
  | append_singleton t o ih =>
    have hbefore := ih fun t₁ k t₂ heq => h t₁ k (t₂ ++ [o]) (by simp [heq])
    rw [survivors_append]
    cases o with
    | sent p =>
      have hsent : sent (t ++ [.sent p]) = sent t ++ [p] := by simp [sent]
      have hdiscarded : discarded (t ++ [.sent p]) = discarded t := by simp [discarded]
      rw [hsent, hdiscarded]
      refine (hbefore.append_right [p]).trans ?_
      show (survivors t ++ discarded t ++ [p]).Perm (survivors t ++ [p] ++ discarded t)
      rw [List.append_assoc, List.append_assoc]
      exact List.perm_append_comm.append_left _
    | closed lost =>
      -- The close takes away the end of what survived so far.
      obtain ⟨kept, hkept⟩ := h t (.closed lost) [] rfl lost rfl
      have hsent : sent (t ++ [.closed lost]) = sent t := by simp [sent]
      have hdiscarded : discarded (t ++ [.closed lost]) = discarded t ++ lost := by
        simp [discarded]
      rw [hsent, hdiscarded]
      refine hbefore.trans ?_
      show (survivors t ++ discarded t).Perm
        ((survivors t).take ((survivors t).length - lost.length) ++ (discarded t ++ lost))
      rw [← hkept, List.length_append, Nat.add_sub_cancel, List.take_left, List.append_assoc]
      exact List.perm_append_comm.append_left _
    | opened | handed | event | reported | joined =>
      simpa [sent, discarded, survive] using hbefore

/-- Things that belong to links, link by link. -/
theorem perm_flatMap_filter {α : Type} (xs : List (ConnectionId × α)) {ids : List ConnectionId}
    (hnodup : ids.Nodup) (hmem : ∀ x ∈ xs, x.1 ∈ ids) :
    (xs.map (·.2)).Perm (ids.flatMap fun id => (xs.filter (·.1 = id)).map (·.2)) := by
  induction xs with
  | nil => simp
  | cons x xs ih =>
    have hsplit : (ids.flatMap fun id => ((x :: xs).filter (·.1 = id)).map (·.2)) =
        ids.flatMap fun id => (if x.1 = id then [x.2] else []) ++
          (xs.filter (·.1 = id)).map (·.2) := by
      refine List.flatMap_congr fun id _ => ?_
      by_cases hid : x.1 = id <;> simp [hid]
    have hone : (ids.flatMap fun id => if x.1 = id then [x.2] else []) = [x.2] := by
      rw [Session.flatMap_eq_of_unique hnodup (hmem x List.mem_cons_self)
        fun id hid => if_neg (Ne.symm hid), if_pos rfl]
    have hrest := ih fun y hy => hmem y (List.mem_cons_of_mem x hy)
    rw [hsplit]
    refine List.Perm.trans ?_ (List.flatMap_append_perm ids _ _)
    rw [hone]
    exact hrest.cons x.2

end Trace

namespace Exchange

variable {e e' : Exchange} {t u : Trace}

/-- Every link keeps account of what it was handed. -/
def Audited (e : Exchange) (t : Trace) : Prop :=
  ∀ l ∈ e.session.links, l.Accounted e.network (t.joinedBy l.id) (t.reportsOf l.id)

theorem Audited.call (h : e.Audited t) (ht : e.Tracked t) (c : Call) :
    (e.call c).Audited (t ++ e.session.observed c) := by
  obtain ⟨done, hf⟩ := ht.coherent.call c
  intro l' hl'
  rw [reportsOf_call]
  rcases hf.links l' hl' with ⟨l, hl, hspared⟩ | ⟨target, -, rfl⟩
  · rw [hspared.id, joinedBy_call]
    exact (h l hl).mono (ht.served l hl).1 hspared.stage hspared.taken hspared.accepted
      fun _ _ => rfl
  · exact Link.accounted_of_served ((ht.call c).served _ hl') rfl

theorem Audited.background (h : e.Audited t) (ht : e.Tracked t) (hb : e.Background u e') :
    e'.Audited (t ++ u) := by
  intro l' hl'
  rw [Trace.joinedBy_append, Trace.reportsOf_append]
  rcases hb.link_cases ht.coherent hl' with
    ⟨l, hl, o, hm, rfl, hnetwork, rfl⟩ | ⟨l, hl, hstays, huntouched⟩
  · rw [hm.kept.id, joinedBy_moveObserved, reportsOf_moveObserved, if_pos rfl, if_pos rfl,
      hnetwork]
    exact hm.accounted (ht.served l hl) (h l hl)
  · rw [hstays.id, huntouched.joinedBy, huntouched.reportsOf, List.append_nil, List.append_nil]
    refine (h l hl).mono (ht.served l hl).1 hstays.stage hstays.taken ?_ fun peer hpeer => ?_
    · exact hstays.accepted ▸ List.prefix_rfl
    · exact huntouched.written peer fun k hk hlive => ht.id_of_live hk hlive hpeer

theorem Run.audited (h : Run e t) : e.Audited t := by
  induction h with
  | start => simp [Audited]
  | call c hrun ih => exact ih.call hrun.tracked c
  | background hrun hb ih => exact ih.background hrun.tracked hb

/-! ### Where the payloads are -/

/-- Everything that the far side has received, peer by peer. -/
def received (e : Exchange) : List Payload :=
  (List.range e.network.peers.length).flatMap e.network.written

/-- The payloads whose own writes failed. -/
def unwritten (e : Exchange) (t : Trace) : List Payload :=
  e.session.links.flatMap fun l => l.unwritten e.network (t.joinedBy l.id)

/-- What is in mailboxes and was not taken out. -/
def stranded (e : Exchange) : List Payload :=
  e.session.links.flatMap (·.mailbox.waiting)

/-- What was handed over is what the mailboxes have accepted. -/
theorem Tracked.handed_perm (h : e.Tracked t) :
    (t.handed.map (·.2)).Perm (e.session.links.flatMap (·.mailbox.accepted)) := by
  have hnodup : (e.session.links.map (·.id)).Nodup := h.coherent.ids ▸ List.nodup_range'
  have hmem : ∀ x ∈ t.handed, x.1 ∈ e.session.links.map (·.id) := by
    intro x hx
    by_contra hid
    have hnone : t.handedTo x.1 = [] := by rw [h.handedTo, Session.accepted_eq_nil hid]
    rw [Trace.handedTo, List.map_eq_nil_iff] at hnone
    exact List.not_mem_nil (hnone ▸ List.mem_filter.mpr ⟨hx, by simp⟩)
  refine (Trace.perm_flatMap_filter t.handed hnodup hmem).trans (.of_eq ?_)
  rw [List.flatMap_map]
  refine List.flatMap_congr fun l hl => ?_
  rw [← h.coherent.accepted_eq hl, ← h.handedTo]
  rfl

/-- What the far side has received, link by link. -/
theorem Tracked.received_perm (h : e.Tracked t) :
    (e.session.links.flatMap fun l => Link.received e.network (t.joinedBy l.id)).Perm
      e.received := by
  have hnodup : (e.session.links.map (·.id)).Nodup := h.coherent.ids ▸ List.nodup_range'
  have hjoined := Trace.perm_flatMap_filter t.joined hnodup h.owners
  rw [h.joined, List.flatMap_map] at hjoined
  have hall := hjoined.symm.flatMap_right e.network.written
  rw [List.flatMap_assoc] at hall
  exact hall

/-- Nothing waits in a mailbox but what a task has left there. -/
theorem Run.finished_of_waiting (h : Run e t) (hq : e.Quiet) {l : Link}
    (hl : l ∈ e.session.links) (hw : l.mailbox.waiting ≠ []) : l.stage = .finished := by
  rcases Link.still_cases (hq l hl) with hfin | ⟨gate, hgate, -⟩ | ⟨peer, -, -, -, -, hnone⟩
  · exact hfin
  · -- At a gate nothing was reported, so nothing was handed over.
    obtain ⟨hs, hh⟩ := h.heard
    have hsaid := hs.said l hl
    rw [Link.Said, hgate] at hsaid
    have hacc : e.session.accepted l.id ≠ [] := by
      rw [h.coherent.accepted_eq hl]
      intro hnil
      exact hw (by rw [Mailbox.waiting, hnil, List.drop_nil])
    have hopened := hh.mem_reportsOf (r := .opened) (h.opening.handed l.id hacc)
    rw [hsaid] at hopened
    cases hopened
  · exact absurd hnone hw

/-- Every payload is accounted for.  In every run, once no task can move, what
was submitted is, each payload exactly once: received by a peer, or not written
because its own write failed, or stranded in a mailbox, or queued, or discarded
by a close.  Each link's mailbox has accepted what its peer has received, then
at most one payload whose write failed with an error that its task has
reported, then what is stranded there; and only a task that has ended strands
anything. -/
theorem payloads_accounted (h : Run e t) (hq : e.Quiet) :
    t.sent.Perm (e.received ++ e.unwritten t ++ e.stranded ++ e.session.outbox.toList ++
      t.discarded) ∧
    ∀ l ∈ e.session.links,
      l.mailbox.accepted = (t.joinedBy l.id).flatMap e.network.written ++
        l.unwritten e.network (t.joinedBy l.id) ++ l.mailbox.waiting ∧
      (l.unwritten e.network (t.joinedBy l.id) = [] ∨
        ∃ p text, l.unwritten e.network (t.joinedBy l.id) = [p] ∧
          Report.failed (Error.transport text).message ∈ t.reportsOf l.id) ∧
      (l.mailbox.waiting ≠ [] → l.stage = .finished) := by
  have ht := h.tracked
  have hsplit : ∀ l ∈ e.session.links, _ := fun l hl => (h.audited l hl).split
  constructor
  · have hlinks : (e.session.links.flatMap (·.mailbox.accepted)).Perm
        (e.received ++ e.unwritten t ++ e.stranded) := by
      rw [List.flatMap_congr fun l hl => (hsplit l hl).1]
      refine (List.flatMap_append_perm _ _ _).symm.trans (.append_right _ ?_)
      exact (List.flatMap_append_perm _ _ _).symm.trans (ht.received_perm.append_right _)
    refine (Trace.sent_perm ht.lost).trans (.append_right _ ?_)
    rw [← ht.balance]
    exact (ht.handed_perm.trans hlinks).append_right _
  · intro l hl
    obtain ⟨haccepted, hexcused⟩ := hsplit l hl
    refine ⟨haccepted, ?_, h.finished_of_waiting hq hl⟩
    -- At rest, no task has reports that it is still to make.
    have hunsaid : l.unsaid = [] := by
      rcases Link.still_cases (hq l hl) with hs | ⟨_, hs, -⟩ | ⟨_, hs, -⟩ <;> rw [Link.unsaid, hs]
    rw [hunsaid, List.append_nil] at hexcused
    exact hexcused

/-- A run in which all five happen: the first payload is received, the write of
the second fails and strands the third, the fourth is discarded by a close, and
the last one is queued. -/
theorem payloads_accounted_each_way :
    ∃ e t, Run e t ∧ e.Quiet ∧
      t.sent = [.text "a", .text "b", .text "c", .text "d", .text "e"] ∧
      e.received = [.text "a"] ∧ e.unwritten t = [.text "b"] ∧ e.stranded = [.text "c"] ∧
      t.discarded = [.text "d"] ∧ e.session.outbox.toList = [.text "e"] ∧
      t.sent.Perm (e.received ++ e.unwritten t ++ e.stranded ++ e.session.outbox.toList ++
        t.discarded) := by
  have h₁ := ((((Run.start (n := {}) rfl).call (.send (.text "a"))).call
    (.send (.text "b"))).call (.send (.text "c"))).call (.connect "x")
  have h₂ := (h₁.background (@Background.move _ [] [] _ _ rfl (.dial rfl))).call .next
  have h₃ := h₂.background (@Background.move _ [] [] _ _ rfl (.transmit rfl rfl))
  have h₄ := (h₃.background (.drift (Network.drift_writeFault _ (some "broken pipe")))).background
    (@Background.move _ [] [] _ _ rfl (.transmit rfl rfl))
  have h₅ := ((h₄.background (@Background.move _ [] [] _ _ rfl (.conclude rfl))).background
    (@Background.move _ [] [] _ _ rfl (.conclude rfl))).background
    (@Background.move _ [] [] _ _ rfl (.conclude rfl))
  have h₆ := ((((h₅.call .next).call .next).call (.send (.text "d"))).call .close).call
    (.send (.text "e"))
  exact ⟨_, _, h₆, step?_eq_none_iff.mp rfl, by decide, by decide, by decide, by decide,
    by decide, by decide, (payloads_accounted h₆ (step?_eq_none_iff.mp rfl)).1⟩

/-- It is not true that nothing is stranded: behind a failed write, what the
same flush has handed over is neither received nor queued again. -/
theorem stranded_behind_failed_write :
    ¬ ∀ e t, Run e t → e.Quiet →
      t.sent.Perm (e.received ++ e.unwritten t ++ e.session.outbox.toList ++ t.discarded) := by
  intro h
  have h₁ := ((((Run.start (n := { writeFault := some "broken pipe" }) rfl).call
    (.send (.text "a"))).call (.send (.text "b"))).call (.send (.text "c"))).call (.connect "x")
  have h₂ := (h₁.background (@Background.move _ [] [] _ _ rfl (.dial rfl))).call .next
  have h₃ := h₂.background (@Background.move _ [] [] _ _ rfl (.transmit rfl rfl))
  have h₄ := ((h₃.background (@Background.move _ [] [] _ _ rfl (.conclude rfl))).background
    (@Background.move _ [] [] _ _ rfl (.conclude rfl))).background
    (@Background.move _ [] [] _ _ rfl (.conclude rfl))
  -- Three payloads were submitted, and only the first one is in any of these places.
  have hlen := (h _ _ h₄ (step?_eq_none_iff.mp rfl)).length_eq
  exact absurd hlen (by decide)

end Exchange

end Provision
