/-
What a flush leaves in the queue.

A session flushes its queue when it reads that its connection has opened.  A task
reports one opening, and nothing is handed to a link before it is read; so the mailbox
is empty then (`Run.waiting_eq_nil`), and what waits in it afterwards is what the
flush has handed over.

Main result: `flush_divides_queue`.
-/
import Provision.Proofs.Exchange.Opening
import Provision.Proofs.Session.Flush

namespace Provision

namespace Session

variable {s : Session}

/-- An opening is an event of the followed link, and it flushes the queue. -/
theorem opened_of_next (h : s.next.2 = some .opened) :
    ∃ stale id rest, s.reports = stale ++ (id, .opened) :: rest ∧ s.active = some id ∧
      s.next.1 = { flush { s with status := .opened } with reports := rest } := by
  rcases s.next_cases with ⟨-, hnext⟩ | ⟨stale, id, r, rest, hreports, -, ha, hnext⟩
  · rw [hnext] at h
    cases h
  · rw [hnext] at h
    cases r with
    | opened => exact ⟨stale, id, rest, hreports, ha, by rw [hnext]; rfl⟩
    | frame | failed | ended => cases h

end Session

namespace Exchange

variable {e : Exchange} {t : Trace} {id : ConnectionId} {l : Link}

/-- Of the followed link, one opening at most was heard or waits. -/
theorem Run.count_opened_le (h : Run e t) (ha : e.session.active = some id) :
    (t.eventsOf id ++ (e.session.pending id).map Report.event).count .opened ≤ 1 := by
  obtain ⟨-, hbegun, hpending, -⟩ := inbound_order h
  obtain ⟨whole, hwhole, -, hbefore⟩ := hbegun id
  rw [hpending id ha]
  exact Nat.le_trans (hbefore.sublist.count_le _) hwhole.count_opened_le

/-- A link to which nothing was handed over has nothing to write. -/
theorem Run.waiting_eq_nil (h : Run e t) (hl : l ∈ e.session.links)
    (hnone : e.session.accepted l.id = []) :
    l.mailbox.accepted = [] ∧ l.mailbox.taken = 0 := by
  have haccepted : l.mailbox.accepted = [] := by
    rw [← h.coherent.accepted_eq hl]
    exact hnone
  obtain ⟨htaken, -⟩ := h.tracked.served l hl
  rw [haccepted] at htaken
  exact ⟨haccepted, Nat.le_zero.mp htaken⟩

/-- When its opening is read, nothing was handed to a link yet. -/
theorem Run.accepted_of_opened (h : Run e t) (ho : e.session.next.2 = some .opened)
    (ha : e.session.active = some id) : e.session.accepted id = [] := by
  obtain ⟨stale, i, rest, hreports, hi, -⟩ := Session.opened_of_next ho
  obtain rfl : i = id := Option.some.inj (hi.symm.trans ha)
  have hwaits : 0 < ((e.session.pending i).map Report.event).count .opened := by
    refine List.count_pos_iff.mpr (List.mem_map.mpr ⟨.opened, ?_, rfl⟩)
    exact List.mem_filterMap.mpr ⟨(i, .opened), by rw [hreports]; simp, if_pos rfl⟩
  have honce := h.count_opened_le ha
  rw [List.count_append] at honce
  -- Only what was heard to open is handed payloads, and this opening still waits.
  by_contra hhanded
  have hheard := List.count_pos_iff.mpr (h.opening.handed i hhanded)
  omega

/-- **A flush divides the queue.**  In any session, whatever is queued: without a link to
follow, a flush changes nothing.  If the task of the followed link accepts `k` payloads
and no more, the queue is cut after `k` payloads: those before are accepted, in order,
and the others are queued as they were, the first of them being the one that was refused.
If the task accepts whatever comes, nothing is queued any more.  In a run, nothing waits
in the mailbox when an opening is read, so that afterwards exactly what was accepted
does. -/
theorem flush_divides_queue :
    (∀ s : Session, s.activeLink? = none → s.flush = s) ∧
    (∀ (s : Session) (l : Link), s.activeLink? = some l →
      (∀ k, l.mailbox.room = some k →
        s.flush = s.divided l k ∧ s.flush.outbox.toList = s.outbox.toList.drop k) ∧
      (l.mailbox.room = none →
        s.flush = s.divided l s.outbox.size ∧ s.flush.outbox.toList = [])) ∧
    ∀ (e : Exchange) (t : Trace), Run e t → e.session.next.2 = some .opened →
      ∃ l l', e.session.activeLink? = some l ∧ l.mailbox.waiting = [] ∧
        e.session.next.1.activeLink? = some l' ∧ l'.id = l.id ∧
        (∀ k, l.mailbox.room = some k →
          l'.mailbox.waiting = e.session.outbox.toList.take k ∧
            e.session.next.1.outbox.toList = e.session.outbox.toList.drop k) ∧
        (l.mailbox.room = none →
          l'.mailbox.waiting = e.session.outbox.toList ∧ e.session.next.1.outbox.toList = []) := by
  refine ⟨fun s => Session.flush_eq_self, fun s l hl => ⟨fun k hk => ?_, fun hroom => ?_⟩,
    fun e t h ho => ?_⟩
  · rw [Session.flush_eq_divided hl, hk]
    exact ⟨rfl, rfl⟩
  · rw [Session.flush_eq_divided hl, hroom]
    exact ⟨rfl, List.drop_length⟩
  · obtain ⟨-, id, rest, -, ha, hnext⟩ := Session.opened_of_next ho
    obtain ⟨l, hl, rfl⟩ := h.coherent.exists_activeLink ha
    have hmem := Session.mem_of_link? (Session.link?_of_activeLink? hl).2
    obtain ⟨haccepted, htaken⟩ := h.waiting_eq_nil hmem (h.accepted_of_opened ho ha)
    have hopened : Session.activeLink? { e.session with status := .opened } = some l := hl
    rw [hnext, Session.flush_eq_divided hopened]
    refine ⟨l, _, hl, by simp [Mailbox.waiting, haccepted], Session.activeLink?_divided hopened _,
      rfl, fun k hk => ?_, fun hroom => ?_⟩
    · simp [Mailbox.waiting, haccepted, htaken, hk]
    · simp [Mailbox.waiting, haccepted, htaken, hroom]

/-- Of three queued payloads the task accepts one: that one waits to be written, and the
two others are queued. -/
theorem flush_divides_queue_refused :
    ∃ e t l l', Run e t ∧ e.session.next.2 = some .opened ∧
      e.session.outbox.toList = [.text "a", .text "b", .text "c"] ∧
      e.session.activeLink? = some l ∧ l.mailbox.room = some 1 ∧
      e.session.next.1.activeLink? = some l' ∧ l'.mailbox.waiting = [.text "a"] ∧
      e.session.next.1.outbox.toList = [.text "b", .text "c"] := by
  have h₁ := (Run.start (n := {}) rfl).callAll
    [.send (.text "a"), .send (.text "b"), .send (.text "c"), .connect "x"]
  have h₂ := (h₁.background (@Background.move _ [] [] _ _ rfl (.dial rfl))).background
    (.restrict 1 1)
  obtain ⟨-, -, hrun⟩ := flush_divides_queue
  obtain ⟨l, l', hl, -, hl', -, hlimited, -⟩ := hrun _ _ h₂ (by decide)
  have hroom : l.mailbox.room = some 1 := by
    cases hl
    rfl
  obtain ⟨hwaiting, houtbox⟩ := hlimited 1 hroom
  exact ⟨_, _, l, l', h₂, by decide, by decide, hl, hroom, hl', hwaiting, houtbox⟩

end Exchange

end Provision
