/-
What is true of a session in every state of a run.

A session follows its newest link, exactly while it is connecting or open, and no link
has the number of another.  While it is open, payloads are queued only if the task of
that link has let go of its mailbox; the session is stuck then.  Whatever else happens
from there on, a stuck session goes on to queue all that is sent, as long as its
connection is not replaced, closed or heard to end (`Later.stuck`).

Main result: `session_invariant`.
-/
import Provision.Proofs.Exchange.Opening
import Provision.Proofs.Session.Flush

namespace Provision

namespace Trace

variable {t u : Trace} {id : ConnectionId}

/-- Nobody asked for another connection or closed the session, and the end of the
connection was not heard. -/
structure Retains (u : Trace) (id : ConnectionId) : Prop where
  unreplaced : u.opens = []
  unclosed : u.closes = []
  unended : ∀ info, .closed info ∉ u.eventsOf id

theorem Retains.of_append (h : Retains (t ++ u) id) : t.Retains id ∧ u.Retains id := by
  obtain ⟨hopens, hcloses, hended⟩ := h
  rw [opens_append, List.append_eq_nil_iff] at hopens
  rw [closes_append, List.append_eq_nil_iff] at hcloses
  simp only [eventsOf_append, List.mem_append, not_or] at hended
  exact ⟨⟨hopens.1, hcloses.1, fun info => (hended info).1⟩,
    hopens.2, hcloses.2, fun info => (hended info).2⟩

end Trace

namespace Session

variable {s s' : Session} {id : ConnectionId}

/-- There is an address exactly while a link is followed. -/
theorem Coherent.isSome_target_iff (h : s.Coherent) :
    s.target.isSome = true ↔ s.status = .connecting ∨ s.status = .opened := by
  rw [target, Option.isSome_map]
  constructor
  · intro hsome
    obtain ⟨l, hl⟩ := Option.isSome_iff_exists.mp hsome
    exact h.running_of_active (by simp [(link?_of_activeLink? hl).1])
  · intro hs
    obtain ⟨l, hl, -⟩ := h.exists_activeLink (h.active_of_running hs)
    rw [hl]
    rfl

/-! ### Calls of a stuck session -/

theorem sent_observed (s : Session) (c : Call) :
    Trace.sent (s.observed c) = Trace.sent (s.asked c) := by
  rw [Trace.sent, filterMap_observed]
  simp [Trace.sent]

/-- Nothing is handed over where nothing is accepted. -/
theorem handedSince_eq_nil (h : ∀ id, s'.accepted id = s.accepted id) : s.handedSince s' = [] := by
  refine List.flatMap_eq_nil_iff.mpr fun id _ => ?_
  rw [h id, List.drop_length, List.map_nil]

/-- A report that does not end the connection changes nothing. -/
theorem Stuck.react_eq (h : s.Stuck id) (hc : s.Coherent) {r : Report}
    (hr : ∀ info, r ≠ .ended info) : s.react r = s := by
  cases r with
  | opened =>
    have hsame : { s with status := .opened } = s := by rw [← h.status]
    rw [react, hsame, h.flush_eq hc]
  | frame | failed => rfl
  | ended info => exact absurd rfl (hr info)

/-- A call that does not give up the connection queues what is sent, and hands nothing
over. -/
theorem Stuck.call (h : s.Stuck id) (hc : s.Coherent) (c : Call)
    (hr : Trace.Retains (s.observed c) id) :
    (s.call c).1.Stuck id ∧
      (s.call c).1.outbox.toList = s.outbox.toList ++ Trace.sent (s.observed c) ∧
      Trace.handed (s.observed c) = [] := by
  rw [sent_observed, handed_observed]
  cases c with
  | connect target =>
    have hopens := hr.unreplaced
    rw [opens_observed] at hopens
    cases hopens
  | close =>
    have hcloses := hr.unclosed
    simp [Trace.closes, observed, asked] at hcloses
  | send p =>
    have hcall : (s.call (.send p)).1 = { s with outbox := s.outbox.push p } := h.send_eq hc p
    rw [hcall]
    exact ⟨⟨h.active, h.status, h.abandoned⟩, rfl, handedSince_eq_nil fun _ => rfl⟩
  | next =>
    have hkept : ∃ reports, (s.call .next).1 = { s with reports } := by
      rcases s.next_cases with ⟨-, hnext⟩ | ⟨_, _, r, rest, -, -, ha, hnext⟩
      · exact ⟨[], by rw [Session.call, hnext]⟩
      · refine ⟨rest, ?_⟩
        have hended : ∀ info, r ≠ .ended info := by
          rintro info rfl
          exact hr.unended info (mem_eventsOf_observed h.active (by rw [Session.call, hnext]; rfl))
        rw [Session.call, hnext, h.react_eq hc hended]
    obtain ⟨reports, hcall⟩ := hkept
    rw [hcall]
    exact ⟨⟨h.active, h.status, h.abandoned⟩, by simp [asked, Trace.sent],
      handedSince_eq_nil fun _ => rfl⟩

end Session

namespace Exchange

variable {e e' : Exchange} {t u : Trace} {id : ConnectionId}

/-! ### What follows -/

/-- Tasks do not free a stuck session. -/
theorem Background.stuck (hb : e.Background u e') (hc : e.session.Coherent)
    (h : e.session.Stuck id) : e'.session.Stuck id := by
  obtain ⟨hstatus, -, hactive, -⟩ := hb.session
  refine ⟨hactive.trans h.active, hstatus.trans h.status, fun l' hl' hid => ?_⟩
  obtain ⟨l, hl, hkept⟩ := hb.kept hc hl'
  exact hkept.isAbandoned (h.abandoned l hl (hkept.id ▸ hid))

/-- A session stays stuck while its connection is not given up: what is sent is queued,
in order, and nothing is handed over. -/
theorem Later.stuck (hl : e.Later u e') (hrun : Run e t) (h : e.session.Stuck id)
    (hr : u.Retains id) :
    e'.session.Stuck id ∧ e'.session.outbox.toList = e.session.outbox.toList ++ u.sent ∧
      u.handed = [] := by
  induction hl with
  | refl => exact ⟨h, (List.append_nil _).symm, rfl⟩
  | call c hl ih =>
    obtain ⟨hr, hrc⟩ := hr.of_append
    obtain ⟨hstuck, hqueued, hhanded⟩ := ih hr
    obtain ⟨hstuck', hqueued', hhanded'⟩ := hstuck.call (hrun.later hl).coherent c hrc
    refine ⟨hstuck', hqueued'.trans ?_, ?_⟩
    · rw [hqueued, Trace.sent_append, List.append_assoc]
    · rw [Trace.handed_append, hhanded, hhanded', List.append_nil]
  | @background _ v _ _ hl hb ih =>
    obtain ⟨hr, -⟩ := hr.of_append
    obtain ⟨hstuck, hqueued, hhanded⟩ := ih hr
    have hsent : v.sent = [] := hb.silent.filterMap_eq_nil (fun _ _ => rfl) fun _ _ => rfl
    refine ⟨hb.stuck (hrun.later hl).coherent hstuck, ?_, ?_⟩
    · rw [hb.session.2.1, hqueued, Trace.sent_append, hsent, List.append_nil]
    · rw [Trace.handed_append, hhanded, hb.silent.handed_eq_nil, List.append_nil]

/-- A session that is open and has something queued is stuck. -/
theorem Run.stuck (h : Run e t) (hopen : e.session.status = .opened)
    (hqueued : e.session.outbox.toList ≠ []) : e.session.Stuck e.session.lastId where
  active := h.coherent.active_of_running (.inr hopen)
  status := hopen
  abandoned := h.coherent.stuck hopen hqueued

/-- **What is true of a session in every state of a run.**  It follows a connection
exactly while it is connecting or open, and this is the one with the last number.  The
reports that wait have numbers that were given out, and every connection that was asked
for has a number of its own.  If payloads are queued while the session is open, the task
that it follows has let go of its mailbox.  From then on, until another connection is
asked for, the session is closed or the end is heard, it stays open on that connection
and everything that is sent is queued. -/
theorem session_invariant (h : Run e t) :
    (e.session.target.isSome = true ↔
      e.session.status = .connecting ∨ e.session.status = .opened) ∧
    (∀ l, e.session.activeLink? = some l → l.id = e.session.lastId) ∧
    (∀ x ∈ e.session.reports, x.1 ≤ e.session.lastId) ∧
    (t.opens.map (·.1) = e.session.links.map (·.id) ∧ (t.opens.map (·.1)).Nodup) ∧
    (e.session.status = .opened → e.session.outbox.toList ≠ [] →
      ∃ l, e.session.activeLink? = some l ∧ l.mailbox.isAbandoned = true ∧
        ∀ e' u, e.Later u e' → u.Retains l.id →
          e'.session.active = some l.id ∧ e'.session.status = .opened ∧
          e'.session.outbox.toList = e.session.outbox.toList ++ u.sent ∧ u.handed = [] ∧
          ∀ p, e'.session.send p =
            { e'.session with outbox := e'.session.outbox.push p }) := by
  have hc := h.coherent
  have hids : t.opens.map (·.1) = e.session.links.map (·.id) := h.heard.2.opens.trans hc.ids.symm
  refine ⟨hc.isSome_target_iff, fun l hl => ?_, hc.reports, ⟨hids, ?_⟩, fun hopen hqueued => ?_⟩
  · exact (hc.active_eq (Session.link?_of_activeLink? hl).1).1
  · rw [hids, hc.ids]
    exact List.nodup_range'
  · have hstuck := h.stuck hopen hqueued
    obtain ⟨l, hl, hid⟩ := hc.exists_activeLink hstuck.active
    have hmem := Session.mem_of_link? (Session.link?_of_activeLink? hl).2
    refine ⟨l, hl, hstuck.abandoned l hmem hid, fun e' u hl' hr => ?_⟩
    rw [← hid] at hstuck
    obtain ⟨hstuck', hqueued', hhanded⟩ := hl'.stuck h hstuck hr
    exact ⟨hstuck'.active, hstuck'.status, hqueued', hhanded,
      hstuck'.send_eq (h.later hl').coherent⟩

/-- The task lets go of its mailbox before the opening is heard: the flush hands nothing
over, and a payload that is sent afterwards is queued behind the first. -/
theorem session_invariant_stuck :
    ∃ e t e' u, Run e t ∧ e.session.status = .opened ∧
      e.session.outbox.toList = [.text "a"] ∧ e.session.target.isSome = true ∧
      e.Later u e' ∧ u.Retains 1 ∧ u.sent = [.text "b"] ∧
      e'.session.outbox.toList = [.text "a", .text "b"] ∧ u.handed = [] := by
  have h₁ := (Run.start (n := {}) rfl).callAll [.send (.text "a"), .connect "x"]
  have h₂ := (h₁.background (@Background.move _ [] [] _ _ rfl (.dial rfl))).background
    (.restrict 1 0)
  have h₃ := h₂.call .next
  obtain ⟨htarget, -, -, -, hstuck⟩ := session_invariant h₃
  obtain ⟨l, hl, -, hlater⟩ := hstuck (by decide) (by decide)
  cases hl
  have hsends : ∀ e : Exchange, e.Later
      ([] ++ e.session.observed (.send (.text "b"))) (e.call (.send (.text "b"))) := fun e => .call _ .refl
  have hr : Trace.Retains [.sent (.text "b")] 1 :=
    ⟨rfl, rfl, fun info hmem => by cases hmem⟩
  obtain ⟨-, -, hqueued, hhanded, -⟩ := hlater _ _ (hsends _) hr
  exact ⟨_, _, _, _, h₃, by decide, by decide, htarget.mpr (.inr (by decide)), hsends _, hr,
    by decide, hqueued, hhanded⟩

end Exchange

end Provision
