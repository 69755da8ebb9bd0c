/-
The phase that the user sees and the connection never disagree.

The phase is the application's, the connection is the session's, and only the
actions of the application connect the two.  `Agreed` says that after each
message the session is where the phase wants it.  A turn of the application
keeps this, as the actions take the session along (`turn_agrees`), and an event
of the session is processed at once, before anything can be seen of it.

Main result: `phase_agrees`.
-/
import Provision.Proofs.Engine.Ledger
import Provision.Proofs.Engine.Run

namespace Provision.Engine

variable {e e' : Engine} {t : Trace} {rs : List Request} {m : Message}

/-- The session is where the phase wants it, and events are not waiting in the
channel. -/
structure Agreed (e : Engine) (rs : List Request) : Prop where
  ledger : e.exchange.session.Ledger e.app.endpoint rs
  agrees : e.exchange.session.Agrees rs e.app.phase
  channel : ∀ event, Message.event event ∉ e.channel

theorem agreed_start (settings : Settings) (endpoint : String) (form : Form) (n : Network) :
    Agreed { app := { App.start settings endpoint with form }, exchange := { network := n } } []
    where
  ledger := ⟨Session.coherent_empty, rfl, by simp, fun _ => .inl rfl⟩
  agrees := ⟨rfl, rfl⟩
  channel := by simp

/-- The actions of a turn take the session along. -/
theorem turn_agrees {a : App} {r : Option Request} {out : App × List Action} {x : Exchange}
    (ht : a.Turn r out) (h : x.session.Ledger a.endpoint rs) (ha : x.session.Agrees rs a.phase) :
    (x.callAll (out.2.flatMap Action.calls)).session.Ledger out.1.endpoint (rs ++ r.toList) ∧
      (x.callAll (out.2.flatMap Action.calls)).session.Agrees (rs ++ r.toList) out.1.phase := by
  cases ht with
  | quiet hphase hendpoint =>
    rw [Option.toList_none, List.append_nil, hphase, hendpoint]
    exact ⟨h, ha⟩
  | @start a' r hidle hphase hendpoint =>
    rw [hphase, hendpoint]
    exact h.start ha hidle r
  | stop hrun hstop hendpoint =>
    have hne : x.session.status ≠ .idle := by
      rcases (ha.running hrun).1 with hs | hs <;> simp [hs]
    rw [Option.toList_none, List.append_nil, hendpoint]
    exact h.close hne hstop

/-- So every message that takes a turn keeps to it. -/
theorem Agreed.process (h : e.Agreed rs) (hm : m ≠ .event .opened) :
    (e.process m).1.Agreed (rs ++ (e.app.accepts m).toList) := by
  obtain ⟨hledger, hagrees⟩ := turn_agrees (App.turn_dispatch e.app hm) h.ledger h.agrees
  refine ⟨?_, ?_, h.channel⟩
  · rw [exchange_process]
    exact hledger
  · rw [exchange_process]
    exact hagrees

/-- An event arrives while a session runs, and is processed at once. -/
theorem Agreed.take (h : e.Agreed rs) (hnext : e.next = (e', some m)) :
    (e'.process m).1.Agreed (rs ++ (e'.app.accepts m).toList) := by
  obtain ⟨hexchange, happ⟩ := exchange_next hnext
  have hledger : e'.exchange.session.Ledger e'.app.endpoint rs := by
    rw [hexchange, happ]
    exact (h.ledger.next h.agrees).1
  rcases next_eq_some hnext with ⟨event, hsome, rfl, hchannel⟩ | ⟨hnone, hchannel⟩
  · -- The session is ahead of the phase now, until the event is processed.
    obtain ⟨hrun, hne, hfound⟩ := h.ledger.next_some h.agrees hsome
    have hrun : e'.app.inProgress = true := happ ▸ hrun
    have hquiet : e'.app.accepts (.event event) = none := by simp [App.accepts, App.commandOf]
    have hchannel : ∀ event, Message.event event ∉ e'.channel := hchannel ▸ h.channel
    rw [← show e'.exchange.session = e.exchange.session.next.1 by rw [hexchange]; rfl] at hne hfound
    cases event with
    | opened =>
      rw [hquiet, Option.toList_none, List.append_nil]
      have hdispatch := App.dispatch_opened hrun
      refine ⟨?_, ?_, hchannel⟩ <;> rw [exchange_process] <;>
        simp only [Engine.process, calls, hdispatch]
      · exact hledger
      · exact hfound
    | closed info =>
      -- The session is closed from the other end, and the phase's action makes it idle.
      rw [hquiet, Option.toList_none, List.append_nil]
      have hdispatch := App.dispatch_closed hrun info
      have hover : Phase.inProgress (.failed info.display) = false := rfl
      obtain ⟨hclosed, hstop⟩ := hledger.close hne hover
      refine ⟨?_, ?_, hchannel⟩ <;> rw [exchange_process] <;>
        simp only [Engine.process, calls, hdispatch]
      · exact hclosed
      · exact hstop
    | message | error =>
      exact Agreed.process ⟨hledger, happ ▸ hfound, hchannel⟩ (by simp)
  · have hagrees : e'.exchange.session.Agrees rs e'.app.phase := by
      rw [hexchange, happ]
      exact h.agrees.next_none hnone
    have hm : ∀ event, m ≠ .event event := by
      intro event heq
      exact h.channel event (by rw [hchannel, heq]; exact List.mem_cons_self)
    refine Agreed.process ⟨hledger, hagrees, fun event hmem => ?_⟩ (hm _)
    exact h.channel event (by rw [hchannel]; exact List.mem_cons_of_mem _ hmem)

theorem Run.agreed (h : Run e t rs) : e.Agreed rs := by
  induction h with
  | start settings endpoint form => exact agreed_start settings endpoint form _
  | process _ hm ih => exact ih.process (hm _)
  | take _ hnext ih => exact ih.take hnext
  | @wait e e' _ _ _ hnext ih =>
    obtain ⟨hexchange, happ⟩ := exchange_next hnext
    obtain ⟨hnone, hchannel⟩ := next_eq_none hnext
    refine ⟨?_, ?_, hchannel ▸ ih.channel⟩
    · rw [hexchange, happ]
      exact (ih.ledger.next ih.agrees).1
    · rw [hexchange, happ]
      exact ih.agrees.next_none hnone
  | post _ hm ih =>
    refine ⟨ih.ledger, ih.agrees, fun event hmem => ?_⟩
    rcases List.mem_append.mp hmem with hmem | hmem
    · exact ih.channel event hmem
    · exact hm event (List.mem_singleton.mp hmem).symm
  | tick _ _ ih => exact ⟨ih.ledger, ih.agrees, ih.channel⟩
  | background _ hb ih => exact ⟨ih.ledger.background hb, ih.agrees.background hb, ih.channel⟩

/-- The followed link goes to the endpoint. -/
theorem target_of_running {s : Session} {endpoint : String} (h : s.Ledger endpoint rs)
    (hs : s.status = .connecting ∨ s.status = .opened) :
    s.target = some endpoint := by
  obtain ⟨l, hl, -⟩ := h.coherent.exists_activeLink (h.coherent.active_of_running hs)
  have hmem := Session.mem_of_link? (Session.link?_of_activeLink? hl).2
  rw [Session.target, hl, Option.map_some, h.targets l hmem]

/-- Phase and connection agree.  In every run, after every message: while the
phase is connecting, the session connects to the endpoint and has queued the
command of its request alone; while it is installing, the session is open to
the endpoint, and something is queued only if the task has let go; in every
other phase the session is idle, without a target and with nothing queued.  So
nobody sees a session closed from the other end, and every event arrives while
a session runs. -/
theorem phase_agrees (h : Run e t rs) :
    (match e.app.phase with
      | .connecting =>
        e.exchange.session.status = .connecting ∧
          e.exchange.session.target = some e.app.endpoint ∧
          ∃ r, rs.getLast? = some r ∧ e.exchange.session.outbox.toList = [r.payload]
      | .installing =>
        e.exchange.session.status = .opened ∧
          e.exchange.session.target = some e.app.endpoint ∧
          (e.exchange.session.outbox.toList = [] ∨
            ∃ l, e.exchange.session.activeLink? = some l ∧ l.mailbox.isAbandoned = true)
      | .idle | .complete | .failed _ | .cancelled =>
        e.exchange.session.status = .idle ∧ e.exchange.session.target = none ∧
          e.exchange.session.outbox.toList = []) ∧
    e.exchange.session.status ≠ .closed ∧
    ∀ e' event, e.next = (e', some (.event event)) → e'.app.inProgress = true := by
  obtain ⟨hledger, hagrees, hchannel⟩ := h.agreed
  have hidle : e.exchange.session.status = .idle → e.exchange.session.target = none := by
    intro hs
    simp [Session.target, Session.activeLink?, hledger.coherent.active_of_idle hs]
  refine ⟨?_, ?_, fun e' event hnext => ?_⟩
  · cases hphase : e.app.phase <;> rw [hphase] at hagrees
    case connecting =>
      obtain ⟨hs, hnone, r, hr, hsum⟩ := hagrees
      rw [hnone, List.nil_append] at hsum
      exact ⟨hs, target_of_running hledger (.inl hs), r, hr, hsum⟩
    case installing =>
      obtain ⟨hs, -⟩ := hagrees
      refine ⟨hs, target_of_running hledger (.inr hs), ?_⟩
      by_cases hout : e.exchange.session.outbox.toList = []
      · exact .inl hout
      · exact .inr (hledger.coherent.exists_abandoned hs hout)
    all_goals
      obtain ⟨hs, hout⟩ := hagrees
      exact ⟨hs, hidle hs, hout⟩
  · cases hphase : e.app.phase <;> rw [hphase] at hagrees <;> simp [hagrees.1]
  · rw [(exchange_next hnext).2]
    rcases next_eq_some hnext with ⟨_, hsome, -, -⟩ | ⟨-, hc⟩
    · exact (hledger.next_some hagrees hsome).1
    · exact absurd (by rw [hc]; exact List.mem_cons_self) (hchannel event)

/-- A submit of a filled form. -/
theorem phase_agrees_submitted :
    ∃ e t r, Run e t [r] ∧ e.app.phase = .connecting ∧
      e.exchange.session.status = .connecting ∧ e.exchange.session.target = some "x" ∧
      e.exchange.session.outbox.toList = [.text "install outline h u p"] := by
  have h := (Run.start {} "x" { remoteAddress := ⟨"h"⟩, username := ⟨"u"⟩, password := ⟨"p"⟩ }
    (n := {}) rfl).process (m := .command .submit) nofun
  obtain ⟨hstatus, htarget, -⟩ := (phase_agrees h).1
  exact ⟨_, _, ⟨.outline, "h", "u", "p", none⟩, h, by decide, hstatus, htarget, by decide⟩

end Provision.Engine
