/-
The events of a headless run are a whole stream, or the beginning of one.

A run whose form is rejected tells so and asks nothing of its session
(`Rejected`).  A run whose form is accepted follows the one connection that it
asks for (`Underway`): messages of the session are events of that connection,
so the first of them is no line of the log, and whatever comes through the
channel adds nothing or gives the session up.

Main result: `stream_well_formed`.
-/
import Provision.Proofs.Engine.Demands
import Provision.Proofs.Headless.Reached
import Provision.Proofs.Headless.Telling

namespace Provision.Headless

variable {settings : Settings} {endpoint : String} {filling : Filling} {n : Network}
  {channel : List Message} {request : Request} {error : Error} {r : Run} {t u : Trace}
  {e : Engine} {m : Message}

/-! ### A run whose form was accepted -/

/-- Where a run stands whose form was accepted. -/
structure Underway (endpoint : String) (request : Request) (r : Run) (t : Trace) : Prop
    extends Telling endpoint request r where
  attached : r.engine.Attached t 1
  demands : t.demands = request.demands endpoint
  unheard : r.engine.app.phase = .connecting → t.eventsOf 1 = []

/-- An accepted form tells of its request. -/
theorem telling_start (h : submission settings filling = .ok request) :
    Telling endpoint request
      ((Run.filled (fresh settings endpoint n channel) filling).take (.command .submit)) := by
  have haccepts := Run.accepts_filled settings endpoint filling n channel
  rw [h] at haccepts
  have happ := congrArg Prod.fst (App.dispatch_of_accepts haccepts)
  have hevents :
      ((Run.filled (fresh settings endpoint n channel) filling).take (.command .submit)).events =
        told endpoint request false [] := by
    have hkeeps : (Run.filled (fresh settings endpoint n channel) filling).engine.app.Keeps
        ((Run.filled (fresh settings endpoint n channel) filling).engine.app.dispatch
          (.command .submit)).1 := by
      rw [happ]
      exact ⟨rfl, rfl, rfl⟩
    rw [Run.events_take, Engine.notices_of_keeps hkeeps, happ, request_of_submission h]
    rfl
  constructor <;> simp only [Run.app_take, happ]
  · rfl
  · exact Log.numbered_clear _
  · exact fun _ => rfl
  · exact fun _ => rfl
  · exact fun _ => ⟨rfl, hevents⟩
  · exact nofun

/-- An accepted form asks for the connection of its request. -/
theorem underway_start (hn : n.peers = []) (hchannel : ∀ event, Message.event event ∉ channel)
    (h : submission settings filling = .ok request) :
    Underway endpoint request (Run.start (fresh settings endpoint n channel) filling)
      (Run.startObserved (fresh settings endpoint n channel) filling) := by
  have haccepts := Run.accepts_filled settings endpoint filling n channel
  rw [h] at haccepts
  have hrun : (Run.filled (fresh settings endpoint n channel) filling).engine.exchange.Run [] :=
    .start hn
  -- No connection was asked for before, so this one has the number one.
  obtain ⟨hattached, -, hevents, -⟩ := Engine.attached_of_accepts hrun hchannel haccepts
  have htrace : Run.startObserved (fresh settings endpoint n channel) filling =
      (Run.filled (fresh settings endpoint n channel) filling).engine.observed
        (.command .submit) := by
    simp [Run.startObserved, Run.start_of_ok h, Run.outcome?_take, Run.filled]
  rw [Run.start_of_ok h, htrace]
  refine ⟨telling_start h, hattached, ?_, fun _ => hevents⟩
  rw [Engine.demands_observed, haccepts]
  rfl

/-- Between two messages, nothing is told. -/
theorem Underway.pause (h : Underway endpoint request r t) (hp : r.engine.Pause u e) :
    Underway endpoint request { r with engine := e } (t ++ u) := by
  obtain ⟨now, happ⟩ := hp.app
  refine ⟨h.toTelling.congr happ, h.attached.pause hp, ?_, ?_⟩
  · rw [Trace.demands_append, hp.demands, List.append_nil]
    exact h.demands
  · rw [happ, hp.eventsOf]
    exact h.unheard

/-- While a session runs, an event that leaves it connecting is a message. -/
theorem message_of_connecting {a : App} {event : Provision.Event} (hrun : a.inProgress = true)
    (h : (a.receive event).1.phase = .connecting) :
    a.phase = .connecting ∧ ∃ p, event = .message p := by
  rw [App.receive_of_running hrun] at h
  cases event with
  | message p =>
    by_cases hp : p.lossyText = Payload.sentinel
    · simp [hp] at h
    · exact ⟨by simpa [hp, App.onLog] using h, p, rfl⟩
  | opened | error | closed => cases h

/-- No session starts while one runs. -/
theorem accepts_of_running {a : App} (h : a.inProgress = true) (m : Message) :
    a.accepts m = none := by
  simp [App.accepts, h]

/-- A message tells of what it changes, whether it comes from the connection or
through the channel. -/
theorem Underway.take (h : Underway endpoint request r t) (hrun : r.engine.app.inProgress = true)
    (ht : r.engine.Taking u m e) :
    Underway endpoint request (Run.take { r with engine := e } m) (t ++ u ++ e.observed m) := by
  have happ : e.app = r.engine.app := by cases ht <;> rfl
  have htelling : Telling endpoint request { r with engine := e } := h.toTelling.congr happ
  have hnone : e.app.accepts m = none := accepts_of_running (happ ▸ hrun) m
  have hdemands : Trace.demands (t ++ u ++ e.observed m) = request.demands endpoint := by
    rw [Trace.demands_append, Trace.demands_append, ht.demands, e.demands_observed, hnone,
      h.demands]
    simp
  by_cases hm : ∃ event, m = .event event
  · obtain ⟨event, rfl⟩ := hm
    obtain ⟨-, hattached, hevents, -⟩ := h.attached.event ht
    -- While it connects, the event is the first one of its connection.
    have hfirst : r.engine.app.phase = .connecting → ∀ p, event ≠ .message p := by
      rintro hphase p rfl
      rw [h.unheard hphase] at hevents
      exact hattached.run.eventsOf_ne_message 1 p hevents
    refine ⟨htelling.event (happ ▸ hrun) (happ ▸ hfirst), hattached, hdemands, fun hphase => ?_⟩
    rw [Run.app_take] at hphase
    obtain ⟨hbefore, p, hp⟩ := message_of_connecting (happ ▸ hrun) hphase
    exact absurd hp (hfirst (happ ▸ hbefore) p)
  · have hm : ∀ event, m ≠ .event event := fun event heq => hm ⟨event, heq⟩
    obtain ⟨hattached, -, hevents⟩ := h.attached.taken ht hm
    refine ⟨htelling.interlude (happ ▸ hrun) hm, hattached.process hm hnone, hdemands,
      fun hphase => ?_⟩
    rw [Trace.eventsOf_append, Engine.eventsOf_observed, List.append_nil, hevents]
    have hsame := (App.interlude_dispatch (happ ▸ hrun) (htelling.staying (happ ▸ hrun)) hm).phase
    rw [Run.app_take] at hphase
    rw [hphase] at hsame
    rcases hsame with ⟨hsame, -⟩ | hcancelled
    · exact h.unheard (happ ▸ hsame.symm)
    · cases hcancelled

/-- At the end the session is closed, and the outcome is what the phase stands
for. -/
theorem Underway.finish (h : Underway endpoint request r t) (hstop : r.isRunning = false) :
    Underway endpoint request (r.finish (.ofPhase r.engine.app.phase))
      (t ++ r.engine.exchange.session.observed .close) := by
  have hidle : r.engine.app.inProgress = false := h.isRunning_eq ▸ hstop
  have hattached : (r.finish (.ofPhase r.engine.app.phase)).engine.Attached
      (t ++ r.engine.exchange.session.observed .close) 1 := by
    refine ⟨h.attached.run.call .close, h.attached.channel, ?_, ?_⟩
    · exact (Session.close_fields _).1.trans h.attached.lastId
    · show r.engine.exchange.session.close.active = if r.engine.app.inProgress then _ else _
      rw [hidle]
      exact h.attached.run.coherent.active_close
  refine ⟨⟨h.endpoint_eq, h.numbered, h.staying, h.silent, ?_, fun _ => ⟨(h.settled hidle).1, ?_⟩⟩,
    hattached, ?_, fun hphase => ?_⟩
  · intro hrun
    cases hidle.symm.trans hrun
  · exact fun outcome hsome => (Option.some.inj hsome).symm
  · rw [Trace.demands_append, Session.demands_observed, h.demands]
    exact List.append_nil _
  · rw [App.inProgress, show r.engine.app.phase = .connecting from hphase] at hidle
    cases hidle

/-! ### A run whose form was rejected -/

/-- Where a run stands whose form was rejected, and what its network has seen. -/
structure Rejected (error : Error) (n : Network) (r : Run) (t : Trace) : Prop where
  outcome?_eq : r.outcome? = some (.rejected error.message)
  events_eq : r.events = [.error error.message true]
  phase_eq : r.engine.app.phase = .idle
  messages_eq : r.engine.app.log.messages = []
  session_eq : r.engine.exchange.session = {}
  attempts_eq : r.engine.exchange.network.attempts = n.attempts
  demands_eq : t.demands = []

/-- A rejected form asks for nothing. -/
theorem rejected_start (h : submission settings filling = .error error) :
    Rejected error n (Run.start (fresh settings endpoint n channel) filling)
      (Run.startObserved (fresh settings endpoint n channel) filling) := by
  have hdemands :
      (Run.startObserved (fresh settings endpoint n channel) filling).demands = [] := by
    rw [Run.startObserved, Trace.demands_append, Engine.demands_observed, Run.accepts_filled, h]
    split
    · rw [Session.demands_observed]
      rfl
    · rfl
  rw [Run.start_of_error h]
  exact ⟨rfl, rfl, rfl, rfl, rfl, rfl, hdemands⟩

/-- Nothing comes of a session that was never asked for anything. -/
theorem Rejected.pause (h : Rejected error n r t) (hp : r.engine.Pause u e) :
    Rejected error n { r with engine := e } (t ++ u) := by
  obtain ⟨now, happ⟩ := hp.app
  have hexchange : e.exchange.session = {} ∧ e.exchange.network.attempts = n.attempts := by
    cases hp with
    | poll =>
      refine ⟨?_, h.attempts_eq⟩
      show r.engine.exchange.session.next.1 = {}
      rw [h.session_eq]
      rfl
    | post | tick => exact ⟨h.session_eq, h.attempts_eq⟩
    | background hb =>
      cases hb with
      | move hlinks =>
        rw [h.session_eq] at hlinks
        simp at hlinks
      | restrict id room =>
        refine ⟨?_, h.attempts_eq⟩
        show r.engine.exchange.session.modifyLink id _ = {}
        rw [h.session_eq]
        rfl
      | drift hd => exact ⟨h.session_eq, hd.attempts.trans h.attempts_eq⟩
  refine ⟨h.outcome?_eq, h.events_eq, ?_, ?_, hexchange.1, hexchange.2, ?_⟩
  · rw [happ]
    exact h.phase_eq
  · rw [happ]
    exact h.messages_eq
  · rw [Trace.demands_append, hp.demands, List.append_nil]
    exact h.demands_eq

/-! ### All runs -/

namespace Run.Reached

theorem rejected (h : Reached settings endpoint filling n r t)
    (hs : submission settings filling = .error error) : Rejected error n r t := by
  induction h with
  | start _ _ => exact rejected_start hs
  | pause _ hp ih => exact ih.pause hp
  | take _ ho _ _ ih | finish _ ho _ ih =>
    rw [ih.outcome?_eq] at ho
    cases ho

theorem underway (h : Reached settings endpoint filling n r t)
    (hs : submission settings filling = .ok request) : Underway endpoint request r t := by
  induction h with
  | start hn hchannel => exact underway_start hn hchannel hs
  | pause _ hp ih => exact ih.pause hp
  | take _ _ hrun ht ih => exact ih.take (ih.isRunning_eq ▸ hrun) ht
  | finish _ _ hstop ih => exact ih.finish hstop

end Run.Reached

/-- The events of a run are well formed: once it is over they are a single fatal
error, or the request, perhaps the connection with the lines of the log, and the
ending that fits the outcome; before that they are a beginning of such a stream.
So no run ends while its session runs.  What is told is what is done: the
session is asked for one connection and for the command of the very request
that is told of, and for nothing if the form was rejected; no attempt to connect
is made then. -/
theorem stream_well_formed (h : Run.Reached settings endpoint filling n r t) :
    (∃ lines phase whole outcome,
      Stream endpoint (submission settings filling) lines phase whole outcome ∧
        r.events <+: whole) ∧
    (∀ outcome, r.outcome? = some outcome →
      Stream endpoint (submission settings filling) r.engine.app.log.messages r.engine.app.phase
        r.events outcome) ∧
    t.demands = (submission settings filling).toOption.toList.flatMap (·.demands endpoint) ∧
    ∀ error, submission settings filling = .error error →
      r.engine.exchange.session.links = [] ∧
        r.engine.exchange.network.attempts = n.attempts := by
  rcases hs : submission settings filling with error | request
  · have hr := h.rejected hs
    have hstream : Stream endpoint (.error error) r.engine.app.log.messages r.engine.app.phase
        r.events (.rejected error.message) := by
      rw [hr.messages_eq, hr.phase_eq, hr.events_eq]
      exact .rejected error
    refine ⟨⟨_, _, _, _, hstream, List.prefix_rfl⟩, fun outcome hsome => ?_, hr.demands_eq,
      fun _ _ => ⟨by rw [hr.session_eq], hr.attempts_eq⟩⟩
    rw [hr.outcome?_eq] at hsome
    exact Option.some.inj hsome ▸ hstream
  · have hu := h.underway hs
    refine ⟨hu.begins, fun outcome ho => hu.ends ho, ?_, nofun⟩
    rw [hu.demands]
    exact (List.append_nil _).symm

/-- A session that completes after one line. -/
theorem stream_well_formed_complete :
    ∃ r t, Run.Reached {} "x" { address := "h", username := "u", password := "p" } {} r t ∧
      r.events = [.submitted "outline" "h:22" "x", .connected "x", .message "a", .complete] ∧
      r.outcome? = some .complete ∧
      t.demands = Request.demands "x" ⟨.outline, "h", "u", "p", none⟩ ∧
      Stream "x" (.ok ⟨.outline, "h", "u", "p", none⟩) ["a"] .complete r.events .complete := by
  have hstart : Run.Reached {} "x" { address := "h", username := "u", password := "p" } {} _ _ :=
    .start rfl fun _ => List.not_mem_nil
  obtain ⟨u, h₁⟩ := hstart.advance 3
  have h₂ := (h₁.pause (.background (.drift (Network.drift_deliver _ 0
    (.message (.text "a")))))).pause (.background (.drift (Network.drift_deliver _ 0
    (.message (.text Payload.sentinel)))))
  obtain ⟨v, h₃⟩ := h₂.advance 9
  obtain ⟨-, hends, hdemands, -⟩ := stream_well_formed h₃
  exact ⟨_, _, h₃, rfl, rfl, hdemands, hends _ rfl⟩

end Provision.Headless
