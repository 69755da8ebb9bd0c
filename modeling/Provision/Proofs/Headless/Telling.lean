/-
What a headless run tells.

The events of a run that is over are one of two kinds of streams: a single
fatal error, or the request, perhaps the connection with a message for every
line of the log, and one ending that fits the outcome (`Stream`).  While a
session runs, the events are those of its progress (`told`), and each message
that is processed adds what it changes (`Telling`).
-/
import Provision.Headless.Run
import Provision.Proofs.Engine.Notices

namespace Provision.Headless

/-! ### Streams -/

/-- What is told of a session that runs: the request, and once there is a
connection, the connection and the lines of the log. -/
def told (endpoint : String) (request : Request) (connected : Bool) (lines : List String) :
    List Event :=
  .submitted request.protocol.wireName request.remote.display endpoint ::
    if connected then .connected endpoint :: lines.map .message else []

/-- How the stream of a session ends, by its last phase, and which outcome that
is. -/
inductive Ending (connected : Bool) : Phase → List Event → Outcome → Prop
  | complete : connected = true → Ending connected .complete [.complete] .complete
  | failed (reason : String) :
      Ending connected (.failed reason) [.error reason false, .disconnected (some reason)]
        (.failed reason)
  | cancelled : Ending connected .cancelled [.disconnected (some "cancelled")] .cancelled

/-- The whole stream of a run, by what its form made of the filling, the lines
of its log and its last phase, and the outcome. -/
inductive Stream (endpoint : String) :
    Except Error Request → List String → Phase → List Event → Outcome → Prop
  | rejected (error : Error) :
      Stream endpoint (.error error) [] .idle [.error error.message true]
        (.rejected error.message)
  | settled {request : Request} {connected : Bool} {lines : List String} {phase : Phase}
      {ending : List Event} {outcome : Outcome} :
      (connected = false → lines = []) → Ending connected phase ending outcome →
      Stream endpoint (.ok request) lines phase (told endpoint request connected lines ++ ending)
        outcome

variable {endpoint : String} {request : Request} {connected : Bool} {phase : Phase}
  {ending : List Event} {outcome : Outcome}

theorem Ending.outcome_eq (h : Ending connected phase ending outcome) :
    outcome = .ofPhase phase := by
  cases h <;> rfl

theorem Ending.inProgress_eq (h : Ending connected phase ending outcome) : phase.inProgress = false := by
  cases h <;> rfl

/-- The ending is what is reported of the last phase. -/
theorem Ending.report_eq (h : Ending connected phase ending outcome) (a : App) (before : Phase) :
    report a (.phaseChanged before phase) = ending := by
  cases h <;> rfl

theorem told_message (endpoint : String) (request : Request) (lines : List String)
    (text : String) :
    told endpoint request true lines ++ [.message text] =
      told endpoint request true (lines ++ [text]) := by
  simp [told]

namespace Run

theorem app_take (r : Run) (m : Message) :
    (r.take m).engine.app = (r.engine.app.dispatch m).1 := rfl

theorem outcome?_take (r : Run) (m : Message) : (r.take m).outcome? = r.outcome? := rfl

theorem events_take (r : Run) (m : Message) :
    (r.take m).events = r.events ++
      (Engine.notices r.engine.app (r.engine.app.dispatch m).1).flatMap
        (report (r.engine.app.dispatch m).1) := rfl

end Run

/-! ### What is told of a session -/

variable {r : Run} {m : Message}

/-- A session that runs has a connection, or waits for it. -/
theorem phase_of_running {a : App} (h : a.inProgress = true) :
    a.phase = .connecting ∨ a.phase = .installing := by
  rcases hp : a.phase <;> simp [App.inProgress, hp] at h ⊢

/-- What a run tells whose form was accepted. -/
structure Telling (endpoint : String) (request : Request) (r : Run) : Prop where
  endpoint_eq : r.engine.app.endpoint = endpoint
  numbered : r.engine.app.log.Numbered
  /-- Nobody quits without giving up the session. -/
  staying : r.engine.app.inProgress = true → r.engine.app.quitting = false
  /-- Without a connection, nothing is logged. -/
  silent : r.engine.app.phase = .connecting → r.engine.app.log.messages = []
  running : r.engine.app.inProgress = true → r.outcome? = none ∧
    r.events = told endpoint request (r.engine.app.phase = .installing) r.engine.app.log.messages
  settled : r.engine.app.inProgress = false →
    Stream endpoint (.ok request) r.engine.app.log.messages r.engine.app.phase r.events
        (.ofPhase r.engine.app.phase) ∧
      ∀ outcome, r.outcome? = some outcome → outcome = .ofPhase r.engine.app.phase

/-- A run goes on as long as its session runs. -/
theorem Telling.isRunning_eq (h : Telling endpoint request r) :
    r.isRunning = r.engine.app.inProgress := by
  rcases hrun : r.engine.app.inProgress
  · simp [Run.isRunning, hrun]
  · simp [Run.isRunning, hrun, h.staying hrun]

/-- Without a connection, a session that runs has logged nothing. -/
theorem Telling.unlogged (h : Telling endpoint request r) (hrun : r.engine.app.inProgress = true)
    (hnone : decide (r.engine.app.phase = .installing) = false) :
    r.engine.app.log.messages = [] :=
  h.silent ((phase_of_running hrun).resolve_right (of_decide_eq_false hnone))

/-- What was told so far is the beginning of a stream: the session may be given
up at any time. -/
theorem Telling.begins (h : Telling endpoint request r) :
    ∃ lines phase whole outcome,
      Stream endpoint (.ok request) lines phase whole outcome ∧ r.events <+: whole := by
  rcases hrun : r.engine.app.inProgress
  · exact ⟨_, _, _, _, (h.settled hrun).1, List.prefix_rfl⟩
  · refine ⟨_, _, _, _, .settled (h.unlogged hrun) .cancelled, ?_⟩
    rw [(h.running hrun).2]
    exact List.prefix_append ..

/-- The events of a run that is over are a whole stream. -/
theorem Telling.ends (h : Telling endpoint request r) (ho : r.outcome? = some outcome) :
    Stream endpoint (.ok request) r.engine.app.log.messages r.engine.app.phase r.events
      outcome := by
  rcases hrun : r.engine.app.inProgress
  · obtain ⟨hstream, houtcome⟩ := h.settled hrun
    exact houtcome outcome ho ▸ hstream
  · rw [(h.running hrun).1] at ho
    cases ho

/-- The clock does not matter, and the session only through what it brings. -/
theorem Telling.congr (h : Telling endpoint request r) {e : Engine} {now : TimeOfDay}
    (happ : e.app = { r.engine.app with now }) :
    Telling endpoint request { r with engine := e } := by
  constructor <;> rw [happ]
  · exact h.endpoint_eq
  · exact h.numbered
  · exact h.staying
  · exact h.silent
  · exact h.running
  · exact h.settled

/-- A message that ends the session brings the ending. -/
theorem Telling.stop (h : Telling endpoint request r) (hrun : r.engine.app.inProgress = true)
    (hkeeps : r.engine.app.Keeps (r.engine.app.dispatch m).1)
    (hend : Ending (r.engine.app.phase = .installing) (r.engine.app.dispatch m).1.phase ending
      outcome) :
    Telling endpoint request (r.take m) := by
  have hover : (r.engine.app.dispatch m).1.inProgress = false := hend.inProgress_eq
  -- The session ran, so its phase is another one now, and that is heard of.
  have hnew : r.engine.app.phase ≠ (r.engine.app.dispatch m).1.phase := by
    intro heq
    rw [App.inProgress, ← heq] at hover
    exact absurd hrun (by simp [App.inProgress, hover])
  have hevents : (r.take m).events = r.events ++ ending := by
    rw [Run.events_take, Engine.notices_of_keeps hkeeps, if_neg hnew, List.flatMap_singleton,
      hend.report_eq]
  obtain ⟨hopen, htold⟩ := h.running hrun
  constructor <;> rw [Run.app_take]
  · exact hkeeps.endpoint.trans h.endpoint_eq
  · exact h.numbered.congr hkeeps.entries hkeeps.nextId
  · intro hgoes
    cases hover.symm.trans hgoes
  · intro hphase
    rw [App.inProgress, hphase] at hover
    cases hover
  · intro hgoes
    cases hover.symm.trans hgoes
  · refine fun _ => ⟨?_, fun outcome hsome => ?_⟩
    · rw [hevents, htold, hkeeps.messages, ← hend.outcome_eq]
      exact .settled (h.unlogged hrun) hend
    · rw [Run.outcome?_take, hopen] at hsome
      cases hsome

/-- A message that is no event adds nothing, or the ending of a session that
was given up. -/
theorem Telling.interlude (h : Telling endpoint request r) (hrun : r.engine.app.inProgress = true)
    (hm : ∀ event, m ≠ .event event) : Telling endpoint request (r.take m) := by
  obtain ⟨hkeeps, hphase⟩ := App.interlude_dispatch hrun (h.staying hrun) hm
  rcases hphase with ⟨hsame, hstays⟩ | hcancelled
  · -- Neither the log nor the phase changes, so nothing is reported.
    have hevents : (r.take m).events = r.events := by
      rw [Run.events_take, Engine.notices_of_keeps hkeeps, if_pos hsame.symm, List.flatMap_nil,
        List.append_nil]
    constructor <;>
      simp only [Run.app_take, Run.outcome?_take, hevents, App.inProgress, hsame, hkeeps.messages]
    · exact hkeeps.endpoint.trans h.endpoint_eq
    · exact h.numbered.congr hkeeps.entries hkeeps.nextId
    · exact fun _ => hstays
    · exact h.silent
    · exact h.running
    · exact h.settled
  · have hend : Ending (r.engine.app.phase = .installing) (r.engine.app.dispatch m).1.phase
        [.disconnected (some "cancelled")] .cancelled := by
      rw [hcancelled]
      exact .cancelled
    exact h.stop hrun hkeeps hend

/-- A session that stops changes nothing but its phase. -/
theorem Telling.stop_phase (h : Telling endpoint request r)
    (hrun : r.engine.app.inProgress = true)
    (happ : (r.engine.app.dispatch m).1 = { r.engine.app with phase })
    (hend : Ending (r.engine.app.phase = .installing) phase ending outcome) :
    Telling endpoint request (r.take m) := by
  have hkeeps : r.engine.app.Keeps (r.engine.app.dispatch m).1 := by
    rw [happ]
    exact ⟨rfl, rfl, rfl⟩
  have hending : Ending (r.engine.app.phase = .installing) (r.engine.app.dispatch m).1.phase
      ending outcome := by
    rw [happ]
    exact hend
  exact h.stop hrun hkeeps hending

/-- A session that has a connection now, and goes on. -/
theorem Telling.goOn (h : Telling endpoint request r) (hrun : r.engine.app.inProgress = true)
    {a : App} (happ : (r.engine.app.dispatch m).1 = a)
    (hendpoint : a.endpoint = r.engine.app.endpoint) (hnumbered : a.log.Numbered)
    (hquitting : a.quitting = r.engine.app.quitting) (hphase : a.phase = .installing)
    (hevents : (r.take m).events = told endpoint request true a.log.messages) :
    Telling endpoint request (r.take m) := by
  constructor <;>
    simp only [Run.app_take, Run.outcome?_take, hevents, App.inProgress, happ, hphase, hquitting]
  · exact hendpoint.trans h.endpoint_eq
  · exact hnumbered
  · exact fun _ => h.staying hrun
  · intro hover
    cases hover
  · exact fun _ => ⟨(h.running hrun).1, rfl⟩
  · intro hover
    cases hover

/-- An event adds the connection, a line, or the ending. -/
theorem Telling.event (h : Telling endpoint request r) (hrun : r.engine.app.inProgress = true)
    {event : Provision.Event}
    (hfirst : r.engine.app.phase = .connecting → ∀ p, event ≠ .message p) :
    Telling endpoint request (r.take (.event event)) := by
  have htold := (h.running hrun).2
  have happ : (r.engine.app.dispatch (.event event)).1 = (r.engine.app.receive event).1 := rfl
  rw [App.receive_of_running hrun] at happ
  cases event with
  | opened =>
    have hkeeps : r.engine.app.Keeps { r.engine.app with phase := .installing } := ⟨rfl, rfl, rfl⟩
    refine h.goOn hrun happ rfl h.numbered rfl rfl ?_
    rw [Run.events_take, happ, Engine.notices_of_keeps hkeeps, htold]
    rcases phase_of_running hrun with hphase | hphase
    · simp [hphase, h.silent hphase, told, report, h.endpoint_eq]
    · simp [hphase]
  | message p =>
    -- A line of the log is told of only behind the connection.
    have hphase := (phase_of_running hrun).resolve_left fun hp => hfirst hp p rfl
    by_cases hp : p.lossyText = Payload.sentinel
    · simp only [if_pos hp] at happ
      exact h.stop_phase hrun happ (.complete (by simp [hphase]))
    · simp only [if_neg hp] at happ
      refine h.goOn hrun happ rfl (h.numbered.push ..) rfl hphase ?_
      rw [Run.events_take, happ, Engine.notices_push h.numbered, htold]
      simp [hphase, report, told_message, App.onLog, Log.push, Log.messages]
  | error reason => exact h.stop_phase hrun happ (.failed reason)
  | closed info => exact h.stop_phase hrun happ (.failed info.display)

end Provision.Headless
