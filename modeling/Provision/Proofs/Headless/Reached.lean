/-
The ways that a headless run can go.

A run submits its form at once.  After that it takes one message at a time
while the session runs, from its connection or from the channel, and ends when
the session is over; in between, time passes, messages come into the channel,
and the tasks and the far side do what they like.  `Reached` is every such run.
The loop of the program is one of them (`Reached.advance`).
-/
import Provision.Headless.Run
import Provision.Proofs.Engine.Following

namespace Provision.Headless

/-- An engine as it starts, on a network.  Messages may wait already. -/
def fresh (settings : Settings) (endpoint : String) (n : Network) (channel : List Message) :
    Engine :=
  { Engine.start settings endpoint with exchange := { network := n }, channel }

/-- What the form makes of its filling. -/
def submission (settings : Settings) (filling : Filling) : Except Error Request :=
  (filling.fill (.ofProtocol settings.defaultProtocol)).submit

/-- The request is made of what the form holds. -/
theorem request_of_submission {settings : Settings} {filling : Filling} {request : Request}
    (h : submission settings filling = .ok request) :
    request = (filling.fill (.ofProtocol settings.defaultProtocol)).request := by
  rw [submission, Form.submit] at h
  split at h <;> cases h
  rfl

namespace Run

variable {r : Run} {t : Trace} {settings : Settings} {endpoint : String} {filling : Filling}
  {n : Network} {channel : List Message}

/-- The run whose form is filled, and not submitted yet. -/
def filled (e : Engine) (filling : Filling) : Run :=
  ⟨{ e with app := e.app.onForm filling.fill }, [], none⟩

/-- What is observed of the session at the start of a run.  It is closed at once
if the form is rejected. -/
def startObserved (e : Engine) (filling : Filling) : Trace :=
  (filled e filling).engine.observed (.command .submit) ++
    if (start e filling).outcome?.isSome then
      ((filled e filling).take (.command .submit)).engine.exchange.session.observed .close
    else []

/-- A rejected form ends the run. -/
theorem start_of_error {error : Error} (h : submission settings filling = .error error) :
    start (fresh settings endpoint n channel) filling =
      finish
        { engine :=
            { fresh settings endpoint n channel with
              app :=
                { (App.start settings endpoint).onForm filling.fill with
                  formError := some error.message } }
          events := [.error error.message true] }
        (.rejected error.message) := by
  rw [submission] at h
  simp [start, take, fresh, Engine.start, Engine.process, App.dispatch, App.update, App.perform,
    App.submit, App.start, App.onForm, App.inProgress, App.Outcome.ofChange, App.quietly, h]

/-- An accepted form leaves the run on its way. -/
theorem start_of_ok {request : Request} (h : submission settings filling = .ok request) :
    start (fresh settings endpoint n channel) filling =
      (filled (fresh settings endpoint n channel) filling).take (.command .submit) := by
  rw [submission] at h
  simp [start, filled, take, fresh, Engine.start, Engine.process, App.dispatch, App.update,
    App.perform, App.submit, App.start, App.onForm, App.inProgress, App.Outcome.ofChange, h]

/-- To submit the form is to start a session with what it makes of its filling. -/
theorem accepts_filled (settings : Settings) (endpoint : String) (filling : Filling) (n : Network)
    (channel : List Message) :
    (filled (fresh settings endpoint n channel) filling).engine.app.accepts (.command .submit) =
      (submission settings filling).toOption := by
  simp [filled, fresh, Engine.start, App.accepts, App.commandOf, App.start, App.onForm,
    App.inProgress, submission]

/-- A run that was reached, and the trace on the way. -/
inductive Reached (settings : Settings) (endpoint : String) (filling : Filling) (n : Network) :
    Run → Trace → Prop
  | start {channel : List Message} :
      n.peers = [] → (∀ event, Message.event event ∉ channel) →
      Reached settings endpoint filling n (start (fresh settings endpoint n channel) filling)
        (startObserved (fresh settings endpoint n channel) filling)
  | pause {r : Run} {t u : Trace} {e : Engine} :
      Reached settings endpoint filling n r t → r.engine.Pause u e →
      Reached settings endpoint filling n { r with engine := e } (t ++ u)
  /-- The next message is processed. -/
  | take {r : Run} {t u : Trace} {e : Engine} {m : Message} :
      Reached settings endpoint filling n r t → r.outcome? = none → r.isRunning = true →
      r.engine.Taking u m e →
      Reached settings endpoint filling n (Run.take { r with engine := e } m)
        (t ++ u ++ e.observed m)
  | finish {r : Run} {t : Trace} :
      Reached settings endpoint filling n r t → r.outcome? = none → r.isRunning = false →
      Reached settings endpoint filling n (r.finish (.ofPhase r.engine.app.phase))
        (t ++ r.engine.exchange.session.observed .close)

/-! ### The loop of the program -/

/-- The program takes the next message. -/
theorem Reached.next (h : Reached settings endpoint filling n r t) (ho : r.outcome? = none)
    (hrun : r.isRunning = true) {e : Engine} {m : Message} (hnext : r.engine.next = (e, some m)) :
    ∃ u, Reached settings endpoint filling n (Run.take { r with engine := e } m) (t ++ u) := by
  rcases Engine.taking_of_next hnext with ht | ⟨e₁, hp, ht⟩
  · exact ⟨_, by simpa only [List.append_assoc] using h.take ho hrun ht⟩
  · have hrun₁ : isRunning { r with engine := e₁ } = true := by
      obtain ⟨now, happ⟩ := hp.app
      rw [isRunning, happ]
      exact hrun
    exact ⟨_, by simpa only [List.append_assoc] using (h.pause hp).take ho hrun₁ ht⟩

/-- Without a message, the connections move. -/
theorem Reached.settle (h : Reached settings endpoint filling n r t) {e : Engine}
    (hnext : r.engine.next = (e, none)) :
    ∃ u, Reached settings endpoint filling n { r with engine := e.settle } (t ++ u) := by
  obtain ⟨u, hu⟩ := Exchange.settle_induction
    (P := fun x t => Reached settings endpoint filling n
      { r with engine := { e with exchange := x } } t)
    (fun h hlinks hm => h.pause (.background (.move hlinks hm)))
    (h.pause (Engine.pause_of_next hnext))
  rw [List.append_assoc] at hu
  exact ⟨_, hu⟩

/-- The loop of the program is one of the runs. -/
theorem Reached.advance (h : Reached settings endpoint filling n r t) (limit : Nat) :
    ∃ u, Reached settings endpoint filling n (r.advance limit) (t ++ u) := by
  induction limit generalizing r t with
  | zero => exact ⟨[], by rwa [List.append_nil]⟩
  | succ limit ih =>
    -- The turn that is taken now comes before those that are left.
    have hon : ∀ {r' : Run}, (∃ u, Reached settings endpoint filling n r' (t ++ u)) →
        ∃ u, Reached settings endpoint filling n (r'.advance limit) (t ++ u) := by
      rintro r' ⟨u, hu⟩
      obtain ⟨v, hv⟩ := ih hu
      exact ⟨u ++ v, by rwa [← List.append_assoc]⟩
    rcases ho : r.outcome? with - | outcome
    · rcases hrun : r.isRunning
      · have hstep : r.advance (limit + 1) = r.finish (.ofPhase r.engine.app.phase) := by
          simp [Run.advance, ho, hrun]
        rw [hstep]
        exact ⟨_, h.finish ho hrun⟩
      · rcases hnext : r.engine.next with ⟨e, - | m⟩
        · by_cases hready : e.settle.ready = 0
          · have hstep : r.advance (limit + 1) = { r with engine := e.settle } := by
              simp [Run.advance, ho, hrun, hnext, hready]
            rw [hstep]
            exact h.settle hnext
          · have hstep : r.advance (limit + 1) =
                advance limit { r with engine := e.settle } := by
              simp [Run.advance, ho, hrun, hnext, hready]
            rw [hstep]
            exact hon (h.settle hnext)
        · have hstep : r.advance (limit + 1) =
              advance limit (Run.take { r with engine := e } m) := by
            simp [Run.advance, ho, hrun, hnext]
          rw [hstep]
          exact hon (h.next ho hrun hnext)
    · have hstep : r.advance (limit + 1) = r := by simp [Run.advance, ho]
      rw [hstep]
      exact ⟨[], by rwa [List.append_nil]⟩

end Run

end Provision.Headless
