/-
A headless run: one request, without a screen.

A run fills the form, submits it, and reports what happens until the session
is over.  `Run.start` does what happens at once; `Run.advance` then processes
messages as long as there are any, and otherwise lets the connections move;
`Run.finish` closes the session and says how it went.
-/
import Provision.Engine
import Provision.Headless.Event

namespace Provision.Headless

/-- What the form is filled with. -/
structure Filling where
  /-- The protocol to select; without one, what is selected stays. -/
  protocol : Option Protocol := none
  address : String := ""
  username : String := ""
  password : String := ""
  vpnUsername : Option String := none
  vpnPassword : Option String := none
  deriving DecidableEq, Repr, Inhabited

/-- Fill the form. -/
def Filling.fill (r : Filling) (f : Form) : Form :=
  let f := (r.protocol.map f.select).getD f
  let f := f.setValue .remoteAddress r.address
  let f := f.setValue .username r.username
  let f := f.setValue .password r.password
  let f := (r.vpnUsername.map (f.setValue .vpnUsername)).getD f
  (r.vpnPassword.map (f.setValue .vpnPassword)).getD f

/-- How a run ended. -/
inductive Outcome where
  | complete
  /-- The form did not accept the request; nothing was sent. -/
  | rejected (reason : String)
  | failed (reason : String)
  | cancelled
  deriving DecidableEq, Repr

/-- The outcome that a phase stands for at the end of a run. -/
def Outcome.ofPhase : Phase → Outcome
  | .complete => complete
  | .failed reason => failed reason
  | .cancelled => cancelled
  | phase => failed ("session stopped while " ++ phase.label)

/-- The reason that an outcome gives. -/
def Outcome.reason? : Outcome → Option String
  | rejected reason | failed reason => some reason
  | _ => none

/-- What is reported of a notice. -/
def report (a : App) : Notice → List Event
  | .phaseChanged _ .connecting =>
    let remote := Address.parse a.form.remoteAddress.value
    [.submitted a.form.protocol.wireName remote.display a.endpoint]
  | .phaseChanged _ .installing => [.connected a.endpoint]
  | .phaseChanged _ .complete => [.complete]
  | .phaseChanged _ (.failed reason) => [.error reason false, .disconnected (some reason)]
  | .phaseChanged _ .cancelled => [.disconnected (some "cancelled")]
  | .phaseChanged _ .idle => []
  | .logAppended entry => [.message entry.message]
  | .shutdown => []

/-- A run on its way. -/
structure Run where
  engine : Engine
  /-- What was reported so far. -/
  events : List Event := []
  /-- How the run ended, once it has. -/
  outcome? : Option Outcome := none

namespace Run

/-- Process one message, and report what it changed. -/
def take (r : Run) (m : Message) : Run :=
  let (engine, notices) := r.engine.process m
  { r with engine, events := r.events ++ notices.flatMap (report engine.app) }

/-- Close the session. -/
def finish (r : Run) (outcome : Outcome) : Run :=
  { r with engine := r.engine.shutdown.1, outcome? := some outcome }

/-- Fill the form and submit it. -/
def start (e : Engine) (filling : Filling) : Run :=
  let r := take ⟨{ e with app := e.app.onForm filling.fill }, [], none⟩ (.command .submit)
  match r.engine.app.formError with
  | some reason => finish { r with events := [.error reason true] } (.rejected reason)
  | none => r

/-- The session goes on, and nobody has asked to quit. -/
def isRunning (r : Run) : Bool :=
  r.engine.app.inProgress && !r.engine.app.quitting

/-- Go on until the run is over or nothing moves any more, in at most `limit`
turns.  Each turn processes a message, lets the connections move if there is no
message, or ends the run. -/
def advance (limit : Nat) (r : Run) : Run :=
  match limit with
  | 0 => r
  | limit + 1 =>
    if r.outcome?.isSome then r
    else if !r.isRunning then r.finish (.ofPhase r.engine.app.phase)
    else
      match r.engine.next with
      | (engine, some m) => advance limit (take { r with engine } m)
      | (engine, none) =>
        let engine := engine.settle
        if engine.ready = 0 then { r with engine } else advance limit { r with engine }

end Run

end Provision.Headless
