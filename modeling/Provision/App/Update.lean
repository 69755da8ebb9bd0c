/-
How the application changes.

`perform` carries a command out, `receive` takes an event of the session in,
and `update` takes any message, leaving the command of a key for the next
round.  Each may ask one action of the session: a session starts when a valid
form is submitted, and is closed whenever it stops being in progress.
`dispatch` is one message with everything that follows from it.
-/
import Provision.App.Keymap
import Provision.Request.Command

namespace Provision.App

/-- A change of state, and what it asks of the session. -/
abbrev Change := App × Option Action

/-- No action. -/
def quietly (a : App) : Change :=
  (a, none)

/-- Edit the form, unless a session is running. -/
def edit (a : App) (f : Form → Form) : Change :=
  if a.inProgress then a.quietly
  else quietly { a.onForm f with formError := none }

/-- Start a session with the form's request, or note why there is none. -/
def submit (a : App) : Change :=
  if a.inProgress then a.quietly
  else
    match a.form.submit with
    | .error e => quietly { a with formError := some e.message }
    | .ok request =>
      ({ a with formError := none, log := a.log.clear, phase := .connecting },
        some (.start a.endpoint (Request.Command.encode request)))

/-- End the session in this phase. -/
def stop (a : App) (phase : Phase) : Change :=
  ({ a with phase }, some .close)

/-- Give the running session up. -/
def cancel (a : App) : Change :=
  if a.inProgress then a.stop .cancelled else a.quietly

/-- A session that runs while the application quits counts as given up. -/
def cancelIfQuitting (a : App) : Change :=
  if a.quitting && a.inProgress then a.stop .cancelled else a.quietly

/-- Quit, or ask first if a session is running and the settings say so. -/
def requestQuit (a : App) : App :=
  if a.inProgress && a.settings.confirmQuit then { a with mode := .confirm }
  else { a with quitting := true }

/-- Carry a command out. -/
def perform (a : App) : Command → Change
  | .focusNext => a.edit (·.focusNext)
  | .focusPrevious => a.edit (·.focusPrevious)
  | .nextProtocol => a.edit (·.selectNext)
  | .previousProtocol => a.edit (·.selectPrevious)
  | .type c => a.edit (·.type c)
  | .backspace => a.edit (·.backspace)
  | .clearField => a.edit (·.clearFocused)
  | .submit => a.submit
  | .cancel => a.cancel
  | .scrollUp => quietly (a.onLog (·.scroll (·.up 1)))
  | .scrollDown => quietly (a.onLog (·.scroll (·.down 1)))
  | .scrollToTop => quietly (a.onLog (·.scroll (·.top)))
  | .scrollToBottom => quietly (a.onLog (·.scroll (·.bottom)))
  | .pageUp => quietly (a.onLog (·.scroll (·.pageUp)))
  | .pageDown => quietly (a.onLog (·.scroll (·.pageDown)))
  | .requestQuit => a.requestQuit.cancelIfQuitting
  | .confirmQuit => cancelIfQuitting { a with mode := .normal, quitting := true }
  | .cancelQuit => quietly { a with mode := .normal }
  | .quit => cancelIfQuitting { a with quitting := true }

/-- Take an event of the session in.  Outside a session it is left alone. -/
def receive (a : App) (e : Event) : Change :=
  if !a.inProgress then a.quietly
  else
    match e with
    | .opened => quietly { a with phase := .installing }
    | .message p =>
      match Payload.classify p.lossyText with
      | .endOfSession => a.stop .complete
      | .info => quietly (a.onLog (·.push a.now p.lossyText))
    | .error reason => a.stop (.failed reason)
    | .closed info => a.stop (.failed info.display)

/-- What a message leads to. -/
structure Outcome where
  app : App
  action : Option Action := none
  /-- The command that is still to be carried out. -/
  followUp : Option Command := none
  deriving DecidableEq, Repr

/-- The outcome of a change. -/
def Outcome.ofChange (c : Change) : Outcome :=
  { app := c.1, action := c.2 }

/-- One message. -/
def update (a : App) : Message → Outcome
  | .key k => { app := a, followUp := a.keyCommand k }
  | .event e => .ofChange (a.receive e)
  | .command c => .ofChange (a.perform c)

/-- One message and the command that follows from it, with the actions in
order. -/
def dispatch (a : App) (m : Message) : App × List Action :=
  let first := a.update m
  match first.followUp with
  | none => (first.app, first.action.toList)
  | some c =>
    let (app, action) := first.app.perform c
    (app, first.action.toList ++ action.toList)

end Provision.App
