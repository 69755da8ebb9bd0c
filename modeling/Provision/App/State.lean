/-
The state of the application.

The state changes by messages only.  A message is a key, an event of the
session, or a command; keys are translated to commands, so a command never
leads to another message.
-/
import Provision.Form
import Provision.Key
import Provision.Log
import Provision.Phase
import Provision.Session
import Provision.Settings

namespace Provision

/-- What the keys act on. -/
inductive Mode where
  /-- The form and the log. -/
  | normal
  /-- The dialog that asks whether to quit. -/
  | confirm
  deriving DecidableEq, Repr, Inhabited

/-- What the user, or the runner for them, can ask for. -/
inductive Command where
  | focusNext
  | focusPrevious
  | nextProtocol
  | previousProtocol
  /-- Type a character into the focused field. -/
  | type (c : Char)
  | backspace
  /-- Empty the focused field. -/
  | clearField
  /-- Check the form and start a session. -/
  | submit
  /-- Give the running session up. -/
  | cancel
  | scrollUp
  | scrollDown
  | scrollToTop
  | scrollToBottom
  | pageUp
  | pageDown
  /-- Quit, but ask first if a session is running. -/
  | requestQuit
  | confirmQuit
  | cancelQuit
  /-- Quit at once. -/
  | quit
  deriving DecidableEq, Repr

/-- Everything that can happen to the application. -/
inductive Message where
  | key (k : Key)
  | event (e : Event)
  | command (c : Command)
  deriving DecidableEq, Repr

/-- What the application asks of the session. -/
inductive Action where
  /-- Connect to `endpoint` and send `command`. -/
  | start (endpoint command : String)
  /-- Close the connection and drop what is queued for it. -/
  | close
  deriving DecidableEq, Repr

/-- The application. -/
structure App where
  form : Form := {}
  log : Log := {}
  phase : Phase := .idle
  mode : Mode := .normal
  settings : Settings := {}
  /-- The backend of every session. -/
  endpoint : String := defaultEndpoint
  /-- Why the form was rejected, until the next edit or submit. -/
  formError : Option String := none
  /-- The application is to end. -/
  quitting : Bool := false
  /-- The time at which new log entries are noted. -/
  now : TimeOfDay := {}
  deriving DecidableEq, Repr, Inhabited

namespace App

/-- The application as it starts. -/
def start (settings : Settings) (endpoint : String) : App :=
  { form := .ofProtocol settings.defaultProtocol, settings, endpoint }

/-- A session is running: the form is locked. -/
def inProgress (a : App) : Bool :=
  a.phase.inProgress

/-- Change the form. -/
def onForm (a : App) (f : Form → Form) : App :=
  { a with form := f a.form }

/-- Change the log. -/
def onLog (a : App) (f : Log → Log) : App :=
  { a with log := f a.log }

end App

end Provision
