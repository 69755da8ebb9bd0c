/-
The engine: the application, its session and the message channel.

`process` runs one message through the application, carries its actions out on
the session, and tells the subscribers what changed.  `next` takes the next
message: an event of the session, or the oldest message of the channel.
-/
import Provision.App.Update
import Provision.Session.Exchange

namespace Provision

/-- What the engine tells its subscribers. -/
inductive Notice where
  | phaseChanged (before after : Phase)
  | logAppended (entry : LogEntry)
  | shutdown
  deriving DecidableEq, Repr

/-- The engine. -/
structure Engine where
  app : App := {}
  exchange : Exchange := {}
  /-- Messages that wait to be processed, the oldest first. -/
  channel : List Message := []

namespace Engine

/-- The engine as it starts. -/
def start (settings : Settings) (endpoint : String) : Engine :=
  { app := .start settings endpoint }

/-- Carry an action out on the session. -/
def act (x : Exchange) : Action → Exchange
  | .start endpoint command =>
    x.onSession fun s => (s.connect endpoint).send (.text command)
  | .close => x.onSession (·.close)

/-- What subscribers hear of a change: a new phase, and the entries that were
added since. -/
def notices (before after : App) : List Notice :=
  let phase :=
    if before.phase = after.phase then [] else [.phaseChanged before.phase after.phase]
  let last := before.log.last?.map (·.id)
  let fresh :=
    if last = after.log.last?.map (·.id) then []
    else after.log.entries.filter fun entry => last.all (· < entry.id)
  phase ++ fresh.map .logAppended

/-- Process one message. -/
def process (e : Engine) (m : Message) : Engine × List Notice :=
  let (app, actions) := e.app.dispatch m
  ({ e with app, exchange := actions.foldl act e.exchange }, notices e.app app)

/-- The next message, if there is one: what the session has to say comes before
the channel. -/
def next (e : Engine) : Engine × Option Message :=
  match e.exchange.next with
  | (exchange, some event) => ({ e with exchange }, some (.event event))
  | (exchange, none) =>
    match e.channel with
    | m :: channel => ({ e with exchange, channel }, some m)
    | [] => ({ e with exchange }, none)

/-- Let the connections move until none can. -/
def settle (e : Engine) : Engine :=
  { e with exchange := e.exchange.settle }

/-- Put a message into the channel. -/
def post (e : Engine) (m : Message) : Engine :=
  { e with channel := e.channel ++ [m] }

/-- Process messages until none is ready, at most `limit` of them: what was
processed, and what subscribers heard.  The connections move after each. -/
def run : Nat → Engine → Engine × List Message × List Notice
  | 0, e => (e, [], [])
  | limit + 1, e =>
    match e.next with
    | (e, none) => (e, [], [])
    | (e, some m) =>
      let (e, heard) := e.process m
      let (e, ms, more) := e.settle.run limit
      (e, m :: ms, heard ++ more)

/-- How many messages can be ready. -/
def ready (e : Engine) : Nat :=
  e.exchange.session.reports.length + e.channel.length

/-- Close the session and tell the subscribers. -/
def shutdown (e : Engine) : Engine × List Notice :=
  ({ e with exchange := e.exchange.onSession (·.close) }, [.shutdown])

end Engine

end Provision
