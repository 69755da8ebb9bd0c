/-
Runs of the engine.

The engine processes messages in any order: those that are given to it, and
the next one when it asks for it, which may be an event of the session.  Events
come in no other way, and are processed at once.  In between time passes,
messages are put into the channel, and the tasks and the far side do what they
like.

A run of the engine is a run of its exchange with the same trace
(`Run.exchange`).  Beside the trace it notes the requests with which sessions
were started.  That a task moves between the two calls with which a session
starts need not be said: the second only queues.
-/
import Provision.Engine
import Provision.Proofs.App.Turn
import Provision.Proofs.Exchange.Run

namespace Provision

/-- The calls that carry an action out. -/
def Action.calls : Action → List Call
  | .start endpoint command => [.connect endpoint, .send (.text command)]
  | .close => [.close]

namespace Engine

/-- The calls that a message leads to. -/
def calls (e : Engine) (m : Message) : List Call :=
  (e.app.dispatch m).2.flatMap Action.calls

/-- What is observed of the session while a message is processed. -/
def observed (e : Engine) (m : Message) : Trace :=
  e.exchange.observedAll (e.calls m)

/-- A run: an engine that was reached, the trace on the way, and the requests
with which sessions were started. -/
inductive Run : Engine → Trace → List Request → Prop
  /-- The form may be filled in already, and the network may be any without a
  connection. -/
  | start (settings : Settings) (endpoint : String) (form : Form) {n : Network} :
      n.peers = [] →
      Run { app := { App.start settings endpoint with form }, exchange := { network := n } } [] []
  /-- A message is processed that is no event. -/
  | process {e : Engine} {t : Trace} {rs : List Request} {m : Message} :
      Run e t rs → (∀ event, m ≠ .event event) →
      Run (e.process m).1 (t ++ e.observed m) (rs ++ (e.app.accepts m).toList)
  /-- The next message is taken and processed at once. -/
  | take {e e' : Engine} {t : Trace} {rs : List Request} {m : Message} :
      Run e t rs → e.next = (e', some m) →
      Run (e'.process m).1 (t ++ e.exchange.session.observed .next ++ e'.observed m)
        (rs ++ (e'.app.accepts m).toList)
  /-- There is no next message yet. -/
  | wait {e e' : Engine} {t : Trace} {rs : List Request} :
      Run e t rs → e.next = (e', none) →
      Run e' (t ++ e.exchange.session.observed .next) rs
  | post {e : Engine} {t : Trace} {rs : List Request} {m : Message} :
      Run e t rs → (∀ event, m ≠ .event event) → Run (e.post m) t rs
  | tick {e : Engine} {t : Trace} {rs : List Request} (now : TimeOfDay) :
      Run e t rs → Run { e with app := { e.app with now } } t rs
  | background {e : Engine} {t u : Trace} {rs : List Request} {x : Exchange} :
      Run e t rs → e.exchange.Background u x → Run { e with exchange := x } (t ++ u) rs

variable {e e' : Engine} {t : Trace} {rs : List Request} {m : Message}

theorem callAll_act (x : Exchange) (actions : List Action) :
    actions.foldl act x = x.callAll (actions.flatMap Action.calls) := by
  induction actions generalizing x with
  | nil => rfl
  | cons action actions ih =>
    rw [List.foldl_cons, ih, List.flatMap_cons, Exchange.callAll, Exchange.callAll,
      List.foldl_append]
    cases action <;> rfl

theorem exchange_process (e : Engine) (m : Message) :
    (e.process m).1.exchange = e.exchange.callAll (e.calls m) :=
  callAll_act e.exchange _

/-- What the next message leaves behind. -/
theorem exchange_next {next : Option Message} (h : e.next = (e', next)) :
    e'.exchange = e.exchange.call .next ∧ e'.app = e.app := by
  rcases hx : e.exchange.next with ⟨x, - | event⟩
  · have hcall : x = e.exchange.call .next := (congrArg Prod.fst hx).symm
    rcases hc : e.channel with - | ⟨m, channel⟩ <;> simp only [Engine.next, hx, hc] at h <;>
      cases h <;> exact ⟨hcall, rfl⟩
  · have hcall : x = e.exchange.call .next := (congrArg Prod.fst hx).symm
    simp only [Engine.next, hx] at h
    cases h
    exact ⟨hcall, rfl⟩

/-- The next message is an event of the session, or else comes from the channel. -/
theorem next_eq_some (h : e.next = (e', some m)) :
    (∃ event, e.exchange.session.next.2 = some event ∧ m = .event event ∧
      e'.channel = e.channel) ∨
    e.exchange.session.next.2 = none ∧ e.channel = m :: e'.channel := by
  rcases hx : e.exchange.next with ⟨x, - | event⟩
  · have hnone : e.exchange.session.next.2 = none := congrArg Prod.snd hx
    rcases hc : e.channel with - | ⟨m, channel⟩ <;> simp only [Engine.next, hx, hc] at h <;>
      cases h
    exact .inr ⟨hnone, rfl⟩
  · have hsome : e.exchange.session.next.2 = some event := congrArg Prod.snd hx
    simp only [Engine.next, hx] at h
    cases h
    exact .inl ⟨event, hsome, rfl, rfl⟩

theorem next_eq_none (h : e.next = (e', none)) :
    e.exchange.session.next.2 = none ∧ e'.channel = e.channel := by
  rcases hx : e.exchange.next with ⟨x, - | event⟩
  · have hnone : e.exchange.session.next.2 = none := congrArg Prod.snd hx
    rcases hc : e.channel with - | ⟨m, channel⟩ <;> simp only [Engine.next, hx, hc] at h <;>
      cases h
    exact ⟨hnone, rfl⟩
  · simp only [Engine.next, hx] at h
    cases h

/-- The session of an engine is in a run of its own. -/
theorem Run.exchange (h : Run e t rs) : e.exchange.Run t := by
  induction h with
  | start settings endpoint form hn => exact .start hn
  | process _ _ ih =>
    rw [exchange_process]
    exact ih.callAll _
  | take _ hnext ih =>
    rw [exchange_process, observed]
    rw [(exchange_next hnext).1]
    exact (ih.call .next).callAll _
  | wait _ hnext ih =>
    rw [(exchange_next hnext).1]
    exact ih.call .next
  | post _ _ ih => exact ih
  | tick _ _ ih => exact ih
  | background _ hb ih => exact ih.background hb

/-! ### The loop of the running program -/

theorem Run.settle (h : Run e t rs) : ∃ u, Run e.settle (t ++ u) rs :=
  Exchange.settle_induction (P := fun x t => Run { e with exchange := x } t rs)
    (fun h hlinks hm => h.background (.move hlinks hm)) h

/-- The loop that processes messages is one of the runs. -/
theorem Run.run (h : Run e t rs) (limit : Nat) :
    ∃ u more, Run (e.run limit).1 (t ++ u) (rs ++ more) := by
  induction limit generalizing e t rs with
  | zero => exact ⟨[], [], by simpa [Engine.run] using h⟩
  | succ limit ih =>
    rcases hn : e.next with ⟨e', - | m⟩
    · exact ⟨_, [], by simpa [Engine.run, hn] using h.wait hn⟩
    · obtain ⟨u, hu⟩ := (h.take hn).settle
      obtain ⟨v, more, hv⟩ := ih hu
      refine ⟨e.exchange.session.observed .next ++ e'.observed m ++ u ++ v,
        (e'.app.accepts m).toList ++ more, ?_⟩
      simpa [Engine.run, hn, List.append_assoc] using hv

end Engine

end Provision
