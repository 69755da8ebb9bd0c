/-
An engine that follows one session to its end.

Between two messages the engine may find nothing to hear, time passes, messages
come into the channel, and the tasks and the far side do what they like
(`Pause`).  The message that it takes then is an event of the session or the
oldest one of the channel, in any order (`Taking`); what the running program
takes is one of these (`taking_of_next`).

From an accepted request on, the session of the engine is the connection that
was opened for it as long as it runs (`Attached`), and each event that is heard
of it is one of that connection and moves the progress on (`Attached.event`).
-/
import Provision.Proofs.App.Progress
import Provision.Proofs.Engine.Run
import Provision.Proofs.Exchange.Followed

namespace Provision

/-! ### Calls that hear nothing -/

namespace Exchange

variable {x : Exchange} {t : Trace} {cs : List Call}

theorem eventsOf_observedAll (x : Exchange) (h : Call.next ∉ cs) (id : ConnectionId) :
    Trace.eventsOf (x.observedAll cs) id = [] := by
  induction cs generalizing x with
  | nil => rfl
  | cons c cs ih =>
    have hquiet : (x.session.call c).2 = none := by
      cases c with
      | next => exact absurd List.mem_cons_self h
      | connect | send | close => rfl
    rw [observedAll, Trace.eventsOf_append, Session.eventsOf_observed, hquiet, Option.toList_none,
      ite_self, List.nil_append]
    exact ih (x.call c) fun hmem => h (List.mem_cons_of_mem c hmem)

theorem lasting_callAll {Q : Link → Network → List Nat → List Report → Prop}
    {id : ConnectionId} (hQ : Link.Lasting Q) (h : x.Holds Q id t) (hrun : x.Run t)
    (hid : id ≤ x.session.lastId) (cs : List Call) :
    (x.callAll cs).Holds Q id (t ++ x.observedAll cs) := by
  induction cs generalizing x t with
  | nil => simpa [callAll, observedAll] using h
  | cons c cs ih =>
    obtain ⟨done, hf⟩ := hrun.coherent.call c
    have := ih (lasting_call hQ h hrun.tracked hid c) (hrun.call c)
      (Nat.le_trans hid hf.lastId_le)
    rw [List.append_assoc] at this
    exact this

end Exchange

namespace Engine

variable {e e' : Engine} {t u : Trace} {k : ConnectionId} {m : Message}

theorem eventsOf_observed (e : Engine) (m : Message) (id : ConnectionId) :
    Trace.eventsOf (e.observed m) id = [] := by
  refine Exchange.eventsOf_observedAll _ (fun hmem => ?_) id
  obtain ⟨action, -, hcall⟩ := List.mem_flatMap.mp hmem
  cases action <;> simp [Action.calls] at hcall

/-! ### Between two messages, and the next one -/

/-- What happens to an engine between two messages. -/
inductive Pause (e : Engine) : Trace → Engine → Prop
  /-- The session is asked for an event and has none. -/
  | poll : e.exchange.session.next.2 = none →
      Pause e (e.exchange.session.observed .next) { e with exchange := e.exchange.call .next }
  | post {m : Message} : (∀ event, m ≠ .event event) → Pause e [] (e.post m)
  | tick (now : TimeOfDay) : Pause e [] { e with app := { e.app with now } }
  | background {u : Trace} {x : Exchange} :
      e.exchange.Background u x → Pause e u { e with exchange := x }

/-- The message that the engine takes.  If the session and the channel both have
one, either may come first. -/
inductive Taking (e : Engine) : Trace → Message → Engine → Prop
  | event {event : Event} : e.exchange.session.next.2 = some event →
      Taking e (e.exchange.session.observed .next) (.event event)
        { e with exchange := e.exchange.call .next }
  | channel {m : Message} {rest : List Message} :
      e.channel = m :: rest → Taking e [] m { e with channel := rest }

/-- The running program asks the session first, and takes from the channel if it
has nothing. -/
theorem taking_of_next (h : e.next = (e', some m)) :
    e.Taking (e.exchange.session.observed .next) m e' ∨
      ∃ e₁, e.Pause (e.exchange.session.observed .next) e₁ ∧ e₁.Taking [] m e' := by
  obtain ⟨hexchange, happ⟩ := exchange_next h
  have he' : e' = { e with exchange := e.exchange.call .next, channel := e'.channel } := by
    rw [← hexchange, ← happ]
  rcases next_eq_some h with ⟨event, hsome, rfl, hchannel⟩ | ⟨hnone, hchannel⟩
  · rw [he', hchannel]
    exact .inl (.event hsome)
  · rw [he']
    exact .inr ⟨_, .poll hnone, .channel hchannel⟩

theorem pause_of_next (h : e.next = (e', none)) :
    e.Pause (e.exchange.session.observed .next) e' := by
  obtain ⟨hexchange, happ⟩ := exchange_next h
  obtain ⟨hnone, hchannel⟩ := next_eq_none h
  have he' : e' = { e with exchange := e.exchange.call .next } := by
    rw [← hexchange, ← happ, ← hchannel]
  rw [he']
  exact .poll hnone

/-! ### The session that runs -/

/-- The session of the engine is the connection `k` as long as it runs, and
events are not waiting in the channel. -/
structure Attached (e : Engine) (t : Trace) (k : ConnectionId) : Prop where
  run : e.exchange.Run t
  channel : ∀ event, Message.event event ∉ e.channel
  lastId : e.exchange.session.lastId = k
  active : e.exchange.session.active = if e.app.inProgress then some k else none

/-- The link of the session. -/
theorem Attached.exists_link (h : e.Attached t k) (hk : 0 < k) :
    ∃ l ∈ e.exchange.session.links, l.id = k :=
  List.mem_map.mp (h.run.coherent.mem_ids.mpr ⟨hk, Nat.le_of_eq h.lastId.symm⟩)

/-- To accept a request is to open a connection for it.  Nothing was heard of it
yet. -/
theorem attached_of_accepts {r : Request} (hrun : e.exchange.Run t)
    (hchannel : ∀ event, Message.event event ∉ e.channel) (hm : e.app.accepts m = some r) :
    (e.process m).1.Attached (t ++ e.observed m) (e.exchange.session.lastId + 1) ∧
      (e.process m).1.app.progress = .fresh ∧
      Trace.eventsOf (t ++ e.observed m) (e.exchange.session.lastId + 1) = [] ∧
      ∀ l ∈ (e.process m).1.exchange.session.links, l.id = e.exchange.session.lastId + 1 →
        l.stage = .dialing ∧ l.target = e.app.endpoint := by
  have hdispatch := App.dispatch_of_accepts hm
  have hsession : (e.process m).1.exchange.session =
      (e.exchange.session.connect e.app.endpoint).send (.text (Request.Command.encode r)) := by
    simp only [Engine.process, hdispatch]
    rfl
  have happ : (e.process m).1.app =
      { e.app with formError := none, log := e.app.log.clear, phase := .connecting } :=
    congrArg Prod.fst hdispatch
  obtain ⟨-, hactive, hlast, -⟩ := (e.exchange.session.connect e.app.endpoint).send_fields
    (.text (Request.Command.encode r))
  refine ⟨⟨?_, hchannel, ?_, ?_⟩, ?_, ?_, fun l' hl' hid => ?_⟩
  · rw [exchange_process]
    exact hrun.callAll _
  · rw [hsession, hlast]
    simp [Session.connect]
  · rw [hsession, hactive, happ]
    simp [Session.connect, App.inProgress]
  · rw [happ]
    rfl
  · rw [Trace.eventsOf_append, e.eventsOf_observed, List.append_nil]
    exact hrun.eventsOf_eq_nil hrun.coherent.succ_lastId_not_mem
  · -- While it connects, the session only queues the command.
    have hlinks : (e.process m).1.exchange.session.links =
        (e.exchange.session.connect e.app.endpoint).links := by
      rw [hsession]
      simp [Session.send, Session.connect]
    rw [hlinks] at hl'
    rw [Session.eq_of_connect hrun.coherent hl' hid]
    exact ⟨rfl, rfl⟩

/-- Nothing of a session changes between two messages. -/
theorem Pause.app (h : e.Pause u e') : ∃ now, e'.app = { e.app with now } := by
  cases h with
  | tick now => exact ⟨now, rfl⟩
  | poll | post | background => exact ⟨e.app.now, rfl⟩

theorem Pause.progress (h : e.Pause u e') : e'.app.progress = e.app.progress := by
  obtain ⟨now, happ⟩ := h.app
  rw [happ]
  rfl

theorem Pause.run (h : e.Pause u e') (hrun : e.exchange.Run t) : e'.exchange.Run (t ++ u) := by
  cases h with
  | poll => exact hrun.call .next
  | post | tick =>
    rw [List.append_nil]
    exact hrun
  | background hb => exact hrun.background hb

theorem Pause.eventsOf (h : e.Pause u e') (id : ConnectionId) :
    Trace.eventsOf (t ++ u) id = t.eventsOf id := by
  cases h with
  | poll hnone => exact Exchange.eventsOf_quiet (c := .next) hnone id
  | post | tick => rw [List.append_nil]
  | background hb => rw [Trace.eventsOf_append, (hb.silent.events_opens id).1, List.append_nil]

theorem Attached.pause (h : e.Attached t k) (hp : e.Pause u e') : e'.Attached (t ++ u) k := by
  refine ⟨hp.run h.run, ?_, ?_, ?_⟩
  · cases hp with
    | post hm =>
      intro event hmem
      rcases List.mem_append.mp hmem with hmem | hmem
      · exact h.channel event hmem
      · exact hm event (List.mem_singleton.mp hmem).symm
    | poll | tick | background => exact h.channel
  · cases hp with
    | poll => exact (Session.lastId_next _).trans h.lastId
    | post | tick => exact h.lastId
    | background hb =>
      obtain ⟨-, -, -, hlast, -⟩ := hb.session
      exact hlast.trans h.lastId
  · cases hp with
    | poll hnone =>
      rcases e.exchange.session.next_cases with ⟨-, hnext⟩ | ⟨_, _, r, _, -, -, -, hnext⟩
      · rw [show (e.exchange.call .next).session = e.exchange.session.next.1 from rfl, hnext]
        exact h.active
      · rw [hnext] at hnone
        cases hnone
    | post | tick => exact h.active
    | background hb =>
      obtain ⟨-, -, hactive, -, -⟩ := hb.session
      exact hactive.trans h.active

/-- What lasts of the link lasts between two messages. -/
theorem Pause.holds {Q : Link → Network → List Nat → List Report → Prop} (hp : e.Pause u e')
    (hQ : Link.Lasting Q) (hat : e.Attached t k) (h : e.exchange.Holds Q k t)
    (ho : e.exchange.network.Orderly e'.exchange.network) : e'.exchange.Holds Q k (t ++ u) := by
  cases hp with
  | poll => exact Exchange.lasting_call hQ h hat.run.tracked (Nat.le_of_eq hat.lastId.symm) .next
  | post | tick =>
    rw [List.append_nil]
    exact h
  | background hb => exact hb.lasting hQ h hat.run.tracked hat.run.heard.1 ho

theorem Taking.holds {Q : Link → Network → List Nat → List Report → Prop} (ht : e.Taking u m e')
    (hQ : Link.Lasting Q) (hat : e.Attached t k) (h : e.exchange.Holds Q k t) :
    e'.exchange.Run (t ++ u) ∧ k ≤ e'.exchange.session.lastId ∧
      e'.exchange.Holds Q k (t ++ u) := by
  cases ht with
  | event =>
    refine ⟨hat.run.call .next, Nat.le_of_eq ?_, ?_⟩
    · exact ((Session.lastId_next _).trans hat.lastId).symm
    · exact Exchange.lasting_call hQ h hat.run.tracked (Nat.le_of_eq hat.lastId.symm) .next
  | channel =>
    rw [List.append_nil]
    exact ⟨hat.run, Nat.le_of_eq hat.lastId.symm, h⟩

/-- To take a message from the channel changes nothing else. -/
theorem Attached.taken (h : e.Attached t k) (ht : e.Taking u m e')
    (hm : ∀ event, m ≠ .event event) :
    e'.Attached (t ++ u) k ∧ e'.app = e.app ∧
      Trace.eventsOf (t ++ u) k = t.eventsOf k := by
  cases ht with
  | event => exact absurd rfl (hm _)
  | @channel m rest hchannel =>
    rw [List.append_nil]
    refine ⟨⟨h.run, fun event hmem => ?_, h.lastId, h.active⟩, rfl, rfl⟩
    exact h.channel event (hchannel ▸ List.mem_cons_of_mem m hmem)

/-- A message that starts no session leaves the engine attached. -/
theorem Attached.process (h : e.Attached t k) (hm : ∀ event, m ≠ .event event)
    (hnone : e.app.accepts m = none) : (e.process m).1.Attached (t ++ e.observed m) k := by
  have hturn : ∀ {out : App × List Action}, e.app.Turn none out →
      (e.exchange.callAll (out.2.flatMap Action.calls)).session.lastId = k ∧
        (e.exchange.callAll (out.2.flatMap Action.calls)).session.active =
          if out.1.inProgress then some k else none := by
    intro out ht
    cases ht with
    | quiet hphase =>
      rw [App.inProgress, hphase]
      exact ⟨h.lastId, h.active⟩
    | stop _ hstop =>
      rw [hstop]
      exact ⟨e.exchange.session.close_fields.1.trans h.lastId, h.run.coherent.active_close⟩
  have ht := App.turn_dispatch e.app (hm .opened)
  rw [hnone] at ht
  obtain ⟨hlast, hactive⟩ := hturn ht
  refine ⟨?_, h.channel, ?_, ?_⟩ <;> rw [exchange_process]
  · exact h.run.callAll _
  · exact hlast
  · exact hactive

/-- An event arrives while the session runs, is of its connection, and moves its
progress on. -/
theorem Attached.event (h : e.Attached t k) {event : Event} (ht : e.Taking u (.event event) e') :
    e.app.inProgress = true ∧
      (e'.process (.event event)).1.Attached (t ++ u ++ e'.observed (.event event)) k ∧
      Trace.eventsOf (t ++ u ++ e'.observed (.event event)) k = t.eventsOf k ++ [event] ∧
      (e'.process (.event event)).1.app = (e.app.receive event).1 := by
  cases ht with
  | channel hchannel =>
    exact absurd (hchannel ▸ List.mem_cons_self) (h.channel event)
  | event hsome =>
    obtain ⟨id, hid, hsource, hstays⟩ := Session.source_of_next hsome
    -- The followed link is the session's own, so the session runs.
    have hactive := h.active
    have hrun : e.app.inProgress = true := by
      by_contra hstop
      rw [if_neg hstop, hid] at hactive
      cases hactive
    rw [if_pos hrun, hid] at hactive
    cases hactive
    have hnextRun := h.run.call .next
    have hlast : (e.exchange.call .next).session.lastId = k :=
      (Session.lastId_next _).trans h.lastId
    -- The event asks for a close exactly if it ends the session.
    have hafter : ((e.exchange.call .next).callAll
          ((e.app.receive event).2.toList.flatMap Action.calls)).session.lastId = k ∧
        ((e.exchange.call .next).callAll
          ((e.app.receive event).2.toList.flatMap Action.calls)).session.active =
            if (e.app.receive event).1.inProgress then some k else none := by
      rw [App.action_receive hrun]
      rcases hover : (e.app.receive event).1.inProgress
      · exact ⟨(Session.close_fields _).1.trans hlast, hnextRun.coherent.active_close⟩
      · refine ⟨hlast, hstays fun info hinfo => ?_⟩
        rw [hinfo, App.receive_of_running hrun] at hover
        cases hover
    refine ⟨hrun, ⟨?_, h.channel, ?_, ?_⟩, ?_, rfl⟩
    · rw [exchange_process]
      exact hnextRun.callAll _
    · rw [exchange_process]
      exact hafter.1
    · rw [exchange_process]
      exact hafter.2
    · rw [Trace.eventsOf_append, Trace.eventsOf_append, eventsOf_observed, List.append_nil,
        Session.eventsOf_observed, if_pos hsource]
      rw [show (e.exchange.session.call .next).2 = some event from hsome]
      rfl

end Engine

end Provision
