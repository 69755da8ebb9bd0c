/-
Schedules of headless runs.

A schedule lists what happens to a run, step by step: the runner asks for an
event or takes a message, messages come into the channel, time passes, a task
goes on, the far side does something.  A step that cannot be made is none.  So
a schedule determines a run (`Run.after`), and two runs can be compared that have
the same one.

The far side is `Blind`: what it does may depend on everything that has happened,
but not on what the payloads are that it has received.

Schedules and runs that can be reached are the same thing (`Reached.after`,
`Reached.exists_schedule`).
-/
import Provision.Proofs.Headless.Reached
import Provision.Proofs.Session.Relabel

namespace Provision

/-! ### The far side -/

namespace Network

/-- The network as it looks to someone who cannot tell submitted payloads apart. -/
def veil (n : Network) : Network :=
  n.relabel fun _ => .text ""

/-- A change from outside the client that does not depend on what the payloads are
that were received. -/
structure Blind where
  change : Network → Network
  drift : ∀ n : Network, n.Drift (change n)
  blind : ∀ {n n' : Network}, n.veil = n'.veil → (change n).veil = (change n').veil

/-- To send an item is to change the network from outside. -/
def Blind.deliver (peer : Nat) (item : Inbound) : Blind where
  change n := n.deliver peer item
  drift n := n.drift_deliver peer item
  blind {n n'} h := by
    have hdeliver : ∀ n : Network, (n.deliver peer item).veil = n.veil.deliver peer item := by
      intro n
      symm
      exact n.modifyPeer_relabel (fun _ => .text "") peer fun _ => rfl
    rw [hdeliver, hdeliver, h]

/-- The network `m`, whose peers have received what those of `n` have. -/
def receiving (m n : Network) : Network :=
  { m with peers := List.zipWith (fun q p => { q with written := p.written }) m.peers n.peers }

theorem getElem?_receiving (m n : Network) (i : Nat) :
    (m.receiving n).peers[i]? =
      (m.peers[i]?).bind fun q => (n.peers[i]?).map fun p => { q with written := p.written } := by
  rw [receiving, List.getElem?_zipWith]
  rcases m.peers[i]? with - | q <;> rcases n.peers[i]? with - | p <;> rfl

theorem receiving_relabel (φ : Payload → Payload) (m n : Network) :
    (m.receiving n).relabel φ = m.receiving (n.relabel φ) := by
  have hpeers : ((m.receiving n).relabel φ).peers = (m.receiving (n.relabel φ)).peers := by
    apply List.ext_getElem?
    intro i
    rw [getElem?_relabel, getElem?_receiving, getElem?_receiving, getElem?_relabel]
    rcases m.peers[i]? with - | q <;> rcases n.peers[i]? with - | p <;> rfl
  exact congrArg (fun peers => { m with peers }) hpeers

/-- Where nothing else is different, a drift of one network is one of the other. -/
theorem drift_receiving {m n n₀ : Network} (hd : n₀.Drift m) (hv : n.veil = n₀.veil) :
    n.Drift (m.receiving n) := by
  have hattempts : n.veil.attempts = n₀.veil.attempts := congrArg Network.attempts hv
  have hgates : n.veil.gates = n₀.veil.gates := congrArg Network.gates hv
  have hlength : n.peers.length = n₀.peers.length := by
    have := congrArg (·.peers.length) hv
    simpa [veil] using this
  refine ⟨hd.attempts.trans hattempts.symm, ?_, ?_, ?_, ?_⟩
  · simp [receiving, hd.length_peers, hlength]
  · intro i p p' hp hp'
    have hi := congrArg (·.peers[i]?) hv
    simp only [veil, getElem?_relabel, hp, Option.map_some] at hi
    obtain ⟨p₀, hp₀, heq⟩ := Option.map_eq_some_iff.mp hi.symm
    rw [getElem?_receiving, hp] at hp'
    rcases hq : m.peers[i]? with - | q <;> simp only [hq, Option.bind_none, Option.bind_some,
      Option.map_some, Option.some.injEq, reduceCtorEq] at hp'
    have hdrift := hd.peer hp₀ hq
    subst hp'
    injection heq with htarget hinbound hread _ _ _ hreleased
    exact ⟨hdrift.target.trans htarget, hinbound ▸ hdrift.inbound, hdrift.readCount.trans hread,
      rfl, hdrift.released.trans hreleased⟩
  · exact Nat.le_trans (Nat.le_of_eq (congrArg List.length hgates)) hd.length_gates
  · intro i g g' hg hg'
    exact hd.gate (hgates ▸ hg) hg'

theorem receiving_of_drift {m n : Network} (hd : n.Drift m) : m.receiving n = m := by
  have hpeers : (m.receiving n).peers = m.peers := by
    apply List.ext_getElem?
    intro i
    rw [getElem?_receiving]
    rcases hq : m.peers[i]? with - | q
    · rfl
    · have hlt : i < n.peers.length := hd.length_peers ▸ (List.getElem?_eq_some_iff.mp hq).1
      have hp := List.getElem?_eq_getElem hlt
      have hwritten := (hd.peer hp hq).written
      rw [hp, Option.bind_some, Option.map_some, ← hwritten]
  exact congrArg (fun peers => { m with peers }) hpeers

/-- Whatever the far side may do, it may do without looking at payloads. -/
theorem exists_blind {m n : Network} (hd : n.Drift m) : ∃ b : Blind, b.change n = m := by
  classical
  refine ⟨⟨fun k => if k.veil = n.veil then m.receiving k else k, fun k => ?_,
    fun {k k'} hv => ?_⟩, ?_⟩
  · by_cases hk : k.veil = n.veil
    · rw [if_pos hk]
      exact drift_receiving hd hk
    · rw [if_neg hk]
      exact drift_of_peers_gates rfl rfl rfl
  · by_cases hk : k.veil = n.veil
    · rw [if_pos hk, if_pos (hv ▸ hk), veil, veil, receiving_relabel, receiving_relabel]
      exact congrArg m.receiving hv
    · rw [if_neg hk, if_neg (hv ▸ hk)]
      exact hv
  · simp only [if_true, receiving_of_drift hd]

end Network

/-- The task of the link at a place goes on, if it can. -/
def Exchange.goOn (x : Exchange) (place : Nat) (impulse : Link.Impulse) : Exchange :=
  match x.session.links[place]? with
  | none => x
  | some l =>
    match l.moveBy? x.network impulse with
    | none => x
    | some o => x.afterMove (x.session.links.take place) (x.session.links.drop (place + 1)) l.id o

namespace Headless

/-- One thing that may happen to a headless run. -/
inductive Step where
  /-- The session is asked for an event and has none. -/
  | poll
  /-- The runner asks the session for an event, and processes it. -/
  | hear
  /-- The runner takes the oldest message from the channel, and processes it. -/
  | fetch
  /-- A message comes into the channel. -/
  | post (m : Message)
  | tick (now : TimeOfDay)
  /-- The task of the link at a place goes on. -/
  | goOn (place : Nat) (impulse : Link.Impulse)
  /-- The task of a link will let go of its mailbox after so many payloads. -/
  | restrict (id : ConnectionId) (room : Nat)
  /-- The far side does something. -/
  | far (change : Network.Blind)
  /-- The runner sees that the run is over. -/
  | finish

namespace Run

/-- The runner takes messages. -/
def isOpen (r : Run) : Bool :=
  r.outcome?.isNone && r.isRunning

/-- Change the session and its network. -/
def onExchange (r : Run) (f : Exchange → Exchange) : Run :=
  { r with engine := { r.engine with exchange := f r.engine.exchange } }

/-- The run after one step. -/
def step (r : Run) : Step → Run
  | .poll => if r.engine.exchange.next.2.isNone then r.onExchange (·.next.1) else r
  | .hear =>
    if r.isOpen then
      match r.engine.exchange.next.2 with
      | some event => (r.onExchange (·.next.1)).take (.event event)
      | none => r
    else r
  | .fetch =>
    if r.isOpen then
      match r.engine.channel with
      | m :: channel => take { r with engine := { r.engine with channel } } m
      | [] => r
    else r
  | .post m => { r with engine := r.engine.post m }
  | .tick now => { r with engine := { r.engine with app := { r.engine.app with now } } }
  | .goOn place impulse => r.onExchange fun x => x.goOn place impulse
  | .restrict id room =>
    r.onExchange fun x =>
      x.onSession (·.modifyLink id fun l => { l with mailbox := l.mailbox.restrict room })
  | .far change => r.onExchange fun x => x.onNetwork change.change
  | .finish =>
    if r.outcome?.isNone && !r.isRunning then r.finish (.ofPhase r.engine.app.phase) else r

/-- The run after a schedule. -/
def after (r : Run) (schedule : List Step) : Run :=
  schedule.foldl step r

theorem after_append (r : Run) (schedule more : List Step) :
    r.after (schedule ++ more) = (r.after schedule).after more :=
  List.foldl_append ..

/-! ### Schedules are runs -/

variable {r : Run} {t : Trace} {settings : Settings} {endpoint : String} {filling : Filling}
  {n : Network}

/-- What happens in the background happens to the engine between two messages. -/
theorem Reached.background (h : Reached settings endpoint filling n r t) {u : Trace}
    {x : Exchange} (hb : r.engine.exchange.Background u x) :
    Reached settings endpoint filling n (r.onExchange fun _ => x) (t ++ u) :=
  h.pause (.background hb)

theorem Reached.step (h : Reached settings endpoint filling n r t) {s : Step}
    (hs : ∀ event, s ≠ .post (.event event)) :
    ∃ u, Reached settings endpoint filling n (r.step s) (t ++ u) := by
  have hstay : ∃ u, Reached settings endpoint filling n r (t ++ u) := ⟨[], by rwa [List.append_nil]⟩
  have hopen : r.isOpen = true → r.outcome? = none ∧ r.isRunning = true := by
    intro ho
    simpa [isOpen] using ho
  cases s with
  | poll =>
    rcases hx : r.engine.exchange.next.2 with - | event <;> simp only [Run.step, hx]
    · exact ⟨_, h.pause (.poll hx)⟩
    · exact hstay
  | hear =>
    by_cases ho : r.isOpen = true
    · obtain ⟨hout, hrun⟩ := hopen ho
      rcases hx : r.engine.exchange.next.2 with - | event <;> simp only [Run.step, ho, hx, if_true]
      · exact hstay
      · have ht := h.take hout hrun (.event hx)
        rw [List.append_assoc] at ht
        exact ⟨_, ht⟩
    · simp only [Run.step, ho]
      exact hstay
  | fetch =>
    by_cases ho : r.isOpen = true
    · obtain ⟨hout, hrun⟩ := hopen ho
      rcases hc : r.engine.channel with - | ⟨m, channel⟩ <;> simp only [Run.step, ho, hc, if_true]
      · exact hstay
      · have ht := h.take hout hrun (.channel hc)
        rw [List.append_assoc] at ht
        exact ⟨_, ht⟩
    · simp only [Run.step, ho]
      exact hstay
  | post m => exact ⟨_, h.pause (.post fun event hm => hs event (hm ▸ rfl))⟩
  | tick now => exact ⟨_, h.pause (.tick now)⟩
  | goOn place impulse =>
    rcases hl : r.engine.exchange.session.links[place]? with - | l
    · simpa only [Run.step, onExchange, Exchange.goOn, hl] using hstay
    · rcases hm : l.moveBy? r.engine.exchange.network impulse with - | o
      · simpa only [Run.step, onExchange, Exchange.goOn, hl, hm] using hstay
      · have hlinks : r.engine.exchange.session.links =
            r.engine.exchange.session.links.take place ++
              l :: r.engine.exchange.session.links.drop (place + 1) := by
          obtain ⟨hlt, rfl⟩ := List.getElem?_eq_some_iff.mp hl
          rw [← List.drop_eq_getElem_cons hlt, List.take_append_drop]
        have hb := h.background (.move hlinks (Link.move_iff_moveBy?.mpr ⟨impulse, hm⟩))
        have hstep : r.step (.goOn place impulse) = r.onExchange fun x =>
            x.afterMove (x.session.links.take place) (x.session.links.drop (place + 1)) l.id o := by
          simp only [Run.step, onExchange, Exchange.goOn, hl, hm]
        rw [hstep]
        exact ⟨_, hb⟩
  | restrict id room => exact ⟨_, h.background (.restrict id room)⟩
  | far change => exact ⟨_, h.background (.drift (change.drift _))⟩
  | finish =>
    by_cases hf : (r.outcome?.isNone && !r.isRunning) = true
    · simp only [Run.step, hf, if_true]
      have hf' : r.outcome? = none ∧ r.isRunning = false := by simpa using hf
      exact ⟨_, h.finish hf'.1 hf'.2⟩
    · simp only [Run.step, hf]
      exact hstay

/-- Every schedule is a run. -/
theorem Reached.after (h : Reached settings endpoint filling n r t) {schedule : List Step}
    (hs : ∀ event, .post (.event event) ∉ schedule) :
    ∃ u, Reached settings endpoint filling n (r.after schedule) (t ++ u) := by
  induction schedule generalizing r t with
  | nil => exact ⟨[], by rwa [List.append_nil]⟩
  | cons s schedule ih =>
    obtain ⟨u, hu⟩ := h.step fun event heq => hs event (heq ▸ List.mem_cons_self)
    obtain ⟨v, hv⟩ := ih hu fun event hmem => hs event (List.mem_cons_of_mem s hmem)
    exact ⟨u ++ v, by rwa [← List.append_assoc]⟩

/-! ### Runs are schedules -/

/-- Every move of a task is one that a schedule can name. -/
theorem exists_goOn {x : Exchange} {earlier later : List Link} {l : Link} {o : Link.Outcome}
    (hlinks : x.session.links = earlier ++ l :: later) (hm : l.Move x.network o) :
    ∃ place impulse, x.goOn place impulse = x.afterMove earlier later l.id o := by
  obtain ⟨impulse, hm⟩ := Link.move_iff_moveBy?.mp hm
  refine ⟨earlier.length, impulse, ?_⟩
  have hl : x.session.links[earlier.length]? = some l := by rw [hlinks]; simp
  simp only [Exchange.goOn, hl, hm]
  rw [hlinks]
  simp

/-- So is everything else that happens between two messages. -/
theorem exists_step_of_pause {u : Trace} {e : Engine} (hp : r.engine.Pause u e) :
    ∃ s, (∀ event, s ≠ .post (.event event)) ∧ r.step s = { r with engine := e } := by
  cases hp with
  | poll hnone =>
    have hnone : r.engine.exchange.next.2 = none := hnone
    exact ⟨.poll, by simp, by simp only [Run.step, hnone]; rfl⟩
  | @post m hm => exact ⟨.post m, by simpa using hm, rfl⟩
  | tick now => exact ⟨.tick now, by simp, rfl⟩
  | @background u x hb =>
    cases hb with
    | move hlinks hm =>
      obtain ⟨place, impulse, hgo⟩ := exists_goOn hlinks hm
      exact ⟨.goOn place impulse, by simp, by simp only [Run.step, onExchange, hgo]⟩
    | restrict id room => exact ⟨.restrict id room, by simp, rfl⟩
    | drift hd =>
      obtain ⟨b, hb⟩ := Network.exists_blind hd
      exact ⟨.far b, by simp, by simp only [Run.step, onExchange, Exchange.onNetwork, hb]⟩

/-- Every run that can be reached has a schedule. -/
theorem Reached.exists_schedule (h : Reached settings endpoint filling n r t) :
    ∃ channel schedule, (∀ event, Message.event event ∉ channel) ∧
      (∀ event, Step.post (.event event) ∉ schedule) ∧
      r = (Run.start (fresh settings endpoint n channel) filling).after schedule := by
  -- One more step at the end of a schedule.
  have hon : ∀ {channel : List Message} {schedule : List Step} {r r' : Run} {s : Step},
      (∀ event, Message.event event ∉ channel) →
      (∀ event, Step.post (.event event) ∉ schedule) →
      r = (Run.start (fresh settings endpoint n channel) filling).after schedule →
      (∀ event, s ≠ .post (.event event)) → r.step s = r' →
      ∃ channel schedule, (∀ event, Message.event event ∉ channel) ∧
        (∀ event, Step.post (.event event) ∉ schedule) ∧
        r' = (Run.start (fresh settings endpoint n channel) filling).after schedule := by
    intro channel schedule r r' s hchannel hschedule hr hs hstep
    refine ⟨channel, schedule ++ [s], hchannel, fun event hmem => ?_, ?_⟩
    · rcases List.mem_append.mp hmem with hmem | hmem
      · exact hschedule event hmem
      · exact hs event (List.mem_singleton.mp hmem).symm
    · rw [after_append, ← hr]
      exact hstep.symm
  induction h with
  | @start channel _ hchannel => exact ⟨channel, [], hchannel, by simp, rfl⟩
  | pause _ hp ih =>
    obtain ⟨channel, schedule, hchannel, hschedule, hr⟩ := ih
    obtain ⟨s, hs, hstep⟩ := exists_step_of_pause hp
    exact hon hchannel hschedule hr hs hstep
  | @take r t u e m _ ho hrun ht ih =>
    obtain ⟨channel, schedule, hchannel, hschedule, hr⟩ := ih
    have hopen : r.isOpen = true := by simp [isOpen, ho, hrun]
    cases ht with
    | @event event hsome =>
      have hsome : r.engine.exchange.next.2 = some event := hsome
      refine hon (s := .hear) hchannel hschedule hr (by simp) ?_
      simp only [Run.step, hopen, hsome, if_true]
      rfl
    | channel hc =>
      refine hon (s := .fetch) hchannel hschedule hr (by simp) ?_
      simp only [Run.step, hopen, hc, if_true]
  | @finish r t _ ho hrun ih =>
    obtain ⟨channel, schedule, hchannel, hschedule, hr⟩ := ih
    refine hon (s := .finish) hchannel hschedule hr (by simp) ?_
    simp [Run.step, ho, hrun]

end Run

end Headless

end Provision
