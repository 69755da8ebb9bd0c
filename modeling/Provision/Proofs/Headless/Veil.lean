/-
Passwords leave no trace in what a headless run reports.

To veil a run is to empty the passwords of its form and to make all submitted
payloads the same.  Nothing that the run reports is veiled, and while the session
runs, nothing that is veiled is looked at: so what a step makes of a run, veiled,
depends on the veiled run only (`Run.veil_step`).  Two requests that differ only
in passwords of one kind start runs that look the same when they are veiled
(`Run.veil_start`), and so they look the same for ever.

Main result: `stream_independent_of_passwords`.
-/
import Provision.Debug
import Provision.Proofs.App.Locked
import Provision.Proofs.App.Progress
import Provision.Proofs.Form.Alike
import Provision.Proofs.Form.Submit
import Provision.Proofs.Headless.Schedule

namespace Provision

/-! ### Texts of one kind -/

/-- The texts are both words, or both empty, or there are blanks in both. -/
inductive Text.OneKind (s s' : String) : Prop
  | words : IsWord s.toList → IsWord s'.toList → OneKind s s'
  | empty : s = "" → s' = "" → OneKind s s'
  | blank : (∃ c ∈ s.toList, isBlank c = true) → (∃ c ∈ s'.toList, isBlank c = true) → OneKind s s'

namespace Form

theorem fault?_of_blank {value : String} (h : ∃ c ∈ value.toList, Text.isBlank c = true) :
    fault? value = some .blank := by
  rcases hf : fault? value with - | fault
  · obtain ⟨c, hc, hblank⟩ := h
    have hfree := (fault?_eq_none_iff.mp hf).2 c hc
    rw [hblank] at hfree
    cases hfree
  · rcases fault?_eq_some hf with ⟨rfl, -⟩ | ⟨-, rfl⟩
    · simp at h
    · rfl

/-- Texts of one kind have the same fault, or none. -/
theorem fault?_of_oneKind {s s' : String} (h : Text.OneKind s s') : fault? s' = fault? s := by
  cases h with
  | words hs hs' => rw [fault?_eq_none_iff.mpr hs, fault?_eq_none_iff.mpr hs']
  | empty hs hs' => rw [hs, hs']
  | blank hs hs' => rw [fault?_of_blank hs, fault?_of_blank hs']

def veil (f : Form) : Form :=
  { f with password := {}, vpnPassword := {} }

theorem Akin.veil {f g : Form} (h : f.Akin g) : g.veil = f.veil := by
  cases h
  rfl

end Form

/-! ### What is veiled -/

def App.veil (a : App) : App :=
  a.onForm Form.veil

/-- The action, without the command that is sent. -/
def Action.veil : Action → Action
  | .start endpoint _ => .start endpoint ""
  | .close => .close

namespace Exchange

variable {x : Exchange}

def veil (x : Exchange) : Exchange :=
  x.relabel fun _ => .text ""

theorem veil_next (x : Exchange) : x.veil.next = (x.next.1.veil, x.next.2) :=
  x.next_relabel _

theorem veil_settle (x : Exchange) : x.veil.settle = x.settle.veil :=
  x.settle_relabel _

/-- An operation of the session that does not look at payloads. -/
theorem veil_onSession {f g : Session → Session}
    (h : g (x.session.relabel fun _ => .text "") =
      (f x.session).relabel fun _ => .text "") :
    (x.onSession f).veil = x.veil.onSession g := by
  simp only [veil, relabel, onSession, h]

/-- Which command a session is started with cannot be told. -/
theorem veil_act (x : Exchange) (action : Action) :
    (Engine.act x action).veil = Engine.act x.veil action.veil := by
  cases action with
  | start endpoint command =>
    show (x.onSession fun s => (s.connect endpoint).send (.text command)).veil =
      x.veil.onSession fun s => (s.connect endpoint).send (.text "")
    refine veil_onSession ?_
    rw [Session.connect_relabel]
    exact (x.session.connect endpoint).send_relabel _ (.text command)
  | close => exact veil_onSession (x.session.close_relabel _)

theorem veil_foldl_act (x : Exchange) (actions : List Action) :
    (actions.foldl Engine.act x).veil = (actions.map Action.veil).foldl Engine.act x.veil := by
  induction actions generalizing x with
  | nil => rfl
  | cons action actions ih => rw [List.foldl_cons, ih, veil_act, List.map_cons, List.foldl_cons]

/-- A task goes on without looking at payloads. -/
theorem veil_goOn (x : Exchange) (place : Nat) (impulse : Link.Impulse) :
    (x.goOn place impulse).veil = x.veil.goOn place impulse := by
  have hplace : x.veil.session.links[place]? =
      (x.session.links[place]?).map (Link.relabel fun _ => .text "") := List.getElem?_map ..
  rcases hl : x.session.links[place]? with - | l <;> rw [hl] at hplace
  · simp only [goOn, hplace, hl, Option.map_none]
  · have hmove : (l.relabel fun _ => .text "").moveBy? x.veil.network impulse = _ :=
      l.moveBy?_relabel (fun _ => .text "") x.network impulse
    rcases hm : l.moveBy? x.network impulse with - | o <;> rw [hm] at hmove
    · simp only [goOn, hplace, hl, hmove, hm, Option.map_some, Option.map_none]
    · simp only [goOn, hplace, hl, hmove, hm, Option.map_some]
      simp [veil, relabel, Session.relabel, afterMove, Link.Outcome.relabel]
      rfl

end Exchange

namespace Engine

def veil (e : Engine) : Engine :=
  { e with app := e.app.veil, exchange := e.exchange.veil }

theorem veil_next (e : Engine) : e.veil.next = (e.next.1.veil, e.next.2) := by
  have hnext := e.exchange.veil_next
  rcases hx : e.exchange.next with ⟨x, - | event⟩ <;> rw [hx] at hnext
  · rcases hc : e.channel with - | ⟨m, channel⟩ <;> simp only [next, veil, hnext, hx, hc]
  · simp only [next, veil, hnext, hx]

theorem veil_settle (e : Engine) : e.veil.settle = e.settle.veil := by
  simp only [settle, veil, Exchange.veil_settle]

end Engine

namespace Headless

/-- A notice is reported the same, whatever the passwords are. -/
theorem report_veil (a : App) : report a.veil = report a := by
  funext notice
  cases notice with
  | phaseChanged before after => cases after <;> rfl
  | logAppended | shutdown => rfl

namespace Run

variable {r r' : Run}

def veil (r : Run) : Run :=
  { r with engine := r.engine.veil }

/-- A message that does the same to both applications does the same to both runs. -/
theorem veil_take_of_dispatch {m : Message} (h : r.veil = r'.veil)
    (happ : (r.engine.app.dispatch m).1.veil = (r'.engine.app.dispatch m).1.veil)
    (hactions : (r.engine.app.dispatch m).2.map Action.veil =
      (r'.engine.app.dispatch m).2.map Action.veil) :
    (r.take m).veil = (r'.take m).veil := by
  have htake : ∀ {r : Run} {a : App} {actions : List Action},
      (r.engine.app.dispatch m).1.veil = a →
      (r.engine.app.dispatch m).2.map Action.veil = actions →
      (r.take m).veil =
        { r.veil with
          engine :=
            { r.veil.engine with
              app := a
              exchange := actions.foldl Engine.act r.veil.engine.exchange }
          events := r.veil.events ++ (Engine.notices r.veil.engine.app a).flatMap (report a) } := by
    rintro r - - rfl rfl
    rw [report_veil]
    simp only [take, Engine.process, veil, Engine.veil, Exchange.veil_foldl_act]
    rfl
  rw [htake happ hactions, htake rfl rfl, h]

/-- While the session runs, every message does. -/
theorem veil_take (h : r.veil = r'.veil) (hrun : r.engine.app.inProgress = true) (m : Message) :
    (r.take m).veil = (r'.take m).veil := by
  have happ : r.engine.app.veil = r'.engine.app.veil := congrArg (·.engine.app) h
  have hrun' : r'.engine.app.inProgress = true :=
    (congrArg App.inProgress happ).symm.trans hrun
  -- The form is locked, so the message is the same to the applications and their veiled forms.
  have hdispatch := congrArg (·.dispatch m) happ
  simp only [App.veil, App.dispatch_onForm hrun, App.dispatch_onForm hrun', Prod.mk.injEq]
    at hdispatch
  exact veil_take_of_dispatch h hdispatch.1 (congrArg _ hdispatch.2)

/-- Engines that look the same are put in the place of such. -/
theorem veil_withEngine (h : r.veil = r'.veil) {e e' : Engine} (he : e.veil = e'.veil) :
    veil { r with engine := e } = veil { r' with engine := e' } := by
  have hevents : r.events = r'.events := (congrArg events h :)
  have hout : r.outcome? = r'.outcome? := (congrArg outcome? h :)
  simp only [veil, he, hevents, hout]

theorem veil_onExchange {f g : Exchange → Exchange} (h : r.veil = r'.veil)
    (hf : (f r.engine.exchange).veil = (g r'.engine.exchange).veil) :
    (r.onExchange f).veil = (r'.onExchange g).veil := by
  have happ : r.engine.app.veil = r'.engine.app.veil := congrArg (·.engine.app) h
  have hchannel : r.engine.channel = r'.engine.channel := (congrArg (·.engine.channel) h :)
  refine veil_withEngine h ?_
  simp only [Engine.veil, hf, happ, hchannel]

theorem veil_finish (h : r.veil = r'.veil) (outcome : Outcome) :
    (r.finish outcome).veil = (r'.finish outcome).veil := by
  have hclose : ∀ x : Exchange, (x.onSession (·.close)).veil = x.veil.onSession (·.close) :=
    fun x => Exchange.veil_onSession (x.session.close_relabel _)
  have hx : r.engine.exchange.veil = r'.engine.exchange.veil := congrArg (·.engine.exchange) h
  have hclosed := veil_onExchange (f := (·.onSession (·.close))) (g := (·.onSession (·.close))) h
    (by rw [hclose, hclose, hx])
  exact congrArg (fun r : Run => { r with outcome? := some outcome }) hclosed

/-! ### Schedules -/

theorem inProgress_of_isOpen (h : r.isOpen = true) : r.engine.app.inProgress = true := by
  simp only [isOpen, isRunning, Bool.and_eq_true] at h
  exact h.2.1

/-- What a step makes of runs that look the same looks the same. -/
theorem veil_step (h : r.veil = r'.veil) (s : Step) : (r.step s).veil = (r'.step s).veil := by
  have hopen : r.isOpen = r'.isOpen := (congrArg isOpen h :)
  have hx : r.engine.exchange.veil = r'.engine.exchange.veil := congrArg (·.engine.exchange) h
  have hnext := congrArg Exchange.next hx
  rw [Exchange.veil_next, Exchange.veil_next, Prod.mk.injEq] at hnext
  have hpolled := veil_onExchange (f := (·.next.1)) (g := (·.next.1)) h hnext.1
  cases s with
  | poll =>
    simp only [step, ← hnext.2]
    split
    · exact hpolled
    · exact h
  | hear =>
    rw [step, step, ← hopen, ← hnext.2]
    split
    · rename_i ho
      rcases r.engine.exchange.next.2 with - | event
      · exact h
      · exact veil_take hpolled (inProgress_of_isOpen ho) (.event event)
    · exact h
  | fetch =>
    have hchannel : r.engine.channel = r'.engine.channel := congrArg (·.engine.channel) h
    rw [step, step, ← hopen, ← hchannel]
    split
    · rename_i ho
      rcases r.engine.channel with - | ⟨m, channel⟩
      · exact h
      · have hfetched : veil { r with engine := { r.engine with channel } } =
            veil { r' with engine := { r'.engine with channel } } :=
          congrArg (fun r : Run => { r with engine := { r.engine with channel } }) h
        exact veil_take hfetched (inProgress_of_isOpen ho) m
    · exact h
  | post m => exact congrArg (fun r : Run => { r with engine := r.engine.post m }) h
  | tick now =>
    exact congrArg
      (fun r : Run => { r with engine := { r.engine with app := { r.engine.app with now } } }) h
  | goOn place impulse =>
    refine veil_onExchange h ?_
    rw [Exchange.veil_goOn, Exchange.veil_goOn, hx]
  | restrict id room =>
    have hrestrict : ∀ x : Exchange,
        (x.onSession fun s => s.modifyLink id fun l =>
            { l with mailbox := l.mailbox.restrict room }).veil =
          x.veil.onSession fun s => s.modifyLink id fun l =>
            { l with mailbox := l.mailbox.restrict room } :=
      fun x => Exchange.veil_onSession (x.session.modifyLink_relabel _ id fun _ => rfl)
    refine veil_onExchange h ?_
    rw [hrestrict, hrestrict, hx]
  | far change =>
    have hnetwork := change.blind (congrArg Exchange.network hx)
    have hfar : ∀ x : Exchange, (x.onNetwork change.change).veil =
        ⟨x.veil.session, (change.change x.network).veil⟩ := fun _ => rfl
    refine veil_onExchange h ?_
    rw [hfar, hfar, hx, hnetwork]
  | finish =>
    have hout : r.outcome? = r'.outcome? := congrArg (·.outcome?) h
    have hrun : r.isRunning = r'.isRunning := (congrArg isRunning h :)
    have hphase : r.engine.app.phase = r'.engine.app.phase := (congrArg (·.engine.app.phase) h :)
    rw [step, step, ← hout, ← hrun, ← hphase]
    split
    · exact veil_finish h _
    · exact h

theorem veil_after (h : r.veil = r'.veil) (schedule : List Step) :
    (r.after schedule).veil = (r'.after schedule).veil := by
  induction schedule generalizing r r' with
  | nil => exact h
  | cons s schedule ih => exact ih (veil_step h s)

/-- The loop of the program goes the same way. -/
theorem veil_advance (h : r.veil = r'.veil) (limit : Nat) :
    (r.advance limit).veil = (r'.advance limit).veil := by
  induction limit generalizing r r' with
  | zero => exact h
  | succ limit ih =>
    have hout : r'.outcome? = r.outcome? := (congrArg outcome? h.symm :)
    have hrun : r'.isRunning = r.isRunning := (congrArg isRunning h.symm :)
    have hphase : r'.engine.app.phase = r.engine.app.phase :=
      (congrArg (·.engine.app.phase) h.symm :)
    have hnext : r.engine.veil.next = r'.engine.veil.next := congrArg (·.engine.next) h
    rw [Engine.veil_next, Engine.veil_next, Prod.mk.injEq] at hnext
    obtain ⟨hengine, hmessage⟩ := hnext
    by_cases ho : r.outcome?.isSome = true
    · simpa only [advance, hout, ho, if_true] using h
    · by_cases hstop : (!r.isRunning) = true
      · have hfinished := veil_finish h (.ofPhase r.engine.app.phase)
        simpa only [advance, hout, ho, hrun, hstop, hphase, if_true, if_false,
          Bool.false_eq_true] using hfinished
      · rcases hn : r.engine.next with ⟨e, m⟩
        rcases hn' : r'.engine.next with ⟨e', m'⟩
        rw [hn, hn'] at hengine hmessage
        cases hmessage
        cases m with
        | none =>
          have hsettle : e.settle.veil = e'.settle.veil := by
            rw [← Engine.veil_settle, ← Engine.veil_settle, hengine]
          have hready : e'.settle.ready = e.settle.ready := (congrArg Engine.ready hsettle.symm :)
          have hsettled := veil_withEngine h hsettle
          simp only [advance, ho, hstop, hn, hn', hout, hrun, hready, if_false, Bool.false_eq_true]
          simp only [hout] at hsettled
          split
          · exact hsettled
          · exact ih hsettled
        | some m =>
          have hmoved := veil_withEngine h hengine
          have hrunning : e.app.inProgress = true := by
            rw [(Engine.exchange_next hn).2]
            simp only [isRunning, Bool.not_eq_true', Bool.not_eq_false, Bool.and_eq_true] at hstop
            exact hstop.1
          have htaken := ih (veil_take hmoved hrunning m)
          simpa only [advance, ho, hstop, hn, hn', hout, hrun, if_false, Bool.false_eq_true] using
            htaken

end Run

/-! ### Requests that differ in their passwords only -/

/-- The request with other passwords, each of the kind that it was of.  One that is
absent counts as an empty one. -/
inductive Filling.Akin (filling : Filling) : Filling → Prop
  | intro {password : String} {vpnPassword : Option String} :
      Text.OneKind filling.password password →
      Text.OneKind (filling.vpnPassword.getD "") (vpnPassword.getD "") →
      Akin filling { filling with password, vpnPassword }

/-- The form of a fresh engine, filled. -/
theorem Filling.fill_ofProtocol (filling : Filling) (p : Protocol) :
    filling.fill (.ofProtocol p) =
      { protocol := filling.protocol.getD p
        remoteAddress := ⟨filling.address⟩
        username := ⟨filling.username⟩
        password := ⟨filling.password⟩
        vpnUsername := ⟨filling.vpnUsername.getD ""⟩
        vpnPassword := ⟨filling.vpnPassword.getD ""⟩ } := by
  have hselect : ((filling.protocol.map (Form.ofProtocol p).select).getD (.ofProtocol p)) =
      .ofProtocol (filling.protocol.getD p) := by
    rcases filling.protocol with - | q
    · rfl
    · cases q <;> rfl
  simp only [fill, hselect]
  rcases filling.vpnUsername with - | user <;> rcases filling.vpnPassword with - | secret <;> rfl

theorem Filling.Akin.fill {filling filling' : Filling} (h : filling.Akin filling') (p : Protocol) :
    (filling.fill (.ofProtocol p)).Akin (filling'.fill (.ofProtocol p)) := by
  cases h with
  | intro hpassword hvpn =>
    rw [Filling.fill_ofProtocol, Filling.fill_ofProtocol]
    exact .intro (Form.fault?_of_oneKind hpassword) (Form.fault?_of_oneKind hvpn)

namespace Run

variable {filling filling' : Filling}

/-- Runs of such requests look the same from the start. -/
theorem veil_start (h : filling.Akin filling') (settings : Settings) (endpoint : String)
    (n : Network) (channel : List Message) :
    (start (fresh settings endpoint n channel) filling).veil =
      (start (fresh settings endpoint n channel) filling').veil := by
  have hform := h.fill settings.defaultProtocol
  have hveil := hform.veil.symm
  rcases hform.submit with ⟨error, hf, hf'⟩ | ⟨hf, hf'⟩
  · rw [start_of_error hf, start_of_error hf']
    refine veil_finish ?_ _
    simp only [veil, Engine.veil, App.veil, App.onForm, App.start, hveil]
  · have hfilled : (filled (fresh settings endpoint n channel) filling).veil =
        (filled (fresh settings endpoint n channel) filling').veil := by
      simp only [filled, fresh, Engine.start, veil, Engine.veil, App.veil, App.onForm, App.start,
        hveil]
    have haccepts := accepts_filled settings endpoint filling n channel
    have haccepts' := accepts_filled settings endpoint filling' n channel
    rw [submission, hf] at haccepts
    rw [submission, hf'] at haccepts'
    -- Both start a session, and only the commands may differ.
    rw [start_of_ok hf, start_of_ok hf']
    refine veil_take_of_dispatch hfilled ?_ ?_ <;>
      rw [App.dispatch_of_accepts haccepts, App.dispatch_of_accepts haccepts']
    · exact congrArg (fun r : Run => { r.engine.app with
        formError := none, log := r.engine.app.log.clear, phase := .connecting }) hfilled
    · rfl

end Run

/-- What a headless run reports does not depend on the passwords.  Two requests
that differ only in their passwords, each of which is in both a word, or in both
empty or absent, or has blanks in both, on fresh engines with the same settings,
endpoint, network and waiting messages, and under the same schedule, whatever may
happen in it: both runs report the same events and end with the same outcome,
also if the program goes on from there by itself.  Nor do the requests look
different in debug texts. -/
theorem stream_independent_of_passwords {filling filling' : Filling} (h : filling.Akin filling')
    (settings : Settings) (endpoint : String) (n : Network) (channel : List Message)
    (schedule : List Step) (limit : Nat) :
    let run := fun filling =>
      ((Run.start (fresh settings endpoint n channel) filling).after schedule).advance limit
    (run filling').events = (run filling).events ∧
      (run filling').outcome? = (run filling).outcome? ∧
      Debug.filling filling' = Debug.filling filling := by
  intro run
  have hstart := Run.veil_start h settings endpoint n channel
  have hrun : (run filling).veil = (run filling').veil :=
    Run.veil_advance (Run.veil_after hstart schedule) limit
  have hevents : (run filling').events = (run filling).events := (congrArg Run.events hrun.symm :)
  have houtcome : (run filling').outcome? = (run filling).outcome? :=
    (congrArg Run.outcome? hrun.symm :)
  refine ⟨hevents, houtcome, ?_⟩
  cases h
  rfl

/-- A session that completes after one line, with passwords of other lengths. -/
theorem stream_independent_of_passwords_complete :
    ∃ (filling filling' : Filling) (schedule : List Step), filling.Akin filling' ∧
      filling'.password ≠ filling.password ∧ filling'.vpnPassword ≠ filling.vpnPassword ∧
      let run := fun filling => ((Run.start (fresh {} "x" {} []) filling).after schedule).advance 9
      (run filling').events =
          [.submitted "openconnect" "h:22" "x", .connected "x", .message "a", .complete] ∧
        (run filling').outcome? = some .complete ∧
        (run filling').events = (run filling).events ∧
        (run filling').outcome? = (run filling).outcome? := by
  have hakin : Filling.Akin
      { protocol := some .openConnect, address := "h", username := "u", password := "p"
        vpnUsername := some "v", vpnPassword := some "q" }
      { protocol := some .openConnect, address := "h", username := "u", password := "pass"
        vpnUsername := some "v", vpnPassword := some "quick" } :=
    .intro (.words (by decide) (by decide)) (.words (by decide) (by decide))
  obtain ⟨hevents, houtcome, -⟩ := stream_independent_of_passwords hakin {} "x" {} []
    [.goOn 0 .dial, .hear, .goOn 0 .transmit, .far (.deliver 0 (.message (.text "a"))),
      .goOn 0 .absorb, .hear, .far (.deliver 0 (.message (.text Payload.sentinel)))] 9
  exact ⟨_, _, _, hakin, by decide, by decide, rfl, rfl, hevents, houtcome⟩

end Headless

end Provision
