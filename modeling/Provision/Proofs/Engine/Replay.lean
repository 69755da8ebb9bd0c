/-
A subscriber that replays what it hears.

The engine tells what changed by comparing the application before a message with
the application after it.  One message moves the application in one of three
ways only (`App.Shift`): it leaves the log alone, it starts a session with an
empty log, or it adds one entry.  Each of them is heard of at most once, and is
heard of in full, so a subscriber that knew the phase and the log before knows
them after (`replay_process`); by induction over the messages it always does.

Main result: `replay_rounds`.
-/
import Provision.Engine.Feed
import Provision.Headless.Run
import Provision.Proofs.Engine.Notices
import Provision.Proofs.Engine.Run

namespace Provision

/-! ### How a message moves the phase and the log -/

namespace App

variable {a a' : App}

/-- What one message makes of the phase and the log. -/
inductive Shift (a : App) : App → Prop
  /-- The log stays, and no session starts. -/
  | keeps {a' : App} : a.Keeps a' → (a'.phase = .connecting → a.phase = .connecting) → Shift a a'
  /-- A session starts, with an empty log. -/
  | start {a' : App} : a.phase ≠ .connecting → a'.phase = .connecting → a'.log = a.log.clear →
      Shift a a'
  /-- The backend has reported something. -/
  | push (text : String) : Shift a (a.onLog (·.push a.now text))

theorem Keeps.refl (a : App) : a.Keeps a :=
  ⟨rfl, rfl, rfl⟩

theorem Keeps.trans {a'' : App} (h : a.Keeps a') (h' : a'.Keeps a'') : a.Keeps a'' :=
  ⟨h'.entries.trans h.entries, h'.nextId.trans h.nextId, h'.endpoint.trans h.endpoint⟩

theorem keeps_edit (a : App) (f : Form → Form) : a.Keeps (a.edit f).1 := by
  rcases h : a.inProgress
  · simp only [edit, h]
    exact ⟨rfl, rfl, rfl⟩
  · simp only [edit, h, if_true]
    exact .refl a

theorem keeps_cancelIfQuitting (a : App) : a.Keeps a.cancelIfQuitting.1 := by
  rcases h : a.quitting && a.inProgress
  · simp only [cancelIfQuitting, h]
    exact .refl a
  · simp only [cancelIfQuitting, h, if_true]
    exact ⟨rfl, rfl, rfl⟩

theorem keeps_requestQuit (a : App) : a.Keeps a.requestQuit := by
  rcases h : a.inProgress && a.settings.confirmQuit <;> simp only [requestQuit, h] <;>
    exact ⟨rfl, rfl, rfl⟩

/-- Only a submit touches the entries. -/
theorem keeps_perform (a : App) {c : Command} (hc : c ≠ .submit) : a.Keeps (a.perform c).1 := by
  cases c with
  | submit => exact absurd rfl hc
  | focusNext | focusPrevious | nextProtocol | previousProtocol | type | backspace
  | clearField => exact a.keeps_edit _
  | cancel =>
    rcases h : a.inProgress
    · simp only [perform, cancel, h]
      exact .refl a
    · simp only [perform, cancel, h, if_true]
      exact ⟨rfl, rfl, rfl⟩
  | requestQuit => exact a.keeps_requestQuit.trans (keeps_cancelIfQuitting _)
  | confirmQuit =>
    have hasked : a.Keeps { a with mode := .normal, quitting := true } := ⟨rfl, rfl, rfl⟩
    exact hasked.trans (keeps_cancelIfQuitting _)
  | quit =>
    have hasked : a.Keeps { a with quitting := true } := ⟨rfl, rfl, rfl⟩
    exact hasked.trans (keeps_cancelIfQuitting _)
  | scrollUp | scrollDown | scrollToTop | scrollToBottom | pageUp | pageDown
  | cancelQuit => exact ⟨rfl, rfl, rfl⟩

/-- Without a request, nothing connects that did not. -/
theorem Turn.connecting {p : App × List Action} (h : a.Turn none p)
    (hphase : p.1.phase = .connecting) : a.phase = .connecting := by
  cases h with
  | quiet hsame => exact hsame.symm.trans hphase
  | stop _ hover =>
    rw [inProgress, hphase] at hover
    cases hover

theorem shift_perform (a : App) (c : Command) : a.Shift (a.perform c).1 := by
  by_cases hc : c = .submit
  · subst hc
    rcases hrun : a.inProgress
    · rcases hs : a.form.submit with error | r
      · simp only [perform, submit, hrun, hs]
        exact .keeps ⟨rfl, rfl, rfl⟩ id
      · simp only [perform, submit, hrun, hs]
        refine .start (fun hphase => ?_) rfl rfl
        rw [inProgress, hphase] at hrun
        cases hrun
    · simp only [perform, submit, hrun, if_true]
      exact .keeps (.refl a) id
  · -- No other command starts a session.
    have hnone : a.accepts (.command c) = none := by simp [accepts, commandOf, hc]
    have hturn := a.turn_perform c
    rw [hnone] at hturn
    exact .keeps (a.keeps_perform hc) hturn.connecting

theorem shift_receive (a : App) (e : Event) : a.Shift (a.receive e).1 := by
  rcases hrun : a.inProgress
  · simp only [receive, hrun]
    exact .keeps (.refl a) id
  · rw [receive_of_running hrun]
    cases e with
    | message p =>
      by_cases hp : p.lossyText = Payload.sentinel
      · simp only [if_pos hp]
        exact .keeps ⟨rfl, rfl, rfl⟩ fun hphase => by cases hphase
      · simp only [if_neg hp]
        exact .push _
    | opened | error | closed => exact .keeps ⟨rfl, rfl, rfl⟩ fun hphase => by cases hphase

theorem shift_dispatch (a : App) (m : Message) : a.Shift (a.dispatch m).1 := by
  cases m with
  | event e => exact a.shift_receive e
  | command c => exact a.shift_perform c
  | key k =>
    rcases hk : a.keyCommand k with - | c
    · rw [dispatch_key_of_none hk]
      exact .keeps (.refl a) id
    · rw [dispatch_key_of_some hk]
      exact a.shift_perform c

end App

/-! ### Replay -/

/-- What a subscriber knows of the application. -/
structure Subscriber where
  phase : Phase
  entries : List LogEntry
  deriving DecidableEq, Repr

namespace Subscriber

/-- One that has just looked. -/
def of (a : App) : Subscriber :=
  ⟨a.phase, a.log.entries⟩

/-- Take a notice in.  One of a phase fits only if the phase before is the one that
is known; a session that starts has an empty log. -/
def heed (s : Subscriber) : Notice → Option Subscriber
  | .phaseChanged before after =>
    if s.phase = before then some ⟨after, if after = .connecting then [] else s.entries⟩
    else none
  | .logAppended entry => some { s with entries := s.entries ++ [entry] }
  | .shutdown => some s

/-- Take all of them in, in order. -/
def replay (s : Subscriber) (notices : List Notice) : Option Subscriber :=
  notices.foldlM heed s

theorem replay_append (s : Subscriber) (first rest : List Notice) :
    s.replay (first ++ rest) = (s.replay first).bind (·.replay rest) :=
  List.foldlM_append ..

end Subscriber

namespace Engine

variable {e e' : Engine} {a a' : App} {rounds : List (List Notice)}

/-- One move is heard of at most once, and is heard of in full. -/
theorem replay_notices (hn : a.log.Numbered) (h : a.Shift a') :
    (Subscriber.of a).replay (notices a a') = some (.of a') ∧
      (notices a a').length ≤ 1 ∧ a'.log.Numbered := by
  cases h with
  | keeps hkeeps hphase =>
    rw [notices_of_keeps hkeeps]
    refine ⟨?_, ?_, hn.congr hkeeps.entries hkeeps.nextId⟩
    · by_cases hsame : a.phase = a'.phase
      · rw [if_pos hsame, Subscriber.of, hsame, ← hkeeps.entries]
        rfl
      · -- Connecting is not a phase that is new, so the entries stay.
        have hother : a'.phase ≠ .connecting := fun hc => hsame ((hphase hc).trans hc.symm)
        simp [if_neg hsame, Subscriber.replay, Subscriber.heed, Subscriber.of, hother,
          hkeeps.entries]
    · split <;> simp
  | start hbefore hafter hlog =>
    have hheard : notices a a' = [.phaseChanged a.phase .connecting] := by
      have hnone : a'.log.entries = [] := by rw [hlog]; rfl
      simp [notices, hafter, hbefore, hnone]
    rw [hheard]
    refine ⟨?_, Nat.le_refl 1, hlog ▸ a.log.numbered_clear⟩
    simp [Subscriber.replay, Subscriber.heed, Subscriber.of, hafter, hlog, Log.clear]
  | push text =>
    rw [notices_push hn]
    exact ⟨rfl, Nat.le_refl 1, hn.push _ _⟩

theorem replay_process (hn : e.app.log.Numbered) (m : Message) :
    (Subscriber.of e.app).replay (e.process m).2 = some (.of (e.process m).1.app) ∧
      (e.process m).2.length ≤ 1 ∧ (e.process m).1.app.log.Numbered :=
  replay_notices hn (e.app.shift_dispatch m)

/-! ### Many messages -/

/-- The engine processes messages; each round is what is heard of one.  In
between anything may change but the phase and the entries, and numbers may be
given out elsewhere. -/
inductive Rounds : Engine → List (List Notice) → Engine → Prop
  | done {e : Engine} : Rounds e [] e
  | process {e e' : Engine} {rounds : List (List Notice)} (m : Message) :
      Rounds (e.process m).1 rounds e' → Rounds e ((e.process m).2 :: rounds) e'
  | between {e e₁ e' : Engine} {rounds : List (List Notice)} : e₁.app.phase = e.app.phase →
      e₁.app.log.entries = e.app.log.entries → e.app.log.nextId ≤ e₁.app.log.nextId →
      Rounds e₁ rounds e' → Rounds e rounds e'

theorem Rounds.replay (h : Rounds e rounds e') (hn : e.app.log.Numbered) :
    (Subscriber.of e.app).replay rounds.flatten = some (.of e'.app) ∧
      (∀ round ∈ rounds, round.length ≤ 1) ∧ e'.app.log.Numbered := by
  -- From the first message on: the rest of the run starts with a numbered log again.
  induction h with
  | done => exact ⟨rfl, by simp, hn⟩
  | process m _ ih =>
    obtain ⟨hreplay, hone, hafter⟩ := replay_process hn m
    obtain ⟨hrest, hones, hend⟩ := ih hafter
    refine ⟨?_, List.forall_mem_cons.mpr ⟨hone, hones⟩, hend⟩
    rw [List.flatten_cons, Subscriber.replay_append, hreplay]
    exact hrest
  | @between e e₁ _ _ hphase hentries hnext _ ih =>
    have hsame : Subscriber.of e₁.app = .of e.app := by
      rw [Subscriber.of, hphase, hentries, Subscriber.of]
    rw [← hsame]
    exact ih (hn.mono hentries hnext)

end Engine

/-! ### A headless run that reads through the channel -/

namespace Headless.Run

variable {r : Run}

/-- Process one message, read all that the channel then holds, and report it. -/
def takeVia (r : Run) (f : Feed) (m : Message) : Run × Feed :=
  let (engine, notices) := r.engine.process m
  let f := f.sendAll notices
  ({ r with engine, events := r.events ++ f.waiting.flatMap (report engine.app) },
    { f with waiting := [] })

/-- Go on as `advance` does, reading through the channel. -/
def advanceVia (limit : Nat) (r : Run) (f : Feed) : Run × Feed :=
  match limit with
  | 0 => (r, f)
  | limit + 1 =>
    if r.outcome?.isSome then (r, f)
    else if !r.isRunning then
      (r.finish (.ofPhase r.engine.app.phase), f.sendAll r.engine.shutdown.2)
    else
      match r.engine.next with
      | (engine, some m) =>
        let (r, f) := takeVia { r with engine } f m
        advanceVia limit r f
      | (engine, none) =>
        let engine := engine.settle
        if engine.ready = 0 then ({ r with engine }, f) else advanceVia limit { r with engine } f

/-- What one message is heard of fits into the channel. -/
theorem takeVia_eq_take (hn : r.engine.app.log.Numbered) (m : Message) :
    r.takeVia {} m = (r.take m, {}) := by
  have hone := (Engine.replay_process hn m).2.1
  rcases hp : r.engine.process m with ⟨engine, notices⟩
  rw [hp] at hone
  have hfits : notices.length ≤ Feed.capacity := Nat.le_trans hone (by decide)
  have hsent : Feed.sendAll {} notices = { waiting := notices } :=
    Feed.sendAll_of_fits (by rwa [List.length_nil, Nat.zero_add])
  simp only [takeVia, take, hp, hsent]

/-- So a run through the channel goes as one without, and nothing is lost. -/
theorem advanceVia_eq_advance (hn : r.engine.app.log.Numbered) (limit : Nat) :
    (r.advanceVia limit {}).1 = r.advance limit ∧ (r.advanceVia limit {}).2.skipped = 0 := by
  induction limit generalizing r with
  | zero => exact ⟨rfl, rfl⟩
  | succ limit ih =>
    by_cases hover : r.outcome?.isSome = true
    · simp only [advanceVia, advance, hover, if_true, and_self]
    · by_cases hrun : (!r.isRunning) = true
      · -- The news of the shutdown is sent as well, and stays unread.
        simp only [advanceVia, advance, hover, hrun, if_true, Bool.false_eq_true, if_false,
          true_and]
        rfl
      · rcases hnext : r.engine.next with ⟨e, - | m⟩
        · have happ : e.settle.app = r.engine.app := (Engine.exchange_next hnext).2
          by_cases hready : e.settle.ready = 0
          · simp only [advanceVia, advance, hover, hrun, hnext, hready, if_true, Bool.false_eq_true,
              if_false, and_self]
          · simp only [advanceVia, advance, hover, hrun, hnext, hready, Bool.false_eq_true,
              if_false]
            exact ih (r := { r with engine := e.settle }) (by rw [happ]; exact hn)
        · have hn' : e.app.log.Numbered := by
            rw [(Engine.exchange_next hnext).2]
            exact hn
          have htake := takeVia_eq_take (r := { r with engine := e }) hn' m
          simp only [advanceVia, advance, hover, hrun, hnext, htake, Bool.false_eq_true, if_false]
          exact ih (Engine.replay_process hn' m).2.2

end Headless.Run

/-- What subscribers hear replays to the state of the engine.  Let the numbers
of an engine's log ascend and be below the next one, and let it process any
messages.  A subscriber that looked at the phase and the log before, and then
takes in what it hears in order, holds the engine's phase and log after every
message; no message is heard of twice, so a subscriber that reads after every
message loses no notice to the bounded channel; nor does a headless run, from
wherever the engine has come to, which goes as if nothing were between it and the
engine; and the numbers still ascend. -/
theorem Engine.replay_rounds {e e' : Engine} {rounds : List (List Notice)}
    (hn : e.app.log.Numbered) (h : Rounds e rounds e') :
    (Subscriber.of e.app).replay rounds.flatten = some (.of e'.app) ∧
      (∀ round ∈ rounds, round.length ≤ 1) ∧
      Feed.attend {} rounds = ({}, rounds.flatten) ∧
      (∀ r : Headless.Run, r.engine = e' →
        (∀ m, r.takeVia {} m = (r.take m, {})) ∧
        ∀ limit, (r.advanceVia limit {}).1 = r.advance limit ∧
          (r.advanceVia limit {}).2.skipped = 0) ∧
      e'.app.log.Numbered := by
  obtain ⟨hreplay, hone, hend⟩ := h.replay hn
  refine ⟨hreplay, hone, ?_, ?_, hend⟩
  · exact Feed.attend_of_fits fun round hround => Nat.le_trans (hone round hround) (by decide)
  · rintro r rfl
    exact ⟨Headless.Run.takeVia_eq_take hend, Headless.Run.advanceVia_eq_advance hend⟩

/-- The entry of an earlier session goes when the next one starts. -/
theorem Engine.replay_rounds_resubmitted :
    ∃ e e' rounds, Rounds e rounds e' ∧ e.app.log.entries = [⟨3, {}, .info, "old"⟩] ∧
      rounds.flatten =
        [.phaseChanged .complete .connecting, .phaseChanged .connecting .installing,
          .logAppended ⟨5, {}, .info, "new"⟩] ∧
      (Subscriber.of e.app).replay rounds.flatten =
        some ⟨.installing, [⟨5, {}, .info, "new"⟩]⟩ ∧
      Feed.attend {} rounds = ({}, rounds.flatten) := by
  let e : Engine :=
    { app :=
        { form := { remoteAddress := ⟨"h"⟩, username := ⟨"u"⟩, password := ⟨"p"⟩ }
          log := { entries := [⟨3, {}, .info, "old"⟩], nextId := 5 }
          phase := .complete } }
  have hn : e.app.log.Numbered := ⟨List.pairwise_singleton .., by decide⟩
  have h := Rounds.process (e := e) (.command .submit)
    (.process (.event .opened) (.process (.event (.message (.text "new"))) .done))
  obtain ⟨hreplay, -, hread, -⟩ := replay_rounds hn h
  exact ⟨e, _, _, h, rfl, by decide, hreplay.trans (by decide), hread⟩

end Provision
