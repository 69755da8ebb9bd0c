/-
The progress of a session: what its events make of the phase and the log.

Progress is the phase together with the lines of the log.  The application
heeds an event only while a session runs, so the first event that ends the
session decides, and later ones change nothing (`heed_of_over`).  What a peer
sends is read in the same way: `scan` goes through its items from left to
right up to the first one that decides, and heeding everything that is
reported of a peer comes to the same (`heed_transcript`).

Of the commands, only a few bear on a session; the others leave its progress
alone (`progress_dispatch`).
-/
import Provision.Proofs.App.Turn
import Provision.Proofs.Link.Transcript

namespace Provision

namespace Phase

@[simp] theorem inProgress_idle : inProgress idle = false := rfl

@[simp] theorem inProgress_connecting : inProgress connecting = true := rfl

@[simp] theorem inProgress_installing : inProgress installing = true := rfl

@[simp] theorem inProgress_complete : inProgress complete = false := rfl

@[simp] theorem inProgress_failed (reason : String) : inProgress (failed reason) = false := rfl

@[simp] theorem inProgress_cancelled : inProgress cancelled = false := rfl

end Phase

/-- What a session has come to. -/
structure Progress where
  phase : Phase
  /-- The lines of the log, the oldest first. -/
  lines : List String
  deriving DecidableEq, Repr

/-- The progress that the user sees. -/
def App.progress (a : App) : Progress :=
  ⟨a.phase, a.log.messages⟩

namespace Progress

variable {g : Progress}

/-- A session that was submitted just now. -/
def fresh : Progress :=
  ⟨.connecting, []⟩

/-- What an event makes of a session.  A session that is over heeds nothing. -/
def heed (g : Progress) (e : Event) : Progress :=
  if g.phase.inProgress then
    match e with
    | .opened => { g with phase := .installing }
    | .message p =>
      if p.lossyText = Payload.sentinel then { g with phase := .complete }
      else { g with lines := g.lines ++ [p.lossyText] }
    | .error reason => { g with phase := .failed reason }
    | .closed info => { g with phase := .failed info.display }
  else g

/-- What the items of a peer come to, read from left to right.  After the last
one the stream may have stopped. -/
def scan (left : Bool) : List Inbound → Progress
  | [] => ⟨if left then .failed "connection lost" else .installing, []⟩
  | .message p :: items =>
    if p.lossyText = Payload.sentinel then ⟨.complete, []⟩
    else { scan left items with lines := p.lossyText :: (scan left items).lines }
  | .close info :: _ => ⟨.failed info.display, []⟩
  | .failure error :: _ => ⟨.failed error.message, []⟩

/-- After an item that decides, nothing matters. -/
theorem scan_append {items : List Inbound} (h : (scan false items).phase ≠ .installing)
    (left : Bool) (more : List Inbound) : scan left (items ++ more) = scan false items := by
  induction items with
  | nil => exact absurd rfl h
  | cons item items ih =>
    cases item with
    | message p =>
      by_cases hp : p.lossyText = Payload.sentinel
      · simp [scan, hp]
      · have hrest : (scan false items).phase ≠ .installing := by simpa [scan, hp] using h
        simp [scan, hp, ih hrest]
    | close | failure => rfl

/-! ### A session that is over -/

theorem heed_of_over (h : g.phase.inProgress = false) (e : Event) : g.heed e = g := by
  simp [heed, h]

theorem foldl_heed_of_over (h : g.phase.inProgress = false) (es : List Event) :
    es.foldl heed g = g := by
  induction es with
  | nil => rfl
  | cons e es ih => rw [List.foldl_cons, heed_of_over h, ih]

/-- Once a beginning of the events has ended the session, the others do not
matter. -/
theorem foldl_heed_of_prefix {es whole : List Event} (h : es <+: whole)
    (hover : (es.foldl heed g).phase.inProgress = false) :
    whole.foldl heed g = es.foldl heed g := by
  obtain ⟨more, rfl⟩ := h
  rw [List.foldl_append, foldl_heed_of_over hover]

/-- The end of a connection ends the session. -/
theorem over_of_closed (es : List Event) (info : CloseInfo) :
    ((es ++ [Event.closed info]).foldl heed g).phase.inProgress = false := by
  rw [List.foldl_append, List.foldl_cons, List.foldl_nil]
  rcases h : (es.foldl heed g).phase.inProgress
  · rw [heed_of_over h, h]
  · simp [heed, h]

/-- So a session is over after a whole conversation. -/
theorem over_of_conversation {es : List Event} (h : Conversation es) :
    (es.foldl heed g).phase.inProgress = false := by
  cases h with
  | refused reason info => exact over_of_closed [.error reason] info
  | ended ps info => exact over_of_closed (.opened :: ps.map Event.message) info
  | broken ps reason info =>
    have := over_of_closed (g := g) (.opened :: ps.map Event.message ++ [.error reason]) info
    rwa [List.append_assoc] at this

/-! ### Everything that is reported of a peer -/

/-- A failure decides by its own words, whatever end it causes. -/
theorem foldl_heed_failure (h : g.phase.inProgress = true) (error : Error) :
    ((Report.failure error).map Report.event).foldl heed g =
      { g with phase := .failed error.message } := by
  simp [Report.failure, Report.event, heed, h]

theorem foldl_heed_ofInbound (left : Bool) (items : List Inbound) (lines : List String) :
    ((Report.ofInbound left items).map Report.event).foldl heed ⟨.installing, lines⟩ =
      ⟨(scan left items).phase, lines ++ (scan left items).lines⟩ := by
  induction items generalizing lines with
  | nil => cases left <;> simp [Report.ofInbound, scan, heed, Report.event]; decide
  | cons item items ih =>
    cases item with
    | message p =>
      have hheed : heed ⟨.installing, lines⟩ (.message p) =
          if p.lossyText = Payload.sentinel then ⟨.complete, lines⟩
          else ⟨.installing, lines ++ [p.lossyText]⟩ := rfl
      rw [Report.ofInbound, List.map_cons, List.foldl_cons, Report.event, hheed, scan]
      by_cases hp : p.lossyText = Payload.sentinel
      · rw [if_pos hp, if_pos hp, foldl_heed_of_over rfl, List.append_nil]
      · rw [if_neg hp, if_neg hp, ih, List.append_assoc, List.singleton_append]
    | close info => simp [Report.ofInbound, scan, heed, Report.event]
    | failure error => simpa [Report.ofInbound, scan] using foldl_heed_failure rfl error

/-- To heed what is reported of a peer is to scan what the peer sends. -/
theorem heed_transcript (p : Peer) :
    (p.transcript.map Report.event).foldl heed fresh = scan p.left p.inbound := by
  have h := foldl_heed_ofInbound p.left p.inbound []
  rwa [List.nil_append] at h

end Progress

namespace App

variable {a : App} {m : Message}

/-! ### What the application makes of events and commands -/

theorem receive_of_running (h : a.inProgress = true) (e : Event) :
    a.receive e =
      match e with
      | .opened => ({ a with phase := .installing }, none)
      | .message p =>
        if p.lossyText = Payload.sentinel then ({ a with phase := .complete }, some .close)
        else (a.onLog (·.push a.now p.lossyText), none)
      | .error reason => ({ a with phase := .failed reason }, some .close)
      | .closed info => ({ a with phase := .failed info.display }, some .close) := by
  cases e with
  | message p =>
    by_cases hp : p.lossyText = Payload.sentinel <;>
      simp [receive, h, quietly, stop, Payload.classify, hp]
  | opened | error | closed => simp [receive, h, quietly, stop]

theorem progress_receive (a : App) (e : Event) :
    (a.receive e).1.progress = a.progress.heed e := by
  rcases h : a.inProgress
  · rw [Progress.heed_of_over (g := a.progress) h]
    simp [receive, h, quietly]
  · have hphase : a.phase.inProgress = true := h
    rw [receive_of_running h]
    cases e with
    | message p =>
      by_cases hp : p.lossyText = Payload.sentinel <;>
        simp [progress, Progress.heed, hphase, hp, onLog, Log.push, Log.messages]
    | opened | error | closed => simp [progress, Progress.heed, hphase]

/-- An event asks for the connection to be closed exactly if it ends the
session. -/
theorem action_receive (h : a.inProgress = true) (e : Event) :
    (a.receive e).2 = if (a.receive e).1.inProgress then none else some .close := by
  have hphase : a.phase.inProgress = true := h
  rw [receive_of_running h]
  cases e with
  | message p =>
    by_cases hp : p.lossyText = Payload.sentinel <;> simp [hp, onLog, inProgress, hphase]
  | opened | error | closed => simp [inProgress]

end App

/-- The commands that bear on a session: those that start one, give it up, or
quit. -/
def Command.bearsOnSession : Command → Bool
  | .submit | .cancel | .requestQuit | .confirmQuit | .quit => true
  | _ => false

namespace App

variable {a : App} {m : Message}

/-- To accept a request is to start a session with it, and with an empty log. -/
theorem dispatch_of_accepts {r : Request} (h : a.accepts m = some r) :
    a.dispatch m =
      ({ a with formError := none, log := a.log.clear, phase := .connecting },
        [.start a.endpoint (Request.Command.encode r)]) := by
  by_cases hsubmit : a.commandOf m = some .submit ∧ a.inProgress = false
  · rw [accepts, if_pos hsubmit] at h
    obtain ⟨hcommand, hidle⟩ := hsubmit
    have hperform : a.perform .submit =
        ({ a with formError := none, log := a.log.clear, phase := .connecting },
          some (.start a.endpoint (Request.Command.encode r))) := by
      rcases hs : a.form.submit with error | r'
      · rw [hs] at h
        cases h
      · rw [hs] at h
        cases h
        simp [perform, submit, hidle, hs]
    rw [dispatch_of_commandOf hcommand, hperform]
    rfl
  · rw [accepts, if_neg hsubmit] at h
    cases h

/-- A message that does not bear on a session. -/
def Spares (a : App) (m : Message) : Prop :=
  ∀ c, a.commandOf m = some c → c.bearsOnSession = false

theorem accepts_of_spares (h : a.Spares m) : a.accepts m = none := by
  rw [accepts, if_neg]
  rintro ⟨hcommand, -⟩
  cases h _ hcommand

theorem perform_of_not_bearsOnSession (a : App) {c : Command} (h : c.bearsOnSession = false) :
    (a.perform c).1.progress = a.progress ∧ (a.perform c).2 = none := by
  have hedit : ∀ f, (a.edit f).1.progress = a.progress ∧ (a.edit f).2 = none := by
    intro f
    rcases hrun : a.inProgress <;> simp [edit, hrun, quietly, progress, onForm]
  cases c with
  | submit | cancel | requestQuit | confirmQuit | quit => cases h
  | focusNext | focusPrevious | nextProtocol | previousProtocol | type | backspace
  | clearField => exact hedit _
  | scrollUp | scrollDown | scrollToTop | scrollToBottom | pageUp | pageDown
  | cancelQuit => exact ⟨rfl, rfl⟩

/-- A message that is no event and does not bear on a session leaves it alone. -/
theorem progress_dispatch (hm : ∀ event, m ≠ .event event) (h : a.Spares m) :
    (a.dispatch m).1.progress = a.progress ∧ (a.dispatch m).2 = [] := by
  rcases hc : a.commandOf m with - | c
  · cases m with
    | event e => exact absurd rfl (hm e)
    | command c => cases hc
    | key k =>
      rw [dispatch_key_of_none hc]
      exact ⟨rfl, rfl⟩
  · obtain ⟨hprogress, haction⟩ := a.perform_of_not_bearsOnSession (h c hc)
    rw [dispatch_of_commandOf hc, haction]
    exact ⟨hprogress, rfl⟩

end App

end Provision
