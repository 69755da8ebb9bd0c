/-
The first item that decides is the outcome of a session.

From an accepted request on, a session takes its course as long as nobody
submits, gives up or quits (`Course`); other messages may come at any time.
Its connection is answered once (`Exchange.Answered`).  All along, the phase and
the log are what the events heard so far come to (`Following`), and these are
the first of what the task reports.  So in the end they are what the peer's
items come to when they are read from left to right, whatever the order in
which tasks, messages and the far side took their turns.

Main result: `outcome_decided`.
-/
import Provision.Proofs.Engine.Following

namespace Provision

open Progress (scan)

/-! ### The answer to an attempt -/

namespace Exchange

variable {e x : Exchange} {t u : Trace} {id : ConnectionId} {answer : Answer}

/-- The attempt of a link to connect is answered: when it is made, or once the
gate is open that holds it back. -/
inductive Answered (e : Exchange) (id : ConnectionId) (answer : Answer) : Trace → Exchange → Prop
  | dialed {earlier later : List Link} {l : Link} {n : Network} :
      e.session.links = earlier ++ l :: later → l.id = id → l.stage = .dialing →
      e.network.attempt l.target = (.answer answer, n) →
      Answered e id answer (e.moveObserved id (l.hear n answer))
        (e.afterMove earlier later id (l.hear n answer))
  | held {earlier later : List Link} {l : Link} {gate : Nat} :
      e.session.links = earlier ++ l :: later → l.id = id → l.stage = .waiting gate →
      e.network.answer? gate = some answer →
      Answered e id answer (e.moveObserved id (l.hear e.network answer))
        (e.afterMove earlier later id (l.hear e.network answer))

/-- No write of a link has failed: everything that its task took out of the
mailbox has reached the peer. -/
def Unfailing (e : Exchange) (id : ConnectionId) (peer : Nat) : Prop :=
  ∀ l ∈ e.session.links, l.id = id → l.unwritten e.network [peer] = []

/-- An answer is a move of its link, which had nothing to report before. -/
theorem Answered.move (h : e.Answered id answer u x) :
    ∃ earlier later l n, e.session.links = earlier ++ l :: later ∧ l.id = id ∧
      (∀ reports, l.Said reports → reports = []) ∧ n.peers = e.network.peers ∧
      l.Move e.network (l.hear n answer) ∧ u = e.moveObserved id (l.hear n answer) ∧
      x = e.afterMove earlier later id (l.hear n answer) := by
  cases h with
  | @dialed earlier later l n hlinks hid hs ha =>
    have hpeers := e.network.peers_attempt l.target
    have hm := Link.Move.dial (n := e.network) hs
    rw [ha] at hpeers
    rw [Link.dial, ha] at hm
    refine ⟨earlier, later, l, n, hlinks, hid, fun reports hsaid => ?_, hpeers, hm, rfl, rfl⟩
    rwa [Link.Said, hs] at hsaid
  | @held earlier later l gate hlinks hid hs ha =>
    refine ⟨earlier, later, l, e.network, hlinks, hid, fun reports hsaid => ?_, rfl,
      .answered hs ha, rfl, rfl⟩
    rwa [Link.Said, hs] at hsaid

theorem Answered.background (h : e.Answered id answer u x) :
    e.Background u x ∧ e.network.Orderly x.network := by
  obtain ⟨earlier, later, l, n, hlinks, rfl, -, -, hm, rfl, rfl⟩ := h.move
  exact ⟨.move hlinks hm, hm.orderly⟩

/-- An accepted attempt gives the link its peer, the next one. -/
theorem Answered.joined (h : e.Answered id .accept u x) :
    (id, e.network.peers.length) ∈ Trace.joined u := by
  obtain ⟨earlier, later, l, n, hlinks, rfl, -, hpeers, hm, rfl, rfl⟩ := h.move
  have hjoined : e.network.joinedSince (l.hear n .accept).2.1 = [e.network.peers.length] := by
    simp [Network.joinedSince, Link.hear, Link.goLive, Network.connect, hpeers, List.range_succ]
  rw [joined_moveObserved, hjoined]
  exact List.mem_singleton.mpr rfl

/-- A refused attempt is all that the link has to report. -/
theorem Answered.refused {reason target : String} (h : e.Answered id (.refuse reason) u x)
    (hc : e.session.Coherent) (hs : e.Spoken t)
    (ht : e.Holds (fun l _ _ _ => l.target = target) id t) :
    x.Holds (Link.Refused (.connection target reason)) id (t ++ u) := by
  obtain ⟨earlier, later, l, n, hlinks, rfl, hsilent, hpeers, hm, rfl, rfl⟩ := h.move
  have hl : l ∈ e.session.links := by rw [hlinks]; simp
  intro l' hl' hid
  have hself : l' = (l.hear n (.refuse reason)).1 := by
    simp only [afterMove, List.mem_append, List.mem_cons] at hl'
    rcases hl' with hl' | rfl | hl'
    · exact absurd hid (hc.id_ne hlinks (.inl hl'))
    · rfl
    · exact absurd hid (hc.id_ne hlinks (.inr hl'))
  rw [hself, Trace.reportsOf_append, hsilent _ (hs.said l hl), reportsOf_moveObserved, if_pos rfl,
    ← ht l hl rfl]
  exact ⟨rfl, rfl⟩

end Exchange

namespace Engine

variable {e₀ e e' : Engine} {t₀ t u : Trace} {k : ConnectionId} {m : Message}

/-! ### The course of a session -/

/-- What happens to an engine while nobody submits, gives up or quits, and
streams that have stopped stay so. -/
inductive Course (e₀ : Engine) : Engine → Trace → Prop
  | refl : Course e₀ e₀ []
  | pause {e e' : Engine} {t u : Trace} :
      Course e₀ e t → e.Pause u e' → e.exchange.network.Orderly e'.exchange.network →
      Course e₀ e' (t ++ u)
  /-- A message is processed that did not come through the channel. -/
  | process {e : Engine} {t : Trace} {m : Message} :
      Course e₀ e t → (∀ event, m ≠ .event event) → e.app.Spares m →
      Course e₀ (e.process m).1 (t ++ e.observed m)
  | take {e e' : Engine} {t u : Trace} {m : Message} :
      Course e₀ e t → e.Taking u m e' → e'.app.Spares m →
      Course e₀ (e'.process m).1 (t ++ u ++ e'.observed m)

/-- The phase and the log are what the events of the connection `k` come to. -/
structure Following (e : Engine) (t : Trace) (k : ConnectionId) : Prop extends Attached e t k where
  progress : e.app.progress = (t.eventsOf k).foldl Progress.heed .fresh

theorem Following.pause (h : e.Following t k) (hp : e.Pause u e') : e'.Following (t ++ u) k :=
  ⟨h.toAttached.pause hp, by rw [hp.progress, hp.eventsOf, h.progress]⟩

theorem Following.process (h : e.Following t k) (hm : ∀ event, m ≠ .event event)
    (hs : e.app.Spares m) : (e.process m).1.Following (t ++ e.observed m) k := by
  obtain ⟨hprogress, -⟩ := App.progress_dispatch hm hs
  refine ⟨h.toAttached.process hm (App.accepts_of_spares hs), ?_⟩
  rw [Trace.eventsOf_append, eventsOf_observed, List.append_nil, ← h.progress]
  exact hprogress

theorem Following.take (h : e.Following t k) (ht : e.Taking u m e') (hs : e'.app.Spares m) :
    (e'.process m).1.Following (t ++ u ++ e'.observed m) k := by
  by_cases hm : ∃ event, m = .event event
  · obtain ⟨event, rfl⟩ := hm
    obtain ⟨-, hattached, hevents, happ⟩ := h.toAttached.event ht
    refine ⟨hattached, ?_⟩
    rw [happ, App.progress_receive, hevents, List.foldl_append, h.progress]
    rfl
  · have hm : ∀ event, m ≠ .event event := fun event heq => hm ⟨event, heq⟩
    obtain ⟨hattached, happ, hevents⟩ := h.toAttached.taken ht hm
    exact Following.process ⟨hattached, by rw [happ, hevents, h.progress]⟩ hm hs

theorem Course.following (hc : Course e₀ e t) (h : e₀.Following t₀ k) :
    e.Following (t₀ ++ t) k := by
  induction hc with
  | refl => rwa [List.append_nil]
  | pause _ hp _ ih =>
    rw [← List.append_assoc]
    exact ih.pause hp
  | process _ hm hs ih =>
    rw [← List.append_assoc]
    exact ih.process hm hs
  | take _ ht hs ih =>
    rw [← List.append_assoc, ← List.append_assoc]
    exact ih.take ht hs

/-- What lasts of the link lasts through the course of its session. -/
theorem Course.holds {Q : Link → Network → List Nat → List Report → Prop}
    (hc : Course e₀ e t) (hQ : Link.Lasting Q) (h : e₀.Following t₀ k)
    (h₀ : e₀.exchange.Holds Q k t₀) : e.exchange.Holds Q k (t₀ ++ t) := by
  induction hc with
  | refl => rwa [List.append_nil]
  | pause hc hp ho ih =>
    rw [← List.append_assoc]
    exact hp.holds hQ (hc.following h).toAttached ih ho
  | process hc hm hs ih =>
    rw [← List.append_assoc, exchange_process]
    have hat := (hc.following h).toAttached
    exact Exchange.lasting_callAll hQ ih hat.run (Nat.le_of_eq hat.lastId.symm) _
  | take hc ht hs ih =>
    have hat := (hc.following h).toAttached
    obtain ⟨hrun, hlast, htaken⟩ := ht.holds hQ hat ih
    rw [← List.append_assoc, ← List.append_assoc, exchange_process]
    exact Exchange.lasting_callAll hQ htaken hrun hlast _

/-- Once there is no event to hear, the progress is what everything comes to
that there is to report. -/
theorem Following.progress_eq (h : e.Following t k) (hnone : e.exchange.session.next.2 = none)
    {whole : List Event} (hbegin : (t.reportsOf k).map Report.event <+: whole)
    (hall : e.exchange.session.active = some k →
      t.eventsOf k = (t.reportsOf k).map Report.event → (t.reportsOf k).map Report.event = whole) :
    e.app.progress = whole.foldl Progress.heed .fresh := by
  obtain ⟨-, hheard⟩ := h.run.heard
  rcases hover : e.app.inProgress
  · -- The events so far have decided.
    have hover : (Progress.phase (List.foldl Progress.heed .fresh (t.eventsOf k))).inProgress =
        false := by
      rw [← h.progress]
      exact hover
    rw [Progress.foldl_heed_of_prefix ((hheard.surfaced k).trans hbegin) hover]
    exact h.progress
  · have hactive := h.active
    rw [if_pos hover] at hactive
    have hevents := hheard.eventsOf_eq hactive hnone
    rw [h.progress, ← hall hactive hevents, hevents]

/-- With a peer, the progress is what its items come to. -/
theorem Following.progress_scan (h : e.Following t k) (hk : 0 < k)
    (hholds : e.exchange.Holds Link.Faithful k t) (hq : e.exchange.Quiet)
    (hnone : e.exchange.session.next.2 = none) {peer : Nat} (hpeer : t.joinedBy k = [peer])
    (hw : e.exchange.Unfailing k peer) {p : Peer}
    (hp : e.exchange.network.peers[peer]? = some p) :
    e.app.progress = scan p.left p.inbound := by
  obtain ⟨l, hl, hid⟩ := h.toAttached.exists_link hk
  have hserved := h.run.tracked.served l hl
  have hfaithful := hholds l hl hid
  rw [hid, hpeer] at hserved
  rw [hpeer] at hfaithful
  rw [← Progress.heed_transcript]
  refine h.progress_eq hnone ((hfaithful.reports_prefix hserved (hw l hl hid) hp).map _)
    fun hactive hevents => ?_
  rcases Link.still_cases (hq l hl) with hs | ⟨gate, hs, -⟩ | ⟨i, hs, -, hr, hleft, -⟩
  · -- A task that has ended by itself has ended the session.
    have hwhole := h.run.concluded.concluded l hl (hid ▸ hactive) hs
    rw [hid, ← hevents] at hwhole
    have hover : e.app.inProgress = false := by
      have := Progress.over_of_conversation (g := .fresh) hwhole
      rwa [← h.progress] at this
    rw [h.active, if_neg (by simp [hover])] at hactive
    cases hactive
  · have hnopeer := hserved.2
    rw [hs] at hnopeer
    cases hnopeer.1
  · have hown := hserved.2
    rw [hs] at hown
    cases hown.1
    rw [hfaithful.reports_eq hs hr hleft hp]

/-- Without one, it is the refusal. -/
theorem Following.progress_refused (h : e.Following t k) (hk : 0 < k) {error : Error}
    (hholds : e.exchange.Holds (Link.Refused error) k t) (hq : e.exchange.Quiet)
    (hnone : e.exchange.session.next.2 = none) :
    e.app.progress = ⟨.failed error.message, []⟩ := by
  obtain ⟨l, hl, hid⟩ := h.toAttached.exists_link hk
  obtain ⟨hover, hall⟩ := hholds l hl hid
  have hfailed := Progress.foldl_heed_failure (g := .fresh) rfl error
  rw [show (⟨.failed error.message, []⟩ : Progress) =
    { Progress.fresh with phase := .failed error.message } from rfl, ← hfailed]
  refine h.progress_eq hnone ?_ fun _ _ => ?_
  · rw [← hall, List.map_append]
    exact List.prefix_append ..
  · -- Nothing is left to say once the task has ended.
    have hunsaid : l.unsaid = [] := by
      rcases Link.still_cases (hq l hl) with hs | ⟨_, hs, -⟩ | ⟨_, hs, -⟩ <;> rw [Link.unsaid, hs]
    rw [← hall, hunsaid, List.append_nil]

/-- The first decisive item is the outcome.  Take any engine, a message that
starts a session, any course of that session, and any answer to its attempt to
connect.  Once no task can move and no message is ready, and no write has
failed, the phase and the lines of the log are what the peer's items come to
when they are read from left to right, and what follows an item that decides
does not matter.  If the attempt was refused, the session has failed with the
words of that error, and nothing was logged. -/
theorem outcome_decided {e₀ e₁ e : Engine} {t₀ t₁ u t₂ : Trace} {x : Exchange} {m : Message}
    {r : Request} {answer : Answer} (hrun : e₀.exchange.Run t₀)
    (hchannel : ∀ event, Message.event event ∉ e₀.channel) (hm : e₀.app.accepts m = some r)
    (h₁ : (e₀.process m).1.Course e₁ t₁)
    (ha : e₁.exchange.Answered (e₀.exchange.session.lastId + 1) answer u x)
    (h₂ : Course { e₁ with exchange := x } e t₂) (hq : e.exchange.Quiet)
    (hnone : e.next.2 = none) :
    (answer = .accept →
      ∃ p, e.exchange.network.peers[e₁.exchange.network.peers.length]? = some p ∧
        (e.exchange.Unfailing (e₀.exchange.session.lastId + 1) e₁.exchange.network.peers.length →
          e.app.progress = scan p.left p.inbound ∧
          ∀ items more, p.inbound = items ++ more → (scan false items).phase ≠ .installing →
            e.app.progress = scan false items)) ∧
    ∀ reason, answer = .refuse reason →
      e.app.progress = ⟨.failed (Error.connection e₀.app.endpoint reason).message, []⟩ := by
  obtain ⟨hattached, hfresh, hevents, hdialing⟩ := attached_of_accepts hrun hchannel hm
  have hstart : (e₀.process m).1.Following (t₀ ++ e₀.observed m) _ :=
    ⟨hattached, by rw [hfresh, hevents]; rfl⟩
  have hbefore := h₁.following hstart
  obtain ⟨hb, ho⟩ := ha.background
  have hanswered := hbefore.pause (.background hb)
  have hafter := h₂.following hanswered
  have hsilent := (next_eq_none (Prod.ext rfl hnone : e.next = (e.next.1, none))).1
  have hk : 0 < e₀.exchange.session.lastId + 1 := Nat.succ_pos _
  generalize e₀.exchange.session.lastId + 1 = k at *
  constructor
  · rintro rfl
    have hfaithful : (e₀.process m).1.exchange.Holds Link.Faithful k (t₀ ++ e₀.observed m) := by
      intro l hl hid
      rw [Link.Faithful, (hdialing l hl hid).1]
      trivial
    have hholds := h₂.holds Link.faithful_lasting hanswered
      (hb.lasting Link.faithful_lasting (h₁.holds Link.faithful_lasting hstart hfaithful)
        hbefore.run.tracked hbefore.run.heard.1 ho)
    -- The peer that joined is the only one of the link.
    have hjoined := List.mem_append_left (Trace.joined t₂)
      (List.mem_append_right (Trace.joined (t₀ ++ e₀.observed m ++ t₁)) ha.joined)
    rw [← Trace.joined_append, ← Trace.joined_append] at hjoined
    have hpeer := (hafter.run.tracked.received hjoined).1
    have hlt : e₁.exchange.network.peers.length < e.exchange.network.peers.length := by
      rw [← List.mem_range, ← hafter.run.tracked.joined]
      exact List.mem_map_of_mem hjoined
    refine ⟨_, List.getElem?_eq_getElem hlt, fun hw => ?_⟩
    have hscan := hafter.progress_scan hk hholds hq hsilent hpeer hw
      (List.getElem?_eq_getElem hlt)
    refine ⟨hscan, fun items more hitems hdecided => ?_⟩
    rw [hscan, hitems, Progress.scan_append hdecided]
  · rintro reason rfl
    have htarget : (e₀.process m).1.exchange.Holds (fun l _ _ _ => l.target = e₀.app.endpoint) k
        (t₀ ++ e₀.observed m) := fun l hl hid => (hdialing l hl hid).2
    have hrefused := ha.refused hbefore.run.coherent hbefore.run.heard.1
      (h₁.holds (Link.target_lasting _) hstart htarget)
    exact hafter.progress_refused hk (h₂.holds (Link.refused_lasting _) hanswered hrefused) hq
      hsilent

/-- A line, then the word that ends the session, then a close that comes too late;
a key scrolls the log in between. -/
theorem outcome_decided_complete :
    ∃ (e : Engine) (p : Peer), e.exchange.network.peers[0]? = some p ∧
      p.inbound = [.message (.text "a"), .message (.text Payload.sentinel), .close {}] ∧
      e.app.progress = scan p.left p.inbound ∧ e.app.progress = ⟨.complete, ["a"]⟩ := by
  have h₀ := Run.start {} "x" { remoteAddress := ⟨"h"⟩, username := ⟨"u"⟩, password := ⟨"p"⟩ }
    (n := {}) rfl
  have hstart : ∀ {e₁ : Engine} {t : Trace} {rs : List Request} (m : Message),
      Run e₁ t rs → Course (e₁.process m).1 (e₁.process m).1 [] := fun _ _ => .refl
  have hanswer : ∀ {e₁ e : Engine} {t₁ : Trace} {l : Link} {n : Network},
      Course e₁ e t₁ → e.exchange.session.links = [l] → l.stage = .dialing →
      e.exchange.network.attempt l.target = (.answer .accept, n) →
      e.exchange.Answered l.id .accept (e.exchange.moveObserved l.id (l.hear n .accept))
        (e.exchange.afterMove [] [] l.id (l.hear n .accept)) :=
    fun _ hl hs ha => .dialed hl rfl hs ha
  have hgo : ∀ {e : Engine} {id : ConnectionId} {u : Trace} {x : Exchange},
      e.exchange.Answered id .accept u x →
      Course { e with exchange := x } { e with exchange := x } [] := fun _ => .refl
  have hopen : ∀ {n n' : Network}, n.peers.all (!·.left) = true → n.Orderly n' := by
    intro n n' h
    exact Network.orderly_of_open (by simpa using h) n'
  have h₁ := hstart (.command .submit) h₀
  have ha := hanswer h₁ rfl rfl rfl
  have h₂ := (hgo ha).pause (.background (.drift (Network.drift_deliver _ 0
    (.message (.text "a"))))) (hopen rfl)
  have h₃ := (h₂.take (.event rfl) nofun).pause
    (.background (@Exchange.Background.move _ [] [] _ _ rfl (.transmit rfl rfl))) (hopen rfl)
  have h₄ := (h₃.pause (.background (@Exchange.Background.move _ [] [] _ _ rfl
    (.absorb rfl rfl))) (hopen rfl)).process (m := .key .up) nofun
    (by rintro c ⟨⟩; rfl)
  have h₅ := h₄.pause (.background (.drift (Network.drift_deliver _ 0
    (.message (.text Payload.sentinel))))) (hopen rfl)
  have h₆ := (h₅.pause (.background (@Exchange.Background.move _ [] [] _ _ rfl
    (.absorb rfl rfl))) (hopen rfl)).pause (.background (.drift (Network.drift_deliver _ 0
    (.close {})))) (hopen rfl)
  have h₇ := (h₆.take (.event rfl) nofun).take (.event rfl) nofun
  have h₈ := h₇.pause (.background (@Exchange.Background.move _ [] [] _ _ rfl
    (.leave rfl rfl))) (hopen rfl)
  obtain ⟨p, hp, hscan⟩ := (outcome_decided h₀.exchange (by simp) (by rfl) h₁ ha h₈
    (Exchange.step?_eq_none_iff.mp rfl) rfl).1 rfl
  have hitems : _ = p.inbound := congrArg Peer.inbound (Option.some.inj hp)
  have hscan := (hscan (List.forall_mem_singleton.mpr fun _ => rfl)).1
  exact ⟨_, p, hp, hitems.symm, hscan, by decide⟩

end Engine

end Provision
