/-
What a task may do next.

A task waits for several things at once and goes on with any of those that are
there: it may still read, write or finish a handshake after the session has
let go of it.  `Link.Move` has one rule for each of them.  The step of
`Link.step?` is always a move (`move_of_step?`), and there is one whenever
there is a move (`isSome_step?_of_move`), so the running program settles
exactly where no task can move.

A move changes the stage of its link, takes from the mailbox and may abandon
it; the number, the address, and what was accepted stay as they are
(`Move.kept`).
-/
import Provision.Session.Link

namespace Provision

/-- From now on at most `room` more payloads are accepted. -/
def Mailbox.restrict (m : Mailbox) (room : Nat) : Mailbox :=
  { m with room := some ((m.room.map (min room)).getD room) }

theorem Mailbox.isAbandoned_restrict {m : Mailbox} (h : m.isAbandoned = true) (room : Nat) :
    (m.restrict room).isAbandoned = true := by
  have hr : m.room = some 0 := by simpa [isAbandoned] using h
  simp [isAbandoned, restrict, hr]

namespace Link

variable {l : Link} {n : Network} {o : Link.Outcome}

/-- The task of `l` can bring about an outcome on the network `n`. -/
inductive Move (l : Link) (n : Network) : Outcome → Prop
  /-- The attempt is made, also if the session has let go already. -/
  | dial : l.stage = .dialing → Move l n (l.dial n)
  | dialInVain : l.stage = .dialing → l.hungUp = true → Move l n (l.dialInVain n)
  | answered {gate : Nat} {answer : Answer} :
      l.stage = .waiting gate → n.answer? gate = some answer → Move l n (l.hear n answer)
  | desert {gate : Nat} :
      l.stage = .waiting gate → l.hungUp = true → Move l n (l.desert n gate)
  | absorb {peer : Nat} {item : Inbound} {items : List Inbound} :
      l.stage = .live peer → n.unread peer = item :: items → Move l n (l.absorb n peer item)
  | lose {peer : Nat} :
      l.stage = .live peer → n.unread peer = [] → n.hasLeft peer = true →
      Move l n (l.lose n peer)
  | transmit {peer : Nat} {p : Payload} {ps : List Payload} :
      l.stage = .live peer → l.mailbox.waiting = p :: ps → Move l n (l.transmit n peer p)
  | leave {peer : Nat} :
      l.stage = .live peer → l.hungUp = true → Move l n (l.leave n peer)
  | conclude {peer : Option Nat} {unsaid : List Report} :
      l.stage = .ending peer unsaid → Move l n (l.conclude n peer unsaid)

/-! ### The scheduler makes moves -/

theorem move_of_pump? {peer : Nat} (hs : l.stage = .live peer) (h : l.pump? n peer = some o) :
    l.Move n o := by
  by_cases hup : l.hungUp = true
  · simp only [pump?, hup, if_true, Option.some.injEq] at h
    exact h ▸ .leave hs hup
  · rcases hr : n.unread peer with - | ⟨item, items⟩
    · by_cases hl : n.hasLeft peer = true
      · simp [pump?, hup, hr, hl] at h
        exact h ▸ .lose hs hr hl
      · rcases hw : l.mailbox.waiting with - | ⟨p, ps⟩
        · simp [pump?, hup, hr, hl, hw] at h
        · simp [pump?, hup, hr, hl, hw] at h
          exact h ▸ .transmit hs hw
    · simp [pump?, hup, hr] at h
      exact h ▸ .absorb hs hr

theorem move_of_step? (h : l.step? n = some o) : l.Move n o := by
  rcases hs : l.stage with - | gate | peer | ⟨peer, unsaid⟩ | - <;>
    simp only [step?, hs] at h
  · by_cases hup : l.hungUp = true
    · simp only [hup, if_true, Option.some.injEq] at h
      exact h ▸ .dialInVain hs hup
    · simp only [hup, Bool.false_eq_true, if_false, Option.some.injEq] at h
      exact h ▸ .dial hs
  · by_cases hup : l.hungUp = true
    · simp only [hup, if_true, Option.some.injEq] at h
      exact h ▸ .desert hs hup
    · simp only [hup, Bool.false_eq_true, if_false, Option.map_eq_some_iff] at h
      obtain ⟨answer, ha, rfl⟩ := h
      exact .answered hs ha
  · exact move_of_pump? hs h
  · exact Option.some.inj h ▸ .conclude hs
  · cases h

/-- A task that has ended does nothing more. -/
theorem Move.not_finished (h : l.Move n o) : l.stage ≠ .finished := by
  intro hfin
  cases h with
  | dial hs | dialInVain hs | answered hs | desert hs | absorb hs | lose hs | transmit hs
  | leave hs | conclude hs =>
    rw [hfin] at hs
    cases hs

/-- The scheduler stops at a link only if its task has nothing to do. -/
theorem isSome_step?_of_move (h : l.Move n o) : (l.step? n).isSome = true := by
  -- The scheduler may prefer another move, but it makes one.
  cases h with
  | dial hs | dialInVain hs _ | conclude hs => simp [step?, hs]
  | answered hs ha => by_cases hup : l.hungUp = true <;> simp [step?, hs, ha, hup]
  | desert hs hup => simp [step?, hs, hup]
  | leave hs hup => simp [step?, pump?, hs, hup]
  | absorb hs hr => by_cases hup : l.hungUp = true <;> simp [step?, pump?, hs, hr, hup]
  | lose hs hr hl => by_cases hup : l.hungUp = true <;> simp [step?, pump?, hs, hr, hl, hup]
  | @transmit peer _ _ hs hw =>
    simp only [step?, pump?, hs]
    by_cases hup : l.hungUp = true
    · simp [hup]
    · rcases hr : n.unread peer with - | ⟨item, items⟩
      · by_cases hl : n.hasLeft peer = true <;> simp [hup, hl, hw]
      · simp [hup]

theorem step?_eq_none_iff : l.step? n = none ↔ ∀ o, ¬ l.Move n o := by
  constructor
  · intro h o hm
    have := isSome_step?_of_move hm
    rw [h] at this
    cases this
  · intro h
    rcases hs : l.step? n with - | o
    · rfl
    · exact absurd (move_of_step? hs) (h o)

/-- Where a task stands that can do nothing: it has ended, or waits at a closed
gate, or is live and has read and written everything. -/
theorem still_cases (h : ∀ o, ¬ l.Move n o) :
    l.stage = .finished ∨
      (∃ gate, l.stage = .waiting gate ∧ l.hungUp = false ∧ n.answer? gate = none) ∨
      ∃ peer, l.stage = .live peer ∧ l.hungUp = false ∧ n.unread peer = [] ∧
        n.hasLeft peer = false ∧ l.mailbox.waiting = [] := by
  have hup : ∀ {o : Outcome}, (l.hungUp = true → l.Move n o) → l.hungUp = false := by
    intro o hm
    by_cases hup : l.hungUp = true
    · exact absurd (hm hup) (h o)
    · simpa using hup
  rcases hs : l.stage with - | gate | peer | ⟨peer, unsaid⟩ | -
  · exact absurd (.dial hs) (h _)
  · refine .inr (.inl ⟨gate, rfl, hup fun hup => .desert hs hup, ?_⟩)
    rcases ha : n.answer? gate with - | answer
    · rfl
    · exact absurd (.answered hs ha) (h _)
  · have hr : n.unread peer = [] := by
      rcases hr : n.unread peer with - | ⟨item, items⟩
      · rfl
      · exact absurd (.absorb hs hr) (h _)
    have hl : n.hasLeft peer = false := by
      rcases hl : n.hasLeft peer
      · rfl
      · exact absurd (.lose hs hr hl) (h _)
    have hw : l.mailbox.waiting = [] := by
      rcases hw : l.mailbox.waiting with - | ⟨p, ps⟩
      · rfl
      · exact absurd (.transmit hs hw) (h _)
    exact .inr (.inr ⟨peer, rfl, hup fun hup => .leave hs hup, hr, hl, hw⟩)
  · exact absurd (.conclude hs) (h _)
  · exact .inl rfl

/-! ### What no move changes -/

/-- `l'` is `l` at another stage, perhaps with fewer payloads in the mailbox. -/
structure Kept (l l' : Link) : Prop where
  id : l'.id = l.id
  target : l'.target = l.target
  hungUp : l'.hungUp = l.hungUp
  accepted : l'.mailbox.accepted = l.mailbox.accepted
  isAbandoned : l.mailbox.isAbandoned = true → l'.mailbox.isAbandoned = true

/-- `l'` is `l` where it stood; at most its mailbox accepts less. -/
structure Stays (l l' : Link) : Prop extends Kept l l' where
  stage : l'.stage = l.stage
  taken : l'.mailbox.taken = l.mailbox.taken

theorem Stays.refl (l : Link) : l.Stays l :=
  ⟨⟨rfl, rfl, rfl, rfl, fun h => h⟩, rfl, rfl⟩

theorem stays_restrict (l : Link) (room : Nat) :
    l.Stays { l with mailbox := l.mailbox.restrict room } :=
  ⟨⟨rfl, rfl, rfl, rfl, fun h => Mailbox.isAbandoned_restrict h room⟩, rfl, rfl⟩

theorem kept_finish (l : Link) : l.Kept l.finish :=
  ⟨rfl, rfl, rfl, rfl, fun _ => rfl⟩

theorem kept_stage (l : Link) (stage : Stage) : l.Kept { l with stage } :=
  ⟨rfl, rfl, rfl, rfl, fun h => h⟩

theorem kept_breakOff (l : Link) (peer : Option Nat) (unsaid : List Report) :
    l.Kept (l.breakOff peer unsaid) :=
  l.kept_stage _

theorem kept_hear (l : Link) (n : Network) (answer : Answer) : l.Kept (l.hear n answer).1 := by
  cases answer with
  | accept => exact l.kept_stage _
  | refuse reason => exact l.kept_breakOff _ _

theorem kept_dial (l : Link) (n : Network) : l.Kept (l.dial n).1 := by
  rcases h : n.attempt l.target with ⟨answer | gate, n'⟩
  · simpa [dial, h] using l.kept_hear n' answer
  · simpa [dial, h] using l.kept_stage (.waiting gate)

theorem kept_dialInVain (l : Link) (n : Network) : l.Kept (l.dialInVain n).1 := by
  rcases h : n.attempt l.target with ⟨answer | gate, n'⟩ <;>
    simpa [dialInVain, desert, h] using l.kept_finish

theorem kept_absorb (l : Link) (n : Network) (peer : Nat) (item : Inbound) :
    l.Kept (l.absorb n peer item).1 := by
  cases item with
  | message p => exact l.kept_stage l.stage
  | close info => exact l.kept_breakOff _ _
  | failure error => exact l.kept_breakOff _ _

theorem kept_transmit (l : Link) (n : Network) (peer : Nat) (p : Payload) :
    l.Kept (l.transmit n peer p).1 := by
  rcases h : n.write peer p with error | n' <;> simp only [transmit, h] <;>
    exact ⟨rfl, rfl, rfl, rfl, fun ha => ha⟩

theorem kept_conclude (l : Link) (n : Network) (peer : Option Nat) (unsaid : List Report) :
    l.Kept (l.conclude n peer unsaid).1 := by
  cases unsaid with
  | nil => exact l.kept_finish
  | cons r unsaid => exact l.kept_breakOff _ _

theorem Move.kept (h : l.Move n o) : l.Kept o.1 := by
  cases h with
  | dial => exact l.kept_dial n
  | dialInVain => exact l.kept_dialInVain n
  | answered => exact l.kept_hear n _
  | desert | leave => exact l.kept_finish
  | absorb => exact l.kept_absorb n _ _
  | lose => exact l.kept_breakOff _ _
  | transmit => exact l.kept_transmit n _ _
  | conclude => exact l.kept_conclude n _ _

end Link

end Provision
