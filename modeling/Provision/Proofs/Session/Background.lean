/-
What happens to a session while nobody calls it.

Tasks move, let go of their mailboxes, and report.  None of this changes what
was handed over or what is queued, and the session stays coherent
(`Background.accepted`, `Background.coherent`): a task can only make a mailbox
less willing, never more.
-/
import Provision.Proofs.Link.Served
import Provision.Proofs.Session.Calls

namespace Provision

namespace Session

variable {s s' : Session} {l l' : Link} {earlier later : List Link}

/-- Numbers are unique, so the other links have others. -/
theorem Coherent.id_ne (h : s.Coherent) (hlinks : s.links = earlier ++ l :: later) {k : Link}
    (hk : k ∈ earlier ∨ k ∈ later) : k.id ≠ l.id := by
  have hnodup : (s.links.map (·.id)).Nodup := h.ids ▸ List.nodup_range'
  rw [hlinks, List.map_append, List.map_cons, List.nodup_append] at hnodup
  obtain ⟨-, hlater, hdisjoint⟩ := hnodup
  rcases hk with hk | hk
  · exact hdisjoint k.id (List.mem_map_of_mem hk) l.id List.mem_cons_self
  · intro heq
    exact (List.nodup_cons.mp hlater).1 (heq ▸ List.mem_map_of_mem hk)

/-- Replacing a link by one with the same number and the same accepted payloads. -/
theorem accepted_of_links (hlinks : s.links = earlier ++ l :: later)
    (hlinks' : s'.links = earlier ++ l' :: later) (hid : l'.id = l.id)
    (hacc : l'.mailbox.accepted = l.mailbox.accepted) (id : ConnectionId) :
    s'.accepted id = s.accepted id := by
  rw [accepted, accepted, link?, link?, hlinks, hlinks', List.find?_append, List.find?_append]
  generalize earlier.find? (fun k => k.id == id) = found
  cases found with
  | none => by_cases h : l.id = id <;> simp [h, hid, hacc]
  | some k => rfl

end Session

namespace Exchange

variable {e e' : Exchange} {u : Trace}

/-- The background touches neither what the session follows nor its queue. -/
theorem Background.session (hb : e.Background u e') :
    e'.session.status = e.session.status ∧ e'.session.outbox = e.session.outbox ∧
      e'.session.active = e.session.active ∧ e'.session.lastId = e.session.lastId ∧
      e'.session.links.map (·.id) = e.session.links.map (·.id) := by
  cases hb with
  | move hlinks hm =>
    refine ⟨rfl, rfl, rfl, rfl, ?_⟩
    simp [afterMove, hlinks, hm.kept.id]
  | restrict id room =>
    exact ⟨rfl, rfl, rfl, rfl, e.session.map_id_modifyLink id fun _ => rfl⟩
  | drift => exact ⟨rfl, rfl, rfl, rfl, rfl⟩

theorem Background.accepted (hb : e.Background u e') (id : ConnectionId) :
    e'.session.accepted id = e.session.accepted id := by
  cases hb with
  | move hlinks hm => exact Session.accepted_of_links hlinks rfl hm.kept.id hm.kept.accepted id
  | restrict i room =>
    exact e.session.accepted_modifyLink_of_eq i
      (f := fun l => { l with mailbox := l.mailbox.restrict room }) (fun _ => rfl) (fun _ => rfl) id
  | drift => rfl

theorem silent_moveObserved (e : Exchange) (id : ConnectionId) (o : Link.Outcome) :
    Trace.Silent (e.moveObserved id o) := by
  intro k hk
  rcases List.mem_append.mp hk with hk | hk
  · obtain ⟨peer, -, rfl⟩ := List.mem_map.mp hk
    exact .inr ⟨id, peer, rfl⟩
  · obtain ⟨r, -, rfl⟩ := List.mem_map.mp hk
    exact .inl ⟨id, r, rfl⟩

theorem Background.silent (hb : e.Background u e') : u.Silent := by
  cases hb with
  | move => exact e.silent_moveObserved _ _
  | restrict | drift => exact fun o ho => absurd ho List.not_mem_nil

theorem joined_moveObserved (e : Exchange) (id : ConnectionId) (o : Link.Outcome) :
    Trace.joined (e.moveObserved id o) = (e.network.joinedSince o.2.1).map (id, ·) := by
  rw [moveObserved, Trace.joined_append]
  rcases o.2.2 with - | r <;> simp [Trace.joined, List.filterMap_map]

theorem joinedBy_moveObserved (e : Exchange) (i : ConnectionId) (o : Link.Outcome)
    (id : ConnectionId) :
    Trace.joinedBy (e.moveObserved i o) id =
      if i = id then e.network.joinedSince o.2.1 else [] := by
  rw [Trace.joinedBy, joined_moveObserved]
  by_cases hid : i = id <;> simp [hid, List.filter_map, Function.comp_def]

theorem reportsOf_moveObserved (e : Exchange) (i : ConnectionId) (o : Link.Outcome)
    (id : ConnectionId) :
    Trace.reportsOf (e.moveObserved i o) id = if i = id then o.2.2.toList else [] := by
  rw [moveObserved, Trace.reportsOf_append]
  by_cases hid : i = id <;> rcases o.2.2 with - | r <;> simp [Trace.reportsOf, hid]

/-- A link is not concerned by a background step: nothing is observed of it,
and only other tasks write and read. -/
structure Untouched (e e' : Exchange) (u : Trace) (l : Link) : Prop where
  reportsOf : u.reportsOf l.id = []
  joinedBy : u.joinedBy l.id = []
  written : ∀ i, (∀ k ∈ e.session.links, k.stage = .live i → k.id = l.id) →
    e'.network.written i = e.network.written i
  onward : e.network.Orderly e'.network → ∀ i,
    (∀ k ∈ e.session.links, k.stage = .live i → k.id = l.id) →
    ∀ p, e.network.peers[i]? = some p →
      ∃ p', e'.network.peers[i]? = some p' ∧ p.Onward p' ∧ p'.readCount = p.readCount

/-- Each link after a background step has moved in it, or stands where it stood
and is not concerned. -/
theorem Background.link_cases (hb : e.Background u e') (hc : e.session.Coherent) {l' : Link}
    (hl' : l' ∈ e'.session.links) :
    (∃ l ∈ e.session.links, ∃ o, l.Move e.network o ∧ l' = o.1 ∧ e'.network = o.2.1 ∧
      u = e.moveObserved l.id o) ∨
    ∃ l ∈ e.session.links, l.Stays l' ∧ Untouched e e' u l := by
  cases hb with
  | @move earlier later l o hlinks hm =>
    have hl : l ∈ e.session.links := by rw [hlinks]; simp
    have hother : ∀ k, k ∈ earlier ∨ k ∈ later →
        k ∈ e.session.links ∧ Untouched e (e.afterMove earlier later l.id o)
          (e.moveObserved l.id o) k := by
      intro k hk
      have hid := hc.id_ne hlinks hk
      refine ⟨?_, ?_, ?_, fun i hlive => ?_, fun _ i hlive p hp => ?_⟩
      · rw [hlinks]
        rcases hk with hk | hk <;> simp [hk]
      · rw [reportsOf_moveObserved, if_neg (Ne.symm hid)]
      · rw [joinedBy_moveObserved, if_neg (Ne.symm hid)]
      · exact (hm.written_of_ne fun hs => hid (hlive l hl hs).symm).2
      · obtain ⟨p', hp', hunmoved, hread⟩ := hm.unmoved hp
        exact ⟨p', hp', hunmoved.onward, hread fun hs => hid (hlive l hl hs).symm⟩
    simp only [afterMove, List.mem_append, List.mem_cons] at hl'
    rcases hl' with hl' | rfl | hl'
    · exact .inr ⟨l', (hother l' (.inl hl')).1, .refl l', (hother l' (.inl hl')).2⟩
    · exact .inl ⟨l, hl, o, hm, rfl, rfl, rfl⟩
    · exact .inr ⟨l', (hother l' (.inr hl')).1, .refl l', (hother l' (.inr hl')).2⟩
  | restrict id room =>
    obtain ⟨l, hl, rfl⟩ := Session.mem_modifyLink.mp hl'
    refine .inr ⟨l, hl, ?_, rfl, rfl, fun _ _ => rfl, fun _ i _ p hp => ?_⟩
    · by_cases hid : l.id = id
      · rw [if_pos hid]
        exact l.stays_restrict room
      · rw [if_neg hid]
        exact .refl l
    · exact ⟨p, hp, .refl p, rfl⟩
  | drift hd =>
    exact .inr ⟨l', hl', .refl l', rfl, rfl, fun i _ => hd.written i,
      fun ho _ _ _ hp => hd.onward ho hp⟩

/-- So each is one from before that kept what matters to the session. -/
theorem Background.kept (hb : e.Background u e') (hc : e.session.Coherent) {l' : Link}
    (hl' : l' ∈ e'.session.links) : ∃ l ∈ e.session.links, l.Kept l' := by
  rcases hb.link_cases hc hl' with ⟨l, hl, o, hm, rfl, -, -⟩ | ⟨l, hl, hstays, -⟩
  · exact ⟨l, hl, hm.kept⟩
  · exact ⟨l, hl, hstays.toKept⟩

/-- Reports come from links that exist. -/
theorem Background.mem_reports (hb : e.Background u e') {x : ConnectionId × Report}
    (hx : x ∈ e'.session.reports) :
    x ∈ e.session.reports ∨ x.1 ∈ e.session.links.map (·.id) := by
  cases hb with
  | @move earlier later l o hlinks hm =>
    simp only [afterMove, List.mem_append, Option.mem_toList, Option.map_eq_some_iff] at hx
    rcases hx with hx | ⟨r, -, rfl⟩
    · exact .inl hx
    · exact .inr (by simp [hlinks])
  | restrict => exact .inl hx
  | drift => exact .inl hx

theorem Background.reportsOf_eq_nil (hb : e.Background u e') {id : ConnectionId}
    (hid : id ∉ e.session.links.map (·.id)) : u.reportsOf id = [] := by
  cases hb with
  | @move earlier later l o hlinks hm =>
    rw [reportsOf_moveObserved, if_neg]
    intro heq
    exact hid (by simp [hlinks, ← heq])
  | restrict | drift => rfl

/-- Coherence survives whatever happens in the background. -/
theorem Background.coherent (hb : e.Background u e') (h : e.session.Coherent) :
    e'.session.Coherent := by
  obtain ⟨hstatus, houtbox, hactive, hlast, hids⟩ := hb.session
  refine ⟨?_, ?_, fun x hx => ?_, fun hopen hne l' hl' hid => ?_⟩
  · rw [hids, hlast]
    exact h.ids
  · rw [hactive, hlast, hstatus]
    exact h.following
  · rw [hlast]
    rcases hb.mem_reports hx with hx | hx
    · exact h.reports x hx
    · obtain ⟨l, hl, hid⟩ := List.mem_map.mp hx
      exact hid ▸ (h.id_mem hl).2
  · obtain ⟨l, hl, hkept⟩ := hb.kept h hl'
    refine hkept.isAbandoned (h.stuck (hstatus ▸ hopen) (houtbox ▸ hne) l hl ?_)
    rw [← hkept.id, hid, hlast]

theorem Run.coherent {t : Trace} (h : Run e t) : e.session.Coherent := by
  induction h with
  | start => exact Session.coherent_empty
  | call c _ ih =>
    obtain ⟨done, hf⟩ := ih.call c
    exact hf.coherent
  | background _ hb ih => exact hb.coherent ih

end Exchange

end Provision
