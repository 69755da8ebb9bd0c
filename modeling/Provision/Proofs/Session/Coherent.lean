/-
What a session keeps, and what it comes to that payloads are handed over.

`Coherent` is what every session keeps that started empty: its links are
numbered from one on, it follows its newest link exactly while it is
connecting or open, and payloads are queued while it is open only if the task
of that link has let go of its mailbox.  The last point is why a payload that
cannot be handed over may simply be put at the end of the queue.

Handing over is the one thing that reaches into mailboxes.  `Coherent.handOver`
says what it does there: the followed link accepts a first part of the
payloads, and all other links and fields stay as they are.
-/
import Mathlib.Data.List.Nodup
import Provision.Proofs.Exchange.Run

namespace Provision.Session

variable {s s' : Session} {id : ConnectionId} {ps : List Payload}

/-! ### Links -/

theorem link?_modifyLink (s : Session) (i : ConnectionId) {f : Link → Link}
    (hf : ∀ l, (f l).id = l.id) (id : ConnectionId) :
    (s.modifyLink i f).link? id = (s.link? id).map fun l => if l.id = i then f l else l := by
  have hcomp : ((fun l : Link => l.id == id) ∘ fun l => if l.id = i then f l else l) =
      fun l => l.id == id := by
    funext l
    by_cases h : l.id = i <;> simp [h, hf]
  rw [link?, modifyLink, List.find?_map, hcomp]
  rfl

theorem id_of_link? {l : Link} (h : s.link? id = some l) : l.id = id := by
  simpa using List.find?_some h

theorem mem_of_link? {l : Link} (h : s.link? id = some l) : l ∈ s.links :=
  List.mem_of_find?_eq_some h

theorem map_id_modifyLink (s : Session) (i : ConnectionId) {f : Link → Link}
    (hf : ∀ l, (f l).id = l.id) :
    (s.modifyLink i f).links.map (·.id) = s.links.map (·.id) := by
  rw [modifyLink, List.map_map]
  refine List.map_congr_left fun l _ => ?_
  by_cases h : l.id = i <;> simp [h, hf]

theorem mem_modifyLink {i : ConnectionId} {f : Link → Link} {l : Link} :
    l ∈ (s.modifyLink i f).links ↔ ∃ k ∈ s.links, (if k.id = i then f k else k) = l := by
  simp [modifyLink]

/-! ### What was accepted -/

theorem accepted_eq_nil (h : id ∉ s.links.map (·.id)) : s.accepted id = [] := by
  rcases hl : s.link? id with - | l
  · simp [accepted, hl]
  · exact absurd (id_of_link? hl ▸ List.mem_map_of_mem (mem_of_link? hl)) h

/-- A change of links that leaves their mailboxes alone. -/
theorem accepted_modifyLink_of_eq (s : Session) (i : ConnectionId) {f : Link → Link}
    (hf : ∀ l, (f l).id = l.id) (hacc : ∀ l, (f l).mailbox.accepted = l.mailbox.accepted)
    (id : ConnectionId) : (s.modifyLink i f).accepted id = s.accepted id := by
  rw [accepted, accepted, link?_modifyLink s i hf]
  rcases s.link? id with - | l
  · rfl
  · by_cases h : l.id = i <;> simp [h, hacc]

@[simp] theorem accepted_release (s : Session) (id : ConnectionId) :
    s.release.accepted id = s.accepted id := by
  rcases h : s.active with - | i
  · simp [release, h]
  · simp only [release, h]
    exact s.accepted_modifyLink_of_eq i (f := ({ · with hungUp := true }))
      (fun _ => rfl) (fun _ => rfl) id

theorem accepted_connect (s : Session) (target : String) (id : ConnectionId) :
    (s.connect target).accepted id = s.accepted id := by
  rw [← accepted_release s id]
  simp only [accepted, link?, connect, List.find?_append]
  rcases h : s.release.links.find? (fun l => l.id == id) with - | l
  · by_cases hid : s.release.lastId + 1 = id <;> simp [h, hid]
  · simp [h]

/-- A hand-over changes nothing but links. -/
theorem handOver_fields (s : Session) (ps : List Payload) :
    (s.handOver ps).1.status = s.status ∧ (s.handOver ps).1.active = s.active ∧
      (s.handOver ps).1.lastId = s.lastId ∧ (s.handOver ps).1.reports = s.reports := by
  rcases h : s.activeLink? with - | l <;> simp [handOver, modifyLink, h]

theorem link?_of_activeLink? {l : Link} (h : s.activeLink? = some l) :
    s.active = some l.id ∧ s.link? l.id = some l := by
  obtain ⟨id, hactive, hlink⟩ := Option.bind_eq_some_iff.mp h
  rw [id_of_link? hlink]
  exact ⟨hactive, hlink⟩

/-! ### Coherence -/

/-- What every session keeps. -/
structure Coherent (s : Session) : Prop where
  ids : s.links.map (·.id) = List.range' 1 s.lastId
  /-- The session follows a link only while it is connecting or open, and then
  its newest one. -/
  following : s.active = some s.lastId ∧ 0 < s.lastId ∧
      (s.status = .connecting ∨ s.status = .opened) ∨
    s.active = none ∧ (s.status = .idle ∨ s.status = .closed)
  /-- The tasks have reported under numbers that were given out. -/
  reports : ∀ x ∈ s.reports, x.1 ≤ s.lastId
  /-- Payloads that wait while the session is open wait for another link. -/
  stuck : s.status = .opened → s.outbox.toList ≠ [] →
    ∀ l ∈ s.links, l.id = s.lastId → l.mailbox.isAbandoned = true

theorem coherent_empty : Coherent {} where
  ids := rfl
  following := .inr ⟨rfl, .inl rfl⟩
  reports := by simp
  stuck h := by cases h

namespace Coherent

theorem active_eq (h : s.Coherent) (ha : s.active = some id) : id = s.lastId ∧ 0 < s.lastId := by
  rcases h.following with ⟨hf, hpos, -⟩ | ⟨hf, -⟩
  · rw [hf, Option.some.injEq] at ha
    exact ⟨ha.symm, hpos⟩
  · rw [hf] at ha
    cases ha

theorem active_of_running (h : s.Coherent) (hs : s.status = .connecting ∨ s.status = .opened) :
    s.active = some s.lastId := by
  rcases h.following with ⟨hf, -⟩ | ⟨-, hidle⟩
  · exact hf
  · rcases hs with hs | hs <;> rw [hs] at hidle <;> rcases hidle with hidle | hidle <;> cases hidle

theorem running_of_active (h : s.Coherent) (ha : s.active ≠ none) :
    s.status = .connecting ∨ s.status = .opened := by
  rcases h.following with ⟨-, -, hs⟩ | ⟨hf, -⟩
  · exact hs
  · exact absurd hf ha

theorem active_of_idle (h : s.Coherent) (hi : s.status = .idle) : s.active = none := by
  rcases h.following with ⟨-, -, hs⟩ | ⟨hf, -⟩
  · rw [hi] at hs
    rcases hs with hs | hs <;> cases hs
  · exact hf

theorem mem_ids (h : s.Coherent) : id ∈ s.links.map (·.id) ↔ 1 ≤ id ∧ id ≤ s.lastId := by
  rw [h.ids, List.mem_range'_1, Nat.lt_one_add_iff]

theorem id_mem (h : s.Coherent) {l : Link} (hl : l ∈ s.links) : 1 ≤ l.id ∧ l.id ≤ s.lastId :=
  h.mem_ids.mp (List.mem_map_of_mem hl)

/-- The next number was not given out yet. -/
theorem succ_lastId_not_mem (h : s.Coherent) : s.lastId + 1 ∉ s.links.map (·.id) :=
  fun hmem => Nat.not_succ_le_self _ (h.mem_ids.mp hmem).2

theorem eq_of_id (h : s.Coherent) {k l : Link} (hk : k ∈ s.links) (hl : l ∈ s.links)
    (hid : k.id = l.id) : k = l := by
  have hnodup : (s.links.map (·.id)).Nodup := h.ids ▸ List.nodup_range'
  exact List.inj_on_of_nodup_map hnodup hk hl hid

theorem exists_activeLink (h : s.Coherent) (ha : s.active = some id) :
    ∃ l, s.activeLink? = some l ∧ l.id = id := by
  have hid := h.active_eq ha
  have hmem : id ∈ s.links.map (·.id) := h.mem_ids.mpr ⟨hid.1 ▸ hid.2, Nat.le_of_eq hid.1⟩
  obtain ⟨k, hk, hkid⟩ := List.mem_map.mp hmem
  have hsome : (s.link? id).isSome = true :=
    List.find?_isSome.mpr ⟨k, hk, by simpa using hkid⟩
  obtain ⟨l, hl⟩ := Option.isSome_iff_exists.mp hsome
  exact ⟨l, by simpa [activeLink?, ha] using hl, id_of_link? hl⟩

/-- While the session is open, something waits only if the task has let go. -/
theorem exists_abandoned (h : s.Coherent) (hs : s.status = .opened)
    (hout : s.outbox.toList ≠ []) :
    ∃ l, s.activeLink? = some l ∧ l.mailbox.isAbandoned = true := by
  obtain ⟨l, hl, hid⟩ := h.exists_activeLink (h.active_of_running (.inr hs))
  have hmem := mem_of_link? (link?_of_activeLink? hl).2
  exact ⟨l, hl, h.stuck hs hout l hmem hid⟩

/-- What a link's own mailbox has accepted. -/
theorem accepted_eq (h : s.Coherent) {l : Link} (hl : l ∈ s.links) :
    s.accepted l.id = l.mailbox.accepted := by
  have hsome : (s.link? l.id).isSome = true := List.find?_isSome.mpr ⟨l, hl, by simp⟩
  obtain ⟨k, hk⟩ := Option.isSome_iff_exists.mp hsome
  have hkl : k = l := h.eq_of_id (mem_of_link? hk) hl (id_of_link? hk)
  rw [accepted, hk, hkl]
  rfl

end Coherent

/-! ### Handing over -/

/-- What a call of the session leaves alone in a link. -/
structure Spared (l l' : Link) : Prop where
  id : l'.id = l.id
  target : l'.target = l.target
  stage : l'.stage = l.stage
  taken : l'.mailbox.taken = l.mailbox.taken
  accepted : l.mailbox.accepted <+: l'.mailbox.accepted
  isAbandoned : l.mailbox.isAbandoned = true → l'.mailbox.isAbandoned = true

theorem Spared.refl (l : Link) : Spared l l :=
  ⟨rfl, rfl, rfl, rfl, List.prefix_rfl, fun h => h⟩

theorem spared_hangUp (l : Link) : Spared l { l with hungUp := true } :=
  ⟨rfl, rfl, rfl, rfl, List.prefix_rfl, fun h => h⟩

theorem spared_offerAll (l : Link) (ps : List Payload) :
    Spared l { l with mailbox := (l.mailbox.offerAll ps).1 } := by
  obtain ⟨done, -, hacc, htaken⟩ := l.mailbox.offerAll_split ps
  refine ⟨rfl, rfl, rfl, htaken, ⟨done, hacc.symm⟩, fun h => ?_⟩
  rw [Mailbox.offerAll_of_isAbandoned h]
  exact h

/-- What handing payloads over comes to: the active link accepts some, the
others are left over, and the fields beside the links stay. -/
structure HandedOver (s s' : Session) (ps done rest : List Payload) : Prop where
  split : ps = done ++ rest
  status : s'.status = s.status
  outbox : s'.outbox = s.outbox
  active : s'.active = s.active
  lastId : s'.lastId = s.lastId
  reports : s'.reports = s.reports
  ids : s'.links.map (·.id) = s.links.map (·.id)
  spared : ∀ l' ∈ s'.links, ∃ l ∈ s.links, Spared l l'
  accepted : ∀ id, s'.accepted id = s.accepted id ++ if s.active = some id then done else []
  /-- Without a link to follow, nothing is accepted. -/
  done_eq_nil : s.active = none → done = []
  /-- Something is left over only once the task has let go. -/
  stuck : s.active ≠ none → rest ≠ [] →
    ∀ l' ∈ s'.links, s.active = some l'.id → l'.mailbox.isAbandoned = true

theorem Coherent.handOver (h : s.Coherent) (ps : List Payload) :
    ∃ done, HandedOver s (s.handOver ps).1 ps done (s.handOver ps).2 := by
  rcases ha : s.active with - | i
  · have heq : s.handOver ps = (s, ps) := by simp [Session.handOver, activeLink?, ha]
    rw [heq]
    exact ⟨[], rfl, rfl, rfl, rfl, rfl, rfl, rfl, fun l hl => ⟨l, hl, .refl l⟩, by simp,
      fun _ => rfl, fun hne => absurd ha hne⟩
  · obtain ⟨l, hl, rfl⟩ := h.exists_activeLink ha
    have hlink : s.link? l.id = some l := by simpa [activeLink?, ha] using hl
    obtain ⟨done, hps, hacc, -⟩ := l.mailbox.offerAll_split ps
    have heq : s.handOver ps = (s.modifyLink l.id
        ({ · with mailbox := (l.mailbox.offerAll ps).1 }), (l.mailbox.offerAll ps).2) := by
      simp [Session.handOver, hl]
    -- Numbers are unique, so the mailbox that is put back is that of `l` itself.
    have hown : ∀ k ∈ s.links, k.id = l.id → k = l :=
      fun k hk hid => h.eq_of_id hk (mem_of_link? hlink) hid
    rw [heq]
    refine ⟨done, hps, rfl, rfl, rfl, rfl, rfl, ?_, ?_, fun id => ?_, fun hn => ?_, ?_⟩
    · exact s.map_id_modifyLink l.id fun _ => rfl
    · intro l' hl'
      obtain ⟨k, hk, rfl⟩ := mem_modifyLink.mp hl'
      refine ⟨k, hk, ?_⟩
      by_cases hid : k.id = l.id
      · rw [if_pos hid, hown k hk hid]
        exact spared_offerAll l ps
      · rw [if_neg hid]
        exact .refl k
    · rw [Session.accepted, Session.accepted]
      dsimp only
      rw [link?_modifyLink s l.id (f := ({ · with mailbox := (l.mailbox.offerAll ps).1 }))
        fun _ => rfl]
      by_cases hid : l.id = id
      · subst hid
        simp [hlink, hacc, ha]
      · have hne : ∀ k, s.link? id = some k → k.id ≠ l.id :=
          fun k hk hkl => hid (hkl ▸ id_of_link? hk)
        rcases hk : s.link? id with - | k
        · simp [ha, hid]
        · simp [ha, hid, hne k hk]
    · rw [ha] at hn
      cases hn
    · intro _ hrest l' hl' hactive
      obtain ⟨k, hk, rfl⟩ := mem_modifyLink.mp hl'
      by_cases hid : k.id = l.id
      · rw [if_pos hid]
        exact Mailbox.isAbandoned_offerAll hrest
      · rw [if_neg hid, ha] at hactive
        exact absurd (Option.some.inj hactive).symm hid

end Provision.Session
