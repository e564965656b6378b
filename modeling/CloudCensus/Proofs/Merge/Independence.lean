import CloudCensus.Proofs.Merge.Completeness

/-!
Two schedules of the same listings emit the same assets.

When an asset leaves, each listing has already brought the only observation that it has of the name,
so that two schedules can differ only in which of two observations absorbed the other.
-/

namespace CloudCensus.Merger

open Asset

theorem short_cases {α : Type} (items : List α) (short : items.length ≤ 1) :
    items = [] ∨ ∃ item, items = [item] := by
  cases items with
  | nil => exact .inl rfl
  | cons item rest =>
      have nothing : rest = [] := List.eq_nil_of_length_eq_zero (by simpa using short)
      exact .inr ⟨item, by rw [nothing]⟩

theorem eq_append_of_perm {α : Type} (items front back : List α) (one : front.length ≤ 1)
    (other : back.length ≤ 1) (order : items.Perm (front ++ back)) :
    items = front ++ back ∨ items = back ++ front := by
  rcases short_cases front one with rfl | ⟨first, rfl⟩
  · rcases short_cases back other with rfl | ⟨second, rfl⟩
    · exact .inl order.eq_nil
    · exact .inl order.eq_singleton
  · rcases short_cases back other with rfl | ⟨second, rfl⟩
    · exact .inl order.eq_singleton
    · cases items with
      | nil => exact .inl order.symm.eq_nil.symm
      | cons head rest =>
          by_cases same : head = first
          · rw [same] at order ⊢
            rw [order.cons_inv.eq_singleton]
            exact .inl rfl
          · have later : head = second := by
              have member := order.mem_iff.mp List.mem_cons_self
              simpa [same] using member
            rw [later] at order ⊢
            have swapped := order.trans (List.Perm.swap second first [])
            rw [swapped.cons_inv.eq_singleton]
            exact .inr rfl

theorem gather_swap (front back : List Asset) (one : front.length ≤ 1) (other : back.length ≤ 1)
    (a b : Asset) (forward : gather (front ++ back) = some a)
    (backward : gather (back ++ front) = some b) :
    a = b ∨ ∃ r ∈ front, ∃ p ∈ back, a = r.absorb p ∧ b = p.absorb r := by
  rcases short_cases front one with rfl | ⟨r, rfl⟩
  · rw [List.append_nil] at backward
    exact .inl (Option.some.inj (forward.symm.trans backward))
  · rcases short_cases back other with rfl | ⟨p, rfl⟩
    · rw [List.append_nil] at forward
      exact .inl (Option.some.inj (forward.symm.trans backward))
    · exact .inr ⟨r, List.mem_singleton_self r, p, List.mem_singleton_self p,
        (Option.some.inj forward).symm, (Option.some.inj backward).symm⟩

theorem gather_perm (front back seen other : List Asset) (one : front.length ≤ 1)
    (few : back.length ≤ 1) (order : seen.Perm (front ++ back))
    (orderToo : other.Perm (front ++ back)) (a b : Asset) (gathered : gather seen = some a) (gatheredToo : gather other = some b) :
    a = b ∨ ∃ r ∈ front, ∃ p ∈ back,
      (a = r.absorb p ∧ b = p.absorb r) ∨ (a = p.absorb r ∧ b = r.absorb p) := by
  rcases eq_append_of_perm seen front back one few order with rfl | rfl
  · rcases eq_append_of_perm other front back one few orderToo with rfl | rfl
    · exact .inl (Option.some.inj (gathered.symm.trans gatheredToo))
    · rcases gather_swap front back one few a b gathered gatheredToo with
        same | ⟨r, listed, p, listedToo, both⟩
      · exact .inl same
      · exact .inr ⟨r, listed, p, listedToo, .inl both⟩
  · rcases eq_append_of_perm other front back one few orderToo with rfl | rfl
    · rcases gather_swap front back one few b a gatheredToo gathered with
        same | ⟨r, listed, p, listedToo, second, first⟩
      · exact .inl same.symm
      · exact .inr ⟨r, listed, p, listedToo, .inr ⟨first, second⟩⟩
    · exact .inl (Option.some.inj (gathered.symm.trans gatheredToo))

structure Separate (listing : Facet → List Asset) : Prop where
  single : ∀ side, ∀ a ∈ listing side, a.has side.other = false
  unique : ∀ side, ((listing side).map (·.name)).Nodup

/-- What no schedule can change in the assets that two listings are merged into. -/
structure Agree (listing : Facet → List Asset) (first second : List Asset) : Prop where
  core : (first.map core).Perm (second.map core)
  kind : ∀ a ∈ first, ∀ b ∈ second, a.name = b.name →
    (∀ r ∈ listing .resource, ∀ p ∈ listing .policy, r.name = a.name → p.name = a.name →
      r.kind = p.kind ∨ r.kind = "" ∨ p.kind = "") → a.kind = b.kind
  ancestors : ∀ a ∈ first, ∀ b ∈ second, a.name = b.name →
    (∀ r ∈ listing .resource, ∀ p ∈ listing .policy, r.name = a.name → p.name = a.name →
      r.ancestors = p.ancestors ∨ r.ancestors = [] ∨ p.ancestors = []) → a.ancestors = b.ancestors

section finished

variable {listing : Facet → List Asset}

/-- When an asset leaves, all that either listing has of it has been absorbed. -/
theorem emission_gathers_listings (separate : Separate listing) (events : List Event)
    (schedule : Schedule (finished listing) events) (a : Asset) (out : a ∈ start.emissions events) :
    ∃ seen, seen.Perm (named a.name (listing .resource) ++ named a.name (listing .policy)) ∧
      gather seen = some a := by
  obtain ⟨past, rest, split, gathered, complete⟩ := emission_of_finished events schedule a out
  rw [split] at schedule
  have all : ∀ side, named a.name (observed side past) = named a.name (listing side) := by
    intro side
    rcases complete side with present | whole
    · obtain ⟨b, sends, same, _⟩ :=
        facet_observed separate.single past rest schedule a gathered side present
      have some : 1 ≤ (named a.name (observed side past)).length :=
        List.length_pos_of_mem ((mem_named _ _ b).mpr ⟨sends, same⟩)
      have part : (named a.name (observed side past)).Sublist (named a.name (listing side)) := by
        rw [← observed_finished _ schedule side, observed_append]
        exact (List.sublist_append_left _ _).filter _
      exact part.eq_of_length_le (Nat.le_trans (length_named_le a.name _ (separate.unique side)) some)
    · rw [whole]
  refine ⟨_, ?_, gathered⟩
  rw [← all, ← all, ← named_append]
  exact (intake_perm_observed past rest schedule).filter _

theorem field_eq_of_schedules {α : Type} (field : Asset → α) (separate : Separate listing)
    (first second : List Event) (one : Schedule (finished listing) first)
    (two : Schedule (finished listing) second) (a b : Asset) (out : a ∈ start.emissions first)
    (outToo : b ∈ start.emissions second) (same : a.name = b.name)
    (swap : ∀ r ∈ listing .resource, ∀ p ∈ listing .policy, r.name = a.name → p.name = a.name →
      field (r.absorb p) = field (p.absorb r)) : field a = field b := by
  obtain ⟨seen, order, gathered⟩ := emission_gathers_listings separate first one a out
  obtain ⟨other, orderToo, gatheredToo⟩ := emission_gathers_listings separate second two b outToo
  rw [← same] at orderToo
  have resources := length_named_le a.name _ (separate.unique .resource)
  have policies := length_named_le a.name _ (separate.unique .policy)
  rcases gather_perm _ _ seen other resources policies order orderToo a b gathered gatheredToo with
    equal | ⟨r, listed, p, listedToo, ways⟩
  · rw [equal]
  · obtain ⟨fromResources, own⟩ := (mem_named _ _ _).mp listed
    obtain ⟨fromPolicies, ownToo⟩ := (mem_named _ _ _).mp listedToo
    have either := swap r fromResources p fromPolicies own ownToo
    rcases ways with ⟨here, there⟩ | ⟨here, there⟩
    · rw [here, there, either]
    · rw [here, there, either]

theorem core_eq_of_schedules (separate : Separate listing) (first second : List Event)
    (one : Schedule (finished listing) first) (two : Schedule (finished listing) second) (a b : Asset)
    (out : a ∈ start.emissions first) (outToo : b ∈ start.emissions second) (same : a.name = b.name) :
    a.core = b.core := by
  apply field_eq_of_schedules core separate first second one two a b out outToo same
  intro r listed p listedToo own ownToo
  exact core_absorb_comm r p (own.trans ownToo.symm) (separate.single .resource r listed)
    (separate.single .policy p listedToo)

theorem mem_core_of_schedules (separate : Separate listing) (first second : List Event)
    (one : Schedule (finished listing) first) (two : Schedule (finished listing) second)
    (fields : String × Option Resource × Option Json × Option Instant)
    (member : fields ∈ (start.emissions first).map core) :
    fields ∈ (start.emissions second).map core := by
  obtain ⟨a, out, rfl⟩ := List.mem_map.mp member
  have known := (mem_names_iff_of_finished first one a.name).mp (List.mem_map.mpr ⟨a, out, rfl⟩)
  have emitted := (mem_names_iff_of_finished second two a.name).mpr known
  obtain ⟨b, outToo, same⟩ := List.mem_map.mp emitted
  rw [core_eq_of_schedules separate first second one two a b out outToo same.symm]
  exact List.mem_map.mpr ⟨b, outToo, rfl⟩

theorem core_nodup_of_finished (events : List Event) (schedule : Schedule (finished listing) events) :
    ((start.emissions events).map core).Nodup := by
  apply List.Nodup.of_map Prod.fst
  rw [List.map_map]
  exact names_nodup_of_finished events schedule

theorem agree_of_schedules (separate : Separate listing) (first second : List Event)
    (one : Schedule (finished listing) first) (two : Schedule (finished listing) second) :
    Agree listing (start.emissions first) (start.emissions second) where
  core := by
    apply (List.perm_ext_iff_of_nodup (core_nodup_of_finished first one)
      (core_nodup_of_finished second two)).mpr
    intro fields
    exact ⟨mem_core_of_schedules separate first second one two fields,
      mem_core_of_schedules separate second first two one fields⟩
  kind := by
    intro a out b outToo same alike
    apply field_eq_of_schedules kind separate first second one two a b out outToo same
    intro r listed p listedToo own ownToo
    exact kind_absorb_comm r p (alike r listed p listedToo own ownToo)
  ancestors := by
    intro a out b outToo same alike
    apply field_eq_of_schedules ancestors separate first second one two a b out outToo same
    intro r listed p listedToo own ownToo
    exact ancestors_absorb_comm r p (alike r listed p listedToo own ownToo)

end finished

/-- Two schedules of the same listings agree, and so they do with reading one listing to its end
before the other. -/
theorem schedules_agree (listing : Facet → List Asset) (separate : Separate listing)
    (first second : List Event) (one : Schedule (finished listing) first)
    (two : Schedule (finished listing) second) :
    Agree listing (start.emissions first) (start.emissions second) ∧
    Agree listing (start.emissions first) (start.emissions (sequential (finished listing))) :=
  ⟨agree_of_schedules separate first second one two,
    agree_of_schedules separate first _ one (sequential_schedule (finished listing))⟩

theorem schedules_agree_tangled :
    Separate sightings ∧
    Schedule (finished sightings) tangled ∧
    Schedule (finished sightings) (sequential (finished sightings)) ∧
    Agree sightings (start.emissions tangled) (start.emissions (sequential (finished sightings))) := by
  have separate : Separate sightings := by
    constructor <;> intro side <;> cases side <;> decide
  have sequel := sequential_schedule (finished sightings)
  exact ⟨separate, tangled_schedule, sequel,
    (schedules_agree sightings separate tangled _ tangled_schedule sequel).1⟩

end CloudCensus.Merger
