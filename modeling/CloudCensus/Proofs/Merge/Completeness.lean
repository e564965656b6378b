import CloudCensus.Proofs.Merge.Schedule

/-!
What a merger makes of two listings that both come to their end.

Whatever a side sends is heard, since only its own close silences it, and a facet that is still
missing when its asset leaves is missing in all of a listing that was read to its end.
-/

namespace CloudCensus.Merger

open Asset

/-- A run that nothing disturbs ends when both sides are closed and not before. -/
structure Undisturbed (past : List Event) (m : Merger) : Prop where
  kept : m.outputKept = true
  ending : m.result = if m.pool.bothClosed then some (.ok ()) else none
  closed : ∀ side, m.pool.isClosed side = true ↔ .close side ∈ past

theorem result_emit (m : Merger) (out : List Asset) (pool : Pool) (kept : m.outputKept = true) :
    (m.emit out pool).2.result = if pool.bothClosed then some (.ok ()) else none := by
  simp [emit, kept]

theorem Undisturbed.listens_iff {past : List Event} {m : Merger} (undisturbed : Undisturbed past m)
    (side : Facet) : m.listens side = true ↔ .close side ∉ past := by
  rw [← undisturbed.closed side]
  cases shut : m.pool.isClosed side with
  | true => simp [listens, shut]
  | false =>
      have apart : m.pool.bothClosed = false := by
        cases both : m.pool.bothClosed with
        | false => rfl
        | true =>
            have shutToo := m.pool.bothClosed_iff.mp both side
            rw [shut] at shutToo
            cases shutToo
      simp [listens, ended, undisturbed.ending, apart, shut]

theorem Undisturbed.step {past : List Event} {m : Merger} (undisturbed : Undisturbed past m)
    (e : Event) (plain : (∃ side a, e = .observe side a) ∨ ∃ side, e = .close side) :
    Undisturbed (past ++ [e]) (m.step e).2 := by
  constructor
  · apply (outputKept_step m e).mpr
    refine ⟨undisturbed.kept, ?_⟩
    rcases plain with ⟨_, _, rfl⟩ | ⟨_, rfl⟩ <;> simp
  · rcases plain with ⟨side, a, rfl⟩ | ⟨side, rfl⟩
    · rw [step_observe]
      split
      · simp only [result_emit m _ _ undisturbed.kept, pool_emit]
      · exact undisturbed.ending
    · rw [step_close]
      split
      · simp only [result_emit m _ _ undisturbed.kept, pool_emit]
      · exact undisturbed.ending
  · intro side
    rw [pool_step, isClosed_pooled, undisturbed.listens_iff side, undisturbed.closed side,
      List.mem_append, List.mem_singleton]
    by_cases before : Event.close side ∈ past
    · simp [before]
    · simp [before, eq_comm]

section finished

variable {listing : Facet → List Asset}

theorem undisturbed_of_finished (past rest : List Event)
    (schedule : Schedule (finished listing) (past ++ rest)) : Undisturbed past (after past) := by
  induction past using List.reverseRecOn generalizing rest with
  | nil =>
      refine ⟨rfl, rfl, ?_⟩
      intro side
      cases side <;> simp [after, run, start, Pool.isClosed, Pool.empty]
  | append_singleton front last ih =>
      have plain := event_of_finished _ schedule last (by simp)
      rw [List.append_assoc] at schedule
      rw [after_concat]
      apply (ih _ schedule).step
      rcases plain with ⟨side, a, _, same⟩ | closing
      · exact .inl ⟨side, a, same⟩
      · exact .inr closing

theorem listens_of_sender (past rest : List Event) (side : Facet) (a : Asset)
    (schedule : Schedule (finished listing) (past ++ .observe side a :: rest)) :
    (after past).listens side = true := by
  apply ((undisturbed_of_finished past _ schedule).listens_iff side).mpr
  intro closed
  have silent := sent_after_close past _ schedule side closed
  have sends : .observe side a ∈ sent side (.observe side a :: rest) := by simp [sent, Event.side?]
  rw [silent] at sends
  cases sends

theorem intake_perm_observed (past rest : List Event)
    (schedule : Schedule (finished listing) (past ++ rest)) :
    (start.intake past).Perm (observed .resource past ++ observed .policy past) := by
  induction past using List.reverseRecOn generalizing rest with
  | nil => exact List.Perm.nil
  | append_singleton front last ih =>
      have plain := event_of_finished _ schedule last (by simp)
      rw [List.append_assoc] at schedule
      have before := ih _ schedule
      rw [intake_concat, observed_append, observed_append]
      rcases plain with ⟨side, a, _, rfl⟩ | ⟨side, rfl⟩
      · rw [taken, if_pos (listens_of_sender front rest side a schedule)]
        cases side with
        | resource =>
            change (_ ++ [a]).Perm ((_ ++ [a]) ++ (_ ++ []))
            rw [List.append_nil, List.append_assoc]
            exact (before.append_right [a]).trans
              (by rw [List.append_assoc]; exact List.perm_append_comm.append_left _)
        | policy =>
            change (_ ++ [a]).Perm ((_ ++ []) ++ (_ ++ [a]))
            rw [List.append_nil, ← List.append_assoc]
            exact before.append_right [a]
      · have silent : ∀ sender, observed sender [Event.close side] = [] := by
          intro sender
          cases sender <;> cases side <;> rfl
        rw [silent, silent]
        simpa [taken] using before

theorem mem_intake_iff (past rest : List Event)
    (schedule : Schedule (finished listing) (past ++ rest)) (a : Asset) :
    a ∈ start.intake past ↔ ∃ side, a ∈ observed side past := by
  rw [(intake_perm_observed past rest schedule).mem_iff, List.mem_append]
  constructor
  · rintro (resource | policy)
    · exact ⟨.resource, resource⟩
    · exact ⟨.policy, policy⟩
  · rintro ⟨side, seen⟩
    cases side with
    | resource => exact .inl seen
    | policy => exact .inr seen

theorem undisturbed_after (events : List Event) (schedule : Schedule (finished listing) events) :
    Undisturbed events (after events) :=
  undisturbed_of_finished events [] (by simpa using schedule)

theorem isClosed_of_finished (events : List Event) (schedule : Schedule (finished listing) events)
    (side : Facet) : (after events).pool.isClosed side = true := by
  apply ((undisturbed_after events schedule).closed side).mpr
  exact close_mem_finished events schedule side

theorem result_of_finished (events : List Event) (schedule : Schedule (finished listing) events) :
    (after events).result = some (.ok ()) := by
  have both := (Pool.bothClosed_iff _).mpr (isClosed_of_finished events schedule)
  rw [(undisturbed_after events schedule).ending, if_pos both]

theorem pending_of_finished (events : List Event) (schedule : Schedule (finished listing) events) :
    (after events).pool.pending = [] := by
  apply List.eq_nil_iff_forall_not_mem.mpr
  intro a present
  have waits := (after_consistent events).settled a present
  have closed := isClosed_of_finished events schedule
  have ready := (Pool.isReady_iff _ a).mpr fun side => .inr (closed side)
  rw [waits] at ready
  cases ready

theorem emitted_of_finished (events : List Event) (schedule : Schedule (finished listing) events) :
    (after events).pool.emitted = (start.emissions events).map (·.name) :=
  emitted_after events (undisturbed_after events schedule).kept

theorem names_nodup_of_finished (events : List Event)
    (schedule : Schedule (finished listing) events) :
    ((start.emissions events).map (·.name)).Nodup := by
  rw [← emitted_of_finished events schedule]
  exact (after_consistent events).once

/-- An asset is emitted with all that was sent of it by then, and a listing that may still bring
more of it has brought its facet. -/
theorem emission_of_finished (events : List Event) (schedule : Schedule (finished listing) events)
    (a : Asset) (out : a ∈ start.emissions events) :
    ∃ past rest, events = past ++ rest ∧ gather (named a.name (start.intake past)) = some a ∧
      ∀ side, a.has side = true ∨ observed side past = listing side := by
  obtain ⟨past, e, rest, split, here⟩ := mem_emissions events a out
  have whole : events = (past ++ [e]) ++ rest := by simp [split]
  obtain ⟨gathered, ready⟩ := emitted_gathers past e a here
  refine ⟨past ++ [e], rest, whole, gathered, ?_⟩
  intro side
  rw [whole] at schedule
  rcases (Pool.isReady_iff _ a).mp ready side with there | shut
  · exact .inl there
  · have closed := ((undisturbed_of_finished _ rest schedule).closed side).mp shut
    exact .inr (observed_of_closed _ rest schedule side closed)

theorem mem_names_iff_of_finished (events : List Event)
    (schedule : Schedule (finished listing) events) (name : String) :
    name ∈ (start.emissions events).map (·.name) ↔ ∃ side, ∃ a ∈ listing side, a.name = name := by
  have whole : Schedule (finished listing) (events ++ []) := by simpa using schedule
  constructor
  · intro emitted
    obtain ⟨a, out, rfl⟩ := List.mem_map.mp emitted
    obtain ⟨past, rest, split, gathered, _⟩ := emission_of_finished events schedule a out
    rw [split] at schedule
    obtain ⟨b, seen⟩ : ∃ b, b ∈ named a.name (start.intake past) := by
      apply List.exists_mem_of_ne_nil
      intro nothing
      rw [(gather_eq_none _).mpr nothing] at gathered
      cases gathered
    obtain ⟨taken, same⟩ := (mem_named _ _ _).mp seen
    obtain ⟨side, sent⟩ := (mem_intake_iff past rest schedule b).mp taken
    exact ⟨side, b, mem_listing_of_observed past rest schedule side b sent, same⟩
  · rintro ⟨side, a, present, rfl⟩
    by_contra missing
    -- what was taken in and did not leave is pending, and nothing is
    rw [← emitted_of_finished events schedule] at missing
    have held := after_holds events a.name
    rw [if_neg missing, Pool.find?, pending_of_finished events schedule] at held
    have nothing := (gather_eq_none _).mp held.symm
    have taken : a ∈ start.intake events := by
      apply (mem_intake_iff events [] whole a).mpr
      exact ⟨side, by rw [observed_finished events schedule side]; exact present⟩
    have seen : a ∈ named a.name (start.intake events) := (mem_named _ _ _).mpr ⟨taken, rfl⟩
    rw [nothing] at seen
    cases seen

theorem facet_observed (single : ∀ side, ∀ a ∈ listing side, a.has side.other = false)
    (past rest : List Event) (schedule : Schedule (finished listing) (past ++ rest)) (a : Asset)
    (gathered : gather (named a.name (start.intake past)) = some a) (side : Facet)
    (present : a.has side = true) :
    ∃ b ∈ observed side past, b.name = a.name ∧ b.has side = true := by
  obtain ⟨b, seen, brings⟩ := (has_gather side _ a gathered).mp present
  obtain ⟨taken, same⟩ := (mem_named _ _ _).mp seen
  obtain ⟨sender, sends⟩ := (mem_intake_iff past rest schedule b).mp taken
  have own : sender = side := by
    by_contra other
    have lacks := single sender b (mem_listing_of_observed past rest schedule sender b sends)
    have opposite : sender.other = side := by cases sender <;> cases side <;> trivial
    rw [opposite, brings] at lacks
    cases lacks
  rw [own] at sends
  exact ⟨b, sends, same, brings⟩

theorem has_iff_of_finished (single : ∀ side, ∀ a ∈ listing side, a.has side.other = false)
    (events : List Event) (schedule : Schedule (finished listing) events) (a : Asset)
    (out : a ∈ start.emissions events) (side : Facet) :
    a.has side = true ↔ ∃ b ∈ listing side, b.name = a.name ∧ b.has side = true := by
  obtain ⟨past, rest, split, gathered, complete⟩ := emission_of_finished events schedule a out
  rw [split] at schedule
  constructor
  · intro present
    obtain ⟨b, sends, named⟩ := facet_observed single past rest schedule a gathered side present
    exact ⟨b, mem_listing_of_observed past rest schedule side b sends, named⟩
  · rintro ⟨b, listed, same, brings⟩
    rcases complete side with there | all
    · exact there
    · apply (has_gather side _ a gathered).mpr
      have taken : b ∈ start.intake past := by
        apply (mem_intake_iff past rest schedule b).mpr
        exact ⟨side, by rw [all]; exact listed⟩
      exact ⟨b, (mem_named _ _ _).mpr ⟨taken, same⟩, brings⟩

end finished

/-- Two finished listings are merged into one asset for each name that either of them has, with
the facets that they have for it. -/
theorem finished_listings_complete (listing : Facet → List Asset) (events : List Event)
    (single : ∀ side, ∀ a ∈ listing side, a.has side.other = false)
    (schedule : Schedule (finished listing) events) :
    (after events).result = some (.ok ()) ∧
    (after events).pool.pending = [] ∧
    ((start.emissions events).map (·.name)).Nodup ∧
    (∀ name, name ∈ (start.emissions events).map (·.name) ↔
      ∃ side, ∃ a ∈ listing side, a.name = name) ∧
    (∀ a ∈ start.emissions events, ∀ side,
      a.has side = true ↔ ∃ b ∈ listing side, b.name = a.name ∧ b.has side = true) :=
  ⟨result_of_finished events schedule, pending_of_finished events schedule,
    names_nodup_of_finished events schedule, mem_names_iff_of_finished events schedule,
    has_iff_of_finished single events schedule⟩

theorem finished_listings_complete_tangled :
    (∀ side, ∀ a ∈ sightings side, a.has side.other = false) ∧
    Schedule (finished sightings) tangled ∧
    (after tangled).result = some (.ok ()) ∧
    (after tangled).pool.pending = [] ∧
    ((start.emissions tangled).map (·.name)).Nodup ∧
    (∀ name, name ∈ (start.emissions tangled).map (·.name) ↔
      ∃ side, ∃ a ∈ sightings side, a.name = name) ∧
    (∀ a ∈ start.emissions tangled, ∀ side,
      a.has side = true ↔ ∃ b ∈ sightings side, b.name = a.name ∧ b.has side = true) := by
  have single : ∀ side, ∀ a ∈ sightings side, a.has side.other = false := by
    intro side
    cases side <;> decide
  exact ⟨single, tangled_schedule,
    finished_listings_complete sightings tangled single tangled_schedule⟩

end CloudCensus.Merger
