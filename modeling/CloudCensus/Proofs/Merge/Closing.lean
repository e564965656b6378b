import CloudCensus.Proofs.Merge.Run

namespace CloudCensus.Merger

/-- A side that the merger still listened to was closed, and it had sent no failure before. -/
def ClosedCleanly (side : Facet) (events : List Event) : Prop :=
  ∃ before rest, events = before ++ .close side :: rest ∧
    (after before).listens side = true ∧ ∀ f, .fail side f ∉ before

theorem closed_cleanly_concat (side : Facet) (past : List Event) (e : Event)
    (closed : ClosedCleanly side past) : ClosedCleanly side (past ++ [e]) := by
  obtain ⟨before, rest, split, heard, clean⟩ := closed
  exact ⟨before, rest ++ [e], by simp [split], heard, clean⟩

theorem no_failure_of_listens (events : List Event) (side : Facet)
    (heard : (after events).listens side = true) (f : Failure) : .fail side f ∉ events := by
  induction events using List.reverseRecOn with
  | nil => exact List.not_mem_nil
  | append_singleton past last ih =>
      rw [after_concat] at heard
      obtain ⟨before, _, other⟩ := listens_step _ last side heard
      intro member
      rcases List.mem_append.mp member with earlier | now
      · exact ih before earlier
      · exact other f (List.mem_singleton.mp now).symm

theorem closed_cleanly_of_closed (events : List Event) (side : Facet)
    (closed : (after events).pool.isClosed side = true) : ClosedCleanly side events := by
  induction events using List.reverseRecOn with
  | nil => cases side <;> cases closed
  | append_singleton past last ih =>
      rw [after_concat, pool_step] at closed
      rcases (isClosed_pooled _ last side).mp closed with earlier | ⟨now, heard⟩
      · exact closed_cleanly_concat side past last (ih earlier)
      · exact ⟨past, [], by rw [now], heard, no_failure_of_listens past side heard⟩

theorem closed_of_lacking (past : List Event) (e : Event) (a : Asset) (side : Facet)
    (out : a ∈ ((after past).step e).1.emitted) (lacking : a.has side = false) :
    (after (past ++ [e])).pool.isClosed side = true := by
  have ready := (emitted_gathers past e a out).2
  rcases ((after (past ++ [e])).pool.isReady_iff a).mp ready side with there | closed
  · rw [lacking] at there
    cases there
  · exact closed

theorem split_cases (front back past rest : List Event) (e other : Event)
    (same : front ++ e :: back = past ++ other :: rest) :
    (∃ between, past = front ++ [e] ++ between) ∨ (front = past ∧ e = other) ∨
      ∃ between, front = past ++ [other] ++ between := by
  rcases List.append_eq_append_iff.mp same with ⟨tail, earlier, now⟩ | ⟨tail, later, now⟩
  · cases tail with
    | nil => exact .inr (.inl ⟨by simpa using earlier.symm, (List.cons.inj now).1⟩)
    | cons head between =>
        rw [(List.cons.inj now).1]
        exact .inl ⟨between, by simpa using earlier⟩
  · cases tail with
    | nil => exact .inr (.inl ⟨by simpa using later, (List.cons.inj now).1.symm⟩)
    | cons head between =>
        rw [(List.cons.inj now).1]
        exact .inr (.inr ⟨between, by simpa using later⟩)

/-- What was emitted before a failure that got through has the facet of the failing side. -/
theorem has_of_failed (past rest : List Event) (side : Facet) (f : Failure)
    (heard : (after past).listens side = true) (a : Asset)
    (out : a ∈ start.emissions (past ++ .fail side f :: rest)) : a.has side = true := by
  obtain ⟨front, e, back, split, here⟩ := mem_emissions _ a out
  cases present : a.has side with
  | true => rfl
  | false =>
      exfalso
      have closed := closed_of_lacking front e a side here present
      -- before the failure the side would be closed, at it nothing leaves, after it all has ended
      rcases split_cases front back past rest e _ split.symm with
        ⟨between, earlier⟩ | ⟨_, now⟩ | ⟨between, later⟩
      · rw [earlier] at heard
        have stillHeard := listens_after_append _ between side heard
        simp [listens, closed] at stillHeard
      · rw [now, emitted_step] at here
        simp [pooled] at here
      · have stopped : (after (past ++ [.fail side f])).ended = true := by
          rw [after_concat, step_fail, if_pos heard]
          rfl
        have still : (after front).ended = true := by
          rw [later, ended, result_after_append _ between stopped]
          exact stopped
        rw [emitted_step_of_ended _ e still] at here
        cases here

/-- An asset is emitted without a facet only if that facet's input was closed without an error
before; and if an error of one input ends the run, everything emitted has the facet of that input. -/
theorem facet_missing_only_if_closed (events : List Event) :
    (∀ past e rest, events = past ++ e :: rest →
      ∀ a ∈ ((after past).step e).1.emitted, ∀ side, a.has side = false →
        ClosedCleanly side (past ++ [e])) ∧
    (∀ past side f rest, events = past ++ .fail side f :: rest →
      ((after past).step (.fail side f)).1.delivered = some true →
        (after events).result = some (.error f) ∧
          ∀ a ∈ start.emissions events, a.has side = true) := by
  constructor
  · intro past e rest _ a out side lacking
    exact closed_cleanly_of_closed _ side (closed_of_lacking past e a side out lacking)
  · intro past side f rest split delivered
    have heard : (after past).listens side = true := by
      by_contra silent
      rw [step_fail, if_neg silent] at delivered
      cases delivered
    have failed : (after (past ++ [.fail side f])).result = some (.error f) := by
      rw [after_concat, step_fail, if_pos heard]
    constructor
    · have stopped : (after (past ++ [.fail side f])).ended = true := by rw [ended, failed]; rfl
      have whole : events = past ++ [.fail side f] ++ rest := by simp [split]
      rw [whole, result_after_append _ rest stopped, failed]
    · intro a out
      rw [split] at out
      exact has_of_failed past rest side f heard a out

/-- A resource leaves without its policy when the policies close, and then the resources break. -/
theorem facet_missing_only_if_closed_late_failure :
    let a : Asset := ⟨"a", "", [], some .empty, none, none⟩
    let events : List Event := [.observe .resource a, .close .policy, .fail .resource .cancelled]
    start.emissions events = [a] ∧ a.has .policy = false ∧
      ClosedCleanly .policy [.observe .resource a, .close .policy] ∧
      (after events).result = some (.error .cancelled) ∧
      ∀ b ∈ start.emissions events, b.has .resource = true := by
  intro a events
  obtain ⟨closes, fails⟩ := facet_missing_only_if_closed events
  have left : a ∈ ((after [.observe .resource a]).step (.close .policy)).1.emitted :=
    List.mem_singleton.mpr rfl
  exact ⟨rfl, rfl, closes [.observe .resource a] _ _ rfl a left .policy rfl,
    fails [.observe .resource a, .close .policy] .resource .cancelled [] rfl rfl⟩

end CloudCensus.Merger
