import CloudCensus.Asset.Kind
import CloudCensus.Proofs.Listing.Produce
import CloudCensus.Proofs.Merge.Closing
import CloudCensus.Proofs.Merge.Completeness

/-!
How the merger tells a listing that broke from one that came to its end.

A failure stands in its queue before the end, so that the merger has failed by the time at which it
could see the end of a broken listing.  A listing that answers that it was cancelled is the exception:
no failure of it reaches the queue, which is then that of a finished listing.
-/

namespace CloudCensus

theorem error_mem_queue_iff (request : Request) (s : Script) (f : Failure) :
    .error f ∈ (produce request s.items true false).queue ↔
      (produce request s.items true false).outcome = .error f ∧ f ≠ .cancelled := by
  obtain ⟨assets, failure⟩ := s
  cases failure with
  | none =>
      rw [produce_finished]
      simp
  | some e =>
      by_cases silent : e = .cancelled
      · rw [silent, produce_cancelled]
        simp [eq_comm]
      · rw [produce_broken _ _ _ silent]
        simp only [List.mem_append, List.mem_map, reduceCtorEq, and_false, exists_false,
          List.mem_singleton, Except.error.injEq, false_or]
        constructor
        · rintro rfl
          exact ⟨rfl, by simp⟩
        · rintro ⟨same, _⟩
          exact same.symm

theorem queue_of_cancelled (request : Request) (s : Script)
    (silent : (produce request s.items true false).outcome = .error .cancelled) :
    (produce request s.items true false).queue = s.assets.map .ok := by
  obtain ⟨assets, failure⟩ := s
  cases failure with
  | none => rw [produce_finished]
  | some e =>
      by_cases same : e = .cancelled
      · rw [same, produce_cancelled]
      · rw [produce_broken _ _ _ same] at silent
        cases silent

namespace Merger

theorem queueEvents_split (side : Facet) (queue : List (Outcome Asset)) :
    ∃ items, queueEvents side queue = items ++ [.close side] ∧ .close side ∉ items ∧
      ∀ f, .fail side f ∈ items ↔ .error f ∈ queue := by
  refine ⟨_, rfl, ?_, ?_⟩
  · intro member
    obtain ⟨outcome, _, same⟩ := List.mem_map.mp member
    cases outcome <;> cases same
  · intro f
    constructor
    · intro member
      obtain ⟨outcome, present, same⟩ := List.mem_map.mp member
      cases outcome with
      | ok a => cases same
      | error g =>
          cases same
          exact present
    · intro present
      exact List.mem_map.mpr ⟨_, present, rfl⟩

theorem result_step_cases (m : Merger) (e : Event) (kept : m.outputKept = true) :
    (m.step e).2.result = m.result ∨
    (∃ side f, e = .fail side f ∧ (m.step e).2.result = some (.error f)) ∨
    e = .cancel ∨
    (m.step e).2.result = if (m.step e).2.pool.bothClosed then some (.ok ()) else none := by
  cases e with
  | observe side a =>
      rw [step_observe]
      split
      · exact .inr (.inr (.inr (by rw [result_emit m _ _ kept, pool_emit])))
      · exact .inl rfl
  | fail side f =>
      rw [step_fail]
      split
      · exact .inr (.inl ⟨side, f, rfl, rfl⟩)
      · exact .inl rfl
  | close side =>
      rw [step_close]
      split
      · exact .inr (.inr (.inr (by rw [result_emit m _ _ kept, pool_emit])))
      · exact .inl rfl
  | cancel => exact .inr (.inr (.inl rfl))
  | dropOutput => exact .inl rfl

theorem bothClosed_step (m : Merger) (e : Event) (both : m.pool.bothClosed = true) :
    (m.step e).2.pool.bothClosed = true := by
  rw [Pool.bothClosed_iff] at both ⊢
  intro side
  rw [pool_step]
  exact (isClosed_pooled m e side).mpr (.inl (both side))

section sided

variable {events : List Event} (sided : ∀ e ∈ events, e.side?.isSome = true)

include sided

theorem outputKept_of_sided : (after events).outputKept = true := by
  induction events using List.reverseRecOn with
  | nil => rfl
  | append_singleton past last ih =>
      rw [after_concat]
      apply (outputKept_step _ last).mpr
      refine ⟨ih fun e member => sided e (List.mem_append_left _ member), ?_⟩
      rintro rfl
      simpa [Event.side?] using sided .dropOutput (by simp)

/-- A run of nothing but what two sides send goes on, has seen both ends, or failed as a side did. -/
theorem result_of_sided :
    (after events).result = none ∨
    ((after events).result = some (.ok ()) ∧ (after events).pool.bothClosed = true) ∨
    ∃ side f, .fail side f ∈ events ∧ (after events).result = some (.error f) := by
  induction events using List.reverseRecOn with
  | nil => exact .inl rfl
  | append_singleton past last ih =>
      have earlier : ∀ e ∈ past, e.side?.isSome = true :=
        fun e member => sided e (List.mem_append_left _ member)
      have kept := outputKept_of_sided earlier
      rw [after_concat]
      rcases result_step_cases _ last kept with same | ⟨side, f, now, failed⟩ | stop | fresh
      · rw [same]
        rcases ih earlier with runs | ⟨fine, both⟩ | ⟨side, f, sent, failed⟩
        · exact .inl runs
        · exact .inr (.inl ⟨fine, bothClosed_step _ last both⟩)
        · exact .inr (.inr ⟨side, f, List.mem_append_left _ sent, failed⟩)
      · exact .inr (.inr ⟨side, f, by simp [now], failed⟩)
      · have senderless := sided last (by simp)
        rw [stop] at senderless
        cases senderless
      · rw [fresh]
        cases both : ((after past).step last).2.pool.bothClosed with
        | true => exact .inr (.inl ⟨rfl, rfl⟩)
        | false => exact .inl rfl

end sided

section failing

variable {queues : Facet → List (Outcome Asset)} {side : Facet} {f : Failure}

/-- The end of a queue with a failure in it is never seen. -/
theorem open_of_failing (past rest : List Event) (schedule : Schedule queues (past ++ rest))
    (failing : .error f ∈ queues side) : (after past).pool.isClosed side = false := by
  cases shut : (after past).pool.isClosed side with
  | false => rfl
  | true =>
      exfalso
      obtain ⟨before, tail, split, _, clean⟩ := closed_cleanly_of_closed past side shut
      obtain ⟨items, layout, unclosed, fails⟩ := queueEvents_split side (queues side)
      have whole : (sent side before ++ [.close side]) ++ sent side (tail ++ rest) =
          items ++ [.close side] := by
        rw [← layout, ← schedule.ordered side, split]
        simp [sent, Event.side?]
      have silent := last_of_append _ _ items _ whole unclosed (by simp)
      rw [silent, List.append_nil] at whole
      have all : sent side before = items := List.append_cancel_right whole
      have queued : .fail side f ∈ items := (fails f).mpr failing
      rw [← all] at queued
      exact clean f (List.mem_filter.mp queued).1

theorem fail_mem_of_failing (events : List Event) (schedule : Schedule queues events)
    (failing : .error f ∈ queues side) : .fail side f ∈ events := by
  obtain ⟨items, layout, _, fails⟩ := queueEvents_split side (queues side)
  have whole := schedule.ordered side
  have queued : .fail side f ∈ sent side events := by
    rw [whole, layout]
    exact List.mem_append_left _ ((fails f).mpr failing)
  exact (List.mem_filter.mp queued).1

theorem error_mem_of_fail (events : List Event) (schedule : Schedule queues events)
    (sends : .fail side f ∈ events) : .error f ∈ queues side := by
  obtain ⟨items, layout, _, fails⟩ := queueEvents_split side (queues side)
  have queued : .fail side f ∈ sent side events :=
    List.mem_filter.mpr ⟨sends, by simp [Event.side?]⟩
  rw [schedule.ordered, layout] at queued
  apply (fails f).mp
  simpa using queued

theorem ended_of_failing (events : List Event) (schedule : Schedule queues events)
    (failing : .error f ∈ queues side) : (after events).ended = true := by
  obtain ⟨past, rest, split⟩ := List.append_of_mem (fail_mem_of_failing events schedule failing)
  rw [split] at schedule ⊢
  have unclosed := open_of_failing past _ schedule failing
  have stopped : (after (past ++ [.fail side f])).ended = true := by
    rw [after_concat, step_fail]
    split
    · rfl
    · rename_i silent
      simpa [listens, unclosed] using silent
  have whole : past ++ .fail side f :: rest = past ++ [.fail side f] ++ rest := by simp
  rw [whole, ended, result_after_append _ rest stopped]
  exact stopped

theorem has_of_failing (events : List Event) (schedule : Schedule queues events)
    (failing : .error f ∈ queues side) (a : Asset) (out : a ∈ start.emissions events) :
    a.has side = true := by
  obtain ⟨past, e, rest, split, here⟩ := mem_emissions events a out
  cases present : a.has side with
  | true => rfl
  | false =>
      have shut := closed_of_lacking past e a side here present
      have whole : events = (past ++ [e]) ++ rest := by simp [split]
      rw [whole] at schedule
      rw [open_of_failing _ rest schedule failing] at shut
      cases shut

theorem error_of_failing (events : List Event) (schedule : Schedule queues events)
    (failing : .error f ∈ queues side) :
    ∃ sender g, .error g ∈ queues sender ∧ (after events).result = some (.error g) := by
  rcases result_of_sided schedule.sided with runs | ⟨_, both⟩ | ⟨sender, g, sends, failed⟩
  · have stopped := ended_of_failing events schedule failing
    rw [ended, runs] at stopped
    cases stopped
  · have shut := (Pool.bothClosed_iff _).mp both side
    rw [open_of_failing events [] (by simpa using schedule) failing] at shut
    cases shut
  · exact ⟨sender, g, error_mem_of_fail events schedule sends, failed⟩

end failing

/-- The queues of two listings at which nobody cancels, with receivers that stay. -/
def filled (requests : Facet → Request) (scripts : Facet → Script) (side : Facet) :
    List (Outcome Asset) :=
  (produce (requests side) (scripts side).items true false).queue

/-- If a listing breaks, the merger fails as one of the listings did and has emitted nothing that
lacks the facet of the broken one, unless that listing answered that it was cancelled: then its queue
is the same as if it had come to its end. -/
theorem broken_listing_told (requests : Facet → Request) (scripts : Facet → Script)
    (events : List Event) (schedule : Schedule (filled requests scripts) events) (side : Facet)
    (f : Failure)
    (broken : (produce (requests side) (scripts side).items true false).outcome = .error f) :
    (f ≠ .cancelled →
      (∀ a ∈ start.emissions events, a.has side = true) ∧
      ∃ sender g, (produce (requests sender) (scripts sender).items true false).outcome = .error g ∧
        (after events).result = some (.error g)) ∧
    (f = .cancelled →
      filled requests scripts side =
        (produce (requests side) (Script.items ⟨(scripts side).assets, none⟩) true false).queue) := by
  constructor
  · intro said
    have failing : .error f ∈ filled requests scripts side :=
      (error_mem_queue_iff _ _ f).mpr ⟨broken, said⟩
    refine ⟨has_of_failing events schedule failing, ?_⟩
    obtain ⟨sender, g, queued, failed⟩ := error_of_failing events schedule failing
    exact ⟨sender, g, ((error_mem_queue_iff _ _ g).mp queued).1, failed⟩
  · rintro rfl
    rw [produce_finished]
    exact queue_of_cancelled _ _ broken

def denied : Facet → Script
  | .resource => ⟨sightings .resource, none⟩
  | .policy => ⟨sightings .policy, some (.because .permissionDenied (.stated "denied"))⟩

def disks (side : Facet) : Request := ⟨"projects/1", [Kind.disk], side⟩

theorem broken_listing_told_denied :
    let refusal : Failure :=
      .listing (disks .policy) (.because .permissionDenied (.stated "denied"))
    let events : List Event :=
      [.observe .policy ⟨"b", "disk", [], none, some .null, none⟩,
        .observe .resource ⟨"a", "", [], some .empty, none, none⟩,
        .observe .resource ⟨"b", "", [], some .empty, none, none⟩, .close .resource,
        .observe .policy ⟨"c", "", [], none, none, none⟩, .fail .policy refusal, .close .policy]
    Schedule (filled disks denied) events ∧
    (produce (disks .policy) (denied .policy).items true false).outcome = .error refusal ∧
    (start.emissions events).map (·.name) = ["b"] ∧
    (∀ a ∈ start.emissions events, a.has .policy = true) ∧
    ∃ sender g, (produce (disks sender) (denied sender).items true false).outcome = .error g ∧
      (after events).result = some (.error g) := by
  intro refusal events
  have schedule : Schedule (filled disks denied) events := by
    constructor
    · intro side
      cases side <;> rfl
    · decide
  have told := (broken_listing_told disks denied events schedule .policy refusal rfl).1 (by decide)
  exact ⟨schedule, rfl, rfl, told⟩

/-- A resource leaves without its policy, and all seems well, though the policy listing did not come to
its end. -/
theorem cancelled_listing_not_told :
    let a : Asset := ⟨"a", "", [], some .empty, none, none⟩
    let scripts : Facet → Script := fun
      | .resource => ⟨[a], none⟩
      | .policy => ⟨[], some .cancelled⟩
    let events : List Event := [.observe .resource a, .close .resource, .close .policy]
    Schedule (filled disks scripts) events ∧
    (produce (disks .policy) (scripts .policy).items true false).outcome = .error .cancelled ∧
    start.emissions events = [a] ∧ a.has .policy = false ∧
    (after events).result = some (.ok ()) := by
  intro a scripts events
  refine ⟨⟨?_, by decide⟩, rfl, rfl, rfl, rfl⟩
  intro side
  cases side <;> rfl

end Merger
end CloudCensus
