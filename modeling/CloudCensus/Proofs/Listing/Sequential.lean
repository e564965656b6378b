import CloudCensus.Proofs.Listing.Tasks
import CloudCensus.Proofs.Merge.Ending

namespace CloudCensus

open Merger

namespace Merger

/-- Events that have the effect of others on a merger, and are the same as long as it goes on. -/
structure Agrees (events whole : List Event) : Prop where
  result : (after events).result = (after whole).result
  emissions : start.emissions events = start.emissions whole
  same : (after events).ended = false → events = whole

theorem Agrees.refl (events : List Event) : Agrees events events := ⟨rfl, rfl, fun _ => rfl⟩

/-- Nothing counts that comes after the end. -/
theorem agrees_of_ended (events more : List Event) (stopped : (after events).ended = true) :
    Agrees events (events ++ more) where
  result := (result_after_append events more stopped).symm
  emissions := by
    rw [emissions_append]
    have silent := emissions_of_ended (after events) more stopped
    rw [after] at silent
    rw [silent, List.append_nil]
  same runs := by
    rw [stopped] at runs
    cases runs

theorem Agrees.trans {events mid whole : List Event} (first : Agrees events mid)
    (second : Agrees mid whole) : Agrees events whole where
  result := first.result.trans second.result
  emissions := first.emissions.trans second.emissions
  same runs := by
    obtain rfl := first.same runs
    exact second.same runs

theorem Agrees.append {events whole : List Event} (agrees : Agrees events whole) (more : List Event) :
    Agrees (events ++ more) (whole ++ more) := by
  cases stopped : (after events).ended with
  | false => rw [agrees.same stopped]; exact .refl _
  | true =>
      have stoppedToo : (after whole).ended = true := by
        rw [ended, ← agrees.result]
        exact stopped
      have first := agrees_of_ended events more stopped
      have second := agrees_of_ended whole more stoppedToo
      refine ⟨?_, ?_, ?_⟩
      · rw [← first.result, agrees.result, second.result]
      · rw [← first.emissions, agrees.emissions, second.emissions]
      · intro runs
        rw [ended, ← first.result] at runs
        rw [ended, runs] at stopped
        cases stopped

end Merger

namespace Tasks

variable (requests : Facet → Request) (side : Facet)

theorem run_append (t : Tasks) (front back : List Turn) :
    t.run requests (front ++ back) = (t.run requests front).run requests back :=
  List.foldl_append

theorem run_idle (t : Tasks) (turn : Turn) (idle : t.turn requests turn = t) (n : Nat) :
    t.run requests (List.replicate n turn) = t := by
  induction n with
  | zero => rfl
  | succ n ih =>
      change (t.turn requests turn).run requests (List.replicate n turn) = t
      rw [idle, ih]

theorem length_rest_of_round (request : Request) (kept fired : Bool) (items : List Item)
    (unended : (round request kept fired items).outcome = none) :
    (round request kept fired items).rest.length < items.length := by
  cases fired with
  | true => cases unended
  | false =>
      match items with
      | [] => cases unended
      | .crash :: rest => cases unended
      | .asset a true :: rest => cases unended
      | .asset a false :: rest => cases kept <;> exact Nat.lt_succ_self _
      | .failure e :: rest =>
          by_cases silent : e = .cancelled <;> simp [round, silent] at unended

theorem run_listing (n : Nat) :
    ∀ (t : Tasks) (count : Nat), t.outcome side = none → t.merger.ended = false →
      (t.items side).length < n →
      let p := produceFrom (requests side) true t.fired (t.items side) count
      ∃ rest, t.run requests (List.replicate n (.listing side)) =
        { t with
          items := Function.update t.items side rest
          queue := Function.update t.queue side (t.queue side ++ p.queue)
          outcome := Function.update t.outcome side (some p.outcome.bare)
          fired := p.fired } := by
  induction n with
  | zero =>
      intro t count _ _ enough
      exact absurd enough (Nat.not_lt_zero _)
  | succ n ih =>
      intro t count unended runs enough p
      let r := round (requests side) true t.fired (t.items side)
      let next : Tasks :=
        { t with
          items := Function.update t.items side r.rest
          queue := Function.update t.queue side (t.queue side ++ r.put)
          outcome := Function.update t.outcome side r.outcome
          fired := r.fired }
      have first : t.turn requests (.listing side) = next := by
        rw [turn, unended, if_neg (by simp), runs]
        rfl
      have own : next.outcome side = r.outcome := Function.update_self ..
      have whole := produceFrom_round (requests side) true t.fired (t.items side) count
      dsimp only at whole
      change ∃ rest, (t.turn requests (.listing side)).run requests
        (List.replicate n (.listing side)) = _
      rw [first]
      cases outcome : r.outcome with
      | some o =>
          rw [outcome] at own
          rw [show (round (requests side) true t.fired (t.items side)).outcome = _ from outcome] at whole
          have idle : next.turn requests (.listing side) = next := by
            rw [turn, own]
            exact if_pos rfl
          refine ⟨r.rest, ?_⟩
          rw [run_idle requests next _ idle]
          obtain ⟨ends, fired, queue⟩ := whole
          simp only [p, ends, fired, queue, next, outcome]
          rfl
      | none =>
          rw [outcome] at own
          rw [show (round (requests side) true t.fired (t.items side)).outcome = _ from outcome] at whole
          have shorter : r.rest.length < (t.items side).length := length_rest_of_round _ _ _ _ outcome
          have rest : next.items side = r.rest := Function.update_self ..
          have queued : next.queue side = t.queue side ++ r.put := Function.update_self ..
          obtain ⟨remaining, later⟩ := ih next (count + 1) own runs (by rw [rest]; omega)
          refine ⟨remaining, ?_⟩
          obtain ⟨ends, fired, queue⟩ := whole
          rw [later, rest, queued]
          simp only [p, ends, fired, queue, next, Function.update_idem, List.append_assoc]
          rfl

theorem run_merger (n : Nat) :
    ∀ t : Tasks, t.fired = false → (t.outcome side).isSome = true →
      (t.merger.ended = true ∨ t.merger.pool.isClosed side = false) → (t.queue side).length < n →
      let later := t.run requests (List.replicate n (.merger side))
      later.fired = false ∧ later.outcome = t.outcome ∧
        (∀ other, other ≠ side → later.queue other = t.queue other) ∧
        Agrees later.events (t.events ++ queueEvents side (t.queue side)) := by
  induction n with
  | zero =>
      intro t _ _ _ enough
      exact absurd enough (Nat.not_lt_zero _)
  | succ n ih =>
      intro t calm listed open_ enough later
      by_cases stopped : t.merger.ended = true
      · have idle : t.turn requests (.merger side) = t := by rw [turn, if_pos stopped]
        have same : later = t := run_idle requests t _ idle (n + 1)
        rw [same]
        exact ⟨calm, rfl, fun _ _ => rfl, agrees_of_ended _ _ stopped⟩
      · have unclosed := open_.resolve_left stopped
        have goes : ¬ t.fired = true := by simp [calm]
        have unshut : ¬ t.merger.pool.isClosed side = true := by simp [unclosed]
        cases queue : t.queue side with
        | nil =>
            let next : Tasks := { t with events := t.events ++ [.close side] }
            have first : t.turn requests (.merger side) = next := by
              rw [turn, if_neg stopped, if_neg goes, if_neg unshut, queue]
              exact if_pos listed
            have shut : next.merger.pool.isClosed side = true := by
              have heard : t.merger.listens side = true := by
                simp [listens, Bool.eq_false_iff.mpr stopped, unclosed]
              exact (isClosed_concat _ _ _).mpr (.inr ⟨rfl, heard⟩)
            have idle : next.turn requests (.merger side) = next := by
              rw [turn, if_neg goes, if_pos shut]
              split <;> rfl
            have same : later = next := by
              change (t.turn requests (.merger side)).run requests _ = _
              rw [first, run_idle requests next _ idle]
            rw [same]
            exact ⟨calm, rfl, fun _ _ => rfl, .refl _⟩
        | cons x rest =>
            let next : Tasks :=
              { t with
                queue := Function.update t.queue side rest
                events := t.events ++ [entry side x] }
            have first : t.turn requests (.merger side) = next := by
              rw [turn, if_neg stopped, if_neg goes, if_neg unshut, queue]
            have own : next.queue side = rest := Function.update_self ..
            have still : next.merger.pool.isClosed side = false := by
              rw [← Bool.not_eq_true] at unclosed ⊢
              rw [Tasks.merger, isClosed_concat]
              rintro (before | ⟨closes, _⟩)
              · exact unclosed before
              · cases x <;> cases closes
            have shorter : (next.queue side).length < n := by
              rw [own]
              rw [queue] at enough
              exact Nat.lt_of_succ_lt_succ enough
            obtain ⟨calmStill, same, others, agrees⟩ := ih next calm listed (.inr still) shorter
            have whole : later = next.run requests (List.replicate n (.merger side)) := by
              change (t.turn requests (.merger side)).run requests _ = _
              rw [first]
            rw [whole]
            refine ⟨calmStill, same, ?_, ?_⟩
            · intro other different
              rw [others other different]
              exact Function.update_of_ne different _ _
            · rw [own, List.append_assoc] at agrees
              exact agrees

end Tasks

namespace Merger

theorem ended_of_closes (events : List Event) (closes : ∀ side, .close side ∈ events) :
    (after events).ended = true := by
  rcases exists_first_ending events with unended | ⟨past, e, rest, r, ending⟩
  · have running := running_of_unended events unended
    have both := (Pool.bothClosed_iff _).mpr fun side => (running.closed side).mpr (closes side)
    rw [running.unfinished] at both
    cases both
  · rw [ended, ending.split, ending.result_later]
    rfl

theorem closes_sequential (queues : Facet → List (Outcome Asset)) (side : Facet) :
    .close side ∈ sequential queues := by
  cases side <;> simp [sequential, queueEvents_eq]

theorem unclosed_of_other (side other : Facet) (different : side ≠ other)
    (queue : List (Outcome Asset)) :
    (after (queueEvents other queue)).pool.isClosed side = false := by
  by_contra shut
  obtain ⟨past, rest, split, _, _⟩ :=
    closed_cleanly_of_closed _ side (Bool.not_eq_false _ ▸ shut)
  have closes : .close side ∈ queueEvents other queue := by
    rw [split]
    simp
  have sender := side_of_mem_queueEvents other queue _ closes
  exact different (Option.some.inj sender)

end Merger

namespace Tasks

structure Handed (requests : Facet → Request) (items : Facet → List Item) (before : Bool) (t : Tasks) :
    Prop where
  events : t.events = []
  resources : t.outcome .resource =
    some (produce (requests .resource) (items .resource) true before).outcome.bare
  resourceQueue : t.queue .resource = (produce (requests .resource) (items .resource) true before).queue
  policies : t.outcome .policy =
    some (produce (requests .policy) (items .policy) true
      (produce (requests .resource) (items .resource) true before).fired).outcome.bare
  policyQueue : t.queue .policy =
    (produce (requests .policy) (items .policy) true
      (produce (requests .resource) (items .resource) true before).fired).queue
  fired : t.fired =
    (produce (requests .policy) (items .policy) true
      (produce (requests .resource) (items .resource) true before).fired).fired

theorem run_listings (requests : Facet → Request) (items : Facet → List Item) (before : Bool) :
    ∃ turns, Handed requests items before ((begin items before).run requests turns) := by
  obtain ⟨rest, first⟩ := run_listing requests .resource ((items .resource).length + 1)
    (begin items before) 0 rfl rfl (Nat.lt_succ_self _)
  obtain ⟨back, second⟩ := run_listing requests .policy ((items .policy).length + 1)
    ((begin items before).run requests (List.replicate ((items .resource).length + 1) (.listing .resource)))
    0 (by rw [first]; rfl) (by rw [first]; rfl) (by rw [first]; exact Nat.lt_succ_self _)
  rw [first] at second
  refine ⟨List.replicate ((items .resource).length + 1) (.listing .resource) ++
    List.replicate ((items .policy).length + 1) (.listing .policy), ?_⟩
  rw [run_append, first, second]
  exact ⟨rfl, rfl, rfl, rfl, rfl, rfl⟩

theorem run_mergers (requests : Facet → Request) (t : Tasks) (calm : t.fired = false)
    (fresh : t.events = []) (listed : ∀ side, (t.outcome side).isSome = true) :
    ∃ turns, (t.run requests turns).outcome = t.outcome ∧ (t.run requests turns).fired = false ∧
      Agrees (t.run requests turns).events (sequential t.queue) := by
  obtain ⟨calmStill, same, others, agrees⟩ := run_merger requests .resource
    ((t.queue .resource).length + 1) t calm (listed .resource) (.inr (by rw [merger, fresh]; rfl))
    (Nat.lt_succ_self _)
  let mid := t.run requests (List.replicate ((t.queue .resource).length + 1) (.merger .resource))
  rw [fresh, List.nil_append] at agrees
  have goes : mid.merger.ended = true ∨ mid.merger.pool.isClosed .policy = false := by
    by_cases stopped : mid.merger.ended = true
    · exact .inl stopped
    · refine .inr ?_
      rw [merger, agrees.same (Bool.eq_false_iff.mpr stopped)]
      exact unclosed_of_other .policy .resource (by decide) _
  have queue : mid.queue .policy = t.queue .policy := others .policy (by decide)
  obtain ⟨calmAgain, sameAgain, -, agreesToo⟩ := run_merger requests .policy
    ((t.queue .policy).length + 1) mid calmStill (by rw [same]; exact listed .policy) goes
    (by rw [queue]; exact Nat.lt_succ_self _)
  refine ⟨List.replicate ((t.queue .resource).length + 1) (.merger .resource) ++
    List.replicate ((t.queue .policy).length + 1) (.merger .policy), ?_⟩
  rw [run_append]
  refine ⟨sameAgain.trans same, calmAgain, ?_⟩
  rw [queue] at agreesToo
  exact agreesToo.trans (agrees.append _)

end Tasks

section read

variable (inventory : Inventory) (parent : String) (kinds : List String)

/-- Reading one listing after the other is a run of the tasks that comes to its end. -/
theorem read_runs (before : Bool) :
    let requests (side : Facet) : Request := ⟨parent, kinds, side⟩
    let l := MergedListing.read inventory parent kinds before
    ∃ turns, let t := (Tasks.begin (fun side => inventory (requests side)) before).run requests turns
      t.Done ∧ t.fired = l.fired ∧ t.stages = l.stages ∧ start.emissions t.events = l.assets := by
  intro requests l
  obtain ⟨front, handed⟩ := Tasks.run_listings requests (fun side => inventory (requests side)) before
  let t := (Tasks.begin (fun side => inventory (requests side)) before).run requests front
  have listed : ∀ side, (t.outcome side).isSome = true := by
    intro side
    cases side with
    | resource => exact Option.isSome_of_eq_some handed.resources
    | policy => exact Option.isSome_of_eq_some handed.policies
  have whole : (if t.fired then [Event.cancel] else []) ++ sequential t.queue =
      (if l.fired then [Event.cancel] else []) ++
        queueEvents .resource
          (produce (requests .resource) (inventory (requests .resource)) true before).queue ++
        queueEvents .policy (produce (requests .policy) (inventory (requests .policy)) true
          (produce (requests .resource) (inventory (requests .resource)) true before).fired).queue := by
    rw [sequential, handed.resourceQueue, handed.policyQueue, handed.fired, List.append_assoc]
    rfl
  -- Only the fate of the merger is left, and with it all that is said of the read listing.
  suffices merges : ∃ back, (t.run requests back).outcome = t.outcome ∧
      (t.run requests back).fired = t.fired ∧ (t.run requests back).merger.ended = true ∧
      Agrees (t.run requests back).events
        ((if t.fired then [Event.cancel] else []) ++ sequential t.queue) by
    obtain ⟨back, outcome, fired, stopped, agrees⟩ := merges
    refine ⟨front ++ back, ?_⟩
    rw [Tasks.run_append]
    refine ⟨⟨fun side => by rw [outcome]; exact listed side, stopped⟩, fired.trans handed.fired, ?_, ?_⟩
    · rw [Tasks.stages, outcome, Tasks.merger, agrees.result]
      rw [handed.resources, handed.policies, whole]
      rfl
    · rw [agrees.emissions, whole]
      rfl
  cases fired : t.fired with
  | true =>
      have cancels : t.turn requests (.merger .resource) = { t with events := [.cancel] } := by
        have runs : ¬ t.merger.ended = true := by
          rw [Tasks.merger, handed.events]
          exact Bool.false_ne_true
        rw [Tasks.turn, if_neg runs, if_pos fired, handed.events]
        rfl
      refine ⟨[.merger .resource], ?_⟩
      have same : t.run requests [.merger .resource] = { t with events := [.cancel] } := cancels
      rw [same]
      exact ⟨rfl, fired, rfl, agrees_of_ended [.cancel] (sequential t.queue) rfl⟩
  | false =>
      obtain ⟨back, outcome, calm, agrees⟩ := Tasks.run_mergers requests t fired handed.events listed
      refine ⟨back, outcome, calm, ?_, agrees⟩
      rw [Tasks.merger, ended, agrees.result]
      exact ended_of_closes _ (closes_sequential t.queue)

end read

end CloudCensus
