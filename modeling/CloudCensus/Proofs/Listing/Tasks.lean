import CloudCensus.Proofs.Listing.Breaking
import CloudCensus.Proofs.Listing.Rounds
import Mathlib.Logic.Function.Basic

/-!
The tasks of a merged listing, taking turns in any order.

Two listings put what they are given into their queues, and the merger takes it out.  A merger that has
ended leaves the queues without a receiver, which stops a listing at its next asset.
-/

namespace CloudCensus

structure Round where
  put : List (Outcome Asset)
  outcome : Option (Outcome Unit)
  fired : Bool
  rest : List Item

def round (request : Request) (kept fired : Bool) (items : List Item) : Round :=
  if fired then ⟨[], some (.error .cancelled), true, items⟩
  else
    match items with
    | [] => ⟨[], some (.ok ()), false, []⟩
    | .asset a fires :: rest =>
      if fires then ⟨[], some (.error .cancelled), true, rest⟩
      else if kept then ⟨[.ok a], none, false, rest⟩
      else ⟨[], some (.ok ()), false, rest⟩
    | .failure e :: rest =>
      if e = .cancelled then ⟨[], some (.error .cancelled), false, rest⟩
      else
        ⟨if kept then [.error (.listing request e)] else [], some (.error (.listing request e)), false,
          rest⟩
    | .crash :: rest => ⟨[], some (.error .crashed), false, rest⟩

theorem produceFrom_round (request : Request) (kept fired : Bool) (items : List Item) (count : Nat) :
    let r := round request kept fired items
    let p := produceFrom request kept fired items count
    match r.outcome with
    | some o => p.outcome.bare = o ∧ p.fired = r.fired ∧ p.queue = r.put
    | none =>
      let later := produceFrom request kept r.fired r.rest (count + 1)
      p.outcome = later.outcome ∧ p.fired = later.fired ∧ p.queue = r.put ++ later.queue := by
  cases fired with
  | true =>
      rw [produceFrom_fired]
      exact ⟨rfl, rfl, rfl⟩
  | false =>
      match items with
      | [] => exact ⟨rfl, rfl, rfl⟩
      | .crash :: rest => exact ⟨rfl, rfl, rfl⟩
      | .asset a true :: rest => exact ⟨rfl, rfl, rfl⟩
      | .asset a false :: rest => cases kept <;> exact ⟨rfl, rfl, rfl⟩
      | .failure e :: rest =>
          by_cases silent : e = .cancelled
          · rw [silent]
            exact ⟨rfl, rfl, rfl⟩
          · rw [produceFrom_failure _ _ _ _ _ silent]
            simp [round, silent, Outcome.bare]

namespace Merger

def entry (side : Facet) : Outcome Asset → Event
  | .ok a => .observe side a
  | .error e => .fail side e

theorem queueEvents_eq (side : Facet) (queue : List (Outcome Asset)) :
    queueEvents side queue = queue.map (entry side) ++ [.close side] := rfl

theorem side_entry (side : Facet) (x : Outcome Asset) : (entry side x).side? = some side := by
  cases x <;> rfl

theorem sent_concat_own (side : Facet) (past : List Event) (e : Event) (own : e.side? = some side) :
    sent side (past ++ [e]) = sent side past ++ [e] := by
  rw [sent_append]
  simp [sent, own]

theorem sent_concat_other (side : Facet) (past : List Event) (e : Event) (other : e.side? ≠ some side) :
    sent side (past ++ [e]) = sent side past := by
  rw [sent_append]
  simp [sent, other]

theorem ended_concat (past : List Event) (e : Event) (stopped : (after past).ended = true) :
    (after (past ++ [e])).ended = true := by
  rw [ended, result_after_append past [e] stopped]
  exact stopped

theorem isClosed_concat (past : List Event) (e : Event) (side : Facet) :
    (after (past ++ [e])).pool.isClosed side = true ↔
      (after past).pool.isClosed side = true ∨ (e = .close side ∧ (after past).listens side = true) := by
  rw [after_concat, pool_step]
  exact isClosed_pooled _ e side

end Merger

open Merger

structure Tasks where
  /-- What the listings have not been given yet. -/
  items : Facet → List Item
  /-- What the merger has not taken yet. -/
  queue : Facet → List (Outcome Asset)
  outcome : Facet → Option (Outcome Unit)
  events : List Event
  fired : Bool

/-- A choice of the task that goes on, and for the merger of the queue that it looks at. -/
inductive Turn where
  | listing (side : Facet)
  | merger (side : Facet)

namespace Tasks

def begin (items : Facet → List Item) (fired : Bool) : Tasks := ⟨items, fun _ => [], fun _ => none, [], fired⟩

def merger (t : Tasks) : Merger := after t.events

def turn (requests : Facet → Request) (t : Tasks) : Turn → Tasks
  | .listing side =>
    if (t.outcome side).isSome then t
    else
      let r := round (requests side) (!t.merger.ended) t.fired (t.items side)
      { t with
        items := Function.update t.items side r.rest
        queue := Function.update t.queue side (t.queue side ++ r.put)
        outcome := Function.update t.outcome side r.outcome
        fired := r.fired }
  | .merger side =>
    if t.merger.ended then t
    else if t.fired then { t with events := t.events ++ [.cancel] }
    else if t.merger.pool.isClosed side then t
    else
      match t.queue side with
      | x :: rest =>
        { t with queue := Function.update t.queue side rest, events := t.events ++ [entry side x] }
      | [] => if (t.outcome side).isSome then { t with events := t.events ++ [.close side] } else t

def run (requests : Facet → Request) (t : Tasks) (turns : List Turn) : Tasks :=
  turns.foldl (turn requests) t

def Done (t : Tasks) : Prop := (∀ side, (t.outcome side).isSome = true) ∧ t.merger.ended = true

def stages (t : Tasks) : List (Outcome Unit) :=
  [(t.outcome .resource).getD (.ok ()), (t.outcome .policy).getD (.ok ()), t.merger.result.getD (.ok ())]

def said (t : Tasks) (side : Facet) : List Event :=
  sent side t.events ++ (t.queue side).map (entry side)

end Tasks

inductive Stage (request : Request) (side : Facet) (whole : List Item) (t : Tasks) : Prop where
  | running (assets : List Asset) (unended : t.outcome side = none)
      (split : whole = assets.map .calm ++ t.items side)
      (said : t.said side = assets.map (.observe side))
  /-- Stopped because the run was cancelled or the merger had ended. -/
  | stopped (assets : List Asset) (o : Outcome Unit) (outcome : t.outcome side = some o)
      (late : t.fired = true ∨ t.merger.ended = true)
      (fair : t.fired = true ∨ o = .ok () ∨ ∃ f, o = .error f ∧ Item.Breaks request whole f)
      (said : t.said side = assets.map (.observe side))
  /-- Ended by itself, and told if the merger has taken all that it put. -/
  | ended (assets : List Asset) (o : Outcome Unit) (fails : List Failure)
      (outcome : t.outcome side = some o) (comes : Item.Comes request whole assets o fails)
      (said : t.said side = assets.map (.observe side) ++ fails.map (.fail side) ∨
        t.merger.pool.isClosed side = true ∧ t.queue side = [] ∧
          sent side t.events = assets.map (.observe side) ++ fails.map (.fail side) ++ [.close side])

section

variable {request : Request} {side : Facet} {whole : List Item} {t later : Tasks}

/-- What other tasks do leaves a listing where it is. -/
theorem Stage.mono (stage : Stage request side whole t) (items : later.items side = t.items side)
    (queue : later.queue side = t.queue side) (outcome : later.outcome side = t.outcome side)
    (same : sent side later.events = sent side t.events)
    (fired : t.fired = true → later.fired = true)
    (ended : t.merger.ended = true → later.merger.ended = true)
    (closed : t.merger.pool.isClosed side = true → later.merger.pool.isClosed side = true) :
    Stage request side whole later := by
  have alike : later.said side = t.said side := by rw [Tasks.said, Tasks.said, same, queue]
  cases stage with
  | running assets unended split said =>
      exact .running assets (outcome.trans unended) (by rw [items, split]) (alike.trans said)
  | stopped assets o ends late fair said =>
      refine .stopped assets o (outcome.trans ends) (late.imp fired ended) ?_ (alike.trans said)
      exact fair.imp fired id
  | ended assets o fails ends comes said =>
      refine .ended assets o fails (outcome.trans ends) comes ?_
      rcases said with pending | ⟨shut, empty, told⟩
      · exact .inl (alike.trans pending)
      · exact .inr ⟨closed shut, queue.trans empty, same.trans told⟩

structure Listed (side : Facet) (t later : Tasks) (r : Round) : Prop where
  items : later.items side = r.rest
  outcome : later.outcome side = r.outcome
  fired : later.fired = r.fired
  events : later.events = t.events
  said : later.said side = t.said side ++ r.put.map (entry side)

theorem turn_listing (requests : Facet → Request) (unended : t.outcome side = none) :
    Listed side t (t.turn requests (.listing side))
      (round (requests side) (!t.merger.ended) t.fired (t.items side)) := by
  rw [Tasks.turn, unended, if_neg (by simp)]
  refine ⟨Function.update_self .., Function.update_self .., rfl, rfl, ?_⟩
  simp [Tasks.said, Function.update_self]

theorem stage_of_round {assets : List Asset}
    (listed : Listed side t later (round request (!t.merger.ended) t.fired (t.items side)))
    (split : whole = assets.map .calm ++ t.items side) (said : t.said side = assets.map (.observe side)) :
    Stage request side whole later := by
  have merger : later.merger = t.merger := by rw [Tasks.merger, listed.events, Tasks.merger]
  obtain ⟨items, outcome, fired, -, put⟩ := listed
  rw [said] at put
  cases already : t.fired with
  | true =>
      rw [already] at outcome fired put
      exact .stopped assets _ outcome (.inl fired) (.inl fired) (by simpa [round] using put)
  | false =>
      rw [already] at items outcome fired put
      cases given : t.items side with
      | nil =>
          rw [given] at outcome put split
          exact .ended assets _ [] outcome ⟨[], split, .finished⟩ (.inl (by simpa [round] using put))
      | cons item rest =>
          rw [given] at items outcome fired put split
          cases item with
          | crash =>
              exact .ended assets _ [] outcome ⟨_, split, .crashed rest⟩
                (.inl (by simpa [round] using put))
          | failure e =>
              by_cases silent : e = .cancelled
              · simp only [round, silent, Bool.false_eq_true, if_false, if_true] at outcome put
                rw [silent] at split
                exact .ended assets _ [] outcome ⟨_, split, .cancelled rest⟩ (.inl (by simpa using put))
              · have comes : Item.Comes request whole assets _ _ := ⟨_, split, .broken e rest silent⟩
                simp only [round, silent, Bool.false_eq_true, if_false] at outcome put
                cases receives : t.merger.ended with
                | true =>
                    have late : later.merger.ended = true := merger ▸ receives
                    rw [receives] at put
                    exact .stopped assets _ outcome (.inr late) (.inr (.inr ⟨_, rfl, assets, _, comes⟩))
                      (by simpa using put)
                | false =>
                    rw [receives] at put
                    exact .ended assets _ _ outcome comes (.inl (by simpa [entry] using put))
          | asset a fires =>
              cases fires with
              | true =>
                  simp only [round, Bool.false_eq_true, if_false, if_true] at outcome fired put
                  exact .stopped assets _ outcome (.inl fired) (.inl fired) (by simpa using put)
              | false =>
                  cases receives : t.merger.ended with
                  | true =>
                      have late : later.merger.ended = true := merger ▸ receives
                      simp only [round, receives, Bool.false_eq_true, Bool.not_true, if_false]
                        at outcome put
                      exact .stopped assets _ outcome (.inr late) (.inr (.inl rfl)) (by simpa using put)
                  | false =>
                      simp only [round, receives, Bool.false_eq_true, Bool.not_false, if_false, if_true]
                        at items outcome put
                      refine .running (assets ++ [a]) outcome ?_ ?_
                      · simpa [items, Item.calm] using split
                      · simpa [entry] using put

end

inductive Merges (side : Facet) (t : Tasks) : Tasks → Prop where
  | idle : Merges side t t
  | cancels (fired : t.fired = true) : Merges side t { t with events := t.events ++ [.cancel] }
  | takes (x : Outcome Asset) (rest : List (Outcome Asset)) (runs : t.merger.ended = false)
      (calm : t.fired = false) (queue : t.queue side = x :: rest) :
      Merges side t
        { t with queue := Function.update t.queue side rest, events := t.events ++ [entry side x] }
  | closes (runs : t.merger.ended = false) (calm : t.fired = false)
      (unclosed : t.merger.pool.isClosed side = false) (empty : t.queue side = [])
      (ended : (t.outcome side).isSome = true) :
      Merges side t { t with events := t.events ++ [.close side] }

theorem turn_merger (requests : Facet → Request) (t : Tasks) (side : Facet) :
    Merges side t (t.turn requests (.merger side)) := by
  by_cases stopped : t.merger.ended = true
  · rw [Tasks.turn, if_pos stopped]
    exact .idle
  · by_cases fired : t.fired = true
    · rw [Tasks.turn, if_neg stopped, if_pos fired]
      exact .cancels fired
    · by_cases shut : t.merger.pool.isClosed side = true
      · rw [Tasks.turn, if_neg stopped, if_neg fired, if_pos shut]
        exact .idle
      · have runs := Bool.eq_false_iff.mpr stopped
        have calm := Bool.eq_false_iff.mpr fired
        have unclosed := Bool.eq_false_iff.mpr shut
        rw [Tasks.turn, if_neg stopped, if_neg fired, if_neg shut]
        cases queue : t.queue side with
        | cons x rest => exact .takes x rest runs calm queue
        | nil =>
            dsimp only
            split
            · rename_i ended
              exact .closes runs calm unclosed queue ended
            · exact .idle

section

variable {request : Request} {side owner : Facet} {whole : List Item} {t later : Tasks}

theorem Stage.takes (stage : Stage request side whole t) (x : Outcome Asset)
    (rest : List (Outcome Asset)) (queue : t.queue side = x :: rest) :
    Stage request side whole
      { t with queue := Function.update t.queue side rest, events := t.events ++ [entry side x] } := by
  have same : Tasks.said
      { t with queue := Function.update t.queue side rest, events := t.events ++ [entry side x] } side =
      t.said side := by
    simp [Tasks.said, sent_concat_own side _ _ (side_entry side x), queue]
  have stays : t.merger.ended = true → (after (t.events ++ [entry side x])).ended = true :=
    ended_concat _ _
  cases stage with
  | running assets unended split said => exact .running assets unended split (same.trans said)
  | stopped assets o ends late fair said =>
      exact .stopped assets o ends (late.imp id stays) fair (same.trans said)
  | ended assets o fails ends comes said =>
      rcases said with pending | ⟨_, empty, _⟩
      · exact .ended assets o fails ends comes (.inl (same.trans pending))
      · rw [queue] at empty
        cases empty

theorem Stage.closes (stage : Stage request side whole t) (runs : t.merger.ended = false)
    (calm : t.fired = false) (unclosed : t.merger.pool.isClosed side = false)
    (empty : t.queue side = []) (ended : (t.outcome side).isSome = true) :
    Stage request side whole { t with events := t.events ++ [.close side] } := by
  cases stage with
  | running assets unended split said =>
      rw [unended] at ended
      cases ended
  | stopped assets o ends late fair said =>
      rcases late with fired | stopped
      · rw [calm] at fired
        cases fired
      · rw [runs] at stopped
        cases stopped
  | ended assets o fails ends comes said =>
      rcases said with pending | ⟨shut, _, _⟩
      · refine .ended assets o fails ends comes (.inr ⟨?_, empty, ?_⟩)
        · have heard : t.merger.listens side = true := by simp [listens, runs, unclosed]
          exact (isClosed_concat _ _ _).mpr (.inr ⟨rfl, heard⟩)
        · rw [Tasks.said, empty, List.map_nil, List.append_nil] at pending
          rw [← pending]
          exact sent_concat_own side _ _ rfl
      · rw [unclosed] at shut
        cases shut

theorem Stage.merges (stage : Stage request side whole t) (merges : Merges owner t later) :
    Stage request side whole later := by
  -- Only what the merger takes from the listing's own queue concerns it.
  have aside (e : Event) (other : e.side? ≠ some side) (queues : Facet → List (Outcome Asset))
      (queue : queues side = t.queue side) :
      Stage request side whole { t with queue := queues, events := t.events ++ [e] } :=
    stage.mono rfl queue rfl (sent_concat_other side _ e other) id (ended_concat _ _)
      fun shut => (isClosed_concat _ _ _).mpr (.inl shut)
  cases merges with
  | idle => exact stage
  | cancels _ => exact aside .cancel (by simp [Event.side?]) t.queue rfl
  | takes x rest runs calm queue =>
      by_cases own : owner = side
      · rw [own] at queue ⊢
        exact stage.takes x rest queue
      · have different : side ≠ owner := Ne.symm own
        refine aside _ ?_ _ (Function.update_of_ne different _ _)
        rw [side_entry]
        simpa using own
  | closes runs calm unclosed empty ended =>
      by_cases own : owner = side
      · rw [own] at unclosed empty ended ⊢
        exact stage.closes runs calm unclosed empty ended
      · refine aside _ ?_ t.queue rfl
        simpa [Event.side?] using own

theorem fired_of_round {kept : Bool} {items : List Item} (fired : Bool)
    (calm : (round request kept fired items).fired = false) : fired = false := by
  cases fired with
  | false => rfl
  | true => cases calm

theorem Stage.no_failure (stage : Stage request side whole t) (fine : t.outcome side = some (.ok ()))
    (f : Failure) : .fail side f ∉ t.events := by
  intro sends
  have own : .fail side f ∈ sent side t.events := List.mem_filter.mpr ⟨sends, by simp [Event.side?]⟩
  have told : .fail side f ∈ t.said side := List.mem_append_left _ own
  cases stage with
  | running assets unended split said =>
      rw [fine] at unended
      cases unended
  | stopped assets o ends late fair said => simp [said] at told
  | ended assets o fails ends comes said =>
      obtain rfl : o = .ok () := Option.some.inj (ends.symm.trans fine)
      obtain rfl := comes.fails_eq_nil
      rcases said with pending | ⟨_, _, all⟩
      · simp [pending] at told
      · simp [all] at own

/-- A listing that ended well and whose end was seen has told of all its assets. -/
theorem Stage.all_told (stage : Stage request side whole t) (fine : t.outcome side = some (.ok ()))
    (shut : t.merger.pool.isClosed side = true) :
    ∃ assets : List Asset, whole = assets.map .calm ∧
      sent side t.events = assets.map (.observe side) ++ [.close side] := by
  obtain ⟨past, rest, split, _, _⟩ := closed_cleanly_of_closed t.events side shut
  have own : .close side ∈ sent side t.events :=
    List.mem_filter.mpr ⟨by rw [split]; simp, by simp [Event.side?]⟩
  have told : .close side ∈ t.said side := List.mem_append_left _ own
  cases stage with
  | running assets unended split said =>
      rw [fine] at unended
      cases unended
  | stopped assets o ends late fair said => simp [said] at told
  | ended assets o fails ends comes said =>
      obtain rfl : o = .ok () := Option.some.inj (ends.symm.trans fine)
      obtain rfl := comes.fails_eq_nil
      rcases said with pending | ⟨_, _, all⟩
      · simp [pending] at told
      · exact ⟨assets, comes.eq_calm, by simpa using all⟩

theorem Stage.fair (stage : Stage request side whole t) (calm : t.fired = false)
    (done : (t.outcome side).isSome = true) :
    t.outcome side = some (.ok ()) ∨
      ∃ f, t.outcome side = some (.error f) ∧ Item.Breaks request whole f := by
  cases stage with
  | running assets unended split said =>
      rw [unended] at done
      cases done
  | stopped assets o ends late fair said =>
      rcases fair with fired | rfl | ⟨f, rfl, breaks⟩
      · rw [calm] at fired
        cases fired
      · exact .inl ends
      · exact .inr ⟨f, ends, breaks⟩
  | ended assets o fails ends comes said =>
      cases o with
      | ok u => exact .inl ends
      | error f => exact .inr ⟨f, ends, assets, fails, comes⟩

end

section run

variable {requests : Facet → Request} {items : Facet → List Item} {t : Tasks}

structure Sound (requests : Facet → Request) (items : Facet → List Item) (t : Tasks) : Prop where
  stage : ∀ side, Stage (requests side) side (items side) t
  sided : t.fired = false → ∀ e ∈ t.events, e.side?.isSome = true

theorem sound_begin (requests : Facet → Request) (items : Facet → List Item) (fired : Bool) :
    Sound requests items (.begin items fired) where
  stage _ := .running [] rfl rfl rfl
  sided _ := nofun

theorem Sound.listing (sound : Sound requests items t) (side : Facet) (unended : t.outcome side = none) :
    Sound requests items (t.turn requests (.listing side)) := by
  have listed := turn_listing requests unended
  constructor
  · intro owner
    by_cases own : owner = side
    · rw [own]
      cases sound.stage side with
      | running assets _ split said => exact stage_of_round listed split said
      | stopped assets o ends _ _ _ =>
          rw [unended] at ends
          cases ends
      | ended assets o fails ends _ _ =>
          rw [unended] at ends
          cases ends
    · have events := listed.events
      have merger : (t.turn requests (.listing side)).merger = t.merger := congrArg after events
      have aside : (t.turn requests (.listing side)).items owner = t.items owner ∧
          (t.turn requests (.listing side)).queue owner = t.queue owner ∧
          (t.turn requests (.listing side)).outcome owner = t.outcome owner := by
        rw [Tasks.turn, unended, if_neg (by simp)]
        exact ⟨Function.update_of_ne own _ _, Function.update_of_ne own _ _,
          Function.update_of_ne own _ _⟩
      refine (sound.stage owner).mono aside.1 aside.2.1 aside.2.2 (by rw [events]) ?_ ?_ ?_
      · intro fired
        rw [listed.fired, fired]
        rfl
      · rw [merger]
        exact id
      · rw [merger]
        exact id
  · intro calm
    rw [listed.fired] at calm
    rw [listed.events]
    exact sound.sided (fired_of_round t.fired calm)

theorem Sound.turn (sound : Sound requests items t) (turn : Turn) :
    Sound requests items (t.turn requests turn) := by
  cases turn with
  | listing side =>
      cases ends : t.outcome side with
      | none => exact sound.listing side ends
      | some o =>
          have idle : t.turn requests (.listing side) = t := by
            rw [Tasks.turn, ends]
            exact if_pos rfl
          rw [idle]
          exact sound
  | merger side =>
      have merges := turn_merger requests t side
      generalize t.turn requests (.merger side) = later at merges ⊢
      refine ⟨fun owner => (sound.stage owner).merges merges, ?_⟩
      cases merges with
      | idle => exact sound.sided
      | cancels fired =>
          intro calm
          rw [fired] at calm
          cases calm
      | takes x rest _ calm _ =>
          intro _
          refine List.forall_mem_append.mpr ⟨sound.sided calm, ?_⟩
          simp [side_entry]
      | closes _ calm _ _ _ =>
          intro _
          refine List.forall_mem_append.mpr ⟨sound.sided calm, ?_⟩
          simp [Event.side?]

theorem sound_run (sound : Sound requests items t) (turns : List Turn) :
    Sound requests items (t.run requests turns) := by
  induction turns generalizing t with
  | nil => exact sound
  | cons turn rest ih => exact ih (sound.turn turn)

end run

end CloudCensus
