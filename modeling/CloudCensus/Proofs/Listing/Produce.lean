import CloudCensus.Listing.Produce

namespace CloudCensus

namespace Item

/-- An asset at which nobody cancels the run. -/
def calm (a : Asset) : Item := .asset a false

def complete? : List Item → Option (List Asset)
  | [] => some []
  | .asset a _ :: rest => (complete? rest).map (a :: ·)
  | .failure _ :: _ => none
  | .crash :: _ => none

theorem complete_map_calm (assets : List Asset) : complete? (assets.map calm) = some assets := by
  induction assets with
  | nil => rfl
  | cons a rest ih => exact congrArg (Option.map (a :: ·)) ih

theorem mem_of_complete (items : List Item) (assets : List Asset) (whole : complete? items = some assets)
    (a : Asset) (member : a ∈ assets) : ∃ fires, .asset a fires ∈ items := by
  induction items generalizing assets with
  | nil =>
      cases whole
      cases member
  | cons item rest ih =>
      cases item with
      | failure e => cases whole
      | crash => cases whole
      | asset b fires =>
          obtain ⟨others, ended, rfl⟩ := Option.map_eq_some_iff.mp whole
          rcases List.mem_cons.mp member with rfl | later
          · exact ⟨fires, by simp⟩
          · obtain ⟨other, found⟩ := ih others ended later
            exact ⟨other, List.mem_cons_of_mem _ found⟩

end Item

structure Script where
  assets : List Asset
  failure : Option Failure
  deriving Repr

namespace Script

def items (s : Script) : List Item := s.assets.map .calm ++ s.failure.toList.map .failure

end Script

/-! The ways out of one round, each with what it leaves behind. -/

section rounds

variable (request : Request) (kept : Bool) (rest : List Item) (count : Nat)

theorem produceFrom_fired (items : List Item) :
    produceFrom request kept true items count = ⟨.error .cancelled, [], true, [], 0⟩ := by
  cases items with
  | nil => rfl
  | cons item rest =>
      cases item with
      | asset a fires => rfl
      | failure e => cases e <;> rfl
      | crash => rfl

theorem produceFrom_nil :
    produceFrom request kept false [] count =
      ⟨.ok count, [], false, [(.assetsListed request.facet, count)], 0⟩ := rfl

theorem produceFrom_asset (a : Asset) (fires : Bool) :
    produceFrom request kept false (.asset a fires :: rest) count =
      if fires then ⟨.error .cancelled, [], true, [], 1⟩
      else if kept then (produceFrom request kept false rest (count + 1)).after a
      else ⟨.ok count, [], false, [(.assetsListed request.facet, count)], 1⟩ := rfl

theorem produceFrom_cancelled :
    produceFrom request kept false (.failure .cancelled :: rest) count =
      ⟨.error .cancelled, [], false, [], 1⟩ := rfl

theorem produceFrom_failure (e : Failure) (broken : e ≠ .cancelled) :
    produceFrom request kept false (.failure e :: rest) count =
      ⟨.error (.listing request e), if kept then [.error (.listing request e)] else [], false,
        Ledger.one (.streamErrors request.facet e.label), 1⟩ := by
  cases e with
  | cancelled => exact absurd rfl broken
  | because reason detail => rfl
  | listing inner source => rfl

theorem produceFrom_crash :
    produceFrom request kept false (.crash :: rest) count = ⟨.error .crashed, [], false, [], 1⟩ := rfl

end rounds

/-- The assets in front of the first item at which anything else happens are handed over. -/
theorem produceFrom_calm (request : Request) (assets : List Asset) (rest : List Item) (count : Nat) :
    produceFrom request true false (assets.map .calm ++ rest) count =
      { produceFrom request true false rest (count + assets.length) with
        queue := assets.map .ok ++
          (produceFrom request true false rest (count + assets.length)).queue
        read := (produceFrom request true false rest (count + assets.length)).read +
          assets.length } := by
  induction assets generalizing count with
  | nil => rfl
  | cons a assets ih =>
      have moved : count + 1 + assets.length = count + (a :: assets).length := by
        simp only [List.length_cons]
        omega
      rw [List.map_cons, List.cons_append, Item.calm, produceFrom_asset, if_neg Bool.false_ne_true,
        if_pos rfl, ih, moved]
      simp [Produced.after, Nat.add_assoc]

inductive Ending (items : List Item) (fired : Bool) (count : Nat) (p : Produced) : Prop where
  | cancelled (fires : p.fired = true) (outcome : p.outcome = .error .cancelled)
  | complete (assets : List Asset) (before : fired = false) (calm : p.fired = false)
      (whole : Item.complete? items = some assets) (outcome : p.outcome = .ok (count + assets.length))
      (queue : p.queue = assets.map .ok)
  | broken (e : Failure) (before : fired = false) (calm : p.fired = false)
      (part : Item.complete? items = none) (outcome : p.outcome = .error e)

theorem Ending.after {items : List Item} {count : Nat} {p : Produced} (a : Asset) (fires : Bool)
    (ending : Ending items false (count + 1) p) :
    Ending (.asset a fires :: items) false count (p.after a) := by
  cases ending with
  | cancelled fires outcome => exact .cancelled fires outcome
  | broken e before calm part outcome =>
      exact .broken e before calm (by rw [Item.complete?, part]; rfl) outcome
  | complete assets before calm whole outcome queue =>
      refine .complete (a :: assets) before calm (by rw [Item.complete?, whole]; rfl) ?_ ?_
      · rw [Produced.after, outcome, List.length_cons]
        congr 1
        omega
      · rw [Produced.after, queue, List.map_cons]

theorem produceFrom_ending (request : Request) (items : List Item) (fired : Bool) (count : Nat) :
    Ending items fired count (produceFrom request true fired items count) := by
  cases fired with
  | true =>
      rw [produceFrom_fired]
      exact .cancelled rfl rfl
  | false =>
      -- Only a run that is not cancelled goes on, so the recursion stays in this case.
      induction items generalizing count with
      | nil => exact .complete [] rfl rfl rfl rfl rfl
      | cons item rest ih =>
          cases item with
          | crash =>
              rw [produceFrom_crash]
              exact .broken .crashed rfl rfl rfl rfl
          | failure e =>
              by_cases silent : e = .cancelled
              · rw [silent, produceFrom_cancelled]
                exact .broken .cancelled rfl rfl rfl rfl
              · rw [produceFrom_failure _ _ _ _ _ silent]
                exact .broken _ rfl rfl rfl rfl
          | asset a fires =>
              rw [produceFrom_asset]
              cases fires with
              | true => exact .cancelled rfl rfl
              | false => exact (ih (count + 1)).after a false

theorem fired_produceFrom (request : Request) (kept : Bool) (items : List Item) (count : Nat)
    (quiet : ∀ a, .asset a true ∉ items) : (produceFrom request kept false items count).fired = false := by
  induction items generalizing count with
  | nil => rfl
  | cons item rest ih =>
      cases item with
      | crash => rfl
      | failure e => cases e <;> rfl
      | asset a fires =>
          cases fires with
          | true => exact absurd List.mem_cons_self (quiet a)
          | false =>
              rw [produceFrom_asset]
              cases kept with
              | false => rfl
              | true => exact ih (count + 1) fun b later => quiet b (List.mem_cons_of_mem _ later)

theorem received_of_broken (assets : List Asset) (fails : List Failure) :
    received (assets.map .ok ++ fails.map .error) = assets := by
  induction assets with
  | nil => cases fails <;> rfl
  | cons a assets ih => exact congrArg (a :: ·) ih

@[simp] theorem received_map_ok (assets : List Asset) : received (assets.map .ok) = assets := by
  simpa using received_of_broken assets []

theorem produce_finished (request : Request) (assets : List Asset) :
    produce request (Script.items ⟨assets, none⟩) true false =
      ⟨.ok assets.length, assets.map .ok, false, [(.assetsListed request.facet, assets.length)],
        assets.length⟩ := by
  change produceFrom request true false (assets.map .calm ++ []) 0 = _
  rw [produceFrom_calm, produceFrom_nil]
  simp

/-- A listing that answers that it was cancelled leaves no word of that in the queue. -/
theorem produce_cancelled (request : Request) (assets : List Asset) :
    produce request (Script.items ⟨assets, some .cancelled⟩) true false =
      ⟨.error .cancelled, assets.map .ok, false, [], assets.length + 1⟩ := by
  simp [produce, Script.items, produceFrom_calm, produceFrom_cancelled, Nat.add_comm]

theorem produce_broken (request : Request) (assets : List Asset) (e : Failure)
    (broken : e ≠ .cancelled) :
    produce request (Script.items ⟨assets, some e⟩) true false =
      ⟨.error (.listing request e), assets.map .ok ++ [.error (.listing request e)], false,
        Ledger.one (.streamErrors request.facet e.label), assets.length + 1⟩ := by
  simp [produce, Script.items, produceFrom_calm, produceFrom_failure _ _ _ _ _ broken, Nat.add_comm]

end CloudCensus
