import CloudCensus.Proofs.Ledger
import CloudCensus.Proofs.Limiter
import CloudCensus.Proofs.Steps

namespace CloudCensus.Limiter

abbrev Call := String × Bool

def turn (l : Limiter) (c : Call) : Waited × Limiter := (l.wait c.1 c.2, (l.wait c.1 c.2).limiter)

def after (l : Limiter) (past : List Call) : Limiter := (Steps.run turn l past).2

def waitsOn (method : String) (c : Call) : Bool := c.1 = method

/-- What a caller and the counters see of a wait on a method, and the permits that it leaves to the
method. -/
def Waited.seen (method : String) (w : Waited) : Wait × Ledger × Option Nat :=
  (w.answer, w.ledger, w.limiter.left? method)

theorem waits_eq (l : Limiter) (calls : List Call) : l.waits calls = (Steps.run turn l calls).1 := by
  induction calls generalizing l with
  | nil => rfl
  | cons c rest ih => exact congrArg (l.wait c.1 c.2 :: ·) (ih _)

theorem left?_ofQuotas (table : List (String × Quota)) (l : Limiter) (accepted : ofQuotas table = .ok l)
    (method : String) : l.left? method = (table.lookup method).map (·.burst) := by
  induction table generalizing l with
  | nil =>
      cases accepted
      rfl
  | cons entry rest ih =>
      obtain ⟨own, q⟩ := entry
      rw [ofQuotas] at accepted
      split at accepted
      · cases accepted
      · split at accepted
        · rename_i others made
          cases accepted
          have later := ih others made
          simp only [left?, List.lookup_cons] at later ⊢
          split
          · rfl
          · exact later
        · cases accepted

theorem wait_unthrottled (l : Limiter) (method : String) (fired : Bool) (none_left : l.left? method = none) :
    l.wait method fired = ⟨.ready, l, []⟩ := by
  rw [left?] at none_left
  simp only [wait, none_left]

theorem wait_spent (l : Limiter) (method : String) (fired : Bool) (spent : l.left? method = some 0) :
    l.wait method fired =
      ⟨if fired then .ready else .blocked, l, Ledger.one (.limiterWaits method)⟩ := by
  rw [left?] at spent
  simp only [wait, spent]

theorem wait_permitted (l : Limiter) (method : String) (fired : Bool) (n : Nat)
    (permitted : l.left? method = some (n + 1)) :
    l.wait method fired = ⟨.ready, l.take method, Ledger.one (.limiterWaits method)⟩ := by
  rw [left?] at permitted
  simp only [wait, permitted]

theorem left?_after (l : Limiter) (past : List Call) (method : String) :
    (l.after past).left? method = (l.left? method).map (· - past.countP (waitsOn method)) := by
  refine Steps.state_induction (motive := fun (before : List Call) (k : Limiter) =>
    k.left? method = (l.left? method).map (· - before.countP (waitsOn method))) l (by simp) past ?_
  intro before c rest _ earlier
  change (Limiter.wait _ c.1 c.2).limiter.left? method = _
  rw [left?_wait, earlier, List.countP_append, List.countP_singleton]
  by_cases own : method = c.1
  · simp [own, waitsOn, Option.map_map, Function.comp_def, Nat.sub_sub]
  · have foreign : waitsOn method c = false := by simp [waitsOn, Ne.symm own]
    simp [own, foreign]

theorem waits_at (l : Limiter) (past rest : List Call) (c : Call) :
    (l.waits (past ++ c :: rest))[past.length]? = some ((l.after past).wait c.1 c.2) := by
  rw [waits_eq, Steps.reply_at]
  rfl

theorem seen_congr (l k : Limiter) (method : String) (fired : Bool) (same : l.left? method = k.left? method) :
    (l.wait method fired).seen method = (k.wait method fired).seen method := by
  have left : (l.wait method fired).limiter.left? method = (k.wait method fired).limiter.left? method := by
    rw [left?_wait, left?_wait, same]
  rw [Waited.seen, left]
  cases permits : l.left? method with
  | none =>
      have permitsToo : k.left? method = none := same ▸ permits
      simp [Waited.seen, wait_unthrottled, permits, permitsToo]
  | some n =>
      have permitsToo : k.left? method = some n := same ▸ permits
      cases n with
      | zero => simp [Waited.seen, wait_spent, permits, permitsToo]
      | succ n => simp [Waited.seen, wait_permitted l _ _ n permits, wait_permitted k _ _ n permitsToo]

/-- What is seen of the waits on a method does not depend on the other calls. -/
theorem heard_waits (l : Limiter) (method : String) (calls : List Call) :
    (Steps.heard (waitsOn method) calls (l.waits calls)).map (Waited.seen method) =
      (l.waits (calls.filter (waitsOn method))).map (Waited.seen method) := by
  rw [waits_eq, waits_eq]
  refine Steps.heard_alone (waitsOn method) (Waited.seen method)
    (fun l k => l.left? method = k.left? method) ?own ?other l l rfl calls
  case own =>
    intro l k c same kind
    obtain ⟨called, fired⟩ := c
    obtain rfl : called = method := by simpa [waitsOn] using kind
    have seen := seen_congr l k called fired same
    exact ⟨seen, congrArg (·.2.2) seen⟩
  case other =>
    intro l k c same kind
    have foreign : method ≠ c.1 := by
      rintro rfl
      simp [waitsOn] at kind
    change (Limiter.wait _ c.1 c.2).limiter.left? method = _
    rw [left?_wait, if_neg foreign, same]

theorem count_waits (l : Limiter) (method : String) (calls : List Call) :
    Ledger.count ((l.waits calls).flatMap (·.ledger)) (.limiterWaits method) =
      if l.isThrottled method then calls.countP (waitsOn method) else 0 := by
  induction calls generalizing l with
  | nil => simp [waits, Ledger.count, total]
  | cons c rest ih =>
      obtain ⟨called, fired⟩ := c
      have still : (l.wait called fired).limiter.isThrottled method = l.isThrottled method := by
        have left := congrArg Option.isSome (left?_wait l called method fired)
        refine left.trans ?_
        split <;> simp [isThrottled, left?]
      rw [waits, List.flatMap_cons, Ledger.count_append, ih, still, ledger_wait, List.countP_cons]
      by_cases own : called = method
      · by_cases throttled : l.isThrottled method
        · simp [own, throttled, waitsOn, Ledger.count, total, Nat.add_comm]
        · simp [own, throttled, Ledger.count, total]
      · have apart : Ledger.count (if l.isThrottled called then [(.limiterWaits called, 1)] else [])
            (.limiterWaits method) = 0 := by
          split
          · exact Ledger.count_of_ne _ _ 1 (by simpa using own)
          · rfl
        simp [apart, waitsOn, own]

/-- What becomes of the waits on a method that may be called so many times back to back, or has no quota. -/
structure Serves (l : Limiter) (calls : List Call) (method : String) (burst? : Option Nat) : Prop where
  unlimited : burst? = none → ∀ past fired rest, calls = past ++ (method, fired) :: rest →
    (l.waits calls)[past.length]? = some ⟨.ready, l.after past, []⟩
  /-- The first waits are ready and take a permit each, whether the run is cancelled or not. -/
  permitted : ∀ burst, burst? = some burst →
    ∀ past fired rest, calls = past ++ (method, fired) :: rest → past.countP (waitsOn method) < burst →
      (l.waits calls)[past.length]? =
          some ⟨.ready, (l.after past).take method, Ledger.one (.limiterWaits method)⟩ ∧
        (l.after past).left? method = some (burst - past.countP (waitsOn method)) ∧
        ((l.after past).take method).left? method = some (burst - (past.countP (waitsOn method) + 1))
  /-- After them a cancelled run goes ahead and any other is blocked; nothing is taken. -/
  spent : ∀ burst, burst? = some burst →
    ∀ past fired rest, calls = past ++ (method, fired) :: rest → burst ≤ past.countP (waitsOn method) →
      (l.waits calls)[past.length]? =
        some ⟨if fired then .ready else .blocked, l.after past, Ledger.one (.limiterWaits method)⟩
  counted : Ledger.count ((l.waits calls).flatMap (·.ledger)) (.limiterWaits method) =
    if burst?.isSome then calls.countP (waitsOn method) else 0
  apart : (Steps.heard (waitsOn method) calls (l.waits calls)).map (Waited.seen method) =
    (l.waits (calls.filter (waitsOn method))).map (Waited.seen method)

/-- In every sequence of calls while no time passes, a limiter of a quota table lets each method be called
as often as its quota allows back to back, counts the waits on methods with a quota and no others, and keeps
the methods apart. -/
theorem serves_quotas (table : List (String × Quota)) (l : Limiter) (accepted : ofQuotas table = .ok l)
    (calls : List Call) (method : String) :
    Serves l calls method ((table.lookup method).map (·.burst)) := by
  have permits := left?_ofQuotas table l accepted method
  rw [← permits]
  refine ⟨?unlimited, ?permitted, ?spent, count_waits l method calls, heard_waits l method calls⟩
  case unlimited =>
    intro free past fired rest split
    have left : (l.after past).left? method = none := by simp [left?_after, free]
    rw [split, waits_at]
    exact congrArg some (wait_unthrottled _ _ _ left)
  case permitted =>
    intro burst quota past fired rest split fits
    have left : (l.after past).left? method = some (burst - past.countP (waitsOn method)) := by
      rw [left?_after, quota]
      rfl
    refine ⟨?_, left, ?_⟩
    · have some_left : burst - past.countP (waitsOn method) =
          burst - past.countP (waitsOn method) - 1 + 1 := by omega
      rw [split, waits_at]
      exact congrArg some (wait_permitted _ _ _ _ (left.trans (congrArg some some_left)))
    · rw [left?_take, if_pos rfl, left]
      exact congrArg some (Nat.sub_sub _ _ _)
  case spent =>
    intro burst quota past fired rest split used
    have left : (l.after past).left? method = some 0 := by
      rw [left?_after, quota, Option.map_some, Nat.sub_eq_zero_of_le used]
    rw [split, waits_at]
    exact congrArg some (wait_spent _ _ _ left)

def mixedCalls : List Call :=
  [("a", true), ("b", false), ("c", false), ("a", false), ("a", false), ("a", true), ("b", true)]

theorem serves_quotas_mixed :
    let table : List (String × Quota) := [("a", ⟨120, ⟨60000000000⟩, 2⟩), ("b", ⟨1, ⟨1000000000⟩, 1⟩)]
    let l : Limiter := ⟨[("a", 2), ("b", 1)]⟩
    ofQuotas table = .ok l ∧
      (l.waits mixedCalls)[2]? = some ⟨.ready, ⟨[("a", 1), ("b", 0)]⟩, []⟩ ∧
      (l.waits mixedCalls)[3]? =
        some ⟨.ready, ⟨[("a", 0), ("b", 0)]⟩, Ledger.one (.limiterWaits "a")⟩ ∧
      (l.waits mixedCalls)[4]? =
        some ⟨.blocked, ⟨[("a", 0), ("b", 0)]⟩, Ledger.one (.limiterWaits "a")⟩ ∧
      Ledger.count ((l.waits mixedCalls).flatMap (·.ledger)) (.limiterWaits "a") = 4 ∧
      ((l.waits (mixedCalls.filter (waitsOn "b"))).map (Waited.seen "b")).length = 2 := by
  intro table l
  have accepted : ofQuotas table = .ok l := by decide
  have shared := serves_quotas table l accepted mixedCalls
  refine ⟨accepted, ?_, ?_, ?_, (shared "a").counted, ?_⟩
  · exact (shared "c").unlimited rfl (mixedCalls.take 2) false (mixedCalls.drop 3) rfl
  · exact ((shared "a").permitted 2 rfl (mixedCalls.take 3) false (mixedCalls.drop 4) rfl (by decide)).1
  · exact (shared "a").spent 2 rfl (mixedCalls.take 4) false (mixedCalls.drop 5) rfl (by decide)
  · rw [← (shared "b").apart]
    rfl

end CloudCensus.Limiter
