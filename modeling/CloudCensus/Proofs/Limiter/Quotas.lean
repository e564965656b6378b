import CloudCensus.Proofs.Json.Members
import CloudCensus.Proofs.Limiter.Waits
import Mathlib.Tactic.Ring

/-!
Which quotas can be kept.

A quota is kept by giving a permit back after its period divided by its requests, which must be a nanosecond
at least.  Seconds and nanoseconds are divided apart there, and a divisor of zero would stop everything; the
checks in front of the division keep that away.
-/

namespace CloudCensus

theorem ite_some_eq_none_iff {α : Type} {p : Prop} [Decidable p] (a : α) (o : Option α) :
    (if p then some a else o) = none ↔ ¬ p ∧ o = none := by
  by_cases found : p <;> simp [found]

/-- A span divided by a number.  What is left of the seconds is carried over to the nanoseconds; there is no
division by zero. -/
def Duration.over? (d : Duration) (n : Nat) : Option Duration :=
  if n = 0 then none
  else
    let carried := (d.wholeSeconds % n * tenTo 9 + d.restNanos % n) / n
    some ⟨d.wholeSeconds / n * tenTo 9 + (d.restNanos / n + carried)⟩

/-- Dividing with a carry divides the whole. -/
theorem Duration.over?_eq (d : Duration) (n : Nat) (divisor : n ≠ 0) : d.over? n = some ⟨d.nanos / n⟩ := by
  have positive : 0 < n := Nat.pos_of_ne_zero divisor
  have whole : d.nanos = n * (d.wholeSeconds / n * tenTo 9 + d.restNanos / n) +
      (d.wholeSeconds % n * tenTo 9 + d.restNanos % n) := by
    calc d.nanos = d.wholeSeconds * tenTo 9 + d.restNanos := (Nat.div_add_mod' _ _).symm
      _ = (n * (d.wholeSeconds / n) + d.wholeSeconds % n) * tenTo 9 +
          (n * (d.restNanos / n) + d.restNanos % n) := by rw [Nat.div_add_mod, Nat.div_add_mod]
      _ = _ := by ring
  rw [over?, if_neg divisor, whole, Nat.mul_add_div positive, Nat.add_assoc]

namespace Quota

structure Kept (q : Quota) : Prop where
  requests : 1 ≤ q.requests
  burst : 1 ≤ q.burst
  /-- A nanosecond for each request. -/
  period : q.requests ≤ q.period.nanos

theorem problem?_eq_none_iff (q : Quota) : q.problem? = none ↔ q.Kept := by
  have short_iff (requests : 1 ≤ q.requests) : ¬ q.interval.nanos = 0 ↔ q.requests ≤ q.period.nanos := by
    rw [interval, Nat.div_eq_zero_iff_lt requests, Nat.not_lt]
  rw [problem?]
  simp only [ite_some_eq_none_iff, ← Nat.one_le_iff_ne_zero, and_true]
  constructor
  · intro fine
    exact ⟨fine.1, fine.2.1, (short_iff fine.1).mp (Nat.ne_of_gt fine.2.2)⟩
  · intro kept
    exact ⟨kept.requests, kept.burst, Nat.one_le_iff_ne_zero.mpr ((short_iff kept.requests).mpr kept.period)⟩

/-- The interval of a quota or what is wrong with the quota, found in the order of the checks.  A division by
zero leaves nothing. -/
def built? (q : Quota) : Option (Except QuotaProblem Duration) :=
  if q.requests = 0 then some (.error .noRequests)
  else if q.burst = 0 then some (.error .noBurst)
  else (q.period.over? q.requests).map fun interval =>
    if interval.nanos = 0 then .error .noPeriod else .ok interval

theorem built?_eq (q : Quota) :
    q.built? = some (match q.problem? with
      | some problem => .error problem
      | none => .ok q.interval) := by
  rw [built?, problem?]
  by_cases requests : q.requests = 0
  · simp only [if_pos requests]
  · by_cases burst : q.burst = 0
    · simp only [if_neg requests, if_pos burst]
    · have divided : q.period.over? q.requests = some q.interval := q.period.over?_eq q.requests requests
      by_cases short : q.interval.nanos = 0
      · simp only [if_neg requests, if_neg burst, if_pos short, divided, Option.map_some]
      · simp only [if_neg requests, if_neg burst, if_neg short, divided, Option.map_some]

end Quota

namespace Limiter

def built? : List (String × Quota) → Option (Except (String × QuotaProblem) Limiter)
  | [] => some (.ok unlimited)
  | (method, q) :: rest =>
    q.built?.bind fun
      | .error problem => some (.error (method, problem))
      | .ok _ => (built? rest).map fun others => others.map fun l => ⟨(method, q.burst) :: l.permits⟩

/-- No quota table leads to a division by zero. -/
theorem built?_eq (table : List (String × Quota)) : built? table = some (ofQuotas table) := by
  induction table with
  | nil => rfl
  | cons entry rest ih =>
      obtain ⟨method, q⟩ := entry
      rw [built?, ofQuotas, q.built?_eq, Option.bind_some]
      cases q.problem? with
      | some problem => rfl
      | none =>
          rw [ih]
          cases ofQuotas rest <;> rfl

theorem ofQuotas_ok_iff (table : List (String × Quota)) :
    (∃ l, ofQuotas table = .ok l) ↔ ∀ entry ∈ table, entry.2.Kept := by
  induction table with
  | nil => exact ⟨fun _ => nofun, fun _ => ⟨unlimited, rfl⟩⟩
  | cons entry rest ih =>
      obtain ⟨method, q⟩ := entry
      rw [List.forall_mem_cons, ← ih, ← q.problem?_eq_none_iff, ofQuotas]
      cases q.problem? with
      | some problem => simp
      | none => cases ofQuotas rest <;> simp

theorem mem_of_ofQuotas_error (table : List (String × Quota)) (method : String) (problem : QuotaProblem)
    (failed : ofQuotas table = .error (method, problem)) :
    ∃ q, (method, q) ∈ table ∧ q.problem? = some problem := by
  induction table with
  | nil => cases failed
  | cons entry rest ih =>
      obtain ⟨own, q⟩ := entry
      rw [ofQuotas] at failed
      cases found : q.problem? with
      | some reason =>
          rw [found] at failed
          cases failed
          exact ⟨q, List.mem_cons_self, found⟩
      | none =>
          rw [found] at failed
          cases others : ofQuotas rest with
          | ok l =>
              rw [others] at failed
              cases failed
          | error e =>
              rw [others] at failed
              cases failed
              obtain ⟨later, member, wrong⟩ := ih others
              exact ⟨later, List.mem_cons_of_mem _ member, wrong⟩

theorem isThrottled_ofQuotas (table : List (String × Quota)) (l : Limiter)
    (accepted : ofQuotas table = .ok l) (method : String) :
    l.isThrottled method = true ↔ method ∈ table.map (·.1) := by
  have throttled : l.isThrottled method = (table.lookup method).isSome := by
    calc l.isThrottled method = (l.left? method).isSome := rfl
      _ = (table.lookup method).isSome := by
        rw [left?_ofQuotas table l accepted method, Option.isSome_map]
  rw [throttled]
  constructor
  · intro found
    apply Classical.byContradiction
    intro absent
    rw [lookup_eq_none_of_absent absent] at found
    cases found
  · intro member
    rw [Option.isSome_iff_ne_none]
    intro missing
    obtain ⟨entry, inside, same⟩ := List.mem_map.mp member
    have other := List.lookup_eq_none_iff.mp missing entry inside
    simp [same] at other

end Limiter
end CloudCensus
