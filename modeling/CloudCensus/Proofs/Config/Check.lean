import CloudCensus.Config.Check
import CloudCensus.Proofs.Limiter.Quotas
import CloudCensus.Proofs.Number.Order

namespace CloudCensus.Config

structure InRange (c : Config) : Prop where
  capacity : 1 ≤ c.capacity
  attempts : 1 ≤ c.retry.attempts
  multiplier : c.retry.multiplier.isFinite = true ∧ 1 ≤ c.retry.multiplier.value
  pauses : c.retry.initialMillis ≤ c.retry.longestMillis
  timeout : 1 ≤ c.endpoints.timeoutSeconds

/-- The multipliers that are refused are those that shrink and those that are no numbers. -/
theorem badMultiplier_iff (x : Binary64) :
    (!x.isFinite || x.lt .one) = true ↔ ¬ (x.isFinite = true ∧ 1 ≤ x.value) := by
  cases finite : x.isFinite with
  | false => simp
  | true =>
      have less : x.lt .one = true ↔ x.value < 1 := by
        rw [Binary64.lt_finite_iff x .one finite (by decide +kernel), Binary64.value_one]
      simp [less]

theorem valueProblem?_eq_none_iff (c : Config) : c.valueProblem? = none ↔ c.InRange := by
  rw [valueProblem?]
  simp only [ite_some_eq_none_iff, badMultiplier_iff, not_not, Nat.not_lt, ← Nat.one_le_iff_ne_zero, and_true]
  constructor
  · intro fine
    exact ⟨fine.1, fine.2.1, fine.2.2.1, fine.2.2.2.1, fine.2.2.2.2⟩
  · intro fine
    exact ⟨fine.capacity, fine.attempts, fine.multiplier, fine.pauses, fine.timeout⟩

section quotas

variable (c : Config)

theorem limiter_ok_iff : (∃ l, c.limiter = .ok l) ↔ ∀ entry ∈ c.quotas, entry.2.quota.Kept := by
  rw [limiter, Limiter.ofQuotas_ok_iff]
  simp only [List.forall_mem_map]

theorem isThrottled_limiter (l : Limiter) (made : c.limiter = .ok l) (method : String) :
    l.isThrottled method = true ↔ method ∈ c.quotas.map (·.1) := by
  rw [Limiter.isThrottled_ofQuotas _ l made, List.map_map]
  rfl

theorem mem_of_limiter_error (method : String) (problem : QuotaProblem)
    (failed : c.limiter = .error (method, problem)) :
    ∃ q, (method, q) ∈ c.quotas ∧ q.quota.problem? = some problem := by
  obtain ⟨quota, member, wrong⟩ := Limiter.mem_of_ofQuotas_error _ method problem failed
  obtain ⟨entry, inside, same⟩ := List.mem_map.mp member
  cases same
  exact ⟨entry.2, inside, wrong⟩

theorem check_ok_iff : c.check = .ok () ↔ c.InRange ∧ ∃ l, c.limiter = .ok l := by
  rw [← valueProblem?_eq_none_iff, check]
  cases c.valueProblem? with
  | some problem => simp
  | none => cases c.limiter <;> simp

end quotas

/-- The check passes exactly the configurations with all values in range, and for each quota a request, a
burst and a nanosecond per request at least.  These have a limiter, which throttles the methods of the
quota table and no others.  Where only quotas are wrong the failure names one of them.  No quota ever leads
to a division by zero. -/
theorem check_decides (c : Config) :
    (c.check = .ok () ↔ c.InRange ∧ ∀ entry ∈ c.quotas, entry.2.quota.Kept) ∧
    (c.check = .ok () → ∃ l, c.limiter = .ok l ∧
      ∀ method, l.isThrottled method = true ↔ method ∈ c.quotas.map (·.1)) ∧
    (c.InRange → c.check ≠ .ok () → ∃ method q problem, c.check = .error (.badQuota method problem) ∧
      (method, q) ∈ c.quotas ∧ ¬ q.quota.Kept ∧ q.quota.problem? = some problem) ∧
    Limiter.built? (c.quotas.map fun (method, q) => (method, q.quota)) = some c.limiter := by
  refine ⟨?passes, ?limits, ?names, Limiter.built?_eq _⟩
  case passes => rw [check_ok_iff, limiter_ok_iff]
  case limits =>
    intro passed
    obtain ⟨l, made⟩ := ((check_ok_iff c).mp passed).2
    exact ⟨l, made, isThrottled_limiter c l made⟩
  case names =>
    intro values refused
    have fine : c.valueProblem? = none := (valueProblem?_eq_none_iff c).mpr values
    cases made : c.limiter with
    | ok l => exact absurd ((check_ok_iff c).mpr ⟨values, l, made⟩) refused
    | error e =>
        obtain ⟨method, problem⟩ := e
        obtain ⟨q, member, wrong⟩ := mem_of_limiter_error c method problem made
        refine ⟨method, q, problem, by simp only [check, fine, made], member, ?_, wrong⟩
        intro kept
        rw [q.quota.problem?_eq_none_iff.mpr kept] at wrong
        cases wrong

def tight (requests : Nat) : Config :=
  { ofScope (.project "p") with quotas := [("a", ⟨1000000000, 1, 1⟩), ("b", ⟨requests, 2, 1⟩)] }

theorem check_decides_at_limit :
    (∃ l, (tight 2000000000).limiter = .ok l ∧
      (∀ method, l.isThrottled method = true ↔ method ∈ ["a", "b"])) ∧
    (tight 2000000001).InRange ∧ (tight 2000000001).check ≠ .ok () ∧
    ∃ method q problem, (tight 2000000001).check = .error (.badQuota method problem) ∧
      (method, q) ∈ (tight 2000000001).quotas ∧ ¬ q.quota.Kept ∧ q.quota.problem? = some problem := by
  have passes : (tight 2000000000).check = .ok () := by decide +kernel
  have values : (tight 2000000001).InRange :=
    (valueProblem?_eq_none_iff _).mp (by decide +kernel)
  have refused : (tight 2000000001).check ≠ .ok () := by decide +kernel
  exact ⟨(check_decides (tight 2000000000)).2.1 passes, values, refused,
    (check_decides (tight 2000000001)).2.2.1 values refused⟩

end CloudCensus.Config
