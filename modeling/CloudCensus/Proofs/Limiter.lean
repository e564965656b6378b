import CloudCensus.Limiter
import Mathlib.Logic.Function.Iterate

namespace CloudCensus.Limiter

def left? (l : Limiter) (method : String) : Option Nat := List.lookup method l.permits

def waited (method : String) (l : Limiter) : Limiter := (l.wait method false).limiter

theorem left?_take (l : Limiter) (method other : String) :
    (l.take method).left? other =
      if other = method then (l.left? other).map (· - 1) else l.left? other := by
  obtain ⟨permits⟩ := l
  simp only [left?, take]
  induction permits with
  | nil => simp
  | cons entry rest ih =>
      obtain ⟨m, n⟩ := entry
      by_cases own : m = method
      · by_cases same : other = m
        · simp [own, same ▸ own]
        · have test : (other == m) = false := by simpa using same
          have foreign : (other == method) = false := own ▸ test
          simpa [own, List.lookup_cons, foreign] using ih
      · by_cases same : other = m
        · have different : ¬ other = method := fun eq => own (same.symm.trans eq)
          simp [own, same]
        · have test : (other == m) = false := by simpa using same
          simpa [own, List.lookup_cons, test] using ih

theorem limiter_wait_of_none (l : Limiter) (method : String) (fired : Bool)
    (empty : (l.left? method).getD 0 = 0) : (l.wait method fired).limiter = l := by
  rw [left?] at empty
  cases permits : List.lookup method l.permits with
  | none => simp [wait, permits]
  | some n =>
      rw [permits] at empty
      obtain rfl : n = 0 := empty
      simp [wait, permits]

/-- A wait takes a permit of its own method, if there is one, and of no other. -/
theorem left?_wait (l : Limiter) (method other : String) (fired : Bool) :
    (l.wait method fired).limiter.left? other =
      if other = method then (l.left? other).map (· - 1) else l.left? other := by
  by_cases empty : (l.left? method).getD 0 = 0
  · rw [limiter_wait_of_none l method fired empty]
    split
    · rename_i same
      rw [same]
      cases left : l.left? method with
      | none => rfl
      | some n =>
          rw [left] at empty
          obtain rfl : n = 0 := empty
          rfl
    · rfl
  · have taken : (l.wait method fired).limiter = l.take method := by
      rw [left?] at empty
      cases permits : List.lookup method l.permits with
      | none => simp [permits] at empty
      | some n =>
          cases n with
          | zero => simp [permits] at empty
          | succ n => simp [wait, permits]
    rw [taken]
    exact left?_take l method other

theorem left?_iterate_waited (l : Limiter) (method other : String) (n : Nat) :
    ((waited method)^[n] l).left? other =
      if other = method then (l.left? other).map (· - n) else l.left? other := by
  induction n with
  | zero => simp
  | succ n ih =>
      rw [Function.iterate_succ_apply', waited, left?_wait, ih]
      split
      · cases l.left? other <;> simp [Nat.sub_sub]
      · rfl

theorem isThrottled_iterate_waited (l : Limiter) (method : String) (n : Nat) :
    ((waited method)^[n] l).isThrottled method = l.isThrottled method := by
  have same := left?_iterate_waited l method method n
  rw [if_pos rfl] at same
  have alike : ((waited method)^[n] l).isThrottled method =
      ((l.left? method).map (· - n)).isSome := congrArg Option.isSome same
  rw [alike, Option.isSome_map]
  rfl

theorem ledger_wait (l : Limiter) (method : String) (fired : Bool) :
    (l.wait method fired).ledger =
      if l.isThrottled method then [(.limiterWaits method, 1)] else [] := by
  cases permits : List.lookup method l.permits with
  | none => simp [wait, isThrottled, permits]
  | some n => cases n <;> simp [wait, isThrottled, permits, Ledger.one]

end CloudCensus.Limiter
