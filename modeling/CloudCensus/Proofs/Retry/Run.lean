import CloudCensus.Proofs.Retry.Counter
import Mathlib.Order.Nat

/-!
Whole runs of repeated calls.

The first call that succeeds, fails for good or is the last one allowed decides a run.  A cancellation
counts only while another call could still follow.
-/

namespace CloudCensus

namespace Failure

/-- The failures that another call may avoid.  What made a listing break does not count. -/
def Passing (e : Failure) : Prop :=
  ∃ reason detail, e = .because reason detail ∧
    (reason = .resourceExhausted ∨ reason = .deadlineExceeded ∨ reason = .unavailable)

theorem isTransient_iff (e : Failure) : e.isTransient = true ↔ e.Passing := by
  constructor
  · intro transient
    cases e with
    | because reason detail =>
        refine ⟨reason, detail, rfl, ?_⟩
        cases reason <;> simp [isTransient] at transient ⊢
    | cancelled => cases transient
    | listing request source => cases transient
  · rintro ⟨reason, detail, rfl, passing⟩
    rcases passing with rfl | rfl | rfl <;> rfl

end Failure

namespace RetryPolicy

/-- Whether a run ends with the outcome of call number `n`, if it comes to that call. -/
def Decides {α : Type} (p : RetryPolicy) (script : Nat → Outcome α) (n : Nat) : Prop :=
  (∃ v, script n = .ok v) ∨ (∃ e, script n = .error e ∧ ¬ e.Passing) ∨ n = max 1 p.attempts

structure DecidedBy {α : Type} (p : RetryPolicy) (script : Nat → Outcome α) (k : Nat) : Prop where
  positive : 1 ≤ k
  decides : p.Decides script k
  first : ∀ n, 1 ≤ n → n < k → ¬ p.Decides script n

/-- Whether a run is cancelled by the time at which call number `n` would start. -/
def Firing.FiredBy (n : Nat) : Firing → Prop
  | .never => False
  | .beforeRun => True
  | .inCall c => 1 ≤ c ∧ c < n
  | .inPause c => 1 ≤ c ∧ c < n

/-- Whether a run is cancelled in call number `n` or in the pause after it. -/
def Firing.At (n : Nat) (firing : Firing) : Prop := firing = .inCall n ∨ firing = .inPause n

instance (n : Nat) (firing : Firing) : Decidable (firing.At n) := inferInstanceAs (Decidable (_ ∨ _))

section deciding

variable {α : Type} (p : RetryPolicy) (script : Nat → Outcome α)

theorem pauseAfter_of_passing (e : Failure) (n : Nat) (positive : 1 ≤ n) (passing : e.Passing)
    (more : n < p.ceiling) : p.pauseAfter e (n - 1) = some (p.backoff (n - 1)) := by
  have transient : e.isTransient = true := e.isTransient_iff.mpr passing
  have follows : n - 1 + 1 < p.ceiling := by omega
  simp [pauseAfter, transient, follows]

theorem pauseAfter_of_final (e : Failure) (n : Nat) (positive : 1 ≤ n)
    (final : ¬ e.Passing ∨ n = p.ceiling) : p.pauseAfter e (n - 1) = none := by
  rcases final with final | last
  · have lasting : ¬ e.isTransient = true := mt e.isTransient_iff.mp final
    simp [pauseAfter, lasting]
  · have none : ¬ n - 1 + 1 < p.ceiling := by omega
    simp [pauseAfter, none]

theorem exists_decidedBy : ∃ k, p.DecidedBy script k := by
  classical
  have some : ∃ n, 1 ≤ n ∧ p.Decides script n :=
    ⟨max 1 p.attempts, Nat.le_max_left _ _, .inr (.inr rfl)⟩
  refine ⟨Nat.find some, (Nat.find_spec some).1, (Nat.find_spec some).2, ?_⟩
  intro n positive earlier decides
  exact Nat.find_min some earlier ⟨positive, decides⟩

theorem DecidedBy.unique {p : RetryPolicy} {script : Nat → Outcome α} {k other : Nat}
    (decided : p.DecidedBy script k) (too : p.DecidedBy script other) : k = other := by
  have notAfter : ¬ other < k := fun earlier => decided.first other too.positive earlier too.decides
  have notBefore : ¬ k < other := fun earlier => too.first k decided.positive earlier decided.decides
  omega

theorem DecidedBy.le_ceiling {p : RetryPolicy} {script : Nat → Outcome α} {k : Nat}
    (decided : p.DecidedBy script k) : k ≤ p.ceiling := by
  by_contra beyond
  have earlier : p.ceiling < k := by omega
  exact decided.first p.ceiling (Nat.le_max_left _ _) earlier (.inr (.inr rfl))

/-- A call that does not decide a run fails for a passing reason. -/
theorem passing_of_undecided (n : Nat) (undecided : ¬ p.Decides script n) :
    ∃ e, script n = .error e ∧ e.Passing ∧ n ≠ p.ceiling := by
  simp only [Decides, not_or] at undecided
  obtain ⟨failed, passing, notLast⟩ := undecided
  cases outcome : script n with
  | ok v => exact absurd ⟨v, outcome⟩ failed
  | error e =>
      refine ⟨e, rfl, ?_, notLast⟩
      by_contra final
      exact passing ⟨e, outcome, final⟩

end deciding

section scripted

variable {α : Type} (p : RetryPolicy) (script : Nat → Outcome α) (firing : Firing)

theorem runFrom_fired (more n : Nat) :
    runFrom p (scripted script firing) more n true = ⟨.error .cancelled, true, 0, 0, []⟩ := by
  unfold runFrom
  simp [scripted]

theorem runFrom_deciding (more n : Nat) (positive : 1 ≤ n) (decides : p.Decides script n) :
    runFrom p (scripted script firing) more n false =
      ⟨script n, firing = .inCall n, 1, 0, []⟩ := by
  cases outcome : script n with
  | ok v =>
      unfold runFrom
      simp [scripted, outcome]
  | error e =>
      have final : ¬ e.Passing ∨ n = p.ceiling := by
        rcases decides with ⟨v, succeeded⟩ | ⟨other, failed, lasting⟩ | last
        · rw [outcome] at succeeded
          cases succeeded
        · rw [outcome] at failed
          cases failed
          exact .inl lasting
        · exact .inr last
      have noPause := p.pauseAfter_of_final e n positive final
      unfold runFrom
      simp [scripted, outcome, noPause]

theorem runFrom_undecided (more n : Nat) (positive : 1 ≤ n) (below : n < p.ceiling)
    (undecided : ¬ p.Decides script n) :
    runFrom p (scripted script firing) (more + 1) n false =
      if firing.At n then ⟨.error .cancelled, true, 1, 1, []⟩
      else (runFrom p (scripted script firing) more (n + 1) false).after [p.backoff (n - 1)] := by
  obtain ⟨e, outcome, passing, _⟩ := p.passing_of_undecided script n undecided
  have paused := p.pauseAfter_of_passing e n positive passing below
  rw [runFrom]
  by_cases during : firing = .inCall n
  · simp [scripted, outcome, paused, Firing.At, during]
  · by_cases later : firing = .inPause n
    · simp [scripted, outcome, paused, Firing.At, later]
    · simp [scripted, outcome, paused, Firing.At, during, later, Run.after]

theorem runFrom_advance (left more : Nat) :
    ∀ n, 1 ≤ n → n + left + more = p.ceiling →
      (∀ m, n ≤ m → m < n + left → ¬ p.Decides script m ∧ ¬ firing.At m) →
      runFrom p (scripted script firing) (left + more) n false =
        (runFrom p (scripted script firing) more (n + left) false).after
          ((List.range' (n - 1) left).map p.backoff) := by
  induction left with
  | zero =>
      intro n _ _ _
      simp [Run.after]
  | succ left ih =>
      intro n positive bound passes
      have below : n < p.ceiling := by omega
      have here := passes n (Nat.le_refl n) (by omega)
      have rest := ih (n + 1) (by omega) (by omega) (fun m low high => passes m (by omega) (by omega))
      have calls : left + 1 + more = left + more + 1 := by omega
      have place : n + 1 + left = n + (left + 1) := by omega
      have index : n + 1 - 1 = n - 1 + 1 := by omega
      rw [calls, runFrom_undecided p script firing _ n positive below here.1, if_neg here.2, rest,
        place, index, List.range'_succ]
      simp [Run.after, Nat.add_assoc]

variable {k : Nat} (decided : p.DecidedBy script k)

include decided

/-- Where nothing cancels a run before its deciding call, it goes on to that call. -/
theorem runScript_uncut (calm : ¬ firing.FiredBy k) :
    p.runScript script firing =
      ⟨script k, firing = .inCall k, k, k - 1, (List.range (k - 1)).map p.backoff⟩ := by
  have positive := decided.positive
  have within := decided.le_ceiling
  obtain ⟨more, bound⟩ : ∃ more, k + more = p.ceiling := ⟨p.ceiling - k, by omega⟩
  have unfired : decide (firing = .beforeRun) = false := by
    apply decide_eq_false
    rintro rfl
    exact calm trivial
  have passes : ∀ m, 1 ≤ m → m < 1 + (k - 1) → ¬ p.Decides script m ∧ ¬ firing.At m := by
    intro m low high
    refine ⟨decided.first m low (by omega), ?_⟩
    rintro (rfl | rfl)
    · exact calm ⟨low, by omega⟩
    · exact calm ⟨low, by omega⟩
  have calls : p.ceiling - 1 = k - 1 + more := by omega
  have place : 1 + (k - 1) = k := by omega
  rw [runScript, run, unfired, calls,
    runFrom_advance p script firing (k - 1) more 1 (Nat.le_refl 1) (by omega) passes, place,
    runFrom_deciding p script firing more k positive decided.decides]
  simp [Run.after, List.range_eq_range', place]

/-- A cancellation in an earlier call, or in the pause after it, ends the run there. -/
theorem runScript_cut (c : Nat) (positive : 1 ≤ c) (before : c < k) (fires : firing.At c) :
    p.runScript script firing =
      ⟨.error .cancelled, true, c, c, (List.range (c - 1)).map p.backoff⟩ := by
  have within := decided.le_ceiling
  obtain ⟨more, bound⟩ : ∃ more, c + (more + 1) = p.ceiling := ⟨p.ceiling - c - 1, by omega⟩
  have unfired : decide (firing = .beforeRun) = false := by
    rcases fires with rfl | rfl <;> rfl
  have passes : ∀ m, 1 ≤ m → m < 1 + (c - 1) → ¬ p.Decides script m ∧ ¬ firing.At m := by
    intro m low high
    have other : c ≠ m := by omega
    refine ⟨decided.first m low (by omega), ?_⟩
    rcases fires with rfl | rfl <;> simp [Firing.At, other]
  have undecided : ¬ p.Decides script c := decided.first c positive before
  have calls : p.ceiling - 1 = c - 1 + (more + 1) := by omega
  have place : 1 + (c - 1) = c := by omega
  rw [runScript, run, unfired, calls,
    runFrom_advance p script firing (c - 1) (more + 1) 1 (Nat.le_refl 1) (by omega) passes, place,
    runFrom_undecided p script firing more c positive (by omega) undecided, if_pos fires]
  simp [Run.after, List.range_eq_range', place]

end scripted

theorem runScript_fired {α : Type} (p : RetryPolicy) (script : Nat → Outcome α) :
    p.runScript script .beforeRun = ⟨.error .cancelled, true, 0, 0, []⟩ :=
  runFrom_fired p script .beforeRun (p.ceiling - 1) 1

theorem count_ledger {σ α : Type} (r : Run σ α) (method : String) :
    (r.ledger method).count (.retries method) = r.retries := by
  simp [Run.ledger, Ledger.count, total]

/-- A run that is not cancelled before its deciding call makes that call, answers as it does, and has
paused after each call before it.  One that is cancelled earlier ends with the call at which this is
noticed, and the last pause does not count as made.  No run overflows a word that counts its attempts,
if the word can hold the number of attempts allowed. -/
theorem run_decided {α : Type} (p : RetryPolicy) (script : Nat → Outcome α) (firing : Firing) :
    ∃ k, p.DecidedBy script k ∧
      let r := p.runScript script firing
      (¬ firing.FiredBy k →
        r.calls = k ∧ r.result = script k ∧ r.pauses = (List.range (k - 1)).map p.backoff ∧
          ∀ method, (r.ledger method).count (.retries method) = k - 1) ∧
      (∀ c, 1 ≤ c → c < k → firing.At c →
        r.calls = c ∧ r.result = .error .cancelled ∧
          r.pauses = (List.range (c - 1)).map p.backoff ∧
          ∀ method, (r.ledger method).count (.retries method) = c) ∧
      (firing = .beforeRun →
        r.calls = 0 ∧ r.result = .error .cancelled ∧ r.pauses = [] ∧
          ∀ method, (r.ledger method).count (.retries method) = 0) ∧
      (p.attempts < UInt32.size →
        p.counted (scripted script firing) (firing = .beforeRun) = some r) := by
  obtain ⟨k, decided⟩ := p.exists_decidedBy script
  refine ⟨k, decided, ?uncut, ?cut, ?fired, ?counted⟩
  case uncut =>
    intro calm
    have whole := runScript_uncut p script firing decided calm
    simp [count_ledger, whole]
  case cut =>
    intro c positive before fires
    have ended := runScript_cut p script firing decided c positive before fires
    simp [count_ledger, ended]
  case fired =>
    rintro rfl
    simp [count_ledger, runScript_fired]
  case counted =>
    intro fits
    exact counted_eq p fits (scripted script firing) _

def faltering (n : Nat) : Outcome String :=
  if n < 3 then .error (.because .unavailable .foreign) else .ok "answer"

theorem faltering_decided : { standard with attempts := 3 }.DecidedBy faltering 3 where
  positive := by decide
  decides := .inl ⟨"answer", rfl⟩
  first := by
    intro n positive earlier
    have passing : (Failure.because .unavailable .foreign).Passing := ⟨_, _, rfl, .inr (.inr rfl)⟩
    rintro (⟨v, succeeded⟩ | ⟨e, failed, final⟩ | last)
    · simp [faltering, earlier] at succeeded
    · simp only [faltering, earlier, if_true, Except.error.injEq] at failed
      exact final (failed ▸ passing)
    · exact Nat.ne_of_lt earlier last

theorem run_decided_faltering :
    let p := { standard with attempts := 3 }
    (p.runScript faltering (.inCall 3)).result = .ok "answer" ∧
      (p.runScript faltering (.inCall 3)).pauses = [p.backoff 0, p.backoff 1] ∧
      (p.runScript faltering (.inPause 2)).result = .error .cancelled ∧
      (p.runScript faltering (.inPause 2)).calls = 2 ∧
      (p.runScript faltering (.inPause 2)).pauses = [p.backoff 0] ∧
      p.counted (scripted faltering (.inPause 2)) false = some (p.runScript faltering (.inPause 2)) := by
  intro p
  obtain ⟨k, decided, uncut, -⟩ := run_decided p faltering (.inCall 3)
  obtain ⟨other, too, -, cut, -, counts⟩ := run_decided p faltering (.inPause 2)
  obtain rfl := decided.unique faltering_decided
  obtain rfl := too.unique faltering_decided
  have late : ¬ (Firing.inCall 3).FiredBy 3 := fun fired => Nat.lt_irrefl 3 fired.2
  obtain ⟨_, answered, paused, _⟩ := uncut late
  obtain ⟨calls, cancelled, once, _⟩ := cut 2 (by decide) (by decide) (.inr rfl)
  exact ⟨answered, paused, cancelled, calls, once, counts (by decide)⟩

end RetryPolicy
end CloudCensus
