import CloudCensus.Proofs.Retry.Run

/-!
Runs of callers with a state of their own.

What every call keeps, a run keeps.  As long as a caller answers one outcome after the other and is not
cancelled, the script alone decides the run, and the state tells only how many calls there were.
-/

namespace CloudCensus.RetryPolicy

variable {σ τ α : Type}

theorem zero_add_ceiling (p : RetryPolicy) : 0 + 1 + (p.ceiling - 1) = p.ceiling := by
  unfold ceiling
  omega

/-- What every call and pause keeps holds at the end of a run, and before the call that succeeds. -/
theorem runFrom_induction (p : RetryPolicy) (c : Caller σ α) {motive : σ → Prop}
    (call : ∀ n s, motive s → motive (c.call n s).2) (wait : ∀ n s, motive s → motive (c.wait n s))
    (more : Nat) :
    ∀ n s, n + 1 + more = p.ceiling → motive s →
      motive (runFrom p c more (n + 1) s).state ∧
        ∀ v, (runFrom p c more (n + 1) s).result = .ok v →
          ∃ m before, motive before ∧ c.call m before = (.ok v, (runFrom p c more (n + 1) s).state) := by
  induction more using Nat.strongRecOn with
  | ind more ih =>
      intro n s bound holds
      rw [runFrom_round p c n more s bound]
      cases c.fired s with
      | true => exact ⟨holds, nofun⟩
      | false =>
          have kept := call (n + 1) s holds
          rcases called : c.call (n + 1) s with ⟨e | v, after⟩
          · rw [called] at kept
            cases paused : p.pauseAfter e n with
            | none =>
                simp only [paused, Bool.false_eq_true, if_false]
                exact ⟨kept, nofun⟩
            | some pause =>
                have below := lt_ceiling_of_pause p e n pause paused
                have waited := wait (n + 1) after kept
                have rest := ih (more - 1) (by omega) (n + 1) (c.wait (n + 1) after) (by omega) waited
                simp only [paused, Bool.false_eq_true, if_false]
                cases c.fired after with
                | true => exact ⟨kept, nofun⟩
                | false =>
                    cases c.fired (c.wait (n + 1) after) with
                    | true => exact ⟨waited, nofun⟩
                    | false => exact rest
          · rw [called] at kept
            refine ⟨kept, ?_⟩
            rintro _ ⟨⟩
            exact ⟨n + 1, s, holds, called⟩

theorem run_induction (p : RetryPolicy) (c : Caller σ α) {motive : σ → Prop}
    (call : ∀ n s, motive s → motive (c.call n s).2) (wait : ∀ n s, motive s → motive (c.wait n s))
    (s : σ) (first : motive s) :
    motive (p.run c s).state ∧
      ∀ v, (p.run c s).result = .ok v →
        ∃ n before, motive before ∧ c.call n before = (.ok v, (p.run c s).state) :=
  runFrom_induction p c call wait (p.ceiling - 1) 0 s (zero_add_ceiling p) first

/-- The caller answers call number `n`, made in the state `states n`, as the script does. -/
structure Follows (c : Caller σ α) (script : Nat → Outcome α) (states : Nat → σ) : Prop where
  call : ∀ n, 1 ≤ n → c.call n (states n) = (script n, states (n + 1))
  wait : ∀ n, c.wait n (states (n + 1)) = states (n + 1)
  calm : ∀ n, c.fired (states n) = false

def Run.ending (s : τ) (r : Run σ α) : Run τ α :=
  ⟨r.result, s, r.calls, r.retries, r.pauses⟩

variable (p : RetryPolicy) {c : Caller σ α} {script : Nat → Outcome α} {states : Nat → σ}

theorem scripted_follows : Follows (scripted script .never) script fun _ => false where
  call n _ := by simp [scripted]
  wait n := by simp [scripted]
  calm _ := rfl

theorem runFrom_of_follows (follows : Follows c script states) (n more : Nat)
    (bound : n + 1 + more = p.ceiling) :
    runFrom p c more (n + 1) (states (n + 1)) =
      match script (n + 1) with
      | .ok v => ⟨.ok v, states (n + 2), 1, 0, []⟩
      | .error e =>
        match p.pauseAfter e n with
        | none => ⟨.error e, states (n + 2), 1, 0, []⟩
        | some pause => (runFrom p c (more - 1) (n + 2) (states (n + 2))).after [pause] := by
  rw [runFrom_round p c n more _ bound, follows.calm, follows.call (n + 1) (Nat.le_add_left 1 n),
    if_neg Bool.false_ne_true]
  cases script (n + 1) with
  | ok v => rfl
  | error e =>
      cases paused : p.pauseAfter e n <;> simp [paused, follows.calm, follows.wait]

/-- Callers that follow one script make the same calls and pauses. -/
theorem runFrom_eq_of_follows {d : Caller τ α} {twins : Nat → τ} (follows : Follows c script states)
    (too : Follows d script twins) (more : Nat) :
    ∀ n, n + 1 + more = p.ceiling →
      runFrom p c more (n + 1) (states (n + 1)) =
        let r := runFrom p d more (n + 1) (twins (n + 1))
        r.ending (states (n + 1 + r.calls)) := by
  induction more using Nat.strongRecOn with
  | ind more ih =>
      intro n bound
      rw [runFrom_of_follows p follows n more bound, runFrom_of_follows p too n more bound]
      cases script (n + 1) with
      | ok v => rfl
      | error e =>
          cases paused : p.pauseAfter e n with
          | none => simp [paused, Run.ending]
          | some pause =>
              have below := lt_ceiling_of_pause p e n pause paused
              have rest := ih (more - 1) (by omega) (n + 1) (by omega)
              simp only [paused, rest, Run.after, Run.ending]
              rw [Nat.add_assoc (n + 1) 1, Nat.add_comm 1]
              rfl

theorem run_of_follows (follows : Follows c script states) {k : Nat} (decided : p.DecidedBy script k) :
    p.run c (states 1) =
      ⟨script k, states (k + 1), k, k - 1, (List.range (k - 1)).map p.backoff⟩ := by
  have whole := runScript_uncut p script .never decided (by simp [Firing.FiredBy])
  have unfired : decide (Firing.never = .beforeRun) = false := rfl
  have same := runFrom_eq_of_follows p follows scripted_follows _ 0 (zero_add_ceiling p)
  rw [runScript, run, unfired] at whole
  simp only [Nat.zero_add] at same
  rw [run, same, whole]
  simp [Run.ending, Nat.add_comm]

end CloudCensus.RetryPolicy
