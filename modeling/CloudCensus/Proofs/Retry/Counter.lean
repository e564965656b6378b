import CloudCensus.Retry

/-!
Runs that count their attempts in a machine word of 32 bits.

Counting stops short of the greatest word, so that such a run is the run of `RetryPolicy.run`.
-/

namespace CloudCensus.RetryPolicy

def Run.after {σ α : Type} (pauses : List Duration) (r : Run σ α) : Run σ α :=
  ⟨r.result, r.state, r.calls + pauses.length, r.retries + pauses.length, pauses ++ r.pauses⟩

def saturatingNext (word : UInt32) : UInt32 :=
  if word.toNat + 1 < UInt32.size then word + 1 else word

theorem toNat_next (word : UInt32) (room : word.toNat + 1 < UInt32.size) :
    (word + 1).toNat = word.toNat + 1 := by
  rw [UInt32.toNat_add]
  exact Nat.mod_eq_of_lt room

section counted

variable {σ α : Type} (p : RetryPolicy) (limit : UInt32) (c : Caller σ α)

/-- Makes the call after `attempt` failed ones and those that follow it.  The next word is wanted as soon
as a pause is due, and a word that overflows leaves no run. -/
def countedFrom (attempt : UInt32) (s : σ) : Option (Run σ α) :=
  if c.fired s then some ⟨.error .cancelled, s, 0, 0, []⟩
  else
    match c.call (attempt.toNat + 1) s with
    | (.ok v, s) => some ⟨.ok v, s, 1, 0, []⟩
    | (.error e, s) =>
      if !e.isTransient || limit ≤ saturatingNext attempt then some ⟨.error e, s, 1, 0, []⟩
      else if _ : attempt.toNat + 1 < UInt32.size then
        if c.fired s then some ⟨.error .cancelled, s, 1, 1, []⟩
        else
          let s := c.wait (attempt.toNat + 1) s
          if c.fired s then some ⟨.error .cancelled, s, 1, 1, []⟩
          else (countedFrom (attempt + 1) s).map (.after [p.backoff attempt.toNat])
      else none
termination_by UInt32.size - attempt.toNat
decreasing_by
  rename_i room _ _
  have next := toNat_next attempt room
  omega

end counted

def counted {σ α : Type} (p : RetryPolicy) (c : Caller σ α) (s : σ) : Option (Run σ α) :=
  countedFrom p (max 1 (UInt32.ofNat p.attempts)) c 0 s

theorem toNat_saturatingNext (word : UInt32) :
    (saturatingNext word).toNat = min (word.toNat + 1) (UInt32.size - 1) := by
  have bound := word.toNat_lt
  have size : UInt32.size = 2 ^ 32 := rfl
  unfold saturatingNext
  split
  · rename_i room
    rw [toNat_next word room]
    omega
  · omega

theorem lt_ceiling_of_pause (p : RetryPolicy) (e : Failure) (attempt : Nat) (pause : Duration)
    (paused : p.pauseAfter e attempt = some pause) : attempt + 1 < p.ceiling := by
  by_cases more : attempt + 1 < p.ceiling
  · exact more
  · simp [pauseAfter, more] at paused

theorem runFrom_round {σ α : Type} (p : RetryPolicy) (c : Caller σ α) (n more : Nat) (s : σ)
    (bound : n + 1 + more = p.ceiling) :
    runFrom p c more (n + 1) s =
      if c.fired s then ⟨.error .cancelled, s, 0, 0, []⟩
      else
        match c.call (n + 1) s with
        | (.ok v, s) => ⟨.ok v, s, 1, 0, []⟩
        | (.error e, s) =>
          match p.pauseAfter e n with
          | none => ⟨.error e, s, 1, 0, []⟩
          | some pause =>
            if c.fired s then ⟨.error .cancelled, s, 1, 1, []⟩
            else if c.fired (c.wait (n + 1) s) then
              ⟨.error .cancelled, c.wait (n + 1) s, 1, 1, []⟩
            else (runFrom p c (more - 1) (n + 2) (c.wait (n + 1) s)).after [pause] := by
  rw [runFrom]
  cases c.fired s with
  | true => rfl
  | false =>
      obtain ⟨outcome, after⟩ := c.call (n + 1) s
      cases outcome with
      | ok v => rfl
      | error e =>
          cases paused : p.pauseAfter e n with
          | none => simp [paused]
          | some pause =>
              have goesOn := lt_ceiling_of_pause p e n pause paused
              obtain ⟨fewer, rfl⟩ : ∃ fewer, more = fewer + 1 := ⟨more - 1, by omega⟩
              simp [paused, Run.after]

section fitting

variable (p : RetryPolicy) (fits : p.attempts < UInt32.size)

include fits

theorem toNat_ceiling : (max 1 (UInt32.ofNat p.attempts)).toNat = p.ceiling := by
  have word : (UInt32.ofNat p.attempts).toNat = p.attempts := UInt32.toNat_ofNat_of_lt' fits
  change (if 1 ≤ UInt32.ofNat p.attempts then UInt32.ofNat p.attempts else 1).toNat = _
  by_cases one : 1 ≤ UInt32.ofNat p.attempts
  · have some : 1 ≤ p.attempts := by simpa [UInt32.le_iff_toNat_le, word] using one
    rw [if_pos one, word, ceiling]
    omega
  · have none : ¬ 1 ≤ p.attempts := by simpa [UInt32.le_iff_toNat_le, word] using one
    rw [if_neg one, UInt32.toNat_one, ceiling]
    omega

theorem pauseAfter_word (e : Failure) (attempt : UInt32) :
    p.pauseAfter e attempt.toNat =
      if !e.isTransient || max 1 (UInt32.ofNat p.attempts) ≤ saturatingNext attempt then none
      else some (p.backoff attempt.toNat) := by
  have size : UInt32.size = 2 ^ 32 := rfl
  have small : p.ceiling < UInt32.size := by
    unfold ceiling
    omega
  have reached : max 1 (UInt32.ofNat p.attempts) ≤ saturatingNext attempt ↔
      ¬ attempt.toNat + 1 < p.ceiling := by
    rw [UInt32.le_iff_toNat_le, toNat_ceiling p fits, toNat_saturatingNext]
    omega
  cases transient : e.isTransient <;> by_cases more : attempt.toNat + 1 < p.ceiling <;>
    simp [pauseAfter, transient, reached, more]

/-- Where a run goes on, the counter has not come to the greatest word. -/
theorem room_of_pause (e : Failure) (attempt : UInt32) (pause : Duration)
    (paused : p.pauseAfter e attempt.toNat = some pause) : attempt.toNat + 1 < UInt32.size := by
  have size : UInt32.size = 2 ^ 32 := rfl
  have below := lt_ceiling_of_pause p e attempt.toNat pause paused
  unfold ceiling at below
  omega

theorem countedFrom_round {σ α : Type} (c : Caller σ α) (attempt : UInt32) (s : σ) :
    countedFrom p (max 1 (UInt32.ofNat p.attempts)) c attempt s =
      if c.fired s then some ⟨.error .cancelled, s, 0, 0, []⟩
      else
        match c.call (attempt.toNat + 1) s with
        | (.ok v, s) => some ⟨.ok v, s, 1, 0, []⟩
        | (.error e, s) =>
          match p.pauseAfter e attempt.toNat with
          | none => some ⟨.error e, s, 1, 0, []⟩
          | some pause =>
            if c.fired s then some ⟨.error .cancelled, s, 1, 1, []⟩
            else if c.fired (c.wait (attempt.toNat + 1) s) then
              some ⟨.error .cancelled, c.wait (attempt.toNat + 1) s, 1, 1, []⟩
            else
              (countedFrom p (max 1 (UInt32.ofNat p.attempts)) c (attempt + 1)
                (c.wait (attempt.toNat + 1) s)).map (.after [pause]) := by
  rw [countedFrom]
  cases c.fired s with
  | true => rfl
  | false =>
      obtain ⟨outcome, after⟩ := c.call (attempt.toNat + 1) s
      cases outcome with
      | ok v => rfl
      | error e =>
          have pauses := pauseAfter_word p fits e attempt
          by_cases final :
              (!e.isTransient || max 1 (UInt32.ofNat p.attempts) ≤ saturatingNext attempt) = true
          · rw [if_pos final] at pauses
            simp [final, pauses]
          · rw [if_neg final] at pauses
            have room := room_of_pause p fits e attempt _ pauses
            simp [final, pauses, room]

theorem countedFrom_eq {σ α : Type} (c : Caller σ α) (more : Nat) :
    ∀ (attempt : UInt32) (s : σ), attempt.toNat + 1 + more = p.ceiling →
      countedFrom p (max 1 (UInt32.ofNat p.attempts)) c attempt s =
        some (runFrom p c more (attempt.toNat + 1) s) := by
  induction more using Nat.strongRecOn with
  | ind more ih =>
      intro attempt s bound
      rw [countedFrom_round p fits, runFrom_round p c attempt.toNat more s bound]
      cases c.fired s with
      | true => rfl
      | false =>
          obtain ⟨outcome, after⟩ := c.call (attempt.toNat + 1) s
          cases outcome with
          | ok v => rfl
          | error e =>
              cases paused : p.pauseAfter e attempt.toNat with
              | none => simp only [paused, Bool.false_eq_true, if_false]
              | some pause =>
                  have below := lt_ceiling_of_pause p e attempt.toNat pause paused
                  have next := toNat_next attempt (room_of_pause p fits e attempt pause paused)
                  have rest := ih (more - 1) (by omega) (attempt + 1)
                    (c.wait (attempt.toNat + 1) after) (by omega)
                  rw [next] at rest
                  simp only [paused, rest]
                  cases c.fired after <;> cases c.fired (c.wait (attempt.toNat + 1) after) <;> rfl

/-- Counting in a word changes no run, and the word never overflows. -/
theorem counted_eq {σ α : Type} (c : Caller σ α) (s : σ) : p.counted c s = some (p.run c s) := by
  have first : (0 : UInt32).toNat + 1 + (p.ceiling - 1) = p.ceiling := by
    have zero : (0 : UInt32).toNat = 0 := rfl
    unfold ceiling
    omega
  exact countedFrom_eq p fits c (p.ceiling - 1) 0 s first

end fitting

end CloudCensus.RetryPolicy
