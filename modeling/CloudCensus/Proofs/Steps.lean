import CloudCensus.Steps
import Mathlib.Data.List.Induction

namespace CloudCensus.Steps

variable {σ ι ρ : Type} {step : σ → ι → ρ × σ}

theorem run_append (s : σ) (front back : List ι) :
    run step s (front ++ back) =
      ((run step s front).1 ++ (run step (run step s front).2 back).1,
        (run step (run step s front).2 back).2) := by
  induction front generalizing s with
  | nil => rfl
  | cons x rest ih => simp [run, ih]

theorem length_replies (s : σ) (xs : List ι) : (run step s xs).1.length = xs.length := by
  induction xs generalizing s with
  | nil => rfl
  | cons x rest ih => simp [run, ih]

theorem state_concat (s : σ) (past : List ι) (x : ι) :
    (run step s (past ++ [x])).2 = (step (run step s past).2 x).2 := by
  simp [run_append, run]

theorem replies_concat (s : σ) (past : List ι) (x : ι) :
    (run step s (past ++ [x])).1 = (run step s past).1 ++ [(step (run step s past).2 x).1] := by
  simp [run_append, run]

theorem reply_mem (s : σ) (past rest : List ι) (x : ι) :
    (step (run step s past).2 x).1 ∈ (run step s (past ++ x :: rest)).1 := by
  simp [run_append, run]

theorem forall_replies {motive : ρ → Prop} (s : σ) (xs : List ι)
    (each : ∀ past x rest, xs = past ++ x :: rest → motive (step (run step s past).2 x).1) :
    ∀ reply ∈ (run step s xs).1, motive reply := by
  induction xs generalizing s with
  | nil =>
      intro reply member
      cases member
  | cons x rest ih =>
      intro reply member
      rcases List.mem_cons.mp member with rfl | later
      · exact each [] x rest rfl
      · refine ih (step s x).2 ?_ reply later
        intro past y others split
        exact each (x :: past) y others (by rw [split]; rfl)

theorem state_induction {motive : List ι → σ → Prop} (s : σ) (first : motive [] s) (xs : List ι)
    (next : ∀ past x rest, xs = past ++ x :: rest → motive past (run step s past).2 →
      motive (past ++ [x]) (step (run step s past).2 x).2) :
    motive xs (run step s xs).2 := by
  -- From the end, since a state is the outcome of the steps before it.
  induction xs using List.reverseRecOn with
  | nil => exact first
  | append_singleton past x ih =>
      rw [state_concat]
      apply next past x [] (by simp)
      apply ih
      intro front y rest split
      exact next front y (rest ++ [x]) (by simp [split])

/-- A step that changes nothing can be left out, and no other reply changes. -/
theorem replies_without (s : σ) (past rest : List ι) (x : ι)
    (idle : (step (run step s past).2 x).2 = (run step s past).2) :
    (run step s (past ++ rest)).1 = (run step s (past ++ x :: rest)).1.eraseIdx past.length := by
  have place : (run step s past).1.length = past.length := length_replies s past
  rw [run_append, run_append, ← place, List.eraseIdx_append_of_length_le (Nat.le_refl _)]
  simp [run, idle]

theorem reply_at (s : σ) (past rest : List ι) (x : ι) :
    (run step s (past ++ x :: rest)).1[past.length]? = some (step (run step s past).2 x).1 := by
  have place : (run step s past).1.length = past.length := length_replies s past
  simp [run_append, run, ← place]

def heard (about : ι → Bool) (xs : List ι) (replies : List ρ) : List ρ :=
  ((xs.zip replies).filter fun p => about p.1).map (·.2)

/-- What is seen of the replies to steps of some kind stays the same if all other steps are left out.
Here `Alike` says that two states do not differ for steps of that kind. -/
theorem heard_alone {τ : Type} (about : ι → Bool) (view : ρ → τ) (Alike : σ → σ → Prop)
    (own : ∀ s t x, Alike s t → about x = true →
      view (step s x).1 = view (step t x).1 ∧ Alike (step s x).2 (step t x).2)
    (other : ∀ s t x, Alike s t → about x = false → Alike (step s x).2 t)
    (s t : σ) (alike : Alike s t) (xs : List ι) :
    (heard about xs (run step s xs).1).map view = (run step t (xs.filter about)).1.map view := by
  induction xs generalizing s t with
  | nil => rfl
  | cons x rest ih =>
      cases kind : about x with
      | false =>
          have later := ih (step s x).2 t (other s t x alike kind)
          simpa [heard, run, kind] using later
      | true =>
          obtain ⟨same, still⟩ := own s t x alike kind
          have later := ih (step s x).2 (step t x).2 still
          simpa [heard, run, kind, same] using later

end CloudCensus.Steps
