import CloudCensus.Http.Client
import CloudCensus.Proofs.Retry.Run

namespace CloudCensus

namespace Status

def classes : List (Nat × Reason) := [
  (429, .resourceExhausted), (503, .unavailable), (504, .deadlineExceeded),
  (401, .authenticationFailed), (403, .permissionDenied), (404, .notFound)]

def Retried (status : Nat) : Prop := status = 429 ∨ status = 503 ∨ status = 504

instance (status : Nat) : Decidable (Retried status) := inferInstanceAs (Decidable (_ ∨ _))

theorem reason_eq_lookup (status : Nat) :
    reason status = (List.lookup status classes).getD .requestFailed := by
  simp only [reason, classes, List.lookup_cons, List.lookup_nil]
  repeat' split
  all_goals simp_all

theorem passing_failure_iff (status : Nat) (body : String) :
    (failure status body).Passing ↔ Retried status := by
  rw [← Failure.isTransient_iff, failure]
  constructor
  · intro transient
    by_contra other
    simp only [Retried, not_or] at other
    obtain ⟨quota, down, slow⟩ := other
    rw [reason, if_neg quota, if_neg down, if_neg slow] at transient
    split at transient
    · cases transient
    · split at transient
      · cases transient
      · split at transient <;> cases transient
  · rintro (rfl | rfl | rfl) <;> rfl

theorem lasting_badBody (status : Nat) (body : String) : ¬ (badBody status body).Passing := by
  rw [← Failure.isTransient_iff]
  exact Bool.false_ne_true

theorem not_isSuccess_of_retried {status : Nat} (retried : Retried status) : isSuccess status = false := by
  rcases retried with rfl | rfl | rfl <;> rfl

end Status

namespace Http

structure Response where
  status : Nat
  bytes : List Nat

namespace Response

def reply (r : Response) : Reply := .response r.status ⟨r.bytes, false⟩

/-- The text that a call reads from a response; some statuses come without one. -/
def text (r : Response) : String := if Status.hasBody r.status then Utf8.lossyText r.bytes else ""

def numbered (rs : List Response) (n : Nat) : Response :=
  rs[n - 1]?.getD ⟨404, Utf8.encode "script exhausted"⟩

end Response

inductive Means {α : Type} (decode : Written → Option α) (r : Response) : Outcome α → Prop where
  | value (success : 200 ≤ r.status ∧ r.status < 300) {node : Written} {v : α}
      (json : Written.ofText? r.text = some node) (shape : decode node = some v) :
      Means decode r (.ok v)
  | malformed (success : 200 ≤ r.status ∧ r.status < 300)
      (shapeless : ∀ node, Written.ofText? r.text = some node → decode node = none) :
      Means decode r (.error (.because .invalidResponse (.stated
        ("Failed to parse response (status " ++ Status.text r.status ++ "): <json error> - Body: " ++
          String.ofList (r.text.toList.take 500)))))
  | refused (failed : ¬ (200 ≤ r.status ∧ r.status < 300)) :
      Means decode r (.error (.because ((List.lookup r.status Status.classes).getD .requestFailed)
        (.stated (Status.text r.status ++ ": " ++ String.ofList (r.text.toList.take 200)))))

section

variable {α : Type} (decode : Written → Option α) (r : Response)

def Response.outcome : Outcome α :=
  meaning decode r.status (if Status.hasBody r.status then ⟨r.bytes, false⟩ else ⟨[], false⟩)

theorem outcome_of_success (success : Status.isSuccess r.status = true) :
    r.outcome decode =
      match (Written.ofText? r.text).bind decode with
      | some v => .ok v
      | none => .error (Status.badBody r.status r.text) := by
  simp only [Response.outcome, Response.text, meaning, success, if_true]
  split <;> rfl

theorem outcome_of_refusal (failed : Status.isSuccess r.status = false) :
    r.outcome decode = .error (Status.failure r.status r.text) := by
  simp only [Response.outcome, Response.text, meaning, failed, Bool.false_eq_true, if_false]
  split <;> rfl

theorem means_outcome : Means decode r (r.outcome decode) := by
  have range : Status.isSuccess r.status = true ↔ 200 ≤ r.status ∧ r.status < 300 := by
    simp [Status.isSuccess]
  cases success : Status.isSuccess r.status with
  | false =>
      rw [outcome_of_refusal decode r success, Status.failure, Status.reason_eq_lookup]
      apply Means.refused
      rw [← range, success]
      exact Bool.false_ne_true
  | true =>
      rw [outcome_of_success decode r success]
      cases read : (Written.ofText? r.text).bind decode with
      | some v =>
          obtain ⟨node, json, shape⟩ := Option.bind_eq_some_iff.mp read
          exact .value (range.mp success) json shape
      | none =>
          refine .malformed (range.mp success) ?_
          intro node json
          simpa [json] using read

theorem passing_outcome_iff :
    (∃ e, r.outcome decode = .error e ∧ e.Passing) ↔ Status.Retried r.status := by
  constructor
  · rintro ⟨e, failed, passing⟩
    cases success : Status.isSuccess r.status with
    | false =>
        rw [outcome_of_refusal decode r success] at failed
        cases failed
        exact (Status.passing_failure_iff _ _).mp passing
    | true =>
        rw [outcome_of_success decode r success] at failed
        split at failed
        · cases failed
        · cases failed
          exact absurd passing (Status.lasting_badBody _ _)
  · intro retried
    refine ⟨_, outcome_of_refusal decode r (Status.not_isSuccess_of_retried retried), ?_⟩
    exact (Status.passing_failure_iff _ _).mpr retried

end

end Http
end CloudCensus
