import CloudCensus.Config.Check
import CloudCensus.Proofs.Census.Routines

namespace CloudCensus.Census

def AsksForAll (requests : List Request) : Prop := ∃ q ∈ requests, q.kinds = []

theorem asksForAll_append (front back : List Request) :
    AsksForAll (front ++ back) ↔ AsksForAll front ∨ AsksForAll back := by
  simp only [AsksForAll, List.mem_append, or_and_right, exists_or]

def Call.LeavesKinds : Call → Prop
  | .perform _ op _ _ => op = .kinds []
  | .clear => False

theorem asksForAll_step (config : Config) (w : Walk) (c : Call) :
    AsksForAll (step config w c).requests ↔ AsksForAll w.requests ∨ c.LeavesKinds ∧ config.kinds = [] := by
  cases c with
  | clear => simp [step, Walk.clear, Walk.clearPolicies, Call.LeavesKinds]
  | perform src op sinkKept cancelled =>
      obtain ⟨asked, named, course, untyped⟩ := Operation.course_perform src config sinkKept
        (w.begin cancelled) op
      change AsksForAll (op.perform src config sinkKept (w.begin cancelled)).walk.requests ↔ _
      rw [course.requests, asksForAll_append]
      exact or_congr Iff.rfl untyped

theorem asksForAll_steps (config : Config) (w : Walk) (calls : List Call) :
    AsksForAll (calls.foldl (step config) w).requests ↔
      AsksForAll w.requests ∨ (∃ c ∈ calls, c.LeavesKinds) ∧ config.kinds = [] := by
  induction calls generalizing w with
  | nil => simp
  | cons c rest ih =>
      rw [List.foldl_cons, ih, asksForAll_step, or_assoc]
      simp only [List.mem_cons, or_and_right, exists_or, exists_eq_left]

/-- In every sequence of calls, whatever the configuration is, a listing is asked for assets of every type
exactly if the configuration has no types for the listing by type and that operation was asked for none
either.  Every other operation names types in every request, or makes no request. -/
theorem untyped_requests_iff (config : Config) (calls : List Call) :
    (∃ q ∈ (after config calls).requests, q.kinds = []) ↔
      config.kinds = [] ∧
        ∃ src sinkKept cancelled, .perform src (.kinds []) sinkKept cancelled ∈ calls := by
  rw [and_comm]
  refine (asksForAll_steps config .start calls).trans ?_
  have none : ¬ AsksForAll Walk.start.requests := by
    rintro ⟨q, member, _⟩
    cases member
  rw [or_iff_right none]
  apply and_congr_left'
  constructor
  · rintro ⟨c, member, leaves⟩
    cases c with
    | clear => cases leaves
    | perform src op sinkKept cancelled => exact ⟨src, sinkKept, cancelled, leaves ▸ member⟩
  · rintro ⟨src, sinkKept, cancelled, member⟩
    exact ⟨_, member, rfl⟩

def untypedConfig : Config := { Config.ofScope (.project "1") with kinds := [] }

def nothing : Sources := ⟨.project "1", fun _ _ _ => ⟨.ok "", false⟩, fun _ => []⟩

theorem listing_without_types :
    untypedConfig.check = .ok () ∧
      (after untypedConfig [.perform nothing (.kinds []) true false]).requests =
        [⟨"projects/1", [], .resource⟩, ⟨"projects/1", [], .policy⟩] := by
  decide +kernel

end CloudCensus.Census
