import CloudCensus.Asset.Basic
import CloudCensus.Proofs.Time.Order
import Mathlib.Data.List.Induction

namespace CloudCensus

namespace Asset

@[simp] theorem name_absorb (a b : Asset) : (a.absorb b).name = a.name := rfl

theorem has_absorb (a b : Asset) (side : Facet) :
    (a.absorb b).has side = (a.has side || b.has side) := by
  cases side <;> simp [absorb, has, Bool.or_comm]

def gather : List Asset → Option Asset
  | [] => none
  | first :: rest => some (rest.foldl absorb first)

def named (name : String) (as : List Asset) : List Asset := as.filter (·.name = name)

theorem gather_concat (as : List Asset) (a : Asset) :
    gather (as ++ [a]) = some (match gather as with
      | none => a
      | some known => known.absorb a) := by
  cases as with
  | nil => rfl
  | cons first rest => simp [gather]

theorem gather_eq_none (as : List Asset) : gather as = none ↔ as = [] := by
  cases as <;> simp [gather]

theorem has_gather (side : Facet) (as : List Asset) (a : Asset) (gathered : gather as = some a) :
    a.has side = true ↔ ∃ b ∈ as, b.has side = true := by
  induction as using List.reverseRecOn generalizing a with
  | nil => cases gathered
  | append_singleton front last ih =>
      rw [gather_concat] at gathered
      cases known : gather front with
      | none =>
          simp only [known, Option.some.injEq] at gathered
          simp [(gather_eq_none front).mp known, gathered]
      | some first =>
          simp only [known, Option.some.injEq] at gathered
          subst gathered
          rw [has_absorb, Bool.or_eq_true, ih first known]
          simp [or_and_right, exists_or]

theorem named_append (name : String) (front back : List Asset) :
    named name (front ++ back) = named name front ++ named name back :=
  List.filter_append front back

theorem named_concat_self (as : List Asset) (a : Asset) :
    named a.name (as ++ [a]) = named a.name as ++ [a] := by
  simp [named]

theorem named_concat_other (name : String) (as : List Asset) (a : Asset) (other : a.name ≠ name) :
    named name (as ++ [a]) = named name as := by
  simp [named, other]

@[simp] theorem mem_named (name : String) (as : List Asset) (a : Asset) :
    a ∈ named name as ↔ a ∈ as ∧ a.name = name := by
  simp [named]

theorem length_named_le (name : String) (as : List Asset) (unique : (as.map (·.name)).Nodup) :
    (named name as).length ≤ 1 := by
  induction as with
  | nil => simp [named]
  | cons first rest ih =>
      obtain ⟨fresh, restUnique⟩ := List.nodup_cons.mp unique
      by_cases met : first.name = name
      · have absent : named name rest = [] := by
          apply List.filter_eq_nil_iff.mpr
          intro other member same
          exact fresh (List.mem_map.mpr ⟨other, member, (of_decide_eq_true same).trans met.symm⟩)
        rw [named] at absent
        simp [named, met, absent]
      · simpa [named, met] using ih restUnique

/-- The fields that come out the same in whichever order two observations are absorbed. -/
def core (a : Asset) : String × Option Resource × Option Json × Option Instant :=
  (a.name, a.resource, a.policy, a.updated)

theorem core_absorb_comm (r p : Asset) (same : r.name = p.name) (lacksPolicy : r.has .policy = false)
    (lacksResource : p.has .resource = false) : (r.absorb p).core = (p.absorb r).core := by
  have noPolicy : r.policy = none := by simpa [has] using lacksPolicy
  have noResource : p.resource = none := by simpa [has] using lacksResource
  simp [core, absorb, same, noPolicy, noResource, Instant.latest_comm r.updated]

theorem kind_absorb_comm (r p : Asset) (alike : r.kind = p.kind ∨ r.kind = "" ∨ p.kind = "") :
    (r.absorb p).kind = (p.absorb r).kind := by
  rcases alike with same | empty | empty
  · simp [absorb, same]
  · by_cases both : p.kind = "" <;> simp [absorb, empty, both]
  · by_cases both : r.kind = "" <;> simp [absorb, empty, both]

theorem ancestors_absorb_comm (r p : Asset)
    (alike : r.ancestors = p.ancestors ∨ r.ancestors = [] ∨ p.ancestors = []) :
    (r.absorb p).ancestors = (p.absorb r).ancestors := by
  rcases alike with same | empty | empty
  · simp [absorb, same]
  · by_cases both : p.ancestors = [] <;> simp [absorb, empty, both]
  · by_cases both : r.ancestors = [] <;> simp [absorb, empty, both]

end Asset
end CloudCensus
