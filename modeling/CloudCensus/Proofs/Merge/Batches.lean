import CloudCensus.Merge.Pool
import CloudCensus.Proofs.Asset.Absorb

/-!
What a list of observations of one asset comes to, field by field.

Of each facet the last one counts, of the types and of the ancestors the first that are not empty, and
of the times the latest.  Each of these rules tells what comes of a list from what comes of its parts,
so it does not matter which observations are absorbed into one another first.
-/

namespace CloudCensus

namespace Asset

def firstFilled {β : Type} [DecidableEq β] (blank : β) (values : List β) : β :=
  (values.find? (· ≠ blank)).getD blank

theorem firstFilled_append {β : Type} [DecidableEq β] (blank : β) (front back : List β) :
    firstFilled blank (front ++ back) =
      if firstFilled blank front = blank then firstFilled blank back else firstFilled blank front := by
  have whole : firstFilled blank (front ++ back) =
      ((front.find? (· ≠ blank)).or (back.find? (· ≠ blank))).getD blank := by
    rw [firstFilled, List.find?_append]
  cases found : front.find? (· ≠ blank) with
  | none =>
      have unfilled : firstFilled blank front = blank := by rw [firstFilled, found, Option.getD_none]
      rw [whole, found, if_pos unfilled]
      rfl
  | some value =>
      have here : firstFilled blank front = value := by rw [firstFilled, found, Option.getD_some]
      have filled : value ≠ blank := by simpa using List.find?_some found
      rw [whole, found, here, if_neg filled]
      rfl

@[simp] theorem firstFilled_singleton {β : Type} [DecidableEq β] (blank value : β) :
    firstFilled blank [value] = value := by
  by_cases same : value = blank <;> simp [firstFilled, same]

/-- The asset is what the observations come to when they are absorbed in their order. -/
structure Combines (as : List Asset) (a : Asset) : Prop where
  name : as.head?.map (·.name) = some a.name
  kind : a.kind = firstFilled "" (as.map (·.kind))
  ancestors : a.ancestors = firstFilled [] (as.map (·.ancestors))
  resource : a.resource = (as.filterMap (·.resource)).getLast?
  policy : a.policy = (as.filterMap (·.policy)).getLast?
  updated : a.updated = (as.filterMap (·.updated)).max?

variable {front back : List Asset} {a b : Asset}

theorem Combines.unique (one : Combines front a) (again : Combines front b) : a = b := by
  have names : a.name = b.name := Option.some.inj (one.name.symm.trans again.name)
  have kinds := one.kind.trans again.kind.symm
  have chains := one.ancestors.trans again.ancestors.symm
  have resources := one.resource.trans again.resource.symm
  have policies := one.policy.trans again.policy.symm
  have times := one.updated.trans again.updated.symm
  cases a
  cases b
  simp only [Asset.mk.injEq]
  exact ⟨names, kinds, chains, resources, policies, times⟩

theorem combines_singleton (a : Asset) : Combines [a] a where
  name := rfl
  kind := (firstFilled_singleton "" a.kind).symm
  ancestors := (firstFilled_singleton [] a.ancestors).symm
  resource := by cases found : a.resource <;> simp [found]
  policy := by cases found : a.policy <;> simp [found]
  updated := by cases found : a.updated <;> simp [found]

theorem Combines.absorb (earlier : Combines front a) (later : Combines back b) :
    Combines (front ++ back) (a.absorb b) where
  name := by
    cases front with
    | nil => cases earlier.name
    | cons first rest => exact earlier.name
  kind := by
    rw [List.map_append, firstFilled_append, ← earlier.kind, ← later.kind]
    simp [Asset.absorb]
  ancestors := by
    rw [List.map_append, firstFilled_append, ← earlier.ancestors, ← later.ancestors]
    simp [Asset.absorb]
  resource := by
    rw [List.filterMap_append, List.getLast?_append, ← earlier.resource, ← later.resource]
    rfl
  policy := by
    rw [List.filterMap_append, List.getLast?_append, ← earlier.policy, ← later.policy]
    rfl
  updated := by
    rw [List.filterMap_append, Instant.max?_append, ← earlier.updated, ← later.updated]
    rfl

theorem combines_foldl (first : Asset) (rest : List Asset) :
    Combines (first :: rest) (rest.foldl absorb first) := by
  induction rest using List.reverseRecOn with
  | nil => exact combines_singleton first
  | append_singleton front last ih =>
      rw [List.foldl_append, ← List.cons_append]
      exact ih.absorb (combines_singleton last)

example (earlier later : Resource) (policy : Json) :
    gather [⟨"a", "", [], some earlier, none, some ⟨7, 0⟩⟩, ⟨"a", "bucket", [], none, some policy, none⟩,
        ⟨"a", "object", ["projects/1"], some later, none, some ⟨6, 5⟩⟩] =
      some ⟨"a", "bucket", ["projects/1"], some later, some policy, some ⟨7, 0⟩⟩ := by
  rfl

/-- Either way three observations are absorbed in their order, and that settles every field. -/
theorem absorb_assoc (a b c : Asset) : (a.absorb b).absorb c = a.absorb (b.absorb c) := by
  have leftFirst : Combines [a, b, c] ((a.absorb b).absorb c) :=
    ((combines_singleton a).absorb (combines_singleton b)).absorb (combines_singleton c)
  have rightFirst : Combines [a, b, c] (a.absorb (b.absorb c)) :=
    (combines_singleton a).absorb ((combines_singleton b).absorb (combines_singleton c))
  exact leftFirst.unique rightFirst

instance : Std.Associative absorb := ⟨absorb_assoc⟩

@[simp] theorem absorb_self (a : Asset) : a.absorb a = a := by
  simp [absorb]

theorem gather_append (front back : List Asset) :
    gather (front ++ back) = (gather front).merge absorb (gather back) := by
  cases front with
  | nil => simp [gather]
  | cons first rest =>
      cases back with
      | nil => simp [gather]
      | cons second others =>
          simp only [gather, List.cons_append, Option.merge, List.foldl_append, List.foldl_cons,
            List.foldl_assoc]

/-- Observations may be absorbed in batches, some of them empty, and the batches into one another. -/
theorem gather_flatten (batches : List (List Asset)) :
    gather (batches.filterMap gather) = gather batches.flatten := by
  induction batches with
  | nil => rfl
  | cons batch rest ih =>
      rw [List.flatten_cons, gather_append, ← ih]
      cases gathered : gather batch with
      | none => rw [List.filterMap_cons_none gathered, Option.merge_none_left]
      | some whole =>
          rw [List.filterMap_cons_some gathered, ← List.singleton_append, gather_append]
          rfl

end Asset

open Asset

theorem Pool.absorbed_foldl (p : Pool) (first : Asset) (rest : List Asset) :
    p.absorbed (rest.foldl absorb first) = rest.foldl absorb (p.absorbed first) := by
  have name : (rest.foldl absorb first).name = first.name :=
    (Option.some.inj (combines_foldl first rest).name).symm
  rw [absorbed, absorbed, name]
  cases p.find? first.name with
  | none => rfl
  | some known =>
      change known.absorb (rest.foldl absorb first) = rest.foldl absorb (known.absorb first)
      rw [List.foldl_assoc]

/-- Absorbing observations one after another settles each field by its own rule, from which absorbing
is associative and idempotent.  So the observations may come in any batches, and a pool makes the same
of a batch as of what is in it. -/
theorem Asset.observations_combine :
    (∀ (first : Asset) (rest : List Asset), Combines (first :: rest) (rest.foldl absorb first)) ∧
      (∀ a b c : Asset, (a.absorb b).absorb c = a.absorb (b.absorb c)) ∧
      (∀ a : Asset, a.absorb a = a) ∧
      (∀ batches : List (List Asset), gather (batches.filterMap gather) = gather batches.flatten) ∧
      ∀ (p : Pool) (first : Asset) (rest : List Asset),
        p.absorbed (rest.foldl absorb first) = rest.foldl absorb (p.absorbed first) :=
  ⟨combines_foldl, absorb_assoc, absorb_self, gather_flatten, Pool.absorbed_foldl⟩

end CloudCensus
