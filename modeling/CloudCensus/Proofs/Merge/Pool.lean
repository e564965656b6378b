import CloudCensus.Merge.Pool
import CloudCensus.Proofs.Asset.Absorb
import Mathlib.Data.List.Nodup

/-!
What every event keeps of a pool, and what leaves at it.

Between two events no name is in the pool twice and nothing in it is ready.  What is pending of a
name that has not left is all that was taken in of it, absorbed in the order of arrival.
-/

namespace CloudCensus.Pool

open Asset

/-- Only a settled pool may look at the touched asset alone when an observation arrives. -/
structure Consistent (p : Pool) : Prop where
  distinct : (p.pending.map (·.name)).Nodup
  apart : ∀ a ∈ p.pending, a.name ∉ p.emitted
  settled : ∀ a ∈ p.pending, p.isReady a = false
  once : p.emitted.Nodup

def Holds (p : Pool) (seen : List Asset) : Prop :=
  ∀ name, p.find? name = if name ∈ p.emitted then none else gather (named name seen)

/-- All that one event can do to a pool: the observations taken in, and what leaves with the pool
after it. -/
inductive Move (p : Pool) : List Asset → List Asset × Pool → Prop where
  | idle : Move p [] ([], p)
  | observe (a : Asset) : Move p [a] (p.observe a)
  | close (side : Facet) : Move p [] (p.close side)

theorem find?_eq_some (p : Pool) (name : String) (a : Asset) (found : p.find? name = some a) :
    a ∈ p.pending ∧ a.name = name :=
  ⟨List.mem_of_find?_eq_some found, by simpa using List.find?_some found⟩

theorem find?_of_mem (p : Pool) (distinct : (p.pending.map (·.name)).Nodup) (a : Asset)
    (present : a ∈ p.pending) : p.find? a.name = some a := by
  cases found : p.find? a.name with
  | none => simpa using List.find?_eq_none.mp found a present
  | some b =>
      obtain ⟨presentToo, same⟩ := find?_eq_some p a.name b found
      rw [List.inj_on_of_nodup_map distinct presentToo present same]

theorem name_absorbed (p : Pool) (a : Asset) : (p.absorbed a).name = a.name := by
  cases found : p.find? a.name with
  | none => simp [absorbed, found]
  | some known => simpa [absorbed, found] using (find?_eq_some p a.name known found).2

theorem names_put (a : Asset) (as : List Asset) :
    (put a as).map (·.name) =
      if a.name ∈ as.map (·.name) then as.map (·.name) else as.map (·.name) ++ [a.name] := by
  induction as with
  | nil => rfl
  | cons first rest ih =>
      by_cases same : first.name = a.name
      · simp [put, same]
      · have other : a.name ≠ first.name := Ne.symm same
        simp only [put, if_neg same, List.map_cons, ih, List.mem_cons, other, false_or]
        split <;> simp

theorem mem_put (a b : Asset) (as : List Asset) (member : b ∈ put a as) : b = a ∨ b ∈ as := by
  induction as with
  | nil => simpa [put] using member
  | cons first rest ih =>
      simp only [put] at member
      split at member
      · rcases List.mem_cons.mp member with here | later
        · exact .inl here
        · exact .inr (List.mem_cons_of_mem _ later)
      · rcases List.mem_cons.mp member with here | later
        · exact .inr (by simp [here])
        · exact (ih later).imp_right (List.mem_cons_of_mem _)

theorem find?_put (a : Asset) (name : String) (as : List Asset) :
    (put a as).find? (·.name = name) =
      if a.name = name then some a else as.find? (·.name = name) := by
  induction as with
  | nil => by_cases same : a.name = name <;> simp [put, same]
  | cons first rest ih =>
      by_cases here : first.name = a.name
      · by_cases same : a.name = name <;> simp [put, here, same]
      · rw [put, if_neg here]
        by_cases met : first.name = name
        · have other : ¬ a.name = name := by rw [← met]; exact Ne.symm here
          simp [met, other]
        · simp only [List.find?_cons, met, decide_false, ih]

theorem find?_without (gone name : String) (as : List Asset) :
    (without gone as).find? (·.name = name) =
      if gone = name then none else as.find? (·.name = name) := by
  rw [without, List.find?_filter]
  split
  · rename_i same
    apply List.find?_eq_none.mpr
    intro a member
    simp [same]
  · rename_i other
    congr 1
    funext a
    by_cases met : a.name = name
    · simp [met, Ne.symm other]
    · simp [met]

theorem find?_filter_of_distinct (keep : Asset → Bool) (name : String) (as : List Asset)
    (distinct : (as.map (·.name)).Nodup) :
    (as.filter keep).find? (·.name = name) = (as.find? (·.name = name)).filter keep := by
  induction as with
  | nil => rfl
  | cons first rest ih =>
      obtain ⟨fresh, restDistinct⟩ := List.nodup_cons.mp distinct
      by_cases met : first.name = name
      · have absent : rest.find? (·.name = name) = none := by
          apply List.find?_eq_none.mpr
          intro other member same
          exact fresh (List.mem_map.mpr ⟨other, member, (of_decide_eq_true same).trans met.symm⟩)
        have tail := ih restDistinct
        rw [absent] at tail
        cases kept : keep first with
        | true => simp [kept, met, Option.filter]
        | false =>
            rw [List.filter_cons_of_neg (by simp [kept]), tail]
            simp [met, kept, Option.filter]
      · cases kept : keep first with
        | true => simp only [List.filter_cons, kept, if_true, List.find?_cons, met, decide_false,
            ih restDistinct]
        | false => simp only [List.filter_cons, kept, Bool.false_eq_true, if_false, List.find?_cons,
            met, decide_false, ih restDistinct]

@[simp] theorem pending_markClosed (p : Pool) (side : Facet) :
    (p.markClosed side).pending = p.pending := by
  cases side <;> rfl

@[simp] theorem emitted_markClosed (p : Pool) (side : Facet) :
    (p.markClosed side).emitted = p.emitted := by
  cases side <;> rfl

theorem isClosed_markClosed (p : Pool) (closing side : Facet) :
    (p.markClosed closing).isClosed side = (p.isClosed side || closing = side) := by
  cases closing <;> cases side <;> simp [markClosed, isClosed]

theorem isClosed_observe (p : Pool) (a : Asset) (side : Facet) :
    (p.observe a).2.isClosed side = p.isClosed side := by
  cases side <;> simp only [observe, isClosed] <;> split <;> try rfl
  all_goals split <;> rfl

theorem isClosed_close (p : Pool) (closing side : Facet) :
    (p.close closing).2.isClosed side = (p.isClosed side || closing = side) := by
  rw [← isClosed_markClosed]
  cases side <;> rfl

theorem bothClosed_iff (p : Pool) : p.bothClosed = true ↔ ∀ side, p.isClosed side = true := by
  constructor
  · intro both side
    cases side <;> simp_all [bothClosed, isClosed]
  · intro closed
    simpa [bothClosed, isClosed] using And.intro (closed .resource) (closed .policy)

theorem isReady_iff (p : Pool) (a : Asset) :
    p.isReady a = true ↔ ∀ side, a.has side = true ∨ p.isClosed side = true := by
  constructor
  · intro ready side
    simp only [isReady, Bool.and_eq_true, Bool.or_eq_true] at ready
    cases side
    · exact ready.1
    · exact ready.2
  · intro each
    simpa [isReady, isClosed] using And.intro (each .resource) (each .policy)

/-- An observation is dropped, completes its asset, or leaves it waiting. -/
theorem observe_cases (p : Pool) (a : Asset) :
    (a.name ∈ p.emitted ∧ p.observe a = ([], p)) ∨
    (a.name ∉ p.emitted ∧ p.isReady (p.absorbed a) = true ∧
      p.observe a = ([p.absorbed a], { p with
        pending := without a.name p.pending, emitted := p.emitted ++ [a.name] })) ∨
    (a.name ∉ p.emitted ∧ p.isReady (p.absorbed a) = false ∧
      p.observe a = ([], { p with pending := put (p.absorbed a) p.pending })) := by
  by_cases left : a.name ∈ p.emitted
  · exact .inl ⟨left, by simp [observe, left]⟩
  · cases ready : p.isReady (p.absorbed a) with
    | true => exact .inr (.inl ⟨left, rfl, by simp [observe, left, ready, name_absorbed]⟩)
    | false => exact .inr (.inr ⟨left, rfl, by simp [observe, left, ready]⟩)

theorem empty_consistent : empty.Consistent where
  distinct := List.nodup_nil
  apart := by intro a member; cases member
  settled := by intro a member; cases member
  once := List.nodup_nil

theorem drain_consistent (p : Pool) (distinct : (p.pending.map (·.name)).Nodup)
    (apart : ∀ a ∈ p.pending, a.name ∉ p.emitted) (once : p.emitted.Nodup) :
    p.drain.2.Consistent where
  distinct := distinct.sublist (List.filter_sublist.map _)
  apart := by
    intro a member left
    obtain ⟨present, waiting⟩ := List.mem_filter.mp member
    rcases List.mem_append.mp left with before | now
    · exact apart a present before
    · obtain ⟨b, leaving, same⟩ := List.mem_map.mp now
      obtain ⟨presentToo, ready⟩ := List.mem_filter.mp leaving
      have equal : b = a := List.inj_on_of_nodup_map distinct presentToo present same
      rw [equal] at ready
      simp [ready] at waiting
  settled := by
    intro a member
    change p.isReady a = false
    simpa using (List.mem_filter.mp member).2
  once := by
    apply List.nodup_append.mpr
    refine ⟨once, distinct.sublist (List.filter_sublist.map _), ?_⟩
    intro name before other now same
    obtain ⟨b, leaving, named⟩ := List.mem_map.mp now
    apply apart b (List.mem_filter.mp leaving).1
    rw [named, ← same]
    exact before

theorem observe_consistent (p : Pool) (a : Asset) (consistent : p.Consistent) :
    (p.observe a).2.Consistent := by
  rcases observe_cases p a with ⟨_, same⟩ | ⟨fresh, _, same⟩ | ⟨fresh, waiting, same⟩
  · rw [same]
    exact consistent
  · rw [same]
    constructor
    · exact consistent.distinct.sublist (List.filter_sublist.map _)
    · intro b member left
      obtain ⟨present, other⟩ := List.mem_filter.mp member
      rcases List.mem_append.mp left with before | now
      · exact consistent.apart b present before
      · simp [List.mem_singleton.mp now] at other
    · intro b member
      exact consistent.settled b (List.mem_filter.mp member).1
    · rw [← List.concat_eq_append]
      exact List.Nodup.concat fresh consistent.once
  · rw [same]
    constructor
    · rw [names_put]
      split
      · exact consistent.distinct
      · rename_i absent
        rw [← List.concat_eq_append]
        exact List.Nodup.concat absent consistent.distinct
    · intro b member
      rcases mem_put _ _ _ member with rfl | old
      · rw [name_absorbed]
        exact fresh
      · exact consistent.apart b old
    · intro b member
      rcases mem_put _ _ _ member with rfl | old
      · exact waiting
      · exact consistent.settled b old
    · exact consistent.once

theorem Move.consistent {p : Pool} {taken : List Asset} {after : List Asset × Pool}
    (move : Move p taken after) (consistent : p.Consistent) : after.2.Consistent := by
  cases move with
  | idle => exact consistent
  | observe a => exact observe_consistent p a consistent
  | close side =>
      apply drain_consistent
      · simpa using consistent.distinct
      · simpa using consistent.apart
      · simpa using consistent.once

theorem Move.emitted {p : Pool} {taken : List Asset} {after : List Asset × Pool}
    (move : Move p taken after) : after.2.emitted = p.emitted ++ after.1.map (·.name) := by
  cases move with
  | idle => simp
  | observe a =>
      rcases observe_cases p a with ⟨_, same⟩ | ⟨_, _, same⟩ | ⟨_, _, same⟩ <;>
        simp [same, name_absorbed]
  | close side => simp [Pool.close, drain]

theorem gather_absorbed (p : Pool) (seen : List Asset) (a : Asset) (holds : p.Holds seen)
    (fresh : a.name ∉ p.emitted) :
    gather (named a.name (seen ++ [a])) = some (p.absorbed a) := by
  have known := holds a.name
  rw [if_neg fresh] at known
  rw [named_concat_self, gather_concat, ← known, absorbed]
  cases p.find? a.name <;> rfl

theorem observe_holds (p : Pool) (seen : List Asset) (a : Asset) (holds : p.Holds seen) :
    (p.observe a).2.Holds (seen ++ [a]) := by
  intro name
  have before := holds name
  rcases observe_cases p a with ⟨left, same⟩ | ⟨fresh, _, same⟩ | ⟨fresh, _, same⟩
  · rw [same]
    by_cases own : a.name = name
    · rw [← own] at before ⊢
      simpa [left] using before
    · rw [named_concat_other name seen a own]
      exact before
  · rw [same]
    simp only [find?, find?_without] at before ⊢
    by_cases own : a.name = name
    · simp [own]
    · rw [named_concat_other name seen a own, if_neg own, before]
      simp [Ne.symm own]
  · rw [same]
    simp only [find?, find?_put, name_absorbed] at before ⊢
    by_cases own : a.name = name
    · rw [if_pos own, ← own, if_neg fresh]
      exact (gather_absorbed p seen a holds fresh).symm
    · rw [if_neg own, named_concat_other name seen a own]
      exact before

theorem close_holds (p : Pool) (seen : List Asset) (side : Facet) (consistent : p.Consistent)
    (holds : p.Holds seen) : (p.close side).2.Holds seen := by
  intro name
  have before := holds name
  have after : (p.close side).2.find? name =
      (p.find? name).filter (fun a => !(p.markClosed side).isReady a) := by
    simp only [close, drain, find?, pending_markClosed]
    exact find?_filter_of_distinct _ name p.pending consistent.distinct
  have emitted : (p.close side).2.emitted =
      p.emitted ++ (p.pending.filter (p.markClosed side).isReady).map (·.name) := by
    simp [close, drain]
  rw [after, emitted]
  cases found : p.find? name with
  | none =>
      rw [found] at before
      split
      · rfl
      · rename_i fresh
        rw [if_neg (fun left => fresh (List.mem_append_left _ left))] at before
        exact before
  | some b =>
      obtain ⟨present, same⟩ := find?_eq_some p name b found
      have fresh : name ∉ p.emitted := by rw [← same]; exact consistent.apart b present
      rw [found, if_neg fresh] at before
      cases ready : (p.markClosed side).isReady b with
      | true =>
          have left : name ∈ (p.pending.filter (p.markClosed side).isReady).map (·.name) :=
            List.mem_map.mpr ⟨b, List.mem_filter.mpr ⟨present, ready⟩, same⟩
          simp [Option.filter, ready, List.mem_append_right _ left]
      | false =>
          have waits : name ∉ (p.pending.filter (p.markClosed side).isReady).map (·.name) := by
            intro left
            obtain ⟨c, leaving, equal⟩ := List.mem_map.mp left
            obtain ⟨presentToo, readyToo⟩ := List.mem_filter.mp leaving
            have alike : c = b := List.inj_on_of_nodup_map consistent.distinct presentToo present
              (equal.trans same.symm)
            rw [alike, ready] at readyToo
            cases readyToo
          rw [if_neg (by simp only [List.mem_append, not_or]; exact ⟨fresh, waits⟩), ← before]
          simp [Option.filter, ready]

theorem Move.holds {p : Pool} {taken : List Asset} {after : List Asset × Pool}
    (move : Move p taken after) (consistent : p.Consistent) (seen : List Asset)
    (holds : p.Holds seen) : after.2.Holds (seen ++ taken) := by
  cases move with
  | idle => simpa using holds
  | observe a => exact observe_holds p seen a holds
  | close side => simpa using close_holds p seen side consistent holds

/-- An asset leaves with all that was seen of it, and no facet of it can still come. -/
theorem Move.leaves {p : Pool} {taken : List Asset} {after : List Asset × Pool}
    (move : Move p taken after) (consistent : p.Consistent) (seen : List Asset)
    (holds : p.Holds seen) (a : Asset) (left : a ∈ after.1) :
    gather (named a.name (seen ++ taken)) = some a ∧ after.2.isReady a = true := by
  cases move with
  | idle => cases left
  | observe b =>
      rcases observe_cases p b with ⟨_, same⟩ | ⟨fresh, ready, same⟩ | ⟨_, _, same⟩
      · simp [same] at left
      · rw [same] at left ⊢
        rw [List.mem_singleton.mp left, name_absorbed]
        exact ⟨gather_absorbed p seen b holds fresh, ready⟩
      · simp [same] at left
  | close side =>
      obtain ⟨present, ready⟩ := List.mem_filter.mp left
      rw [pending_markClosed] at present
      have known := holds a.name
      rw [if_neg (consistent.apart a present), find?_of_mem p consistent.distinct a present] at known
      exact ⟨by simpa using known.symm, ready⟩

end CloudCensus.Pool
