import CloudCensus.Proofs.Accounts.Resolve
import CloudCensus.Proofs.Listing.Produce

namespace CloudCensus

namespace Ledger

theorem count_append (l k : Ledger) (c : Counter) : (l ++ k).count c = l.count c + k.count c := by
  induction l with
  | nil => simp [count, total]
  | cons entry rest ih =>
      simp only [count, total, List.cons_append, List.map_cons, List.foldr_cons] at ih ⊢
      omega

theorem count_of_ne (d c : Counter) (n : Nat) (different : d ≠ c) : Ledger.count [(d, n)] c = 0 := by
  simp [count, total, different]

end Ledger

def Counter.OfMemo (table : String) (c : Counter) : Prop := c = .memoHits table ∨ c = .memoMisses table

section

variable {table : String} {c : Counter} (own : c.OfMemo table)

include own

theorem count_foreign (d : Counter) (n : Nat) (foreign : ¬ d.OfMemo table) :
    Ledger.count [(d, n)] c = 0 := by
  apply Ledger.count_of_ne
  rintro rfl
  exact foreign own

theorem count_tally_of_other {α : Type} (m : Memo α) (key : String) (other : m.name ≠ table) :
    (m.tally key).count c = 0 := by
  apply count_foreign own
  split <;> simp [Counter.OfMemo, other]

theorem count_produceFrom (request : Request) (kept fired : Bool) (items : List Item) (count : Nat) :
    (produceFrom request kept fired items count).ledger.count c = 0 := by
  have listed (n : Nat) : Ledger.count [(.assetsListed request.facet, n)] c = 0 :=
    count_foreign own _ n (by simp [Counter.OfMemo])
  have broken (kind : String) : (Ledger.one (.streamErrors request.facet kind)).count c = 0 :=
    count_foreign own _ 1 (by simp [Counter.OfMemo])
  cases fired with
  | true =>
      rw [produceFrom_fired]
      rfl
  | false =>
      induction items generalizing count with
      | nil => exact listed count
      | cons item rest ih =>
          cases item with
          | crash => rfl
          | failure e =>
              by_cases silent : e = .cancelled
              · rw [silent, produceFrom_cancelled]
                rfl
              · rw [produceFrom_failure _ _ _ _ _ silent]
                exact broken e.label
          | asset a fires =>
              rw [produceFrom_asset]
              split
              · rfl
              · split
                · exact ih (count + 1)
                · exact listed count

namespace Accounts

theorem count_displayName (now : Directory) (level : Level) (id : String) (s : Accounts) :
    (displayName now level id s).2.ledger.count c = s.ledger.count c := by
  have failed : (Ledger.one (.lookupFailures level)).count c = 0 :=
    count_foreign own _ 1 (by simp [Counter.OfMemo])
  simp only [displayName]
  split
  · rfl
  · rw [Ledger.count_append, failed]
    rfl

theorem count_nameIf (wanted : Bool) (now : Directory) (level : Level) (id : String) (s : Accounts) :
    (nameIf wanted now level id s).2.ledger.count c = s.ledger.count c := by
  cases wanted with
  | false => rfl
  | true => exact count_displayName own now level id s

theorem count_lookUp (scope : Scope) (now : Directory) (project organization : String) (s : Accounts) :
    (lookUp scope now project organization s).2.ledger.count c = s.ledger.count c := by
  rw [lookUp_eq]
  exact (count_nameIf own _ now _ _ _).trans (count_nameIf own _ now _ _ _)

theorem count_resolve (scope : Scope) (now : Directory) (chain : List String) (s : Accounts)
    (other : s.memo.name ≠ table) :
    (resolve scope now chain s).2.ledger.count c = s.ledger.count c := by
  have asked : (s.ledger ++ s.memo.tally (chainKey chain)).count c = s.ledger.count c := by
    rw [Ledger.count_append, count_tally_of_other own s.memo _ other, Nat.add_zero]
  have settled := Memo.state_getOrCompute s.memo (chainKey chain)
    (lookUp scope now (projectId chain) (organizationId chain))
    { s with ledger := s.ledger ++ s.memo.tally (chainKey chain) }
  rw [resolve_eq, taken]
  rcases settled with same | looked
  · simp only [same, asked]
  · simp only [looked]
    exact (count_lookUp own scope now _ _ _).trans asked

end Accounts

end

theorem Accounts.name_resolve (scope : Scope) (now : Directory) (chain : List String) (s : Accounts) :
    (resolve scope now chain s).2.memo.name = s.memo.name :=
  Memo.name_getOrCompute _ _ _ _

end CloudCensus
