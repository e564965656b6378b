import CloudCensus.Grouping
import Mathlib.Data.String.Basic

namespace CloudCensus.Group

theorem mem_insertId (id other : String) (ids : List String) :
    other ∈ insertId id ids ↔ other = id ∨ other ∈ ids := by
  induction ids with
  | nil => simp [insertId]
  | cons first rest ih =>
      rw [insertId]
      split
      · rename_i same
        simp [same]
      · split
        · exact List.mem_cons
        · simp only [List.mem_cons, ih, or_left_comm]

theorem increasing_insertId (id : String) (ids : List String) (increasing : ids.Pairwise (· < ·)) :
    (insertId id ids).Pairwise (· < ·) := by
  induction ids with
  | nil => exact List.pairwise_singleton _ _
  | cons first rest ih =>
      obtain ⟨below, later⟩ := List.pairwise_cons.mp increasing
      rw [insertId]
      split
      · exact increasing
      · rename_i different
        split
        · rename_i before
          refine List.pairwise_cons.mpr ⟨?_, increasing⟩
          intro other member
          rcases List.mem_cons.mp member with rfl | further
          · exact before
          · exact before.trans (below other further)
        · rename_i behind
          refine List.pairwise_cons.mpr ⟨?_, ih later⟩
          intro other member
          rcases (mem_insertId id other rest).mp member with rfl | further
          · exact lt_of_le_of_ne (not_lt.mp behind) (Ne.symm different)
          · exact below other further

theorem mem_foldl_ids (assets : List Placed) (ids : List String) (id : String) :
    id ∈ assets.foldl (fun ids a => if a.account.id.isEmpty then ids else insertId a.account.id ids) ids ↔
      id ∈ ids ∨ id ≠ "" ∧ ∃ a ∈ assets, a.account.id = id := by
  induction assets generalizing ids with
  | nil => simp
  | cons a rest ih =>
      rw [List.foldl_cons, ih]
      split
      · rename_i empty
        have none : a.account.id = "" := String.isEmpty_iff.mp empty
        simp only [List.mem_cons, exists_eq_or_imp, none]
        grind
      · rename_i own
        have some_ : a.account.id ≠ "" := fun none => own (String.isEmpty_iff.mpr none)
        rw [mem_insertId]
        simp only [List.mem_cons, exists_eq_or_imp]
        grind

theorem mem_projectIds (assets : List Placed) (id : String) :
    id ∈ projectIds assets ↔ id ≠ "" ∧ ∃ a ∈ assets, a.account.id = id := by
  rw [projectIds, mem_foldl_ids]
  simp

theorem increasing_projectIds (assets : List Placed) : (projectIds assets).Pairwise (· < ·) := by
  have grows (ids : List String) (increasing : ids.Pairwise (· < ·)) :
      (assets.foldl (fun ids a => if a.account.id.isEmpty then ids else insertId a.account.id ids)
        ids).Pairwise (· < ·) := by
    induction assets generalizing ids with
    | nil => exact increasing
    | cons a rest ih =>
        rw [List.foldl_cons]
        split
        · exact ih ids increasing
        · exact ih _ (increasing_insertId _ ids increasing)
  exact grows [] List.Pairwise.nil

theorem id_of_own {id : String} {assets rest : List Placed} {first : Placed}
    (found : own id assets = first :: rest) : first.account.id = id := by
  have first_own : first ∈ own id assets := by simp [found]
  simpa using (List.mem_filter.mp first_own).2

theorem ids_byProject (assets : List Placed) :
    (byProject assets).map (·.account.id) = projectIds assets := by
  have own_ids (entry : String → Option Group) (entries : ∀ id first rest, own id assets = first :: rest →
      entry id = some ⟨first.account, first :: rest ++ shared assets⟩) (ids : List String)
      (named : ∀ id ∈ ids, ∃ a ∈ assets, a.account.id = id) :
      (ids.filterMap entry).map (·.account.id) = ids := by
    induction ids with
    | nil => rfl
    | cons id ids ih =>
        obtain ⟨⟨a, member, same⟩, later⟩ := List.forall_mem_cons.mp named
        have here : a ∈ own id assets := List.mem_filter.mpr ⟨member, by simp [same]⟩
        cases found : own id assets with
        | nil =>
            rw [found] at here
            cases here
        | cons first rest =>
            rw [List.filterMap_cons, entries id first rest found]
            simp only [List.map_cons, id_of_own found, ih later]
  refine own_ids _ ?_ _ fun id member => ((mem_projectIds assets id).mp member).2
  intro id first rest found
  rw [found]

theorem increasing_byProject (assets : List Placed) :
    ((byProject assets).map (·.account.id)).Pairwise (· < ·) := by
  rw [ids_byProject]
  exact increasing_projectIds assets

end CloudCensus.Group
