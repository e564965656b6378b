import CloudCensus.Json.Value
import Mathlib.Data.List.Perm.Basic
import Mathlib.Data.String.Basic

namespace CloudCensus

section lookup

variable {α β : Type} {entries others : List (String × α)} {images : List (String × β)}
  {rel : String → α → β → Prop} {keys : List String} {key : String}

theorem lookup_cons_eq (key : String) (entry : String × α) (entries : List (String × α)) :
    List.lookup key (entry :: entries) =
      if key = entry.1 then some entry.2 else List.lookup key entries := by
  rw [List.lookup_cons]
  by_cases same : key = entry.1
  · rw [if_pos same, beq_iff_eq.mpr same]
  · rw [if_neg same, beq_eq_false_iff_ne.mpr same]

theorem lookup_eq_some_iff_mem (nodup : (entries.map (·.1)).Nodup) {value : α} :
    List.lookup key entries = some value ↔ (key, value) ∈ entries := by
  induction entries with
  | nil => simp
  | cons entry entries ih =>
      obtain ⟨k, v⟩ := entry
      obtain ⟨fresh, rest⟩ := List.nodup_cons.mp nodup
      rw [lookup_cons_eq, List.mem_cons]
      by_cases same : key = k
      · subst same
        have absent : (key, value) ∉ entries := fun mem => fresh (List.mem_map.mpr ⟨_, mem, rfl⟩)
        simp [absent, eq_comm]
      · simp [same, ih rest]

theorem lookup_of_perm (nodup : (entries.map (·.1)).Nodup) (perm : entries.Perm others) :
    List.lookup key entries = List.lookup key others := by
  have nodupToo : (others.map (·.1)).Nodup := (perm.map _).nodup_iff.mp nodup
  apply Option.ext
  intro value
  rw [lookup_eq_some_iff_mem nodup, lookup_eq_some_iff_mem nodupToo]
  exact perm.mem_iff

theorem lookup_eq_none_of_absent (absent : key ∉ entries.map (·.1)) : List.lookup key entries = none := by
  rw [List.lookup_eq_none_iff]
  intro entry mem
  simp only [bne_iff_ne, ne_eq]
  rintro rfl
  exact absent (List.mem_map_of_mem mem)

theorem lookup_filterMap {entries : List (String × Option α)} (nodup : (entries.map (·.1)).Nodup) :
    List.lookup key (entries.filterMap fun e => e.2.map (e.1, ·)) = (List.lookup key entries).join := by
  induction entries with
  | nil => rfl
  | cons entry entries ih =>
      obtain ⟨k, o⟩ := entry
      obtain ⟨fresh, rest⟩ := List.nodup_cons.mp nodup
      cases o with
      | none =>
          rw [List.filterMap_cons_none rfl, ih rest, lookup_cons_eq]
          by_cases same : key = k
          · subst same
            rw [if_pos rfl, lookup_eq_none_of_absent fresh]
            rfl
          · rw [if_neg same]
      | some value =>
          have kept : (entries.filterMap fun e => e.2.map (e.1, ·)).cons (k, value) =
              ((k, some value) :: entries).filterMap fun e => e.2.map (e.1, ·) := rfl
          rw [← kept, lookup_cons_eq, lookup_cons_eq, ih rest]
          by_cases same : key = k
          · rw [if_pos same, if_pos same]
            rfl
          · rw [if_neg same, if_neg same]

theorem nodup_filterMap {entries : List (String × Option α)} (nodup : (entries.map (·.1)).Nodup) :
    ((entries.filterMap fun e => e.2.map (e.1, ·)).map (·.1)).Nodup := by
  have sub : ((entries.filterMap fun e => e.2.map (e.1, ·)).map (·.1)).Sublist (entries.map (·.1)) := by
    induction entries with
    | nil => exact .slnil
    | cons entry entries ih =>
        obtain ⟨k, o⟩ := entry
        have later := ih (List.nodup_cons.mp nodup).2
        cases o with
        | none => exact later.cons _
        | some value => exact later.cons_cons _
  exact nodup.sublist sub

theorem keys_of_forall₂ (alike : List.Forall₂ (fun e f => e.1 = f.1 ∧ rel e.1 e.2 f.2) entries images) :
    entries.map (·.1) = images.map (·.1) := by
  induction alike with
  | nil => rfl
  | cons head _ ih => rw [List.map_cons, List.map_cons, head.1, ih]

theorem lookup_of_forall₂ (key : String)
    (alike : List.Forall₂ (fun e f => e.1 = f.1 ∧ rel e.1 e.2 f.2) entries images) :
    Option.Rel (rel key) (List.lookup key entries) (List.lookup key images) := by
  induction alike with
  | nil => exact .none
  | cons head _ ih =>
      obtain ⟨name, value⟩ := head
      rw [lookup_cons_eq, lookup_cons_eq, ← name]
      split
      · rename_i own
        rw [own]
        exact .some value
      · exact ih

theorem lookup_filter_of_mem (mem : key ∈ keys) :
    List.lookup key (entries.filter (·.1 ∈ keys)) = List.lookup key entries := by
  induction entries with
  | nil => rfl
  | cons e entries ih =>
      rw [List.filter_cons, lookup_cons_eq]
      by_cases own : key = e.1
      · rw [if_pos own, if_pos (decide_eq_true (own ▸ mem)), lookup_cons_eq, if_pos own]
      · rw [if_neg own]
        split
        · rw [lookup_cons_eq, if_neg own, ih]
        · exact ih

end lookup

namespace Members

variable {α : Type} {key other : String} {value : α} {ms : Members α}

theorem get?_insert (key other : String) (value : α) (ms : Members α) :
    get? other (insert key value ms) = if other = key then some value else get? other ms := by
  induction ms with
  | nil => exact lookup_cons_eq ..
  | cons m rest ih =>
      obtain ⟨k, v⟩ := m
      rw [get?, get?, insert]
      by_cases own : key = k
      · rw [if_pos own, lookup_cons_eq, lookup_cons_eq, own]
        split <;> rfl
      · rw [if_neg own]
        by_cases before : key < k
        · rw [if_pos before, lookup_cons_eq]
        · rw [get?, get?] at ih
          rw [if_neg before, lookup_cons_eq, lookup_cons_eq, ih]
          by_cases same : other = k
          · have different : other ≠ key := fun too => own (too.symm.trans same)
            rw [if_pos same, if_pos same, if_neg different]
          · rw [if_neg same, if_neg same]

/-- Each key once, in increasing order. -/
def Sorted (ms : Members α) : Prop := (ms.map (·.1)).Pairwise (· < ·)

theorem mem_keys_insert (mem : other ∈ (insert key value ms).map (·.1)) :
    other = key ∨ other ∈ ms.map (·.1) := by
  induction ms with
  | nil => simpa [insert] using mem
  | cons m rest ih =>
      obtain ⟨k, v⟩ := m
      rw [insert] at mem
      split at mem
      · rcases List.mem_cons.mp mem with own | later
        · exact .inl own
        · exact .inr (List.mem_cons_of_mem _ later)
      · split at mem
        · exact List.mem_cons.mp mem
        · rcases List.mem_cons.mp mem with first | later
          · exact .inr (first ▸ List.mem_cons_self)
          · exact (ih later).imp_right (List.mem_cons_of_mem _)

theorem Sorted.insert (sorted : Sorted ms) : Sorted (insert key value ms) := by
  induction ms with
  | nil => exact List.pairwise_singleton _ _
  | cons m rest ih =>
      obtain ⟨k, v⟩ := m
      obtain ⟨below, later⟩ := List.pairwise_cons.mp sorted
      rw [Members.insert]
      split
      · rename_i own
        subst own
        exact List.pairwise_cons.mpr ⟨below, later⟩
      · rename_i own
        split
        · rename_i before
          refine List.pairwise_cons.mpr ⟨?_, sorted⟩
          intro name mem
          rcases List.mem_cons.mp mem with rfl | after
          · exact before
          · exact before.trans (below name after)
        · rename_i notBefore
          have after : k < key := lt_of_le_of_ne (not_lt.mp notBefore) (Ne.symm own)
          refine List.pairwise_cons.mpr ⟨?_, ih later⟩
          intro name mem
          rcases mem_keys_insert mem with rfl | older
          · exact after
          · exact below name older

theorem Sorted.nodup (sorted : Sorted ms) : (ms.map (·.1)).Nodup := List.Pairwise.imp ne_of_lt sorted

theorem sorted_ofEntries (entries : List (String × α)) : Sorted (ofEntries entries) := by
  have grows : ∀ ms : Members α, Sorted ms →
      Sorted (entries.foldl (fun ms e => Members.insert e.1 e.2 ms) ms) := by
    induction entries with
    | nil => exact fun _ sorted => sorted
    | cons e entries ih => exact fun ms sorted => ih _ sorted.insert
  exact grows [] List.Pairwise.nil

/-- Of entries with one key the last counts. -/
theorem get?_ofEntries (entries : List (String × α)) :
    get? key (ofEntries entries) = List.lookup key entries.reverse := by
  have grows : ∀ ms : Members α,
      get? key (entries.foldl (fun ms e => Members.insert e.1 e.2 ms) ms) =
        (List.lookup key entries.reverse).or (get? key ms) := by
    induction entries with
    | nil => exact fun _ => rfl
    | cons e entries ih =>
        intro ms
        rw [List.foldl_cons, ih, get?_insert, List.reverse_cons, List.lookup_append, Option.or_assoc]
        congr 1
        rw [lookup_cons_eq]
        split <;> rfl
  rw [ofEntries, grows]
  exact Option.or_none

theorem get?_ofEntries_of_nodup {entries : List (String × α)} (nodup : (entries.map (·.1)).Nodup) :
    get? key (ofEntries entries) = List.lookup key entries := by
  rw [get?_ofEntries]
  exact (lookup_of_perm nodup (List.reverse_perm entries).symm).symm

end Members

theorem Json.ofOptions_members {entries : List (String × Option Json)}
    (nodup : (entries.map (·.1)).Nodup) :
    ∃ members, Json.ofOptions entries = .record members ∧ (members.map (·.1)).Nodup ∧
      ∀ key, Members.get? key members = (List.lookup key entries).join := by
  refine ⟨_, rfl, (Members.sorted_ofEntries _).nodup, ?_⟩
  intro key
  rw [Members.get?_ofEntries_of_nodup (nodup_filterMap nodup), lookup_filterMap nodup]

end CloudCensus
