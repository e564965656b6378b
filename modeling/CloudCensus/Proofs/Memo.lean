import CloudCensus.Memo

namespace CloudCensus.Memo

variable {α ε σ : Type}

theorem lookup_filter_ne (entries : List (String × α)) (key other : String) (different : other ≠ key) :
    (entries.filter (·.1 ≠ key)).lookup other = entries.lookup other := by
  induction entries with
  | nil => rfl
  | cons entry rest ih =>
      obtain ⟨k, v⟩ := entry
      by_cases dropped : k = key
      · have test : (other == k) = false := by simpa [dropped] using different
        rw [List.filter_cons_of_neg (by simp [dropped]), ih, List.lookup_cons, test]
      · rw [List.filter_cons_of_pos (by simp [dropped]), List.lookup_cons, List.lookup_cons, ih]

theorem find?_insert (m : Memo α) (key other : String) (value : α) :
    (m.insert key value).find? other = if other = key then some value else m.find? other := by
  by_cases same : other = key
  · simp [find?, insert, same]
  · have absent : (other == key) = false := by simpa using same
    rw [if_neg same, find?, insert, List.lookup_cons, absent]
    exact lookup_filter_ne m.entries key other same

theorem getOrCompute_of_found (m : Memo α) (key : String) (compute : σ → Except ε α × σ) (s : σ)
    (value : α) (found : m.find? key = some value) :
    m.getOrCompute key compute s = ⟨.ok value, m, s, false⟩ := by
  simp [getOrCompute, found]

theorem getOrCompute_of_computed (m : Memo α) (key : String) (compute : σ → Except ε α × σ)
    (s after : σ) (value : α) (absent : m.find? key = none) (made : compute s = (.ok value, after)) :
    m.getOrCompute key compute s = ⟨.ok value, m.insert key value, after, true⟩ := by
  simp [getOrCompute, absent, made]

theorem getOrCompute_of_failed (m : Memo α) (key : String) (compute : σ → Except ε α × σ)
    (s after : σ) (e : ε) (absent : m.find? key = none) (failed : compute s = (.error e, after)) :
    m.getOrCompute key compute s = ⟨.error e, m, after, true⟩ := by
  simp [getOrCompute, absent, failed]

theorem name_getOrCompute (m : Memo α) (key : String) (compute : σ → Except ε α × σ) (s : σ) :
    (m.getOrCompute key compute s).memo.name = m.name := by
  unfold getOrCompute
  split
  · rfl
  · split <;> rfl

theorem state_getOrCompute (m : Memo α) (key : String) (compute : σ → Except ε α × σ) (s : σ) :
    (m.getOrCompute key compute s).state = s ∨ (m.getOrCompute key compute s).state = (compute s).2 := by
  unfold getOrCompute
  split
  · exact .inl rfl
  · split <;> rename_i made <;> exact .inr (by rw [made])

end CloudCensus.Memo
