import CloudCensus.Text.Cut

namespace CloudCensus

theorem cutAt_eq_some_iff (c : Char) (cs front back : List Char) :
    cutAt c cs = some (front, back) ↔ cs = front ++ c :: back ∧ c ∉ front := by
  induction cs generalizing front with
  | nil => simp [cutAt]
  | cons d rest ih =>
      by_cases here : d = c
      · subst here
        cases front with
        | nil => simp [cutAt, eq_comm]
        | cons e tail =>
            constructor
            · simp [cutAt]
            · rintro ⟨split, plain⟩
              exact absurd (by simp [(List.cons.inj split).1]) plain
      · simp only [cutAt, if_neg here, Option.map_eq_some_iff, Prod.exists, Prod.mk.injEq]
        constructor
        · rintro ⟨tail, _, found, rfl, rfl⟩
          obtain ⟨split, plain⟩ := (ih tail).mp found
          exact ⟨by simp [split], by simpa [Ne.symm here] using plain⟩
        · rintro ⟨split, plain⟩
          cases front with
          | nil => exact absurd (List.cons.inj split).1 here
          | cons e tail =>
              obtain ⟨same, split⟩ := List.cons.inj split
              refine ⟨tail, back, (ih tail).mpr ⟨split, ?_⟩, by rw [same], rfl⟩
              exact fun later => plain (List.mem_cons_of_mem _ later)

theorem cut_inj (c : Char) (front other back rest : List Char) (plain : c ∉ front)
    (plainToo : c ∉ other) (same : front ++ c :: back = other ++ c :: rest) :
    front = other ∧ back = rest := by
  have one := (cutAt_eq_some_iff c _ front back).mpr ⟨rfl, plain⟩
  have two := (cutAt_eq_some_iff c _ other rest).mpr ⟨same, plainToo⟩
  simpa using one.symm.trans two

theorem last_cut_inj (c : Char) (front other back rest : List Char) (plain : c ∉ back)
    (plainToo : c ∉ rest) (same : front ++ c :: back = other ++ c :: rest) :
    front = other ∧ back = rest := by
  have mirrored : back.reverse ++ c :: front.reverse = rest.reverse ++ c :: other.reverse := by
    simpa using congrArg List.reverse same
  obtain ⟨backs, fronts⟩ := cut_inj c _ _ _ _ (by simpa using plain) (by simpa using plainToo) mirrored
  exact ⟨List.reverse_inj.mp fronts, List.reverse_inj.mp backs⟩

theorem endsIn_iff (ending text : String) : endsIn ending text = true ↔ ∃ front, text = front ++ ending := by
  rw [endsIn, List.isSuffixOf_iff_suffix]
  constructor
  · rintro ⟨front, split⟩
    refine ⟨String.ofList front, String.toList_inj.mp ?_⟩
    rw [String.toList_append, String.toList_ofList, split]
  · rintro ⟨front, rfl⟩
    rw [String.toList_append]
    exact List.suffix_append _ _

theorem afterLead?_append (lead rest : String) : afterLead? lead (lead ++ rest) = some rest := by
  rw [afterLead?, dropLead?, String.toList_append, if_pos, List.drop_left, Option.map_some,
    String.ofList_toList]
  exact List.isPrefixOf_iff_prefix.mpr (List.prefix_append _ _)

theorem afterLead?_isSome_iff (word lead text : String) (c : Char)
    (whole : lead.toList = word.toList ++ [c]) (plain : c ∉ word.toList) :
    (afterLead? lead text).isSome = true ↔ ∃ rest, cutAt c text.toList = some (word.toList, rest) := by
  have begins : (afterLead? lead text).isSome = true ↔ lead.toList <+: text.toList := by
    rw [← List.isPrefixOf_iff_prefix, afterLead?, dropLead?, Option.isSome_map]
    cases lead.toList.isPrefixOf text.toList <;> simp
  rw [begins, whole]
  constructor
  · rintro ⟨rest, split⟩
    refine ⟨rest, (cutAt_eq_some_iff c _ _ _).mpr ⟨?_, plain⟩⟩
    rw [← split, List.append_assoc, List.singleton_append]
  · rintro ⟨rest, cut⟩
    refine ⟨rest, ?_⟩
    rw [((cutAt_eq_some_iff c _ _ _).mp cut).1, List.append_assoc, List.singleton_append]

end CloudCensus
