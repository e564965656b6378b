import CloudCensus.Proofs.Ancestors.Course
import CloudCensus.Proofs.Ancestors.Cycle

/-!
Policies that the visits of one run share.

Nothing that is remembered is replaced while a run is not cancelled, and an ancestor whose listing breaks
is not remembered at all.  So all visits of the run find the same policies of an ancestor, whichever of
them lists it.
-/

namespace CloudCensus.Walk

def policiesIn (m : Memo (List Placed)) (ancestor : String) : List Placed :=
  if (listingFor? ancestor).isSome then (m.find? ancestor).getD [] else []

def listedUnder (inventory : Inventory) (ancestor : String) : List Asset :=
  ((listingFor? ancestor).bind fun request => Item.complete? (inventory request)).getD []

theorem listingFor?_isSome (ancestor : String) :
    (listingFor? ancestor).isSome = (kindOf? ancestor).isSome := by
  rw [listingFor?_eq, Option.isSome_map]

theorem policiesIn_of_supported (m : Memo (List Placed)) (ancestor : String)
    (supported : (kindOf? ancestor).isSome = true) : policiesIn m ancestor = (m.find? ancestor).getD [] := by
  rw [policiesIn, listingFor?_isSome, if_pos supported]

theorem policiesIn_congr (m n : Memo (List Placed)) (ancestor : String)
    (same : m.find? ancestor = n.find? ancestor) : policiesIn m ancestor = policiesIn n ancestor := by
  rw [policiesIn, policiesIn, same]

section visit

variable (now : Sources) (m : Memo (List Placed)) (w : Walk)

theorem carryOut_policiesIn (ancestor : String) (plan : Plan) (made : plan.Made now m ancestor)
    (same : w.memo.find? ancestor = m.find? ancestor) (calm : (carryOut now w plan).2.fired = false) :
    (carryOut now w plan).1 = policiesIn (carryOut now w plan).2.memo ancestor ∧
      ∀ other, (w.memo.find? other).isSome = true ∨ other ≠ ancestor →
        (carryOut now w plan).2.memo.find? other = w.memo.find? other := by
  have before := unfired_before_carryOut now w plan calm
  cases plan with
  | unsupported =>
      refine ⟨?_, fun _ _ => rfl⟩
      rw [policiesIn, listingFor?_isSome, show kindOf? ancestor = none from made]
      rfl
  | known policies =>
      obtain ⟨supported, found⟩ := made
      refine ⟨?_, fun _ _ => rfl⟩
      rw [policiesIn_of_supported _ ancestor supported]
      change policies = (w.memo.find? ancestor).getD []
      rw [same, found]
      rfl
  | listing place p =>
      obtain ⟨rfl, absent, during, kind, fired, supported, rfl⟩ := made
      have named : (kindOf? place).isSome = true := Option.isSome_of_eq_some supported
      rw [absent] at same
      rcases carryOut_cases now place w kind fired with ⟨nothing, -⟩ | ⟨_, assets, -, listed⟩
      · rw [nothing, policiesIn_of_supported _ place named]
        exact ⟨by rw [same]; rfl, fun _ _ => rfl⟩
      · rw [listed] at calm ⊢
        cases late : (placeAll now w assets).2.fired with
        | true =>
            rw [if_pos late, late] at calm
            cases calm
        | false =>
            rw [if_neg Bool.false_ne_true, policiesIn_of_supported _ place named]
            constructor
            · rw [Memo.find?_insert, if_pos rfl]
              rfl
            · rintro other (found | foreign)
              · have foreign : other ≠ place := by
                  rintro rfl
                  rw [same] at found
                  cases found
                rw [Memo.find?_insert, if_neg foreign]
              · rw [Memo.find?_insert, if_neg foreign]

theorem carryOutAll_policiesIn (ancestors : List String) (plans : List Plan)
    (made : List.Forall₂ (Plan.Made now m) ancestors plans) (distinct : ancestors.Nodup)
    (same : ∀ ancestor ∈ ancestors, w.memo.find? ancestor = m.find? ancestor)
    (calm : (carryOutAll now w plans).2.fired = false) :
    (carryOutAll now w plans).1 = ancestors.flatMap (policiesIn (carryOutAll now w plans).2.memo) ∧
      ∀ other, (w.memo.find? other).isSome = true ∨ other ∉ ancestors →
        (carryOutAll now w plans).2.memo.find? other = w.memo.find? other := by
  induction made generalizing w with
  | nil => exact ⟨rfl, fun _ _ => rfl⟩
  | @cons ancestor plan rest _ here _ ih =>
      obtain ⟨fresh, others⟩ := List.nodup_cons.mp distinct
      obtain ⟨own, there⟩ := List.forall_mem_cons.mp same
      rw [carryOutAll_cons] at calm ⊢
      have between := unfired_before_carryOutAll now _ _ calm
      obtain ⟨first, kept⟩ := carryOut_policiesIn now m w ancestor plan here own between
      have untouched (place : String) (member : place ∈ rest) :
          (carryOut now w plan).2.memo.find? place = m.find? place := by
        have foreign : place ≠ ancestor := fun eq => fresh (eq ▸ member)
        exact (kept place (.inr foreign)).trans (there place member)
      obtain ⟨later, keptToo⟩ := ih _ others untouched calm
      constructor
      · rw [List.flatMap_cons, first, later]
        exact congrArg (· ++ _) (policiesIn_congr _ _ _ (keptToo ancestor (.inr fresh)).symm)
      · rintro other (found | foreign)
        · have still := kept other (.inl found)
          exact (keptToo other (.inl (by rw [still]; exact found))).trans still
        · obtain ⟨different, absent⟩ := not_or.mp (mt List.mem_cons.mpr foreign)
          exact (keptToo other (.inr absent)).trans (kept other (.inr different))

theorem policiesFor_policiesIn (ancestors : List String) (distinct : ancestors.Nodup)
    (calm : (policiesFor now w ancestors).2.fired = false) :
    (policiesFor now w ancestors).1 = ancestors.flatMap (policiesIn (policiesFor now w ancestors).2.memo) ∧
      ∀ other, (w.memo.find? other).isSome = true ∨ other ∉ ancestors →
        (policiesFor now w ancestors).2.memo.find? other = w.memo.find? other := by
  have planned := unfired_before_carryOutAll now _ _ calm
  have made := planAll_made now w ancestors planned
  have same := memo_planAll now w ancestors
  have carried := carryOutAll_policiesIn now w.memo (planAll now w ancestors).2 ancestors _ made distinct
    (fun ancestor _ => by rw [same]) calm
  rw [same] at carried
  exact carried

end visit

structure Gains (src : Sources) (w after : Walk) (named : List String) : Prop where
  kept : ∀ ancestor policies, w.memo.find? ancestor = some policies →
    after.memo.find? ancestor = some policies
  found : ∀ ancestor, (after.memo.find? ancestor).isSome = true ↔
    (w.memo.find? ancestor).isSome = true ∨ ancestor ∈ named ∧ finishes src.inventory ancestor = true

namespace Gains

variable {src : Sources} {w middle after : Walk} {named more : List String}

theorem same (memo : after.memo = w.memo) : Gains src w after [] where
  kept _ _ found := memo ▸ found
  found _ := by simp [memo]

theorem trans (first : Gains src w middle named) (second : Gains src middle after more) :
    Gains src w after (named ++ more) where
  kept ancestor policies found := second.kept ancestor policies (first.kept ancestor policies found)
  found ancestor := by rw [second.found, first.found, List.mem_append, or_and_right, or_assoc]

/-- What is remembered of an ancestor once it was named does not change any more. -/
theorem policiesIn_eq (first : Gains src w middle named) (second : Gains src middle after more)
    (ancestor : String) (member : ancestor ∈ named) :
    policiesIn after.memo ancestor = policiesIn middle.memo ancestor := by
  apply policiesIn_congr
  cases found : middle.memo.find? ancestor with
  | some policies => exact second.kept ancestor policies found
  | none =>
      -- It was not remembered although it was named, so its listing breaks each time.
      have absent : (middle.memo.find? ancestor).isSome ≠ true := by simp [found]
      have endless : finishes src.inventory ancestor ≠ true :=
        fun ends => absent ((first.found ancestor).mpr (.inr ⟨member, ends⟩))
      have still : (after.memo.find? ancestor).isSome ≠ true := by
        rw [Ne, second.found, not_or]
        exact ⟨absent, fun both => endless both.2⟩
      simpa using still

theorem knows_eq (gains : Gains src w after named) (ancestor : String) :
    knows after.memo ancestor = true ↔
      knows w.memo ancestor = true ∨ ancestor ∈ named ∧ finishes src.inventory ancestor = true := by
  rw [knows, knows, Bool.and_eq_true, Bool.and_eq_true, gains.found]
  constructor
  · rintro ⟨supported, found | both⟩
    · exact .inl ⟨supported, found⟩
    · exact .inr both
  · rintro (⟨supported, found⟩ | ⟨member, ends⟩)
    · exact ⟨supported, .inl found⟩
    · exact ⟨supported_of_finishes src.inventory ancestor ends, .inr ⟨member, ends⟩⟩

end Gains

theorem gains_policiesFor (src : Sources) (w : Walk) (ancestors : List String) (distinct : ancestors.Nodup)
    (calm : (policiesFor src w ancestors).2.fired = false) :
    Gains src w (policiesFor src w ancestors).2 ancestors where
  kept ancestor policies found := by
    have kept := (policiesFor_policiesIn src w ancestors distinct calm).2 ancestor (.inl (by rw [found]; rfl))
    exact kept.trans found
  found := remembered_policiesFor src w ancestors calm

def Stocked (inventory : Inventory) (m : Memo (List Placed)) : Prop :=
  ∀ ancestor policies, m.find? ancestor = some policies →
    policies.map (·.asset) = listedUnder inventory ancestor

theorem WholeList.listed {src : Sources} {ancestor : String} {policies : List Placed}
    (whole : WholeList src ancestor policies) :
    policies.map (·.asset) = listedUnder src.inventory ancestor := by
  obtain ⟨kind, assets, w, supported, items, rfl, -⟩ := whole
  rw [listedUnder, listingFor?_eq, supported, assets_placeAll]
  change assets = (Item.complete? (src.inventory (requestFor ancestor kind))).getD []
  rw [items, Item.complete_map_calm]
  rfl

/-- A named ancestor that nothing was remembered of has the policies that are listed for it. -/
theorem Gains.listed {src : Sources} {w after : Walk} {named : List String} (gains : Gains src w after named)
    (remembers : Remembers src w after) (ancestor : String) (member : ancestor ∈ named)
    (unknown : knows w.memo ancestor = false) :
    (policiesIn after.memo ancestor).map (·.asset) = listedUnder src.inventory ancestor := by
  rw [policiesIn]
  split
  case isFalse unsupported =>
    have none : listingFor? ancestor = none := by simpa using unsupported
    rw [listedUnder, none]
    rfl
  case isTrue supported =>
    have absent : w.memo.find? ancestor = none := by simpa [knows, supported] using unknown
    cases found : after.memo.find? ancestor with
    | some policies =>
        rcases remembers.policies ancestor policies found with before | whole
        · rw [absent] at before
          cases before
        · exact whole.listed
    | none =>
        have endless : finishes src.inventory ancestor ≠ true := by
          intro ends
          have kept := (gains.found ancestor).mpr (.inr ⟨member, ends⟩)
          rw [found] at kept
          cases kept
        have nothing := Option.not_isSome_iff_eq_none.mp endless
        rw [listedUnder, nothing]
        rfl

end CloudCensus.Walk
