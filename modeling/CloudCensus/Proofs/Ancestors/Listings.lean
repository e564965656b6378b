import CloudCensus.Proofs.Ancestors.Visit
import CloudCensus.Proofs.Ledger

namespace CloudCensus.Walk

def listingFor? (ancestor : String) : Option Request :=
  if (afterLead? "folders/" ancestor).isSome then some ⟨ancestor, [Kind.folder], .policy⟩
  else if (afterLead? "organizations/" ancestor).isSome then
    some ⟨ancestor, [Kind.organization], .policy⟩
  else none

def finishes (inventory : Inventory) (ancestor : String) : Bool :=
  ((listingFor? ancestor).bind fun request => Item.complete? (inventory request)).isSome

def knows (m : Memo (List Placed)) (ancestor : String) : Bool :=
  (listingFor? ancestor).isSome && (m.find? ancestor).isSome

def missing? (m : Memo (List Placed)) (ancestor : String) : Option Request :=
  if knows m ancestor then none else listingFor? ancestor

def policyHits : Counter := .memoHits "ancestor_policies"

def policyMisses : Counter := .memoMisses "ancestor_policies"

theorem listingFor?_eq (ancestor : String) :
    listingFor? ancestor = (kindOf? ancestor).map (requestFor ancestor) := by
  rw [listingFor?, kindOf?_eq]
  split
  · rfl
  · split <;> rfl

theorem finishes_eq (inventory : Inventory) (ancestor kind : String)
    (supported : kindOf? ancestor = some kind) :
    finishes inventory ancestor =
      (Item.complete? (inventory (requestFor ancestor kind))).isSome := by
  rw [finishes, listingFor?_eq, supported]
  rfl

theorem finishes_of_unsupported (inventory : Inventory) (ancestor : String)
    (kindless : kindOf? ancestor = none) : finishes inventory ancestor = false := by
  rw [finishes, listingFor?_eq, kindless]
  rfl

theorem supported_of_finishes (inventory : Inventory) (ancestor : String)
    (ends : finishes inventory ancestor = true) : (listingFor? ancestor).isSome := by
  rw [finishes] at ends
  cases found : listingFor? ancestor with
  | none =>
      rw [found] at ends
      cases ends
  | some request => rfl

/-- The labels that tell the counters of the two memos apart. -/
structure Labelled (w : Walk) : Prop where
  policies : w.memo.name = "ancestor_policies"
  accounts : w.accounts.memo.name = "account_metadata"

structure Listed (w after : Walk) (requests : List Request) (hits : Nat) : Prop where
  labelled : Labelled after
  made : after.requests = w.requests ++ requests
  hits : after.ledger.count policyHits = w.ledger.count policyHits + hits
  misses : after.ledger.count policyMisses = w.ledger.count policyMisses + requests.length

theorem Listed.refl {w : Walk} (own : Labelled w) : Listed w w [] 0 where
  labelled := own
  made := by simp
  hits := rfl
  misses := rfl

theorem Listed.trans {w middle after : Walk} {front back : List Request} {here there : Nat}
    (first : Listed w middle front here) (second : Listed middle after back there) :
    Listed w after (front ++ back) (here + there) where
  labelled := second.labelled
  made := by rw [second.made, first.made, List.append_assoc]
  hits := by rw [second.hits, first.hits, Nat.add_assoc]
  misses := by rw [second.misses, first.misses, List.length_append, Nat.add_assoc]

section planning

variable (now : Sources) (w : Walk) (ancestor : String)

theorem count_tally_found (own : Labelled w) (policies : List Placed)
    (found : w.memo.find? ancestor = some policies) :
    (w.memo.tally ancestor).count policyHits = 1 ∧ (w.memo.tally ancestor).count policyMisses = 0 := by
  rw [Memo.tally, found, own.policies]
  exact ⟨rfl, rfl⟩

theorem count_tally_absent (own : Labelled w) (absent : w.memo.find? ancestor = none) :
    (w.memo.tally ancestor).count policyHits = 0 ∧ (w.memo.tally ancestor).count policyMisses = 1 := by
  rw [Memo.tally, absent, own.policies]
  exact ⟨rfl, rfl⟩

/-- A plan lists its ancestor exactly if nothing is remembered of it, and only then counts a miss. -/
theorem listed_plan (own : Labelled w) :
    Listed w (plan now w ancestor).2 (missing? w.memo ancestor).toList
      (knows w.memo ancestor).toNat := by
  cases plan_planned now w ancestor with
  | unsupported kindless made =>
      have none_known : knows w.memo ancestor = false := by simp [knows, listingFor?_eq, kindless]
      have none_missing : missing? w.memo ancestor = none := by
        simp [missing?, none_known, listingFor?_eq, kindless]
      rw [made, none_known, none_missing]
      exact .refl own
  | known kind policies supported found made =>
      have known : knows w.memo ancestor = true := by
        simp [knows, listingFor?_eq, supported, found]
      have none_missing : missing? w.memo ancestor = none := by simp [missing?, known]
      obtain ⟨hit, miss⟩ := count_tally_found w ancestor own policies found
      rw [made, known, none_missing]
      refine ⟨⟨own.policies, own.accounts⟩, by simp [tally], ?_, ?_⟩
      · exact (Ledger.count_append _ _ _).trans (congrArg _ hit)
      · exact (Ledger.count_append _ _ _).trans (congrArg _ miss)
  | listed kind p supported absent produced made =>
      have unknown : knows w.memo ancestor = false := by simp [knows, absent]
      have request : missing? w.memo ancestor = some (requestFor ancestor kind) := by
        simp [missing?, unknown, listingFor?_eq, supported]
      obtain ⟨hit, miss⟩ := count_tally_absent w ancestor own absent
      have silent (c : Counter) (ours : c.OfMemo "ancestor_policies") : p.ledger.count c = 0 := by
        rw [produced]
        exact count_produceFrom ours _ _ _ _ _
      have counted (c : Counter) (ours : c.OfMemo "ancestor_policies") :
          (w.ledger ++ w.memo.tally ancestor ++ p.ledger).count c =
            w.ledger.count c + (w.memo.tally ancestor).count c := by
        rw [Ledger.count_append, Ledger.count_append, silent c ours, Nat.add_zero]
      rw [made, unknown, request]
      refine ⟨⟨own.policies, own.accounts⟩, rfl, ?_, ?_⟩
      · exact (counted policyHits (.inl rfl)).trans (congrArg _ hit)
      · exact (counted policyMisses (.inr rfl)).trans (congrArg _ miss)

theorem listed_planAll (ancestors : List String) (own : Labelled w) :
    Listed w (planAll now w ancestors).2 (ancestors.filterMap (missing? w.memo))
      (ancestors.countP (knows w.memo)) := by
  induction ancestors generalizing w with
  | nil => exact .refl own
  | cons ancestor rest ih =>
      have first := listed_plan now w ancestor own
      have others := ih (plan now w ancestor).2 first.labelled
      -- Planning remembers nothing, so each ancestor meets the memo that the visit began with.
      rw [(memos_plan now w ancestor).1] at others
      have requests : (ancestor :: rest).filterMap (missing? w.memo) =
          (missing? w.memo ancestor).toList ++ rest.filterMap (missing? w.memo) := by
        cases found : missing? w.memo ancestor <;> simp [found]
      have hits : (ancestor :: rest).countP (knows w.memo) =
          (knows w.memo ancestor).toNat + rest.countP (knows w.memo) := by
        cases known : knows w.memo ancestor <;> simp [known, Nat.add_comm]
      rw [planAll_cons, requests, hits]
      exact first.trans others

end planning

section carrying

variable (now : Sources)

theorem listed_place (w : Walk) (a : Asset) (own : Labelled w) :
    Listed w (place now w a).2 [] 0 := by
  have other : w.accounts.memo.name ≠ "ancestor_policies" := by
    rw [own.accounts]
    decide
  have counted (c : Counter) (ours : c.OfMemo "ancestor_policies") :=
    Accounts.count_resolve ours now.scope now.directory a.ancestors w.accounts other
  have named := Accounts.name_resolve now.scope now.directory a.ancestors w.accounts
  refine ⟨⟨own.policies, named.trans own.accounts⟩, by simp [place], ?_, ?_⟩
  · exact counted policyHits (.inl rfl)
  · exact counted policyMisses (.inr rfl)

theorem listed_placeAll (w : Walk) (assets : List Asset) (own : Labelled w) :
    Listed w (placeAll now w assets).2 [] 0 := by
  induction assets generalizing w with
  | nil => exact .refl own
  | cons a rest ih =>
      have first := listed_place now w a own
      rw [placeAll_cons]
      exact first.trans (ih _ first.labelled)

/-- Carrying out a plan lists nothing: its listing was made with the plan. -/
theorem listed_carryOut (w : Walk) (plan : Plan) (own : Labelled w) :
    Listed w (carryOut now w plan).2 [] 0 := by
  cases plan with
  | unsupported => exact .refl own
  | known policies => exact .refl own
  | listing ancestor p =>
      have placing := listed_placeAll now w (received p.queue) own
      simp only [carryOut]
      split
      · exact .refl own
      · split
        · exact placing
        · exact ⟨⟨placing.labelled.policies, placing.labelled.accounts⟩, placing.made,
            placing.hits, placing.misses⟩

theorem listed_carryOutAll (w : Walk) (plans : List Plan) (own : Labelled w) :
    Listed w (carryOutAll now w plans).2 [] 0 := by
  induction plans generalizing w with
  | nil => exact .refl own
  | cons plan rest ih =>
      have first := listed_carryOut now w plan own
      rw [carryOutAll_cons]
      exact first.trans (ih _ first.labelled)

end carrying

theorem listed_policiesFor (now : Sources) (w : Walk) (ancestors : List String) (own : Labelled w) :
    Listed w (policiesFor now w ancestors).2 (ancestors.filterMap (missing? w.memo))
      (ancestors.countP (knows w.memo)) := by
  have planning := listed_planAll now w ancestors own
  have carrying := listed_carryOutAll now (planAll now w ancestors).2
    (planAll now w ancestors).1 planning.labelled
  have both := planning.trans carrying
  rw [List.append_nil, Nat.add_zero] at both
  exact both

/-! What a visit that is not cancelled remembers. -/

def Plan.Made (now : Sources) (m : Memo (List Placed)) (ancestor : String) : Plan → Prop
  | .unsupported => kindOf? ancestor = none
  | .known policies => (kindOf? ancestor).isSome ∧ m.find? ancestor = some policies
  | .listing place p => place = ancestor ∧ m.find? ancestor = none ∧ p.fired = false ∧
      ∃ kind fired, kindOf? ancestor = some kind ∧ p = listingOf now ancestor kind fired

section remembering

variable (now : Sources)

theorem plan_made (w : Walk) (ancestor : String) (calm : (plan now w ancestor).2.fired = false) :
    (plan now w ancestor).1.Made now w.memo ancestor := by
  cases plan_planned now w ancestor with
  | unsupported kindless made => rw [made]; exact kindless
  | known kind policies supported found made =>
      rw [made]
      exact ⟨Option.isSome_of_eq_some supported, found⟩
  | listed kind p supported absent produced made =>
      rw [made] at calm ⊢
      exact ⟨rfl, absent, calm, kind, w.fired, supported, produced⟩

theorem planAll_made (w : Walk) (ancestors : List String)
    (calm : (planAll now w ancestors).2.fired = false) :
    List.Forall₂ (Plan.Made now w.memo) ancestors (planAll now w ancestors).1 := by
  induction ancestors generalizing w with
  | nil => exact .nil
  | cons ancestor rest ih =>
      rw [planAll_cons] at calm ⊢
      have between := (onward_planAll now now (plan now w ancestor).2 rest).unfired calm
      have others := ih (plan now w ancestor).2 calm
      rw [(memos_plan now w ancestor).1] at others
      exact .cons (plan_made now w ancestor between) others

theorem unfired_before_carryOut (w : Walk) (plan : Plan)
    (calm : (carryOut now w plan).2.fired = false) : w.fired = false := by
  cases fired : w.fired with
  | false => rfl
  | true =>
      cases plan with
      | unsupported => exact fired.symm.trans calm
      | known policies => exact fired.symm.trans calm
      | listing ancestor p =>
          rw [carryOut_of_fired now ancestor w p fired] at calm
          exact fired.symm.trans calm

theorem unfired_before_carryOutAll (w : Walk) (plans : List Plan)
    (calm : (carryOutAll now w plans).2.fired = false) : w.fired = false := by
  induction plans generalizing w with
  | nil => exact calm
  | cons plan rest ih =>
      rw [carryOutAll_cons] at calm
      exact unfired_before_carryOut now w plan (ih _ calm)

theorem remembered_carryOut (m : Memo (List Placed)) (w : Walk) (ancestor : String) (plan : Plan)
    (made : plan.Made now m ancestor)
    (kept : ∀ place, (m.find? place).isSome → (w.memo.find? place).isSome)
    (calm : (carryOut now w plan).2.fired = false) (other : String) :
    ((carryOut now w plan).2.memo.find? other).isSome ↔
      (w.memo.find? other).isSome ∨ other = ancestor ∧ finishes now.inventory other := by
  have before := unfired_before_carryOut now w plan calm
  cases plan with
  | unsupported =>
      have endless := finishes_of_unsupported now.inventory ancestor made
      constructor
      · exact .inl
      · rintro (found | ⟨rfl, ends⟩)
        · exact found
        · rw [endless] at ends
          cases ends
  | known policies =>
      constructor
      · exact .inl
      · rintro (found | ⟨rfl, -⟩)
        · exact found
        · exact kept other (Option.isSome_of_eq_some made.2)
  | listing place p =>
      obtain ⟨rfl, -, during, kind, fired, supported, rfl⟩ := made
      have ending := finishes_eq now.inventory place kind supported
      rcases carryOut_cases now place w kind fired with ⟨same, part⟩ | ⟨_, assets, whole, same⟩
      · rw [part during before] at ending
        rw [same]
        constructor
        · exact .inl
        · rintro (found | ⟨rfl, ends⟩)
          · exact found
          · rw [ending] at ends
            cases ends
      · rw [whole] at ending
        rw [same] at calm ⊢
        cases late : (placeAll now w assets).2.fired with
        | true =>
            rw [if_pos late, late] at calm
            cases calm
        | false =>
            rw [if_neg Bool.false_ne_true]
            change (((w.memo.insert place _).find? other).isSome) ↔ _
            rw [Memo.find?_insert]
            by_cases here : other = place
            · simp [here, ending]
            · simp [here]

theorem remembered_carryOutAll (m : Memo (List Placed)) (w : Walk) (ancestors : List String)
    (plans : List Plan) (made : List.Forall₂ (Plan.Made now m) ancestors plans)
    (kept : ∀ place, (m.find? place).isSome → (w.memo.find? place).isSome)
    (calm : (carryOutAll now w plans).2.fired = false) (other : String) :
    ((carryOutAll now w plans).2.memo.find? other).isSome ↔
      (w.memo.find? other).isSome ∨ other ∈ ancestors ∧ finishes now.inventory other := by
  induction made generalizing w with
  | nil => simp [carryOutAll]
  | @cons ancestor plan rest _ here _ ih =>
      rw [carryOutAll_cons] at calm ⊢
      have between := unfired_before_carryOutAll now _ _ calm
      have first := remembered_carryOut now m w ancestor plan here kept between
      have keptOn (place : String) (found : (m.find? place).isSome) :=
        (first place).mpr (.inl (kept place found))
      rw [ih _ keptOn calm, first, List.mem_cons]
      constructor
      · rintro ((found | ⟨same, ends⟩) | ⟨later, ends⟩)
        · exact .inl found
        · exact .inr ⟨.inl same, ends⟩
        · exact .inr ⟨.inr later, ends⟩
      · rintro (found | ⟨same | later, ends⟩)
        · exact .inl (.inl found)
        · exact .inl (.inr ⟨same, ends⟩)
        · exact .inr ⟨later, ends⟩

theorem memo_planAll (w : Walk) (ancestors : List String) :
    (planAll now w ancestors).2.memo = w.memo := by
  induction ancestors generalizing w with
  | nil => rfl
  | cons ancestor rest ih => rw [planAll_cons, ih, (memos_plan now w ancestor).1]

/-- A visit that is not cancelled remembers, besides what was remembered before, exactly those of its
ancestors whose listings come to their end. -/
theorem remembered_policiesFor (w : Walk) (ancestors : List String)
    (calm : (policiesFor now w ancestors).2.fired = false) (other : String) :
    ((policiesFor now w ancestors).2.memo.find? other).isSome ↔
      (w.memo.find? other).isSome ∨ other ∈ ancestors ∧ finishes now.inventory other := by
  have planned := unfired_before_carryOutAll now _ _ calm
  have made := planAll_made now w ancestors planned
  have same := memo_planAll now w ancestors
  have kept (place : String) (found : (w.memo.find? place).isSome) :
      ((planAll now w ancestors).2.memo.find? place).isSome := by
    rw [same]
    exact found
  have carried := remembered_carryOutAll now w.memo _ ancestors _ made kept calm other
  rw [same] at carried
  exact carried

end remembering

end CloudCensus.Walk
