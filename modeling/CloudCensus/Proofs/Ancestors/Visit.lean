import CloudCensus.Proofs.Ancestors.Sources

/-!
One visit, part by part.

Whatever a visit does, both memos go on holding what the sources have.  While the run is not cancelled,
each ancestor adds exactly its policies.
-/

namespace CloudCensus.Walk

/-- Both memos hold what the sources have; a list of policies that is remembered is whole. -/
structure Sound (src : Sources) (w : Walk) : Prop where
  accounts : Accounts.Faithful src.scope src.directory src.Lists w.accounts.memo
  policies : ∀ ancestor ps, w.memo.find? ancestor = some ps → src.policies? ancestor = some ps

structure Onward (src now : Sources) (w after : Walk) : Prop where
  sound : Sound src w → Sound src after
  unfired : after.fired = false → w.fired = false
  quiet : now.Quiet → w.fired = false → after.fired = false

theorem Onward.refl (src now : Sources) (w : Walk) : Onward src now w w := ⟨id, id, fun _ => id⟩

theorem Onward.trans {src now : Sources} {w middle after : Walk} (first : Onward src now w middle)
    (second : Onward src now middle after) : Onward src now w after where
  sound := second.sound ∘ first.sound
  unfired := first.unfired ∘ second.unfired
  quiet silent := second.quiet silent ∘ first.quiet silent

section placing

variable (src now : Sources)

theorem placeAll_cons (w : Walk) (a : Asset) (rest : List Asset) :
    placeAll now w (a :: rest) =
      ((place now w a).1 :: (placeAll now (place now w a).2 rest).1,
        (placeAll now (place now w a).2 rest).2) := rfl

theorem unfired_before_placeAll (w : Walk) (assets : List Asset)
    (calm : (placeAll now w assets).2.fired = false) : w.fired = false := by
  induction assets generalizing w with
  | nil => exact calm
  | cons a rest ih =>
      exact Accounts.unfired_before_resolve now.scope now.directory a.ancestors w.accounts
        (ih (place now w a).2 calm)

variable (like : src.Like now)

section accounted

variable {such : List String → Prop} {w : Walk}

include like

theorem faithful_place (known : Accounts.CutKnown such) {a : Asset} (own : such a.ancestors)
    (holds : Accounts.Faithful src.scope src.directory such w.accounts.memo) :
    Accounts.Faithful src.scope src.directory such (place now w a).2.accounts.memo := by
  change Accounts.Faithful _ _ _ (Accounts.resolve now.scope now.directory a.ancestors w.accounts).2.memo
  rw [like.scope]
  exact Accounts.faithful_resolve src.scope src.directory now.directory such a.ancestors known own
    w.accounts like.directory holds

theorem place_placed {a : Asset} (own : such a.ancestors)
    (holds : Accounts.Faithful src.scope src.directory such w.accounts.memo)
    (calm : (place now w a).2.fired = false) : (place now w a).1 = src.placed a := by
  change (Accounts.resolve now.scope now.directory a.ancestors w.accounts).2.fired = false at calm
  change Placed.mk a (Accounts.resolve now.scope now.directory a.ancestors w.accounts).1 = _
  rw [like.scope] at calm ⊢
  have answered := Accounts.resolve_direct src.scope src.directory now.directory a.ancestors
    w.accounts like.directory (holds a.ancestors own) calm
  rw [answered.1, Sources.placed]

/-- As long as the memo is right about such chains, each asset is placed as if there were none. -/
theorem placeAll_placed (known : Accounts.CutKnown such) {assets : List Asset}
    (own : ∀ a ∈ assets, such a.ancestors)
    (holds : Accounts.Faithful src.scope src.directory such w.accounts.memo)
    (calm : (placeAll now w assets).2.fired = false) :
    (placeAll now w assets).1 = assets.map src.placed := by
  induction assets generalizing w with
  | nil => rfl
  | cons a rest ih =>
      obtain ⟨here, there⟩ := List.forall_mem_cons.mp own
      rw [placeAll_cons] at calm ⊢
      have between := unfired_before_placeAll now (place now w a).2 rest calm
      have later := faithful_place src now like known here holds
      rw [place_placed src now like here holds between, ih there later calm, List.map_cons]

end accounted

variable (cut : Accounts.CutKnown src.Lists)

include like cut in
theorem onward_place (w : Walk) (a : Asset) (own : src.Lists a.ancestors) :
    Onward src now w (place now w a).2 where
  sound holds := ⟨faithful_place src now like cut own holds.accounts, holds.policies⟩
  unfired := Accounts.unfired_before_resolve now.scope now.directory a.ancestors w.accounts
  quiet silent calm :=
    (Accounts.fired_resolve_of_never now.scope now.directory a.ancestors w.accounts
      silent.directory).trans calm

include like cut in
theorem onward_placeAll (w : Walk) (assets : List Asset) (own : ∀ a ∈ assets, src.Lists a.ancestors) :
    Onward src now w (placeAll now w assets).2 := by
  induction assets generalizing w with
  | nil => exact .refl src now w
  | cons a rest ih =>
      rw [placeAll_cons]
      have first := onward_place src now like cut w a (own a List.mem_cons_self)
      exact first.trans (ih _ fun b later => own b (List.mem_cons_of_mem _ later))

theorem assets_placeAll (w : Walk) (assets : List Asset) :
    (placeAll now w assets).1.map (·.asset) = assets := by
  induction assets generalizing w with
  | nil => rfl
  | cons a rest ih =>
      rw [placeAll_cons, List.map_cons, ih]
      rfl

theorem memo_placeAll (w : Walk) (assets : List Asset) : (placeAll now w assets).2.memo = w.memo := by
  induction assets generalizing w with
  | nil => rfl
  | cons a rest ih =>
      rw [placeAll_cons]
      exact ih (place now w a).2

end placing

def Plan.fired : Plan → Bool
  | .unsupported => false
  | .known _ => false
  | .listing _ p => p.fired

def listingOf (now : Sources) (ancestor kind : String) (fired : Bool) : Produced :=
  produce (requestFor ancestor kind) (now.inventory (requestFor ancestor kind)) true fired

theorem listingOf_ending (now : Sources) (ancestor kind : String) (fired : Bool) :
    Ending (now.inventory (requestFor ancestor kind)) fired 0 (listingOf now ancestor kind fired) :=
  produceFrom_ending _ _ _ _

theorem unfired_before_listingOf (now : Sources) (ancestor kind : String) (fired : Bool)
    (calm : (listingOf now ancestor kind fired).fired = false) : fired = false := by
  cases listingOf_ending now ancestor kind fired with
  | cancelled fires => rw [fires] at calm; cases calm
  | complete _ before => exact before
  | broken _ before => exact before

def Plan.Fits (src now : Sources) (ancestor : String) : Plan → Prop
  | .unsupported => kindOf? ancestor = none
  | .known policies => src.policies? ancestor = some policies
  | .listing place p => place = ancestor ∧
      ∃ kind fired, kindOf? ancestor = some kind ∧ p = listingOf now ancestor kind fired

section planning

variable (src now : Sources) (w : Walk) (ancestor : String)

inductive Planned (r : Plan × Walk) : Prop where
  | unsupported (kindless : kindOf? ancestor = none) (made : r = (.unsupported, w))
  | known (kind : String) (policies : List Placed) (supported : kindOf? ancestor = some kind)
      (found : w.memo.find? ancestor = some policies)
      (made : r = (.known policies, w.tally (w.memo.tally ancestor)))
  | listed (kind : String) (p : Produced) (supported : kindOf? ancestor = some kind)
      (absent : w.memo.find? ancestor = none) (produced : p = listingOf now ancestor kind w.fired)
      (made : r = (.listing ancestor p,
        (w.tally (w.memo.tally ancestor)).noting [requestFor ancestor kind] p.fired p.ledger))

theorem plan_planned : Planned now w ancestor (plan now w ancestor) := by
  cases supported : kindOf? ancestor with
  | none => exact .unsupported supported (by simp only [plan, supported])
  | some kind =>
      cases found : w.memo.find? ancestor with
      | some policies =>
          have same : (w.tally (w.memo.tally ancestor)).memo.find? ancestor = some policies := found
          exact .known kind policies supported found (by simp only [plan, supported, same])
      | none =>
          have same : (w.tally (w.memo.tally ancestor)).memo.find? ancestor = none := found
          refine .listed kind _ supported found rfl ?_
          simp only [plan, supported, same]
          rfl

theorem memos_plan : (plan now w ancestor).2.memo = w.memo ∧
    (plan now w ancestor).2.accounts.memo = w.accounts.memo := by
  cases plan_planned now w ancestor with
  | unsupported _ made => rw [made]; exact ⟨rfl, rfl⟩
  | known _ _ _ _ made => rw [made]; exact ⟨rfl, rfl⟩
  | listed _ _ _ _ _ made => rw [made]; exact ⟨rfl, rfl⟩

theorem onward_plan : Onward src now w (plan now w ancestor).2 where
  sound holds := by
    obtain ⟨lists, accounts⟩ := memos_plan now w ancestor
    exact ⟨by rw [accounts]; exact holds.accounts, by rw [lists]; exact holds.policies⟩
  unfired calm := by
    cases plan_planned now w ancestor with
    | unsupported _ made => rw [made] at calm; exact calm
    | known _ _ _ _ made => rw [made] at calm; exact calm
    | listed kind p _ _ produced made =>
        rw [made] at calm
        apply unfired_before_listingOf now ancestor kind
        rw [← produced]
        exact calm
  quiet silent calm := by
    cases plan_planned now w ancestor with
    | unsupported _ made => rw [made]; exact calm
    | known _ _ _ _ made => rw [made]; exact calm
    | listed kind p _ _ produced made =>
        rw [made]
        change p.fired = false
        rw [produced, calm]
        exact fired_produceFrom _ _ _ _ (silent.inventory _)

theorem plan_fits (holds : Sound src w) : (plan now w ancestor).1.Fits src now ancestor := by
  cases plan_planned now w ancestor with
  | unsupported kindless made => rw [made]; exact kindless
  | known _ policies _ found made => rw [made]; exact holds.policies ancestor policies found
  | listed kind p supported _ produced made =>
      rw [made]
      exact ⟨rfl, kind, w.fired, supported, produced⟩

theorem plan_unfired (calm : (plan now w ancestor).2.fired = false) :
    (plan now w ancestor).1.fired = false := by
  cases plan_planned now w ancestor with
  | unsupported _ made => rw [made]; rfl
  | known _ _ _ _ made => rw [made]; rfl
  | listed _ p _ _ _ made =>
      rw [made] at calm ⊢
      exact calm

end planning

section plans

variable (src now : Sources)

theorem planAll_cons (w : Walk) (ancestor : String) (rest : List String) :
    planAll now w (ancestor :: rest) =
      ((plan now w ancestor).1 :: (planAll now (plan now w ancestor).2 rest).1,
        (planAll now (plan now w ancestor).2 rest).2) := rfl

theorem onward_planAll (w : Walk) (ancestors : List String) :
    Onward src now w (planAll now w ancestors).2 := by
  induction ancestors generalizing w with
  | nil => exact .refl src now w
  | cons ancestor rest ih =>
      rw [planAll_cons]
      exact (onward_plan src now w ancestor).trans (ih _)

theorem planAll_fits (w : Walk) (ancestors : List String) (holds : Sound src w) :
    List.Forall₂ (Plan.Fits src now) ancestors (planAll now w ancestors).1 := by
  induction ancestors generalizing w with
  | nil => exact .nil
  | cons ancestor rest ih =>
      rw [planAll_cons]
      exact .cons (plan_fits src now w ancestor holds)
        (ih _ ((onward_plan src now w ancestor).sound holds))

theorem planAll_unfired (w : Walk) (ancestors : List String)
    (calm : (planAll now w ancestors).2.fired = false) :
    ∀ p ∈ (planAll now w ancestors).1, p.fired = false := by
  induction ancestors generalizing w with
  | nil =>
      intro p member
      cases member
  | cons ancestor rest ih =>
      rw [planAll_cons] at calm ⊢
      intro p member
      rcases List.mem_cons.mp member with rfl | later
      · exact plan_unfired now w ancestor ((onward_planAll now now _ rest).unfired calm)
      · exact ih _ calm p later

end plans

section carrying

variable (src now : Sources) (like : src.Like now) (cut : Accounts.CutKnown src.Lists)
  (ancestor : String)

theorem carryOut_of_complete (w : Walk) (p : Produced) (assets : List Asset) (calm : w.fired = false)
    (outcome : p.outcome = .ok assets.length) (queue : p.queue = assets.map .ok) :
    carryOut now w (.listing ancestor p) =
      if (placeAll now w assets).2.fired then ([], (placeAll now w assets).2)
      else ((placeAll now w assets).1,
        { (placeAll now w assets).2 with
          memo := w.memo.insert ancestor (placeAll now w assets).1 }) := by
  simp only [carryOut, calm, outcome, queue, received_map_ok, memo_placeAll]
  rfl

theorem carryOut_of_fired (w : Walk) (p : Produced) (fired : w.fired = true) :
    carryOut now w (.listing ancestor p) = ([], w) := by
  simp only [carryOut, fired]
  rfl

theorem carryOut_of_error (w : Walk) (p : Produced) (e : Failure) (outcome : p.outcome = .error e) :
    carryOut now w (.listing ancestor p) = ([], w) := by
  cases fired : w.fired with
  | true => exact carryOut_of_fired now ancestor w p fired
  | false =>
      simp only [carryOut, fired, outcome]
      rfl

theorem carryOut_cases (w : Walk) (kind : String) (fired : Bool) :
    let p := listingOf now ancestor kind fired
    (carryOut now w (.listing ancestor p) = ([], w) ∧ (p.fired = false → w.fired = false →
      Item.complete? (now.inventory (requestFor ancestor kind)) = none)) ∨
    (w.fired = false ∧ ∃ assets,
      Item.complete? (now.inventory (requestFor ancestor kind)) = some assets ∧
      carryOut now w (.listing ancestor p) =
        if (placeAll now w assets).2.fired then ([], (placeAll now w assets).2)
        else ((placeAll now w assets).1,
          { (placeAll now w assets).2 with
            memo := w.memo.insert ancestor (placeAll now w assets).1 })) := by
  intro p
  cases before : w.fired with
  | true => exact .inl ⟨carryOut_of_fired now ancestor w p before, fun _ calm => by cases calm⟩
  | false =>
      cases listingOf_ending now ancestor kind fired with
      | cancelled fires outcome =>
          refine .inl ⟨carryOut_of_error now ancestor w p _ outcome, fun calm => ?_⟩
          rw [fires] at calm
          cases calm
      | broken e _ _ part outcome =>
          exact .inl ⟨carryOut_of_error now ancestor w p e outcome, fun _ _ => part⟩
      | complete assets _ _ whole outcome queue =>
          refine .inr ⟨rfl, assets, whole, ?_⟩
          exact carryOut_of_complete now ancestor w p assets before (by simpa using outcome) queue

include like cut in
theorem onward_carryOut (w : Walk) (plan : Plan) (fits : plan.Fits src now ancestor) :
    Onward src now w (carryOut now w plan).2 := by
  cases plan with
  | unsupported => exact .refl src now w
  | known policies => exact .refl src now w
  | listing place p =>
      obtain ⟨rfl, kind, fired, supported, rfl⟩ := fits
      rcases carryOut_cases now place w kind fired with ⟨same, _⟩ | ⟨_, assets, whole, same⟩
      · rw [same]
        exact .refl src now w
      · obtain ⟨listed, own⟩ := src.listed?_of_complete now like place kind assets whole
        have placing := onward_placeAll src now like cut w assets own
        rw [same]
        cases late : (placeAll now w assets).2.fired with
        | true => exact placing
        | false =>
            -- Only here is a list stored: its listing has ended, and no account was cut short.
            refine ⟨fun holds => ⟨(placing.sound holds).accounts, ?_⟩, placing.unfired,
              fun silent calm => placing.quiet silent calm⟩
            intro other ps found
            rw [if_neg Bool.false_ne_true, Memo.find?_insert] at found
            by_cases here : other = place
            · rw [if_pos here, placeAll_placed src now like cut own holds.accounts late] at found
              rw [here, Sources.policies?_eq, supported, Option.bind_some, listed, found]
            · rw [if_neg here] at found
              exact holds.policies other ps found

include like cut in
/-- While the run is not cancelled, a plan for an ancestor adds its policies. -/
theorem carryOut_policies (w : Walk) (plan : Plan) (fits : plan.Fits src now ancestor)
    (holds : Sound src w) (during : plan.fired = false)
    (calm : (carryOut now w plan).2.fired = false) :
    (carryOut now w plan).1 = (src.policies? ancestor).getD [] := by
  cases plan with
  | unsupported =>
      rw [Sources.policies?_eq, show kindOf? ancestor = none from fits]
      rfl
  | known policies =>
      rw [show src.policies? ancestor = some policies from fits]
      rfl
  | listing place p =>
      have before := (onward_carryOut src now like cut ancestor w _ fits).unfired calm
      obtain ⟨rfl, kind, fired, supported, rfl⟩ := fits
      rw [Sources.policies?_eq, supported, Option.bind_some]
      rcases carryOut_cases now place w kind fired with ⟨same, part⟩ | ⟨_, assets, whole, same⟩
      · rw [same, src.listed?_of_incomplete now like place kind (part during before)]
        rfl
      · obtain ⟨listed, own⟩ := src.listed?_of_complete now like place kind assets whole
        rw [same] at calm ⊢
        cases late : (placeAll now w assets).2.fired with
        | true =>
            rw [if_pos late] at calm
            rw [late] at calm
            cases calm
        | false =>
            rw [if_neg Bool.false_ne_true, listed,
              placeAll_placed src now like cut own holds.accounts late]
            rfl

theorem carryOutAll_cons (w : Walk) (plan : Plan) (rest : List Plan) :
    carryOutAll now w (plan :: rest) =
      ((carryOut now w plan).1 ++ (carryOutAll now (carryOut now w plan).2 rest).1,
        (carryOutAll now (carryOut now w plan).2 rest).2) := rfl

include like cut in
theorem onward_carryOutAll (w : Walk) (ancestors : List String) (plans : List Plan)
    (fits : List.Forall₂ (Plan.Fits src now) ancestors plans) :
    Onward src now w (carryOutAll now w plans).2 := by
  induction fits generalizing w with
  | nil => exact .refl src now w
  | cons here _ ih =>
      rw [carryOutAll_cons]
      exact (onward_carryOut src now like cut _ w _ here).trans (ih _)

include like cut in
theorem carryOutAll_policies (w : Walk) (ancestors : List String) (plans : List Plan)
    (fits : List.Forall₂ (Plan.Fits src now) ancestors plans) (holds : Sound src w)
    (during : ∀ plan ∈ plans, plan.fired = false)
    (calm : (carryOutAll now w plans).2.fired = false) :
    (carryOutAll now w plans).1 = ancestors.flatMap fun ancestor => (src.policies? ancestor).getD [] := by
  induction fits generalizing w with
  | nil => rfl
  | cons here there ih =>
      rw [carryOutAll_cons] at calm ⊢
      have first := onward_carryOut src now like cut _ w _ here
      have between := (onward_carryOutAll src now like cut _ _ _ there).unfired calm
      rw [List.flatMap_cons,
        carryOut_policies src now like cut _ w _ here holds (during _ List.mem_cons_self) between,
        ih _ (first.sound holds) (fun p later => during p (List.mem_cons_of_mem _ later)) calm]

end carrying

section visiting

variable (src now : Sources) (like : src.Like now) (cut : Accounts.CutKnown src.Lists)
  (w : Walk) (ancestors : List String) (holds : Sound src w)

include like cut holds in
theorem onward_policiesFor : Onward src now w (policiesFor now w ancestors).2 := by
  have planned := planAll_fits src now w ancestors holds
  exact (onward_planAll src now w ancestors).trans
    (onward_carryOutAll src now like cut _ ancestors _ planned)

include like cut holds in
theorem policiesFor_policies (calm : (policiesFor now w ancestors).2.fired = false) :
    (policiesFor now w ancestors).1 =
      ancestors.flatMap fun ancestor => (src.policies? ancestor).getD [] := by
  have planned := planAll_fits src now w ancestors holds
  have planning := onward_planAll src now w ancestors
  have carrying := onward_carryOutAll src now like cut (planAll now w ancestors).2 _ _ planned
  exact carryOutAll_policies src now like cut _ ancestors _ planned (planning.sound holds)
    (planAll_unfired now w ancestors (carrying.unfired calm)) calm

end visiting

end CloudCensus.Walk
