import CloudCensus.Proofs.Ancestors.Visit

namespace CloudCensus.Walk

def after (calls : List Call) : Walk := (run start calls).2

def AllLike (src : Sources) (calls : List Call) : Prop :=
  ∀ now ancestors cancelled, .visit now ancestors cancelled ∈ calls → src.Like now

section sound

variable (src : Sources)

theorem sound_start : Sound src start where
  accounts _ _ _ found := nomatch found
  policies _ _ found := nomatch found

theorem sound_resume (w : Walk) (cancelled : Bool) (holds : Sound src w) :
    Sound src (w.resume cancelled) := ⟨holds.accounts, holds.policies⟩

theorem sound_step (cut : Accounts.CutKnown src.Lists) (w : Walk) (c : Call)
    (alike : ∀ now ancestors cancelled, c = .visit now ancestors cancelled → src.Like now)
    (holds : Sound src w) : Sound src (step w c).2 := by
  cases c with
  | visit now ancestors cancelled =>
      have resumed := sound_resume src w cancelled holds
      exact (onward_policiesFor src now (alike now ancestors cancelled rfl) cut _ ancestors
        resumed).sound resumed
  | clearPolicies => exact ⟨holds.accounts, fun _ _ found => nomatch found⟩
  | clear => exact ⟨fun _ _ _ found => (nomatch found), fun _ _ found => (nomatch found)⟩

theorem sound_after (cut : Accounts.CutKnown src.Lists) (calls : List Call)
    (alike : AllLike src calls) : Sound src (after calls) := by
  refine Steps.state_induction (motive := fun (_ : List Call) (w : Walk) => Sound src w)
    start (sound_start src) calls ?_
  intro past c rest split earlier
  refine sound_step src cut _ c ?_ earlier
  rintro now ancestors cancelled rfl
  exact alike now ancestors cancelled (by simp [split])

end sound

def fresh (src : Sources) (ancestors : List String) : Reply :=
  (step start (.visit src.quiet ancestors false)).1

theorem visit_policies (src now : Sources) (like : src.Like now) (cut : Accounts.CutKnown src.Lists)
    (w : Walk) (holds : Sound src w) (ancestors : List String) (cancelled : Bool)
    (calm : (step w (.visit now ancestors cancelled)).1.fired = false) :
    (step w (.visit now ancestors cancelled)).1.policies =
      ancestors.flatMap fun ancestor => (src.policies? ancestor).getD [] :=
  policiesFor_policies src now like cut _ ancestors (sound_resume src w cancelled holds) calm

theorem fresh_policies (src : Sources) (cut : Accounts.CutKnown src.Lists) (ancestors : List String) :
    (fresh src ancestors).policies =
      ancestors.flatMap fun ancestor => (src.policies? ancestor).getD [] := by
  refine visit_policies src src.quiet src.like_quiet cut start (sound_start src) ancestors false ?_
  exact (onward_policiesFor src src.quiet src.like_quiet cut _ ancestors
    (sound_resume src start false (sound_start src))).quiet src.quiet_quiet rfl

/-- In every sequence of calls, a visit that is not cancelled answers, ancestor by ancestor in their
order, the whole listing of each folder or organization whose listing comes to its end, and nothing for
the others; that is what a fresh walker answers.  After every call, cancelled ones included, only whole
listings are remembered. -/
theorem visits_direct (src : Sources) (calls : List Call) (alike : AllLike src calls)
    (cut : Accounts.CutKnown src.Lists) :
    (∀ past now ancestors cancelled rest, calls = past ++ .visit now ancestors cancelled :: rest →
      (step (after past) (.visit now ancestors cancelled)).1.fired = false →
      (step (after past) (.visit now ancestors cancelled)).1.policies =
          ancestors.flatMap (fun ancestor => (src.policies? ancestor).getD []) ∧
        (step (after past) (.visit now ancestors cancelled)).1.policies =
          (fresh src ancestors).policies) ∧
    (∀ past rest, calls = past ++ rest → ∀ ancestor policies,
      (after past).memo.find? ancestor = some policies →
        src.policies? ancestor = some policies) := by
  have sound (past rest : List Call) (split : calls = past ++ rest) : Sound src (after past) := by
    refine sound_after src cut past ?_
    intro now ancestors cancelled member
    exact alike now ancestors cancelled (by simp [split, member])
  constructor
  · intro past now ancestors cancelled rest split calm
    have like := alike now ancestors cancelled (by simp [split])
    have answered := visit_policies src now like cut (after past) (sound past _ split) ancestors
      cancelled calm
    exact ⟨answered, answered.trans (fresh_policies src cut ancestors).symm⟩
  · intro past rest split
    exact (sound past rest split).policies

def grant (name : String) (chain : List String) : Asset := ⟨name, "", chain, none, some .null, none⟩

/-- Two folders and an organization.  The listing of one folder breaks, and that of the other may cancel
the run. -/
def estate (fires : Bool) : Sources where
  scope := .organization "1"
  directory := Accounts.twoProjects
  inventory request :=
    if request.parent = "folders/2" then
      [.asset (grant "inherited" ["folders/2", "organizations/1"]) false,
        .asset (grant "kept" ["projects/a", "folders/2", "organizations/1"]) fires]
    else if request.parent = "folders/3" then
      [.asset (grant "lost" ["folders/3", "organizations/1"]) false,
        .failure (.because .permissionDenied (.stated "denied"))]
    else if request.parent = "organizations/1" then [.asset (grant "top" ["organizations/1"]) false]
    else []

def rounds : List Call :=
  [.visit (estate true) ["folders/2", "organizations/1"] false,
    .visit (estate false) ["folders/3", "folders/2", "organizations/1", "billing/4"] false,
    .visit (estate false) ["organizations/1"] false]

theorem visits_direct_rounds :
    AllLike (estate false) rounds ∧ Accounts.CutKnown (estate false).Lists ∧
    (step (after (rounds.take 1)) (.visit (estate false)
      ["folders/3", "folders/2", "organizations/1", "billing/4"] false)).1.policies.map
        (·.asset.name) = ["inherited", "kept", "top"] ∧
    ∀ ancestor policies, (after (rounds.take 1)).memo.find? ancestor = some policies →
      (estate false).policies? ancestor = some policies := by
  have like (fires : Bool) : (estate false).Like (estate fires) := by
    refine ⟨rfl, fun _ _ _ => rfl, fun request => ?_⟩
    simp only [estate]
    split
    · rfl
    · rfl
  have alike : AllLike (estate false) rounds := by
    intro now ancestors cancelled member
    simp only [rounds, List.mem_cons, Call.visit.injEq, List.not_mem_nil, or_false] at member
    rcases member with ⟨rfl, -⟩ | ⟨rfl, -⟩ | ⟨rfl, -⟩
    · exact like true
    · exact like false
    · exact like false
  have cut : Accounts.CutKnown (estate false).Lists := by
    left
    rintro _ ⟨request, a, fires, member, rfl⟩
    simp only [estate] at member
    split at member
    · simp only [List.mem_cons, Item.asset.injEq, List.not_mem_nil, or_false] at member
      rcases member with ⟨rfl, _⟩ | ⟨rfl, _⟩ <;> decide
    · split at member
      · simp only [List.mem_cons, Item.asset.injEq, reduceCtorEq, List.not_mem_nil, or_false] at member
        obtain ⟨rfl, _⟩ := member
        decide
      · split at member
        · simp only [List.mem_cons, Item.asset.injEq, List.not_mem_nil, or_false] at member
          obtain ⟨rfl, _⟩ := member
          decide
        · cases member
  have direct := visits_direct (estate false) rounds alike cut
  refine ⟨alike, cut, ?_, direct.2 (rounds.take 1) (rounds.drop 1) rfl⟩
  rw [(direct.1 (rounds.take 1) _ _ _ (rounds.drop 2) rfl (by decide +kernel)).1]
  rfl

end CloudCensus.Walk
