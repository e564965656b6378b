import CloudCensus.Hierarchy
import CloudCensus.Proofs.Memo
import CloudCensus.Proofs.Text.Cut

namespace CloudCensus

/-- Answers as another directory does while the run is not cancelled.  What cancels a run, and the
answers from then on, are left open. -/
def AnswersLike (directory now : Directory) : Prop :=
  ∀ level name, (now level name false).fires = false →
    (now level name false).answer = (directory level name false).answer

def NeverFires (now : Directory) : Prop := ∀ level name fired, (now level name fired).fires = false

namespace Accounts

def chainKey (chain : List String) : String := memoKey (projectId chain) (organizationId chain)

def due (scope : Scope) (chain : List String) : List (Level × String) :=
  (if scope.isOrganization && !(organizationId chain).isEmpty then
    [(.organization, "organizations/" ++ organizationId chain)] else []) ++
  (if (projectId chain).isEmpty then [] else [(.project, "projects/" ++ projectId chain)])

def displayed (directory : Directory) (level : Level) (id : String) : String :=
  match (directory level (resourceName level id) false).answer with
  | .ok text => text
  | .error _ => ""

def nameIf (wanted : Bool) (now : Directory) (level : Level) (id : String) (s : Accounts) :
    String × Accounts :=
  if wanted then displayName now level id s else ("", s)

theorem lookUp_eq (scope : Scope) (now : Directory) (project organization : String) (s : Accounts) :
    lookUp scope now project organization s =
      let first := nameIf (scope.isOrganization && !organization.isEmpty) now .organization
        organization s
      let second := nameIf (!project.isEmpty) now .project project first.2
      let account : Account := ⟨project, second.1, organization, first.1⟩
      (if second.2.fired then .error account else .ok account, second.2) := by
  unfold lookUp nameIf
  cases project.isEmpty <;> rfl

section nameIf

variable (wanted : Bool) (now : Directory) (level : Level) (id : String) (s : Accounts)

theorem displayName_state : ∃ ledger, (displayName now level id s).2 =
    ⟨s.memo, s.fired || (now level (resourceName level id) s.fired).fires, ledger,
      s.lookUps ++ [(level, resourceName level id)]⟩ := by
  cases found : (now level (resourceName level id) s.fired).answer with
  | ok text => exact ⟨s.ledger, by simp only [displayName, found]⟩
  | error e =>
      exact ⟨s.ledger ++ Ledger.one (.lookupFailures level), by simp only [displayName, found]⟩

theorem displayName_text : (displayName now level id s).1 =
    match (now level (resourceName level id) s.fired).answer with
    | .ok text => text
    | .error _ => "" := by
  cases found : (now level (resourceName level id) s.fired).answer with
  | ok text => simp only [displayName, found]
  | error e => simp only [displayName, found]

theorem memo_nameIf : (nameIf wanted now level id s).2.memo = s.memo := by
  obtain ⟨_, state⟩ := displayName_state now level id s
  cases wanted with
  | false => rfl
  | true => simp [nameIf, state]

theorem lookUps_nameIf : (nameIf wanted now level id s).2.lookUps =
    s.lookUps ++ if wanted then [(level, resourceName level id)] else [] := by
  obtain ⟨_, state⟩ := displayName_state now level id s
  cases wanted with
  | false => simp [nameIf]
  | true => simp [nameIf, state]

theorem fired_nameIf (fired : s.fired = true) : (nameIf wanted now level id s).2.fired = true := by
  obtain ⟨_, state⟩ := displayName_state now level id s
  cases wanted with
  | false => exact fired
  | true => simp [nameIf, state, fired]

theorem unfired_before_nameIf (calm : (nameIf wanted now level id s).2.fired = false) :
    s.fired = false := by
  cases fired : s.fired with
  | false => rfl
  | true =>
      rw [fired_nameIf wanted now level id s fired] at calm
      cases calm

theorem fired_nameIf_of_never (never : NeverFires now) :
    (nameIf wanted now level id s).2.fired = s.fired := by
  obtain ⟨_, state⟩ := displayName_state now level id s
  cases wanted with
  | false => rfl
  | true => simp [nameIf, state, never level]

theorem text_nameIf (directory : Directory) (alike : AnswersLike directory now)
    (calm : (nameIf wanted now level id s).2.fired = false) :
    (nameIf wanted now level id s).1 = if wanted then displayed directory level id else "" := by
  cases wanted with
  | false => rfl
  | true =>
      obtain ⟨_, state⟩ := displayName_state now level id s
      have before := unfired_before_nameIf true now level id s calm
      have during : (now level (resourceName level id) false).fires = false := by
        simpa [nameIf, state, before] using calm
      have same := alike level (resourceName level id) during
      simp [nameIf, displayName_text, before, same, displayed]

end nameIf

structure LookedUp (scope : Scope) (now : Directory) (chain : List String) (s : Accounts)
    (a : Account) (after : Accounts) : Prop where
  id : a.id = projectId chain
  organization : a.organization = organizationId chain
  memo : after.memo = s.memo
  lookUps : after.lookUps = s.lookUps ++ due scope chain
  fires : s.fired = true → after.fired = true
  quiet : NeverFires now → after.fired = s.fired
  direct : after.fired = false → ∀ directory, AnswersLike directory now →
    a = direct scope directory chain

theorem direct_eq (scope : Scope) (directory : Directory) (chain : List String) :
    direct scope directory chain =
      ⟨projectId chain,
        if (projectId chain).isEmpty then "" else displayed directory .project (projectId chain),
        organizationId chain,
        if scope.isOrganization && !(organizationId chain).isEmpty then
          displayed directory .organization (organizationId chain) else ""⟩ := rfl

/-- A looked up account is an error exactly if the run was cancelled by then. -/
theorem lookUp_spec (scope : Scope) (now : Directory) (chain : List String) (s : Accounts) :
    ∃ a after, LookedUp scope now chain s a after ∧
      lookUp scope now (projectId chain) (organizationId chain) s =
        (if after.fired then .error a else .ok a, after) := by
  refine ⟨_, _, ?_, lookUp_eq scope now _ _ s⟩
  constructor
  · rfl
  · rfl
  · rw [memo_nameIf, memo_nameIf]
  · rw [lookUps_nameIf, lookUps_nameIf, List.append_assoc, due]
    cases (projectId chain).isEmpty <;> rfl
  · intro fired
    exact fired_nameIf _ _ _ _ _ (fired_nameIf _ _ _ _ _ fired)
  · intro never
    rw [fired_nameIf_of_never _ _ _ _ _ never, fired_nameIf_of_never _ _ _ _ _ never]
  · intro calm directory alike
    have earlier := unfired_before_nameIf _ _ _ _ _ calm
    rw [direct_eq, text_nameIf _ _ _ _ _ directory alike calm,
      text_nameIf _ _ _ _ _ directory alike earlier]
    cases (projectId chain).isEmpty <;> rfl

def taken (r : Memo.Answer Account Accounts Account) : Account × Accounts :=
  (match r.value with
    | .ok a => a
    | .error a => a, { r.state with memo := r.memo })

theorem resolve_eq (scope : Scope) (now : Directory) (chain : List String) (s : Accounts) :
    resolve scope now chain s =
      taken (s.memo.getOrCompute (chainKey chain)
        (lookUp scope now (projectId chain) (organizationId chain))
        { s with ledger := s.ledger ++ s.memo.tally (chainKey chain) }) := rfl

theorem resolve_of_known (scope : Scope) (now : Directory) (chain : List String) (s : Accounts)
    (a : Account) (known : s.memo.find? (chainKey chain) = some a) :
    resolve scope now chain s =
      (a, { s with ledger := s.ledger ++ s.memo.tally (chainKey chain) }) := by
  rw [resolve_eq, Memo.getOrCompute_of_found _ _ _ _ a known]
  rfl

theorem resolve_of_unknown (scope : Scope) (now : Directory) (chain : List String) (s : Accounts)
    (unknown : s.memo.find? (chainKey chain) = none) :
    ∃ a after,
      LookedUp scope now chain { s with ledger := s.ledger ++ s.memo.tally (chainKey chain) } a after ∧
      resolve scope now chain s =
        (a, { after with
          memo := if after.fired then s.memo else s.memo.insert (chainKey chain) a }) := by
  obtain ⟨a, after, found, computed⟩ := lookUp_spec scope now chain
    { s with ledger := s.ledger ++ s.memo.tally (chainKey chain) }
  refine ⟨a, after, found, ?_⟩
  rw [resolve_eq]
  cases fired : after.fired with
  | true =>
      rw [fired] at computed
      rw [Memo.getOrCompute_of_failed _ _ _ _ after a unknown computed]
      simp [taken, fired]
  | false =>
      rw [fired] at computed
      rw [Memo.getOrCompute_of_computed _ _ _ _ after a unknown computed]
      simp [taken, fired]

theorem toList_memoKey (project organization : String) :
    (memoKey project organization).toList = project.toList ++ '/' :: organization.toList := by
  simp [memoKey]

/-- The first cut of a key ends the project, if no project has a cut of its own. -/
theorem memoKey_inj_of_project (project other organization second : String)
    (plain : '/' ∉ project.toList) (plainToo : '/' ∉ other.toList)
    (same : memoKey project organization = memoKey other second) :
    project = other ∧ organization = second := by
  have letters := congrArg String.toList same
  rw [toList_memoKey, toList_memoKey] at letters
  obtain ⟨front, back⟩ := cut_inj '/' _ _ _ _ plain plainToo letters
  exact ⟨String.toList_inj.mp front, String.toList_inj.mp back⟩

theorem memoKey_inj_of_organization (project other organization second : String)
    (plain : '/' ∉ organization.toList) (plainToo : '/' ∉ second.toList)
    (same : memoKey project organization = memoKey other second) :
    project = other ∧ organization = second := by
  have letters := congrArg (List.reverse ∘ String.toList) same
  simp only [Function.comp_apply, toList_memoKey, List.reverse_append, List.reverse_cons,
    List.append_assoc, List.singleton_append] at letters
  obtain ⟨back, front⟩ := cut_inj '/' _ _ _ _ (by simpa using plain) (by simpa using plainToo) letters
  exact ⟨String.toList_inj.mp (List.reverse_inj.mp front),
    String.toList_inj.mp (List.reverse_inj.mp back)⟩

end Accounts
end CloudCensus
