import CloudCensus.Proofs.Accounts.Run

/-!
Whose account a resolution answers.

A key is the project and the organization of a chain with a cut between them, so that it tells two
chains apart only where the place of the cut is known: where no project, or no organization, has a cut
of its own.
-/

namespace CloudCensus.Accounts

theorem ids_of_stored (scope : Scope) (calls : List Call) (key : String) (a : Account)
    (found : (after scope calls).find? key = some a) :
    ∃ other, Asked calls other ∧ chainKey other = key ∧
      a.id = projectId other ∧ a.organization = organizationId other := by
  refine stored_induction
    (motive := fun key a => ∃ other, Asked calls other ∧ chainKey other = key ∧
      a.id = projectId other ∧ a.organization = organizationId other) scope calls ?_ key a found
  intro now chain cancelled member b _ s looked _
  exact ⟨chain, ⟨now, cancelled, member⟩, rfl, looked.id, looked.organization⟩

theorem ids_of_reply (scope : Scope) (past : List Call) (now : Directory) (chain : List String)
    (cancelled : Bool) :
    ∃ a other, (step scope (after scope past) (.resolve now chain cancelled)).1.account = some a ∧
      (other = chain ∨ Asked past other) ∧ chainKey other = chainKey chain ∧
      a.id = projectId other ∧ a.organization = organizationId other := by
  rcases step_resolve_cases scope (after scope past) now chain cancelled with
    ⟨a, found, same⟩ | ⟨_, a, s, looked, same⟩
  · obtain ⟨other, asked, key, ids⟩ := ids_of_stored scope past _ a found
    exact ⟨a, other, by rw [same], .inr asked, key, ids⟩
  · exact ⟨a, chain, by rw [same], .inl rfl, rfl, looked.id, looked.organization⟩

/-- The keys of such chains have a cut whose place is known. -/
def CutKnown (such : List String → Prop) : Prop :=
  (∀ chain, such chain → '/' ∉ (projectId chain).toList) ∨
  (∀ chain, such chain → '/' ∉ (organizationId chain).toList)

theorem ids_of_chainKey (such : List String → Prop) (cut : CutKnown such) (chain other : List String)
    (one : such chain) (two : such other) (same : chainKey chain = chainKey other) :
    projectId chain = projectId other ∧ organizationId chain = organizationId other := by
  rcases cut with plain | plain
  · exact memoKey_inj_of_project _ _ _ _ (plain chain one) (plain other two) same
  · exact memoKey_inj_of_organization _ _ _ _ (plain chain one) (plain other two) same

/-- Every resolution answers an account with the identifiers of its own chain, and only chains of the
same identifiers share a key, as long as no project or no organization that is asked for has a cut of
its own. -/
theorem account_ids_own (scope : Scope) (calls : List Call) (cut : CutKnown (Asked calls)) :
    (∀ past now chain cancelled rest, calls = past ++ .resolve now chain cancelled :: rest →
      ∃ a, (step scope (after scope past) (.resolve now chain cancelled)).1.account = some a ∧
        a.id = projectId chain ∧ a.organization = organizationId chain) ∧
    (∀ chain other, Asked calls chain → Asked calls other → chainKey chain = chainKey other →
      projectId chain = projectId other ∧ organizationId chain = organizationId other) := by
  have apart := ids_of_chainKey (Asked calls) cut
  refine ⟨?_, apart⟩
  intro past now chain cancelled rest split
  obtain ⟨a, other, answered, asked, key, id, organization⟩ :=
    ids_of_reply scope past now chain cancelled
  have own : Asked calls chain := ⟨now, cancelled, by simp [split]⟩
  have before : Asked calls other := by
    rcases asked with rfl | ⟨earlier, fired, member⟩
    · exact own
    · exact ⟨earlier, fired, by simp [split, member]⟩
  obtain ⟨project, organizations⟩ := apart other chain before own key
  exact ⟨a, answered, id.trans project, organization.trans organizations⟩

def twoProjects : Directory := fun _ name fired =>
  if fired then ⟨.error .cancelled, false⟩
  else if name = "projects/a" then ⟨.ok "A", false⟩
  else if name = "projects/a/b" then ⟨.ok "AB", false⟩
  else ⟨.error (.because .notFound (.stated name)), false⟩

def ask (chain : List String) : Call := .resolve twoProjects chain false

theorem account_ids_own_in_folder :
    CutKnown (Asked [ask ["projects/a/b", "organizations/c"],
      ask ["projects/a/b", "folders/1", "organizations/c"]]) ∧
    ∃ a, (step (.project "a") (after (.project "a") [ask ["projects/a/b", "organizations/c"]])
        (ask ["projects/a/b", "folders/1", "organizations/c"])).1.account = some a ∧
      a.id = "a/b" ∧ a.organization = "c" := by
  have cut : CutKnown (Asked [ask ["projects/a/b", "organizations/c"],
      ask ["projects/a/b", "folders/1", "organizations/c"]]) := by
    right
    rintro chain ⟨now, cancelled, member⟩
    simp only [ask, List.mem_cons, Call.resolve.injEq, List.not_mem_nil, or_false] at member
    rcases member with ⟨_, rfl, _⟩ | ⟨_, rfl, _⟩ <;> decide
  exact ⟨cut, (account_ids_own (.project "a") _ cut).1 [ask ["projects/a/b", "organizations/c"]]
    twoProjects ["projects/a/b", "folders/1", "organizations/c"] false [] rfl⟩

/-- Two chains can share a key where both a project and an organization have a cut of their own: the
second is answered the account of the first. -/
theorem accounts_mixed :
    (step (.project "a") (after (.project "a") [ask ["projects/a/b", "organizations/c"]])
        (ask ["projects/a", "organizations/b/c"])).1.account = some ⟨"a/b", "AB", "c", ""⟩ ∧
    projectId ["projects/a", "organizations/b/c"] = "a" ∧
    organizationId ["projects/a", "organizations/b/c"] = "b/c" := by decide +kernel

end CloudCensus.Accounts
