import CloudCensus.Proofs.Accounts.Identity

/-!
Resolutions answer as if there were no memo.

All that is stored is what a resolution without a memo answers, so the memo decides only whether the
names are looked up again.  A cancelled call stores nothing.
-/

namespace CloudCensus.Accounts

def SameIds (chain other : List String) : Prop :=
  projectId other = projectId chain ∧ organizationId other = organizationId chain

theorem direct_of_sameIds (scope : Scope) (directory : Directory) (chain other : List String)
    (same : SameIds chain other) : direct scope directory other = direct scope directory chain := by
  rw [direct_eq, direct_eq, same.1, same.2]

theorem chainKey_of_sameIds (chain other : List String) (same : SameIds chain other) :
    chainKey other = chainKey chain := by
  rw [chainKey, chainKey, same.1, same.2]

theorem kept_congr (scope : Scope) (past : List Call) (such like : List String → Prop)
    (alike : ∀ other, Asked past other → (such other ↔ like other)) :
    Kept scope past such ↔ Kept scope past like := by
  have asked (front now other cancelled back)
      (split : past = front ++ .resolve now other cancelled :: back) : Asked past other :=
    ⟨now, cancelled, by simp [split]⟩
  constructor
  · rintro ⟨front, now, other, cancelled, back, split, unclear, fits, calm⟩
    exact ⟨front, now, other, cancelled, back, split, unclear,
      (alike other (asked _ _ _ _ _ split)).mp fits, calm⟩
  · rintro ⟨front, now, other, cancelled, back, split, unclear, fits, calm⟩
    exact ⟨front, now, other, cancelled, back, split, unclear,
      (alike other (asked _ _ _ _ _ split)).mpr fits, calm⟩

/-- What a memo holds for such chains is what a resolution without a memo answers. -/
def Faithful (scope : Scope) (directory : Directory) (such : List String → Prop)
    (memo : Memo Account) : Prop :=
  ∀ chain, such chain → ∀ a, memo.find? (chainKey chain) = some a → a = direct scope directory chain

section resolve

variable (scope : Scope) (directory now : Directory) (such : List String → Prop)
  (chain : List String)

theorem faithful_insert (cut : CutKnown such) (own : such chain) (memo : Memo Account)
    (faithful : Faithful scope directory such memo) :
    Faithful scope directory such (memo.insert (chainKey chain) (direct scope directory chain)) := by
  intro other fits a found
  rw [Memo.find?_insert] at found
  by_cases same : chainKey other = chainKey chain
  · -- The place of the cut being known, the other chain has the same identifiers.
    rw [if_pos same] at found
    cases found
    exact direct_of_sameIds scope directory other chain
      (ids_of_chainKey such cut chain other own fits same.symm)
  · rw [if_neg same] at found
    exact faithful other fits a found

theorem faithful_resolve (cut : CutKnown such) (own : such chain) (s : Accounts)
    (alike : AnswersLike directory now) (faithful : Faithful scope directory such s.memo) :
    Faithful scope directory such (resolve scope now chain s).2.memo := by
  cases found : s.memo.find? (chainKey chain) with
  | some a =>
      rw [resolve_of_known scope now chain s a found]
      exact faithful
  | none =>
      obtain ⟨a, after, looked, resolved⟩ := resolve_of_unknown scope now chain s found
      rw [resolved]
      cases fired : after.fired with
      | true => simpa [fired] using faithful
      | false =>
          rw [looked.direct fired directory alike]
          simpa [fired] using faithful_insert scope directory such chain cut own s.memo faithful

/-- A resolution that is not cancelled answers and leaves in the memo what one without a memo
answers. -/
theorem resolve_direct (s : Accounts) (alike : AnswersLike directory now)
    (faithful : ∀ a, s.memo.find? (chainKey chain) = some a → a = direct scope directory chain)
    (calm : (resolve scope now chain s).2.fired = false) :
    (resolve scope now chain s).1 = direct scope directory chain ∧
      (resolve scope now chain s).2.memo.find? (chainKey chain) =
        some (direct scope directory chain) := by
  cases found : s.memo.find? (chainKey chain) with
  | some a =>
      rw [resolve_of_known scope now chain s a found, ← faithful a found]
      exact ⟨rfl, found⟩
  | none =>
      obtain ⟨a, after, looked, resolved⟩ := resolve_of_unknown scope now chain s found
      rw [resolved] at calm ⊢
      replace calm : after.fired = false := calm
      rw [← looked.direct calm directory alike]
      exact ⟨rfl, by simp [calm, Memo.find?_insert]⟩

theorem unfired_before_resolve (s : Accounts) (calm : (resolve scope now chain s).2.fired = false) :
    s.fired = false := by
  cases found : s.memo.find? (chainKey chain) with
  | some a =>
      rw [resolve_of_known scope now chain s a found] at calm
      exact calm
  | none =>
      obtain ⟨a, after, looked, resolved⟩ := resolve_of_unknown scope now chain s found
      rw [resolved] at calm
      exact Bool.eq_false_iff.mpr fun fired => Bool.eq_false_iff.mp calm (looked.fires fired)

theorem fired_resolve_of_never (s : Accounts) (never : NeverFires now) :
    (resolve scope now chain s).2.fired = s.fired := by
  cases found : s.memo.find? (chainKey chain) with
  | some a => rw [resolve_of_known scope now chain s a found]
  | none =>
      obtain ⟨a, after, looked, resolved⟩ := resolve_of_unknown scope now chain s found
      rw [resolved]
      exact looked.quiet never

end resolve

def AllLike (directory : Directory) (calls : List Call) : Prop :=
  ∀ now chain cancelled, .resolve now chain cancelled ∈ calls → AnswersLike directory now

theorem faithful_after (scope : Scope) (directory : Directory) (such : List String → Prop)
    (cut : CutKnown such) (calls : List Call) (alike : AllLike directory calls)
    (within : ∀ chain, Asked calls chain → such chain) :
    Faithful scope directory such (after scope calls) := by
  refine Steps.state_induction
    (motive := fun (_ : List Call) (memo : Memo Account) => Faithful scope directory such memo)
    start.memo ?_ calls ?_
  · intro chain _ a found
    cases found
  · intro past c rest split earlier
    cases c with
    | clear =>
        intro chain _ a found
        cases found
    | resolve now chain cancelled =>
        have member : .resolve now chain cancelled ∈ calls := by simp [split]
        exact faithful_resolve scope directory now such chain cut
          (within chain ⟨now, cancelled, member⟩) (resume _ cancelled)
          (alike now chain cancelled member) earlier

theorem known_iff_kept (scope : Scope) (such : List String → Prop) (cut : CutKnown such)
    (past : List Call) (within : ∀ other, Asked past other → such other) (chain : List String)
    (own : such chain) :
    ((after scope past).find? (chainKey chain)).isSome = true ↔ Kept scope past (SameIds chain) := by
  rw [known_after_iff]
  refine kept_congr scope past _ _ fun other asked => ⟨?_, chainKey_of_sameIds chain other⟩
  exact ids_of_chainKey such cut other chain (within other asked) own

section step

variable (scope : Scope) (memo : Memo Account) (now : Directory) (chain : List String)
  (cancelled : Bool)

theorem lookUps_of_known (known : (memo.find? (chainKey chain)).isSome = true) :
    (step scope memo (.resolve now chain cancelled)).1.lookUps = [] := by
  rcases step_resolve_cases scope memo now chain cancelled with ⟨_, _, same⟩ | ⟨absent, _⟩
  · rw [same]
  · rw [absent] at known
    cases known

theorem lookUps_of_unknown (unknown : ¬ (memo.find? (chainKey chain)).isSome = true) :
    (step scope memo (.resolve now chain cancelled)).1.lookUps = due scope chain := by
  rcases step_resolve_cases scope memo now chain cancelled with
    ⟨a, found, _⟩ | ⟨_, a, s, looked, same⟩
  · exact absurd (by rw [found]; rfl) unknown
  · rw [same]
    exact looked.lookUps.trans (List.nil_append _)

theorem memo_of_cancelled (fired : (step scope memo (.resolve now chain cancelled)).1.fired = true) :
    (step scope memo (.resolve now chain cancelled)).2 = memo := by
  rcases step_resolve_cases scope memo now chain cancelled with ⟨_, _, same⟩ | ⟨_, a, s, _, same⟩
  · rw [same]
  · rw [same] at fired ⊢
    exact if_pos fired

end step

/-- In every sequence of calls, a resolution that is not cancelled answers what one without a memo
answers and leaves it in the memo, a failed look-up as an empty name.  It looks up no name if, since
the memo was last cleared, a call that was not cancelled asked for the same identifiers, and else
exactly those that are due.  A cancelled call leaves the memo as it was, and no other reply changes
without it. -/
theorem resolutions_transparent (scope : Scope) (directory : Directory) (calls : List Call)
    (alike : AllLike directory calls) (cut : CutKnown (Asked calls)) (past : List Call)
    (now : Directory) (chain : List String) (cancelled : Bool) (rest : List Call)
    (split : calls = past ++ .resolve now chain cancelled :: rest) :
    let reply := (step scope (after scope past) (.resolve now chain cancelled)).1
    let memo := after scope (past ++ [.resolve now chain cancelled])
    (reply.fired = false → reply.account = some (direct scope directory chain) ∧
      memo.find? (chainKey chain) = some (direct scope directory chain)) ∧
    (Kept scope past (SameIds chain) → reply.lookUps = []) ∧
    (¬ Kept scope past (SameIds chain) → reply.lookUps = due scope chain) ∧
    (reply.fired = true → memo = after scope past ∧
      (run scope start.memo (past ++ rest)).1 =
        (run scope start.memo calls).1.eraseIdx past.length) := by
  intro reply memo
  have member : .resolve now chain cancelled ∈ calls := by simp [split]
  have own : Asked calls chain := ⟨now, cancelled, member⟩
  have earlier : AllLike directory past := fun before other fired called =>
    alike before other fired (by simp [split, called])
  have within : ∀ other, Asked past other → Asked calls other := by
    rintro other ⟨before, fired, called⟩
    exact ⟨before, fired, by simp [split, called]⟩
  have faithful := faithful_after scope directory (Asked calls) cut past earlier within
  have known := known_iff_kept scope (Asked calls) cut past within chain own
  have here : memo = (step scope (after scope past) (.resolve now chain cancelled)).2 :=
    after_concat scope past _
  refine ⟨fun calm => ?_, fun kept => ?_, fun fresh => ?_, fun fired => ?_⟩
  · obtain ⟨answered, stored⟩ := resolve_direct scope directory now chain
      (resume (after scope past) cancelled) (alike now chain cancelled member)
      (faithful chain own) calm
    rw [here]
    exact ⟨congrArg some answered, stored⟩
  · exact lookUps_of_known scope (after scope past) now chain cancelled (known.mpr kept)
  · exact lookUps_of_unknown scope (after scope past) now chain cancelled (mt known.mp fresh)
  · have idle := memo_of_cancelled scope (after scope past) now chain cancelled fired
    rw [here, split]
    exact ⟨idle, Steps.replies_without start.memo past rest _ idle⟩

def interrupted : Directory := fun level name fired =>
  ⟨(twoProjects level name (fired || level = .project)).answer, level = .project⟩

def cutShort : List Call :=
  [.resolve interrupted ["projects/a", "organizations/b"] false,
    ask ["projects/a", "organizations/b"], ask ["projects/a", "folders/1", "organizations/b"]]

theorem resolutions_transparent_cut_short :
    AllLike twoProjects cutShort ∧ CutKnown (Asked cutShort) ∧
    (run (.organization "b") start.memo (cutShort.drop 1)).1 =
      (run (.organization "b") start.memo cutShort).1.eraseIdx 0 ∧
    (step (.organization "b") (after (.organization "b") (cutShort.take 1))
      (ask ["projects/a", "organizations/b"])).1.account = some ⟨"a", "A", "b", ""⟩ ∧
    (step (.organization "b") (after (.organization "b") (cutShort.take 2))
      (ask ["projects/a", "folders/1", "organizations/b"])).1.lookUps = [] := by
  have alike : AllLike twoProjects cutShort := by
    intro now chain cancelled member level name calm
    simp only [cutShort, ask, List.mem_cons, Call.resolve.injEq, List.not_mem_nil, or_false] at member
    rcases member with ⟨rfl, -⟩ | ⟨rfl, -⟩ | ⟨rfl, -⟩
    · cases level with
      | project => cases calm
      | organization => rfl
    · rfl
    · rfl
  have cut : CutKnown (Asked cutShort) := by
    left
    rintro chain ⟨now, cancelled, member⟩
    simp only [cutShort, ask, List.mem_cons, Call.resolve.injEq, List.not_mem_nil, or_false] at member
    rcases member with ⟨_, rfl, _⟩ | ⟨_, rfl, _⟩ | ⟨_, rfl, _⟩ <;> decide
  have first := resolutions_transparent (.organization "b") twoProjects cutShort alike cut [] _ _ _ _ rfl
  have second := resolutions_transparent (.organization "b") twoProjects cutShort alike cut
    (cutShort.take 1) _ _ _ _ rfl
  have third := resolutions_transparent (.organization "b") twoProjects cutShort alike cut
    (cutShort.take 2) _ _ _ _ rfl
  have kept : Kept (.organization "b") (cutShort.take 2)
      (SameIds ["projects/a", "folders/1", "organizations/b"]) :=
    ⟨cutShort.take 1, twoProjects, ["projects/a", "organizations/b"], false, [], rfl,
      List.not_mem_nil, ⟨by decide, by decide⟩, by decide⟩
  exact ⟨alike, cut, (first.2.2.2 (by decide)).2, (second.1 (by decide)).1, third.2.1 kept⟩

end CloudCensus.Accounts
