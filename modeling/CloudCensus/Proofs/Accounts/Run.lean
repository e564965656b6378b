import CloudCensus.Proofs.Accounts.Resolve
import CloudCensus.Proofs.Steps

namespace CloudCensus.Accounts

def after (scope : Scope) (calls : List Call) : Memo Account := (run scope start.memo calls).2

def Asked (calls : List Call) (chain : List String) : Prop :=
  ∃ now cancelled, .resolve now chain cancelled ∈ calls

/-- Since the memo was last cleared, a call that was not cancelled asked for some such chain. -/
def Kept (scope : Scope) (past : List Call) (such : List String → Prop) : Prop :=
  ∃ front now other cancelled back, past = front ++ .resolve now other cancelled :: back ∧
    .clear ∉ back ∧ such other ∧
    (step scope (after scope front) (.resolve now other cancelled)).1.fired = false

theorem after_concat (scope : Scope) (past : List Call) (c : Call) :
    after scope (past ++ [c]) = (step scope (after scope past) c).2 :=
  Steps.state_concat _ past c

theorem step_resolve_cases (scope : Scope) (memo : Memo Account) (now : Directory)
    (chain : List String) (cancelled : Bool) :
    (∃ a, memo.find? (chainKey chain) = some a ∧
      step scope memo (.resolve now chain cancelled) =
        (⟨some a, cancelled, [], memo.tally (chainKey chain)⟩, memo)) ∨
    (memo.find? (chainKey chain) = none ∧ ∃ a s,
      LookedUp scope now chain ⟨memo, cancelled, memo.tally (chainKey chain), []⟩ a s ∧
      step scope memo (.resolve now chain cancelled) =
        (⟨some a, s.fired, s.lookUps, s.ledger⟩,
          if s.fired then memo else memo.insert (chainKey chain) a)) := by
  cases found : memo.find? (chainKey chain) with
  | some a =>
      refine .inl ⟨a, rfl, ?_⟩
      simp only [step]
      rw [resolve_of_known scope now chain (resume memo cancelled) a found]
      rfl
  | none =>
      obtain ⟨a, s, looked, resolved⟩ :=
        resolve_of_unknown scope now chain (resume memo cancelled) found
      refine .inr ⟨rfl, a, s, looked, ?_⟩
      simp only [step]
      rw [resolved]
      rfl

theorem find?_step_clear (scope : Scope) (memo : Memo Account) (key : String) :
    (step scope memo .clear).2.find? key = none := rfl

theorem stored_induction {motive : String → Account → Prop} (scope : Scope) (calls : List Call)
    (fresh : ∀ now chain cancelled, .resolve now chain cancelled ∈ calls → ∀ a before s,
      LookedUp scope now chain before a s → s.fired = false → motive (chainKey chain) a) :
    ∀ key a, (after scope calls).find? key = some a → motive key a := by
  refine Steps.state_induction
    (motive := fun (_ : List Call) (memo : Memo Account) =>
      ∀ key a, memo.find? key = some a → motive key a) start.memo ?_ calls ?_
  · intro key a found
    cases found
  · intro past c rest split earlier key a found
    cases c with
    | clear => cases found
    | resolve now chain cancelled =>
        rcases step_resolve_cases scope _ now chain cancelled with
          ⟨b, _, same⟩ | ⟨_, b, s, looked, same⟩
        · rw [same] at found
          exact earlier key a found
        · rw [same] at found
          cases fired : s.fired with
          | true =>
              rw [fired, if_pos rfl] at found
              exact earlier key a found
          | false =>
              rw [fired, if_neg Bool.false_ne_true, Memo.find?_insert] at found
              -- What is found is the account just stored, or an earlier one.
              split at found
              · rename_i own
                cases found
                rw [own]
                exact fresh now chain cancelled (by simp [split]) a _ s looked fired
              · exact earlier key a found

theorem kept_concat (scope : Scope) (past : List Call) (c : Call) (such : List String → Prop) :
    Kept scope (past ++ [c]) such ↔
      (c ≠ .clear ∧ Kept scope past such) ∨
      ∃ now other cancelled, c = .resolve now other cancelled ∧ such other ∧
        (step scope (after scope past) (.resolve now other cancelled)).1.fired = false := by
  constructor
  · rintro ⟨front, now, other, cancelled, back, split, unclear, fits, calm⟩
    -- The call that kept it is the last one, or it is followed by the last one.
    cases back using List.reverseRecOn with
    | nil =>
        obtain ⟨rfl, rfl⟩ : past = front ∧ c = .resolve now other cancelled := by
          simpa using List.append_inj' split rfl
        exact .inr ⟨now, other, cancelled, rfl, fits, calm⟩
    | append_singleton middle last =>
        obtain ⟨rfl, rfl⟩ : past = front ++ .resolve now other cancelled :: middle ∧ c = last := by
          rw [← List.cons_append, ← List.append_assoc] at split
          simpa using List.append_inj' split rfl
        refine .inl ⟨fun now => unclear (by simp [now]), front, now, other, cancelled, middle, rfl, ?_,
          fits, calm⟩
        exact fun earlier => unclear (List.mem_append_left _ earlier)
  · rintro (⟨unclear, front, now, other, cancelled, back, split, none, fits, calm⟩ |
      ⟨now, other, cancelled, rfl, fits, calm⟩)
    · refine ⟨front, now, other, cancelled, back ++ [c], by simp [split], ?_, fits, calm⟩
      simp [none, Ne.symm unclear]
    · exact ⟨past, now, other, cancelled, [], rfl, List.not_mem_nil, fits, calm⟩

theorem kept_concat_clear (scope : Scope) (past : List Call) (such : List String → Prop) :
    ¬ Kept scope (past ++ [.clear]) such := by
  simp [kept_concat]

theorem kept_concat_resolve (scope : Scope) (past : List Call) (now : Directory)
    (chain : List String) (cancelled : Bool) (such : List String → Prop) :
    Kept scope (past ++ [.resolve now chain cancelled]) such ↔
      Kept scope past such ∨
      such chain ∧ (step scope (after scope past) (.resolve now chain cancelled)).1.fired = false := by
  rw [kept_concat]
  constructor
  · rintro (⟨_, earlier⟩ | ⟨_, _, _, same, fits, calm⟩)
    · exact .inl earlier
    · cases same
      exact .inr ⟨fits, calm⟩
  · rintro (earlier | ⟨fits, calm⟩)
    · exact .inl ⟨by simp, earlier⟩
    · exact .inr ⟨now, chain, cancelled, rfl, fits, calm⟩

/-- A key is known exactly if it was asked for without a cancellation since the memo was cleared. -/
theorem known_after_iff (scope : Scope) (calls : List Call) (key : String) :
    ((after scope calls).find? key).isSome = true ↔ Kept scope calls (chainKey · = key) := by
  refine Steps.state_induction
    (motive := fun past (memo : Memo Account) =>
      (memo.find? key).isSome = true ↔ Kept scope past (chainKey · = key)) start.memo ?_ calls ?_
  · constructor
    · intro known
      cases known
    · rintro ⟨front, now, other, cancelled, back, split, _⟩
      simp at split
  · intro past c rest _ earlier
    change ((after scope past).find? key).isSome = true ↔ _ at earlier
    change ((step scope (after scope past) c).2.find? key).isSome = true ↔ _
    cases c with
    | clear => simp [find?_step_clear, kept_concat_clear]
    | resolve now chain cancelled =>
        rw [kept_concat_resolve, ← earlier]
        rcases step_resolve_cases scope (after scope past) now chain cancelled with
          ⟨a, found, same⟩ | ⟨absent, a, s, _, same⟩
        · rw [same]
          constructor
          · exact .inl
          · rintro (known | ⟨own, _⟩)
            · exact known
            · rw [← own, found]
              rfl
        · rw [same]
          cases fired : s.fired with
          | true => simp
          | false =>
              rw [if_neg Bool.false_ne_true, Memo.find?_insert]
              by_cases own : key = chainKey chain
              · simp [own]
              · simp [own, Ne.symm own]

end CloudCensus.Accounts
