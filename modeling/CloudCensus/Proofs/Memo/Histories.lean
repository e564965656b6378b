import CloudCensus.Proofs.Ledger
import CloudCensus.Proofs.Memo
import CloudCensus.Proofs.Steps
import Mathlib.Data.List.DropRight

namespace CloudCensus.Memo

variable {α ε : Type}

namespace Step

def key? : Step ε α → Option String
  | .get key => some key
  | .compute key _ => some key
  | .clear => none

def makes? (key : String) : Step ε α → Option α
  | .get _ => none
  | .compute other result => if key = other then result.toOption else none
  | .clear => none

def concerns (key : String) (s : Step ε α) : Bool := s.key?.all (· = key)

/-- The reply to a step where these values are stored: a computation runs only for a key without one. -/
def answer (stored : String → Option α) : Step ε α → Reply ε α
  | .get key => .found (stored key)
  | .compute key result => .computed ((stored key).elim result .ok) (stored key).isNone
  | .clear => .cleared

def tallied (name : String) (stored : String → Option α) (s : Step ε α) : Ledger :=
  match s.key? with
  | some key => Ledger.one (if (stored key).isSome then .memoHits name else .memoMisses name)
  | none => []

end Step

def Reply.missed : Reply ε α → Bool
  | .found value => value.isNone
  | .computed _ ran => ran
  | .cleared => false

/-- The value of the first successful computation of a key since the table was last cleared. -/
def firstMade? (past : List (Step ε α)) (key : String) : Option α :=
  (past.rtakeWhile fun s => s.key?.isSome).findSome? (Step.makes? key)

def noted (m : Memo α) (s : Step ε α) : (Reply ε α × Ledger) × Memo α :=
  (((m.step s).1, (m.step s).2.1), (m.step s).2.2)

def after (name : String) (past : List (Step ε α)) : Memo α := ((empty name).run past).2

theorem run_eq (m : Memo α) (steps : List (Step ε α)) : m.run steps = Steps.run noted m steps := by
  induction steps generalizing m with
  | nil => rfl
  | cons s rest ih =>
      simp only [run, Steps.run, ih]
      rfl

theorem firstMade?_concat (past : List (Step ε α)) (s : Step ε α) (key : String) :
    firstMade? (past ++ [s]) key =
      if s.key?.isSome then (firstMade? past key).or (s.makes? key) else none := by
  rw [firstMade?, List.rtakeWhile_concat]
  split
  · rw [List.findSome?_append, List.findSome?_singleton]
    rfl
  · rfl

theorem makes?_of_ne (s : Step ε α) (key other : String) (asked : s.key? = some other)
    (different : other ≠ key) : s.makes? key = none := by
  cases s with
  | get _ => rfl
  | clear => rfl
  | compute place result =>
      obtain rfl : place = other := Option.some.inj asked
      exact if_neg different.symm

section one

variable (m : Memo α)

theorem find?_getOrCompute {σ : Type} (key other : String) (compute : σ → Except ε α × σ) (s : σ) :
    (m.getOrCompute other compute s).memo.find? key =
      (m.find? key).or (if key = other then (compute s).1.toOption else none) := by
  cases found : m.find? other with
  | some value =>
      rw [getOrCompute_of_found m other compute s value found]
      by_cases same : key = other
      · simp [same, found]
      · simp [same]
  | none =>
      rcases made : compute s with ⟨result | result, late⟩
      · rw [getOrCompute_of_failed m other compute s late result found made]
        simp [Except.toOption]
      · rw [getOrCompute_of_computed m other compute s late result found made, find?_insert]
        by_cases same : key = other
        · simp [same, found, Except.toOption]
        · simp [same]

variable (s : Step ε α)

theorem name_step : (m.step s).2.2.name = m.name := by
  cases s with
  | get other => rfl
  | compute other result => exact name_getOrCompute m other _ _
  | clear => rfl

theorem find?_step (key : String) :
    (m.step s).2.2.find? key = if s.key?.isSome then (m.find? key).or (s.makes? key) else none := by
  cases s with
  | get other => simp [step, Step.key?, Step.makes?]
  | compute other result => exact find?_getOrCompute m key other _ ()
  | clear => rfl

theorem noted_eq : (m.noted s).1 = (s.answer m.find?, s.tallied m.name m.find?) := by
  cases s with
  | get key => rfl
  | clear => rfl
  | compute key result =>
      simp only [noted, step, Step.answer, Step.tallied, Step.key?, tally, getOrCompute]
      cases m.find? key <;> cases result <;> rfl

theorem noted_congr (k : Memo α) (named : m.name = k.name)
    (same : ∀ key ∈ s.key?, m.find? key = k.find? key) : (m.noted s).1 = (k.noted s).1 := by
  rw [noted_eq, noted_eq, named]
  cases s with
  | get key =>
      have stored : m.find? key = k.find? key := same key rfl
      simp only [Step.answer, Step.tallied, Step.key?, stored]
  | compute key result =>
      have stored : m.find? key = k.find? key := same key rfl
      simp only [Step.answer, Step.tallied, Step.key?, stored]
  | clear => rfl

theorem count_tallied (name : String) (stored : String → Option α) :
    let ledger := s.tallied name stored
    ledger.count (.memoMisses name) = (if (s.answer stored).missed then 1 else 0) ∧
      ledger.count (.memoHits name) + ledger.count (.memoMisses name) =
        if s.key?.isSome then 1 else 0 := by
  have apart : (Ledger.one (.memoHits name)).count (.memoMisses name) = 0 :=
    Ledger.count_of_ne _ _ 1 (by simp)
  have apartToo : (Ledger.one (.memoMisses name)).count (.memoHits name) = 0 :=
    Ledger.count_of_ne _ _ 1 (by simp)
  have own (c : Counter) : (Ledger.one c).count c = 1 := by simp [Ledger.one, Ledger.count, total]
  cases s with
  | clear => exact ⟨rfl, rfl⟩
  | get key =>
      cases found : stored key <;>
        simp [Step.tallied, Step.answer, Step.key?, Reply.missed, found, apart, apartToo, own]
  | compute key result =>
      cases found : stored key <;>
        simp [Step.tallied, Step.answer, Step.key?, Reply.missed, found, apart, apartToo, own]

end one

theorem name_after (name : String) (past : List (Step ε α)) : (after name past).name = name := by
  rw [after, run_eq]
  refine Steps.state_induction (motive := fun (_ : List (Step ε α)) (m : Memo α) => m.name = name)
    (empty name) rfl past ?_
  intro before s rest _ same
  exact (name_step _ s).trans same

/-- After any steps a key has the value of its first successful computation since the last clearing. -/
theorem find?_after (name : String) (past : List (Step ε α)) :
    (after name past).find? = firstMade? past := by
  funext key
  rw [after, run_eq]
  refine Steps.state_induction (motive := fun (before : List (Step ε α)) (m : Memo α) =>
    m.find? key = firstMade? before key) (empty name) rfl past ?_
  intro before s rest _ stored
  rw [firstMade?_concat, ← stored]
  exact find?_step _ s key

theorem heard_run (m : Memo α) (key : String) (steps : List (Step ε α)) :
    Steps.heard (Step.concerns key) steps (m.run steps).1 =
      (m.run (steps.filter (Step.concerns key))).1 := by
  have alone := @Steps.heard_alone _ _ _ noted _ (Step.concerns (ε := ε) key) id
    (fun (m k : Memo α) => m.name = k.name ∧ m.find? key = k.find? key) ?own ?other m m ⟨rfl, rfl⟩ steps
  case own =>
    intro m k s alike concerns
    obtain ⟨named, stored⟩ := alike
    refine ⟨noted_congr m s k named ?_, ?_, ?_⟩
    · intro other asked
      have here : other = key := by simpa [Step.concerns, Option.mem_def.mp asked] using concerns
      rw [here, stored]
    · exact (name_step m s).trans (named.trans (name_step k s).symm)
    · exact (find?_step m s key).trans (stored ▸ (find?_step k s key).symm)
  case other =>
    intro m k s alike foreign
    obtain ⟨named, stored⟩ := alike
    refine ⟨(name_step m s).trans named, (find?_step m s key).trans ?_⟩
    obtain ⟨other, asked, different⟩ : ∃ other, s.key? = some other ∧ other ≠ key := by
      simpa [Step.concerns, Option.all_eq_false] using foreign
    rw [asked, makes?_of_ne s key other asked different, Option.or_none, stored]
    rfl
  rw [List.map_id, List.map_id, ← run_eq, ← run_eq] at alone
  exact alone

theorem count_run (m : Memo α) (steps : List (Step ε α)) :
    let replies := (m.run steps).1
    let ledger : Ledger := replies.flatMap (·.2)
    ledger.count (.memoMisses m.name) = replies.countP (·.1.missed) ∧
      ledger.count (.memoHits m.name) + ledger.count (.memoMisses m.name) =
        steps.countP fun s => s.key?.isSome := by
  induction steps generalizing m with
  | nil => exact ⟨rfl, rfl⟩
  | cons s rest ih =>
      obtain ⟨misses, both⟩ := count_tallied s m.name m.find?
      obtain ⟨later, laterBoth⟩ := ih (m.noted s).2
      have name : (m.noted s).2.name = m.name := name_step m s
      rw [name, run_eq] at later laterBoth
      rw [run_eq]
      simp only [Steps.run, noted_eq, List.flatMap_cons, List.countP_cons, Ledger.count_append]
      constructor
      · rw [misses, later, Nat.add_comm]
      · omega

/-- Between two clearings a table is written once for each key.  In every sequence of steps a look-up of a
key finds the value of its first successful computation since the last clearing; a computation, whatever
state it works on, runs only if there is none, and changes nothing but that key, and nothing at all if it
fails.  What is answered for a key stays the same if the steps on other keys are left out.  Of the look-ups
those are misses that found nothing, and the others hits. -/
theorem written_once (name : String) :
    (∀ (past : List (Step ε α)) s rest,
      ((empty name).run (past ++ s :: rest)).1[past.length]? =
        some (s.answer (firstMade? past), s.tallied name (firstMade? past))) ∧
    (∀ (past : List (Step ε α)) key {σ : Type} (compute : σ → Except ε α × σ) (s : σ),
      let table := after name past
      let r := table.getOrCompute key compute s
      match firstMade? past key with
      | some value => r = ⟨.ok value, table, s, false⟩
      | none => r.value = (compute s).1 ∧ r.state = (compute s).2 ∧ r.ran = true ∧
          (∀ value, (compute s).1 = .ok value → r.memo.find? key = some value) ∧
          (∀ other, other ≠ key → r.memo.find? other = table.find? other) ∧
          ∀ e, (compute s).1 = .error e → r.memo = table) ∧
    (∀ (steps : List (Step ε α)) key,
      Steps.heard (Step.concerns key) steps ((empty name).run steps).1 =
        ((empty name).run (steps.filter (Step.concerns key))).1) ∧
    ∀ steps : List (Step ε α),
      let replies := ((empty name).run steps).1
      let ledger : Ledger := replies.flatMap (·.2)
      ledger.count (.memoMisses name) = replies.countP (·.1.missed) ∧
        ledger.count (.memoHits name) + ledger.count (.memoMisses name) =
          steps.countP fun s => s.key?.isSome := by
  refine ⟨?replies, ?computations, fun steps key => heard_run (empty name) key steps,
    count_run (empty name)⟩
  case replies =>
    intro past s rest
    have here := noted_eq (after name past) s
    rw [find?_after, name_after] at here
    rw [run_eq, Steps.reply_at, ← run_eq, ← here]
    rfl
  case computations =>
    intro past key σ compute s table r
    have stored : table.find? key = firstMade? past key := congrFun (find?_after name past) key
    cases found : firstMade? past key with
    | some value => exact getOrCompute_of_found table key compute s value (stored.trans found)
    | none =>
        have absent := stored.trans found
        have kept (other : String) (different : other ≠ key) :
            r.memo.find? other = table.find? other := by
          rw [find?_getOrCompute, if_neg different, Option.or_none]
        rcases made : compute s with ⟨e | value, late⟩
        · have failed : r = ⟨.error e, table, late, true⟩ :=
            getOrCompute_of_failed table key compute s late e absent made
          refine ⟨?_, ?_, ?_, ?_, kept, ?_⟩ <;> simp [failed]
        · have computed : r = ⟨.ok value, table.insert key value, late, true⟩ :=
            getOrCompute_of_computed table key compute s late value absent made
          refine ⟨?_, ?_, ?_, ?_, kept, ?_⟩ <;> simp [computed, find?_insert]

def recomputed : List (Step String Nat) :=
  [.compute "a" (.error "down"), .compute "a" (.ok 1), .compute "b" (.ok 3), .compute "a" (.ok 2),
    .get "a", .clear, .get "a", .compute "a" (.ok 4)]

theorem written_once_recomputed :
    let replies := ((empty "t").run recomputed).1
    let ledger : Ledger := replies.flatMap (·.2)
    let table := after "t" (recomputed.take 4)
    let down : Memo.Answer String Unit Nat := table.getOrCompute "c" (fun _ => (.error "down", ())) ()
    replies[3]? = some (.computed (.ok 1) false, Ledger.one (.memoHits "t")) ∧
      replies[6]? = some (.found none, Ledger.one (.memoMisses "t")) ∧
      down.value = .error "down" ∧ down.memo = table ∧
      (Steps.heard (Step.concerns "b") recomputed replies).length = 2 ∧
      ledger.count (.memoMisses "t") = 5 ∧
      ledger.count (.memoHits "t") + ledger.count (.memoMisses "t") = 7 := by
  intro replies ledger table down
  obtain ⟨answers, computes, alone, counts⟩ := written_once (ε := String) (α := Nat) "t"
  have refused := computes (recomputed.take 4) "c" (fun _ : Unit => (.error "down", ())) ()
  refine ⟨answers (recomputed.take 3) _ (recomputed.drop 4),
    answers (recomputed.take 6) _ (recomputed.drop 7),
    refused.1, refused.2.2.2.2.2 "down" rfl, ?_, ?_, ?_⟩
  · rw [alone recomputed "b"]
    rfl
  · exact (counts recomputed).1.trans (by decide)
  · exact (counts recomputed).2.trans (by decide)

end CloudCensus.Memo
