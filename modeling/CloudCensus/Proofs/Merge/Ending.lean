import CloudCensus.Proofs.Merge.Run

/-!
What ends a merger, and that nothing comes after it.

A dropped output is noticed only by the next asset that would be emitted, so that the merger goes on
as if its output were kept until then.
-/

namespace CloudCensus.Merger

def Event.dropsOutput : Event → Bool
  | .dropOutput => true
  | _ => false

/-- The same events with the output kept. -/
def keeping (events : List Event) : List Event := events.filter fun e => !e.dropsOutput

/-- The events that end a merger after others that did not, and how it ends. -/
inductive Ends (past : List Event) : Event → Outcome Unit → Prop where
  | failed (side : Facet) (f : Failure) (stillOpen : .close side ∉ past) :
      Ends past (.fail side f) (.error f)
  | cancelled : Ends past .cancel (.error .cancelled)
  | bothClosed (side : Facet) (other : .close side.other ∈ past) : Ends past (.close side) (.ok ())
  | unreceived (e : Event) (dropped : .dropOutput ∈ past)
      (attempted : ((after (keeping past)).step e).1.emitted ≠ []) : Ends past e (.ok ())

def Unended (events : List Event) : Prop :=
  ∀ past e rest r, events = past ++ e :: rest → ¬ Ends past e r

structure FirstEnding (events past : List Event) (e : Event) (rest : List Event) (r : Outcome Unit) :
    Prop where
  split : events = past ++ e :: rest
  unended : Unended past
  ends : Ends past e r

def reopened (m : Merger) : Merger := { m with outputKept := true }

structure Running (past : List Event) (m : Merger) : Prop where
  result : m.result = none
  unfinished : m.pool.bothClosed = false
  output : m.outputKept = true ↔ .dropOutput ∉ past
  closed : ∀ side, m.pool.isClosed side = true ↔ .close side ∈ past
  same : after (keeping past) = m.reopened

theorem dropsOutput_iff (e : Event) : e.dropsOutput = true ↔ e = .dropOutput := by
  cases e <;> simp [Event.dropsOutput]

theorem unended_concat (past : List Event) (e : Event) :
    Unended (past ++ [e]) ↔ Unended past ∧ ∀ r, ¬ Ends past e r := by
  constructor
  · intro unended
    constructor
    · intro front d back r split
      exact unended front d (back ++ [e]) r (by simp [split])
    · intro r
      exact unended past e [] r rfl
  · rintro ⟨before, goesOn⟩ front d back r split
    cases back using List.reverseRecOn with
    | nil =>
        obtain ⟨rfl, rfl⟩ : past = front ∧ e = d := by simpa using List.append_inj' split rfl
        exact goesOn r
    | append_singleton middle last =>
        obtain ⟨rfl, rfl⟩ : past = front ++ d :: middle ∧ e = last := by
          rw [← List.cons_append, ← List.append_assoc] at split
          simpa using List.append_inj' split rfl
        exact before front d middle r rfl

theorem exists_first_ending (events : List Event) :
    Unended events ∨ ∃ past e rest r, FirstEnding events past e rest r := by
  induction events using List.reverseRecOn with
  | nil =>
      left
      intro past e rest r split
      simp at split
  | append_singleton front last ih =>
      rcases ih with unended | ⟨past, e, rest, r, split, unended, ends⟩
      · by_cases ending : ∃ r, Ends front last r
        · obtain ⟨r, ends⟩ := ending
          exact .inr ⟨front, last, [], r, rfl, unended, ends⟩
        · left
          exact (unended_concat front last).mpr ⟨unended, fun r ends => ending ⟨r, ends⟩⟩
      · exact .inr ⟨past, e, rest ++ [last], r, by simp [split], unended, ends⟩

theorem keeping_concat (past : List Event) (e : Event) :
    keeping (past ++ [e]) = if e.dropsOutput then keeping past else keeping past ++ [e] := by
  cases dropped : e.dropsOutput <;> simp [keeping, dropped]

section reopened

variable (m : Merger) (e : Event)

theorem pooled_reopened : m.reopened.pooled e = m.pooled e := by
  cases e <;> rfl

theorem emitted_reopened : (m.reopened.step e).1.emitted = (m.pooled e).1 := by
  rw [emitted_step, pooled_reopened]
  exact if_pos rfl

theorem result_emit_eq (out : List Asset) (pool : Pool) :
    (m.emit out pool).2.result =
      if (out ≠ [] ∧ m.outputKept = false) ∨ pool.bothClosed = true then some (.ok ()) else none := by
  cases out <;> cases kept : m.outputKept <;> simp [emit, kept]

theorem emit_eq (out : List Asset) (pool : Pool) :
    (m.emit out pool).2 = { m with pool := pool, result := (m.emit out pool).2.result } := by
  unfold emit
  split <;> rfl

theorem emit_reopened (out : List Asset) (pool : Pool) (goesOn : (m.emit out pool).2.result = none) :
    (m.reopened.emit out pool).2 = (m.emit out pool).2.reopened := by
  have unclosed : pool.bothClosed = false := by
    by_contra closed
    simp [result_emit_eq, closed] at goesOn
  have result : (m.reopened.emit out pool).2.result = none := by
    simp [result_emit_eq, reopened, unclosed]
  rw [emit_eq m.reopened, emit_eq m, goesOn, result]
  rfl

theorem step_reopened (keeps : e.dropsOutput = false) (goesOn : (m.step e).2.result = none) :
    (m.reopened.step e).2 = (m.step e).2.reopened := by
  have alike (side : Facet) : m.reopened.listens side = m.listens side := rfl
  cases e with
  | observe side a =>
      rw [step_observe] at goesOn ⊢
      rw [step_observe, alike]
      by_cases heard : m.listens side = true
      · rw [if_pos heard] at goesOn ⊢
        rw [if_pos heard]
        exact emit_reopened m _ _ goesOn
      · rw [if_neg heard, if_neg heard]
  | close side =>
      rw [step_close] at goesOn ⊢
      rw [step_close, alike]
      by_cases heard : m.listens side = true
      · rw [if_pos heard] at goesOn ⊢
        rw [if_pos heard]
        exact emit_reopened m _ _ goesOn
      · rw [if_neg heard, if_neg heard]
  | fail side f =>
      rw [step_fail, step_fail, alike]
      by_cases heard : m.listens side = true
      · rw [if_pos heard, if_pos heard]
        rfl
      · rw [if_neg heard, if_neg heard]
  | cancel =>
      -- After a cancellation the merger has ended, now or before.
      cases stopped : m.ended with
      | true =>
          simp only [step, stopped, if_true] at goesOn
          simp [ended, goesOn] at stopped
      | false => simp [step, stopped] at goesOn
  | dropOutput => cases keeps

end reopened

section running

variable {past : List Event} {m : Merger} (running : Running past m)

include running

theorem Running.listens_iff (side : Facet) : m.listens side = true ↔ .close side ∉ past := by
  rw [← running.closed side]
  simp [listens, ended, running.result]

/-- The second close is the only event that closes both sides. -/
theorem Running.bothClosed_pooled (e : Event) :
    (m.pooled e).2.bothClosed = true ↔ ∃ side, e = .close side ∧ .close side.other ∈ past := by
  have unfinished : ¬ ∀ side, m.pool.isClosed side = true := by
    rw [← Pool.bothClosed_iff, running.unfinished]
    exact Bool.false_ne_true
  rw [Pool.bothClosed_iff]
  constructor
  · intro closed
    obtain ⟨side, unclosed⟩ : ∃ side, ¬ m.pool.isClosed side = true := by
      by_contra none
      exact unfinished fun side => by_contra fun unclosed => none ⟨side, unclosed⟩
    have closing := ((isClosed_pooled m e side).mp (closed side)).resolve_left unclosed
    refine ⟨side, closing.1, (running.closed side.other).mp ?_⟩
    rcases (isClosed_pooled m e side.other).mp (closed side.other) with before | ⟨again, _⟩
    · exact before
    · rw [closing.1] at again
      cases side <;> cases again
  · rintro ⟨side, rfl, other⟩ which
    rw [isClosed_pooled]
    by_cases shut : m.pool.isClosed which = true
    · exact .inl shut
    · have same : which = side := by
        by_contra different
        have opposite : which = side.other := by cases which <;> cases side <;> simp_all [Facet.other]
        exact shut ((running.closed which).mpr (opposite ▸ other))
      have unclosed : .close side ∉ past := by rw [← running.closed side, ← same]; exact shut
      exact .inr ⟨by rw [same], by rw [same]; exact (running.listens_iff side).mpr unclosed⟩

theorem Running.result_step (e : Event) (r : Outcome Unit) :
    (m.step e).2.result = some r ↔
      (∃ side f, e = .fail side f ∧ m.listens side = true ∧ .error f = r) ∨
      (e = .cancel ∧ .error .cancelled = r) ∨
      ((((m.pooled e).1 ≠ [] ∧ m.outputKept = false) ∨ (m.pooled e).2.bothClosed = true) ∧
        .ok () = r) := by
  have result := running.result
  have unfinished := running.unfinished
  cases e with
  | observe side a =>
      rw [step_observe, pooled]
      by_cases heard : m.listens side = true
      · simp [heard, result_emit_eq]
      · simp [heard, result, unfinished]
  | close side =>
      rw [step_close, pooled]
      by_cases heard : m.listens side = true
      · simp [heard, result_emit_eq]
      · simp [heard, result, unfinished]
  | fail side f =>
      simp only [step_fail, pooled]
      by_cases heard : m.listens side = true
      · simp [heard, unfinished]
      · simp [heard, result, unfinished]
  | cancel => simp [step, pooled, ended, result, unfinished]
  | dropOutput => simp [step, pooled, result, unfinished]

theorem Running.ends_iff (e : Event) (r : Outcome Unit) :
    (m.step e).2.result = some r ↔ Ends past e r := by
  rw [running.result_step]
  constructor
  · rintro (⟨side, f, rfl, heard, rfl⟩ | ⟨rfl, rfl⟩ | ⟨⟨leaves, unkept⟩ | both, rfl⟩)
    · exact .failed side f ((running.listens_iff side).mp heard)
    · exact .cancelled
    · have dropped : .dropOutput ∈ past := by
        by_contra absent
        rw [running.output.mpr absent] at unkept
        cases unkept
      refine .unreceived e dropped ?_
      rw [running.same, emitted_reopened]
      exact leaves
    · obtain ⟨side, rfl, other⟩ := (running.bothClosed_pooled e).mp both
      exact .bothClosed side other
  · intro ends
    cases ends with
    | failed side f stillOpen =>
        exact .inl ⟨side, f, rfl, (running.listens_iff side).mpr stillOpen, rfl⟩
    | cancelled => exact .inr (.inl ⟨rfl, rfl⟩)
    | bothClosed side other =>
        exact .inr (.inr ⟨.inr ((running.bothClosed_pooled _).mpr ⟨side, rfl, other⟩), rfl⟩)
    | unreceived e dropped attempted =>
        rw [running.same, emitted_reopened] at attempted
        have unkept : m.outputKept = false := by
          cases kept : m.outputKept with
          | false => rfl
          | true => exact absurd dropped (running.output.mp kept)
        exact .inr (.inr ⟨.inl ⟨attempted, unkept⟩, rfl⟩)

theorem Running.step (e : Event) (goesOn : (m.step e).2.result = none) :
    Running (past ++ [e]) (m.step e).2 where
  result := goesOn
  unfinished := by
    rw [pool_step]
    cases both : (m.pooled e).2.bothClosed with
    | false => rfl
    | true =>
        have stopped := (running.result_step e (.ok ())).mpr (.inr (.inr ⟨.inr both, rfl⟩))
        rw [goesOn] at stopped
        cases stopped
  output := by
    rw [outputKept_step, running.output, List.mem_append, List.mem_singleton, not_or]
    exact and_congr_right fun _ => not_congr eq_comm
  closed side := by
    rw [pool_step, isClosed_pooled, running.listens_iff side, running.closed side,
      List.mem_append, List.mem_singleton]
    by_cases before : Event.close side ∈ past
    · simp [before]
    · simp [before, eq_comm]
  same := by
    rw [keeping_concat]
    cases drops : e.dropsOutput with
    | true =>
        obtain rfl : e = .dropOutput := (dropsOutput_iff e).mp drops
        exact running.same
    | false =>
        rw [if_neg Bool.false_ne_true, after_concat, running.same]
        exact step_reopened m e drops goesOn

end running

theorem running_start : Running [] start where
  result := rfl
  unfinished := rfl
  output := by simp [start]
  closed side := by cases side <;> simp [start, Pool.isClosed, Pool.empty]
  same := rfl

theorem running_of_unended (events : List Event) (unended : Unended events) :
    Running events (after events) := by
  induction events using List.reverseRecOn with
  | nil => exact running_start
  | append_singleton past last ih =>
      obtain ⟨before, goesOn⟩ := (unended_concat past last).mp unended
      have running := ih before
      rw [after_concat]
      apply running.step
      cases result : ((after past).step last).2.result with
      | none => rfl
      | some r => exact absurd ((running.ends_iff last r).mp result) (goesOn r)

theorem delivered_step_of_ended (m : Merger) (e : Event) (ended : m.ended = true) :
    (m.step e).1.delivered ≠ some true := by
  have silent (side : Facet) : ¬ m.listens side = true := by simp [listens, ended]
  cases e with
  | observe side a => simp [step_observe, silent]
  | fail side f => simp [step_fail, silent]
  | close side => simp [step_close, silent, quiet]
  | cancel => simp [step, quiet]
  | dropOutput => simp [step, quiet]

theorem emissions_cons (m : Merger) (e : Event) (rest : List Event) :
    m.emissions (e :: rest) = (m.step e).1.emitted ++ (m.step e).2.emissions rest := by
  simp [emissions, run]

theorem emissions_of_ended (m : Merger) (events : List Event) (stopped : m.ended = true) :
    m.emissions events = [] := by
  induction events generalizing m with
  | nil => rfl
  | cons e rest ih =>
      have still : (m.step e).2.ended = true := by
        rw [ended, result_step_of_ended m e stopped]
        exact stopped
      rw [emissions_cons, emitted_step_of_ended m e stopped, ih _ still, List.append_nil]

theorem emitted_of_error (past : List Event) (e : Event) (m : Merger) (f : Failure)
    (ends : Ends past e (.error f)) : (m.step e).1.emitted = [] := by
  rw [emitted_step]
  cases ends <;> simp [pooled]

section ending

variable {events past rest : List Event} {e : Event} {r : Outcome Unit}
  (ending : FirstEnding events past e rest r)

include ending

theorem FirstEnding.result_before : (after past).result = none :=
  (running_of_unended past ending.unended).result

theorem FirstEnding.result_at : (after (past ++ [e])).result = some r := by
  rw [after_concat]
  exact ((running_of_unended past ending.unended).ends_iff e r).mpr ending.ends

theorem FirstEnding.result_later (middle : List Event) :
    (after (past ++ e :: middle)).result = some r := by
  have stopped : (after (past ++ [e])).ended = true := by rw [ended, ending.result_at]; rfl
  have later := result_after_append (past ++ [e]) middle stopped
  rw [List.append_assoc, List.singleton_append, ending.result_at] at later
  exact later

theorem FirstEnding.emissions (f : Failure) (failed : r = .error f) :
    start.emissions events = start.emissions past := by
  have nothing : ((after past).step e).1.emitted = [] := by
    apply emitted_of_error past e _ f
    rw [← failed]
    exact ending.ends
  have stopped : ((after past).step e).2.ended = true := by
    rw [← after_concat, ended, ending.result_at]
    rfl
  rw [ending.split, emissions_append]
  change _ ++ (after past).emissions (e :: rest) = _
  rw [emissions_cons, nothing, emissions_of_ended _ rest stopped]
  simp

end ending

theorem unended_of_result {past : List Event} (result : (after past).result = none) : Unended past := by
  rcases exists_first_ending past with unended | ⟨front, e, rest, r, ending⟩
  · exact unended
  · have ended := ending.result_later rest
    rw [← ending.split, result] at ended
    cases ended

/-- A merger ends at the first event that ends it, as that event says, and at no other.  From then on
nothing is delivered or emitted and its result stays.  If it ends with an error, what was emitted is
what the events before emit. -/
theorem first_ending_decides (events : List Event) :
    (∀ r, (after events).result = some r ↔ ∃ past e rest, FirstEnding events past e rest r) ∧
    ∀ past e rest r, FirstEnding events past e rest r →
      (after past).result = none ∧ (after (past ++ [e])).result = some r ∧
      (∀ middle later back, rest = middle ++ later :: back →
        let m := after (past ++ e :: middle)
        (m.step later).1.delivered ≠ some true ∧ (m.step later).1.emitted = [] ∧
          (m.step later).2.result = some r) ∧
      (∀ f, r = .error f → start.emissions events = start.emissions past) := by
  constructor
  · intro r
    constructor
    · intro result
      rcases exists_first_ending events with unended | ⟨past, e, rest, s, ending⟩
      · rw [(running_of_unended events unended).result] at result
        cases result
      · have decided := ending.result_later rest
        rw [← ending.split, result] at decided
        cases decided
        exact ⟨past, e, rest, ending⟩
    · rintro ⟨past, e, rest, ending⟩
      rw [ending.split]
      exact ending.result_later rest
  · intro past e rest r ending
    refine ⟨ending.result_before, ending.result_at, ?_, ending.emissions⟩
    intro middle later back split m
    have result : m.result = some r := ending.result_later middle
    have stopped : m.ended = true := by rw [ended, result]; rfl
    have kept : (m.step later).2.result = some r := by rw [result_step_of_ended m later stopped, result]
    exact ⟨delivered_step_of_ended m later stopped, emitted_step_of_ended m later stopped, kept⟩

/-- The output is dropped, but the cancellation comes before anything would be emitted. -/
def abandoned : List Event :=
  [.observe .resource ⟨"a", "", [], some .empty, none, none⟩, .dropOutput, .cancel, .close .policy]

def listedWhole (name : String) : Asset := ⟨name, "", [], some .empty, some .null, none⟩

/-- The output is dropped once one asset was emitted, and the next asset ends the merger. -/
def deserted : List Event :=
  [.observe .resource (listedWhole "a"), .dropOutput, .observe .policy (listedWhole "b"), .cancel]

theorem first_ending_decides_abandoned :
    (FirstEnding abandoned (abandoned.take 2) .cancel [.close .policy] (.error .cancelled) ∧
      (after abandoned).result = some (.error .cancelled) ∧ start.emissions abandoned = [] ∧
      (after (abandoned.take 2)).result = none) ∧
    FirstEnding deserted (deserted.take 2) (.observe .policy (listedWhole "b")) [.cancel] (.ok ()) ∧
      (after (deserted.take 2)).result = none ∧ (after deserted).result = some (.ok ()) ∧
      (after (deserted.take 3)).emissions [.cancel] = [] ∧
      start.emissions deserted = [listedWhole "a"] := by
  constructor
  · have ending : FirstEnding abandoned (abandoned.take 2) .cancel [.close .policy]
        (.error .cancelled) := ⟨rfl, unended_of_result rfl, .cancelled⟩
    obtain ⟨decides, first⟩ := first_ending_decides abandoned
    obtain ⟨before, _, _, emitted⟩ := first _ _ _ _ ending
    exact ⟨ending, (decides _).mpr ⟨_, _, _, ending⟩, emitted .cancelled rfl, before⟩
  · have attempted : ((after (keeping (deserted.take 2))).step
        (.observe .policy (listedWhole "b"))).1.emitted = [listedWhole "b"] := rfl
    have ending : FirstEnding deserted (deserted.take 2) (.observe .policy (listedWhole "b")) [.cancel]
        (.ok ()) := by
      refine ⟨rfl, unended_of_result rfl, .unreceived _ (by simp [deserted]) ?_⟩
      rw [attempted]
      exact List.cons_ne_nil _ _
    obtain ⟨decides, first⟩ := first_ending_decides deserted
    obtain ⟨before, _, later, _⟩ := first _ _ _ _ ending
    obtain ⟨_, nothing, _⟩ := later [] .cancel [] rfl
    refine ⟨ending, before, (decides _).mpr ⟨_, _, _, ending⟩, ?_, rfl⟩
    rw [emissions_cons]
    exact congrArg (· ++ []) nothing

end CloudCensus.Merger
