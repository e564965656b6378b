import CloudCensus.Merge.Merger
import CloudCensus.Proofs.Merge.Pool

/-!
Runs of the merger from its start, one event after another.

An event reaches the pool only through `pooled`, so that what holds of every move of a pool holds
of every step of the merger.
-/

namespace CloudCensus.Merger

open Asset

def listens (m : Merger) (side : Facet) : Bool := !(m.ended || m.pool.isClosed side)

def taken (m : Merger) : Event → List Asset
  | .observe side a => if m.listens side then [a] else []
  | _ => []

def pooled (m : Merger) : Event → List Asset × Pool
  | .observe side a => if m.listens side then m.pool.observe a else ([], m.pool)
  | .close side => if m.listens side then m.pool.close side else ([], m.pool)
  | _ => ([], m.pool)

theorem deaf (m : Merger) (side : Facet) :
    (m.ended || m.pool.isClosed side) = !m.listens side := by
  simp [listens]

theorem step_observe (m : Merger) (side : Facet) (a : Asset) :
    m.step (.observe side a) =
      if m.listens side then
        (⟨some true, (m.emit (m.pool.observe a).1 (m.pool.observe a).2).1⟩,
          (m.emit (m.pool.observe a).1 (m.pool.observe a).2).2)
      else (⟨some false, []⟩, m) := by
  by_cases heard : m.listens side = true <;> simp [step, deaf, heard]

theorem step_fail (m : Merger) (side : Facet) (f : Failure) :
    m.step (.fail side f) =
      if m.listens side then (⟨some true, []⟩, { m with result := some (.error f) })
      else (⟨some false, []⟩, m) := by
  by_cases heard : m.listens side = true <;> simp [step, deaf, heard]

theorem step_close (m : Merger) (side : Facet) :
    m.step (.close side) =
      if m.listens side then
        (⟨none, (m.emit (m.pool.close side).1 (m.pool.close side).2).1⟩,
          (m.emit (m.pool.close side).1 (m.pool.close side).2).2)
      else (quiet, m) := by
  by_cases heard : m.listens side = true <;> simp [step, deaf, heard]

theorem pool_emit (m : Merger) (out : List Asset) (pool : Pool) :
    (m.emit out pool).2.pool = pool := by
  unfold emit
  split <;> rfl

theorem outputKept_emit (m : Merger) (out : List Asset) (pool : Pool) :
    (m.emit out pool).2.outputKept = m.outputKept := by
  unfold emit
  split <;> rfl

theorem assets_emit (m : Merger) (out : List Asset) (pool : Pool) :
    (m.emit out pool).1 = if m.outputKept then out else [] := by
  cases out <;> cases kept : m.outputKept <;> simp [emit, kept]

theorem pool_step (m : Merger) (e : Event) : (m.step e).2.pool = (m.pooled e).2 := by
  cases e with
  | observe side a =>
      rw [step_observe, pooled]
      split <;> simp [pool_emit]
  | fail side f =>
      simp only [step_fail, pooled]
      split <;> rfl
  | close side =>
      rw [step_close, pooled]
      split <;> simp [pool_emit]
  | cancel =>
      simp only [step, pooled]
      split <;> rfl
  | dropOutput => rfl

theorem emitted_step (m : Merger) (e : Event) :
    (m.step e).1.emitted = if m.outputKept then (m.pooled e).1 else [] := by
  cases e with
  | observe side a =>
      rw [step_observe, pooled]
      split <;> simp [assets_emit]
  | fail side f =>
      simp only [step_fail, pooled]
      split <;> simp
  | close side =>
      rw [step_close, pooled]
      split <;> simp [assets_emit, quiet]
  | cancel => simp [step, pooled, quiet]
  | dropOutput => simp [step, pooled, quiet]

theorem outputKept_step (m : Merger) (e : Event) :
    (m.step e).2.outputKept = true ↔ m.outputKept = true ∧ e ≠ .dropOutput := by
  cases e with
  | observe side a =>
      rw [step_observe]
      split <;> simp [outputKept_emit]
  | fail side f =>
      rw [step_fail]
      split <;> simp
  | close side =>
      rw [step_close]
      split <;> simp [outputKept_emit]
  | cancel =>
      simp only [step]
      split <;> simp
  | dropOutput => simp [step]

theorem move_pooled (m : Merger) (e : Event) : Pool.Move m.pool (m.taken e) (m.pooled e) := by
  cases e with
  | observe side a =>
      simp only [taken, pooled]
      split
      · exact .observe a
      · exact .idle
  | close side =>
      simp only [taken, pooled]
      split
      · exact .close side
      · exact .idle
  | fail side f => exact .idle
  | cancel => exact .idle
  | dropOutput => exact .idle

theorem isClosed_pooled (m : Merger) (e : Event) (side : Facet) :
    (m.pooled e).2.isClosed side = true ↔
      m.pool.isClosed side = true ∨ (e = .close side ∧ m.listens side = true) := by
  cases e with
  | observe sender a =>
      simp only [pooled]
      split <;> simp [Pool.isClosed_observe]
  | close closing =>
      simp only [pooled]
      split
      · rename_i heard
        by_cases same : closing = side
        · subst same
          simp [Pool.isClosed_close, heard]
        · simp [Pool.isClosed_close, same]
      · rename_i heard
        by_cases same : closing = side
        · subst same
          simp [heard]
        · simp [same]
  | fail sender f => simp [pooled]
  | cancel => simp [pooled]
  | dropOutput => simp [pooled]

/-- How a merger has ended is never changed. -/
theorem result_step_of_ended (m : Merger) (e : Event) (ended : m.ended = true) :
    (m.step e).2.result = m.result := by
  have silent : ∀ side, m.listens side = false := by simp [listens, ended]
  cases e with
  | observe side a => simp [step_observe, silent]
  | fail side f => simp [step_fail, silent]
  | close side => simp [step_close, silent]
  | cancel => simp [step, ended]
  | dropOutput => rfl

theorem emitted_step_of_ended (m : Merger) (e : Event) (ended : m.ended = true) :
    (m.step e).1.emitted = [] := by
  have silent : ∀ side, m.listens side = false := by simp [listens, ended]
  rw [emitted_step]
  cases e <;> simp [pooled, silent]

/-- A side that is heard after an event was heard before it, and the event was not its last. -/
theorem listens_step (m : Merger) (e : Event) (side : Facet)
    (heard : (m.step e).2.listens side = true) :
    m.listens side = true ∧ e ≠ .close side ∧ ∀ f, e ≠ .fail side f := by
  obtain ⟨runs, stillOpen⟩ :
      (m.step e).2.ended = false ∧ (m.step e).2.pool.isClosed side = false := by
    simpa [listens] using heard
  have ran : m.ended = false := by
    cases stopped : m.ended with
    | false => rfl
    | true => rw [ended, result_step_of_ended m e stopped, ← ended, stopped] at runs; exact runs
  have unclosed : ¬ (m.pool.isClosed side = true ∨ (e = .close side ∧ m.listens side = true)) := by
    rw [← isClosed_pooled, ← pool_step, stillOpen]
    exact Bool.false_ne_true
  have before : m.listens side = true := by
    have wasOpen : m.pool.isClosed side = false := by simpa using fun shut => unclosed (.inl shut)
    simp [listens, ran, wasOpen]
  refine ⟨before, fun closing => unclosed (.inr ⟨closing, before⟩), ?_⟩
  intro f failing
  rw [failing, step_fail, if_pos before] at runs
  cases runs

def after (events : List Event) : Merger := (start.run events).2

def intake (m : Merger) : List Event → List Asset
  | [] => []
  | e :: rest => m.taken e ++ intake (m.step e).2 rest

theorem run_append (m : Merger) (front back : List Event) :
    m.run (front ++ back) =
      ((m.run front).1 ++ ((m.run front).2.run back).1, ((m.run front).2.run back).2) := by
  induction front generalizing m with
  | nil => rfl
  | cons e rest ih => simp [run, ih]

theorem intake_append (m : Merger) (front back : List Event) :
    m.intake (front ++ back) = m.intake front ++ (m.run front).2.intake back := by
  induction front generalizing m with
  | nil => rfl
  | cons e rest ih => simp [run, intake, ih]

theorem emissions_append (m : Merger) (front back : List Event) :
    m.emissions (front ++ back) = m.emissions front ++ (m.run front).2.emissions back := by
  simp [emissions, run_append]

theorem after_concat (past : List Event) (e : Event) :
    after (past ++ [e]) = ((after past).step e).2 := by
  simp [after, run_append, run]

theorem intake_concat (past : List Event) (e : Event) :
    start.intake (past ++ [e]) = start.intake past ++ (after past).taken e := by
  simp [intake_append, intake, after]

theorem emissions_concat (past : List Event) (e : Event) :
    start.emissions (past ++ [e]) = start.emissions past ++ ((after past).step e).1.emitted := by
  rw [emissions_append]
  simp [emissions, run, after]

/-- What holds at the start and is kept by every step, the events so far in view, holds after every
run. -/
theorem after_induction {motive : List Event → Merger → Prop} (first : motive [] start)
    (next : ∀ past e, motive past (after past) → motive (past ++ [e]) ((after past).step e).2)
    (events : List Event) : motive events (after events) := by
  induction events using List.reverseRecOn with
  | nil => exact first
  | append_singleton past e ih =>
      rw [after_concat]
      exact next past e ih

theorem result_after_append (front back : List Event) (stopped : (after front).ended = true) :
    (after (front ++ back)).result = (after front).result := by
  induction back using List.reverseRecOn with
  | nil => simp
  | append_singleton middle last ih =>
      have still : (after (front ++ middle)).ended = true := by rw [ended, ih]; exact stopped
      rw [← List.append_assoc, after_concat, result_step_of_ended _ last still, ih]

theorem listens_after_append (front back : List Event) (side : Facet)
    (heard : (after (front ++ back)).listens side = true) : (after front).listens side = true := by
  induction back using List.reverseRecOn with
  | nil => simpa using heard
  | append_singleton middle last ih =>
      rw [← List.append_assoc, after_concat] at heard
      exact ih (listens_step _ last side heard).1

theorem step_consistent (m : Merger) (e : Event) (consistent : m.pool.Consistent) :
    (m.step e).2.pool.Consistent := by
  rw [pool_step]
  exact (move_pooled m e).consistent consistent

theorem after_consistent (events : List Event) : (after events).pool.Consistent := by
  apply after_induction (motive := fun _ m => m.pool.Consistent)
  · exact Pool.empty_consistent
  · intro past e before
    exact step_consistent _ e before

theorem after_holds (events : List Event) : (after events).pool.Holds (start.intake events) := by
  apply after_induction (motive := fun past m => m.pool.Holds (start.intake past))
  · intro name
    rfl
  · intro past e before
    rw [pool_step, intake_concat]
    exact (move_pooled _ e).holds (after_consistent past) _ before

/-- As long as the output is kept, all that leaves the pool is emitted. -/
theorem emitted_after (events : List Event) (kept : (after events).outputKept = true) :
    (after events).pool.emitted = (start.emissions events).map (·.name) := by
  induction events using List.reverseRecOn with
  | nil => rfl
  | append_singleton past last ih =>
      rw [after_concat] at kept
      have before := ((outputKept_step _ last).mp kept).1
      rw [after_concat, pool_step, (move_pooled _ last).emitted, emissions_concat, List.map_append,
        emitted_step, if_pos before, ih before]

theorem emitted_gathers (past : List Event) (e : Event) (a : Asset)
    (out : a ∈ ((after past).step e).1.emitted) :
    gather (named a.name (start.intake (past ++ [e]))) = some a ∧
      (after (past ++ [e])).pool.isReady a = true := by
  have left : a ∈ ((after past).pooled e).1 := by
    rw [emitted_step] at out
    split at out
    · exact out
    · cases out
  rw [after_concat, pool_step, intake_concat]
  exact (move_pooled _ e).leaves (after_consistent past) _ (after_holds past) a left

theorem mem_emissions (events : List Event) (a : Asset) (out : a ∈ start.emissions events) :
    ∃ past e rest, events = past ++ e :: rest ∧ a ∈ ((after past).step e).1.emitted := by
  induction events using List.reverseRecOn with
  | nil => cases out
  | append_singleton front last ih =>
      rw [emissions_concat] at out
      rcases List.mem_append.mp out with earlier | now
      · obtain ⟨past, e, rest, split, here⟩ := ih earlier
        exact ⟨past, e, rest ++ [last], by simp [split], here⟩
      · exact ⟨front, last, [], rfl, now⟩

end CloudCensus.Merger
