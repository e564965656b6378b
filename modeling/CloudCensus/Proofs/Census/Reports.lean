import CloudCensus.Proofs.Census.Desk

/-!
What a desk reports in the end.

A desk whose listing has ended comes to its own end.  If nobody cancels the run and the sink stays, what
it has done then does not depend on the order of the turns: it is what the desk does to which everything
is handed over before it begins.
-/

namespace CloudCensus.Census

structure Passed (γ β : Type) where
  kept : List γ
  sent : List β
  walk : Walk

namespace Routine

variable {γ β : Type} (routine : Routine γ β)

def pass (sinkKept : Bool) (w : Walk) : List Asset → Passed γ β
  | [] => ⟨[], [], w⟩
  | a :: rest =>
    if w.fired then ⟨[], [], w⟩
    else
      let made := routine.handle w a
      let p := pass sinkKept made.2 rest
      match routine.prompt made.1 with
      | none => ⟨made.1 :: p.kept, p.sent, p.walk⟩
      | some b =>
        if made.2.fired || !sinkKept then ⟨[made.1], [], made.2⟩
        else ⟨made.1 :: p.kept, b :: p.sent, p.walk⟩

def leave (sinkKept : Bool) (p : Passed γ β) (stages : List (Outcome Unit)) : Report β :=
  match settle p.walk.fired stages with
  | .error e => ⟨.error e, p.sent, p.walk⟩
  | .ok () =>
    match routine.conclude with
    | none => ⟨.ok (), p.sent, p.walk⟩
    | some conclude =>
      let (made, w) := conclude p.walk p.kept
      match made with
      | .error e => ⟨.error e, p.sent, w⟩
      | .ok out => ⟨stopped w.fired, p.sent ++ (if w.fired || !sinkKept then [] else out), w⟩

/-- What an operation does whose listing is handed over from beginning to end before the first asset is
read. -/
def report (sinkKept : Bool) (w : Walk) (listed : List Asset) (stages : List (Outcome Unit)) : Report β :=
  routine.leave sinkKept (routine.pass sinkKept w listed) stages

def handleAll (w : Walk) : List Asset → List γ × Walk
  | [] => ([], w)
  | a :: rest =>
    let made := routine.handle w a
    let rest := handleAll made.2 rest
    (made.1 :: rest.1, rest.2)

end Routine

namespace Routine

variable {γ β : Type} {src : Sources} {routine : Routine γ β}

theorem pass_keeps {motive : Walk → Prop} (handle : ∀ w a, motive w → motive (routine.handle w a).2)
    (sinkKept : Bool) (w : Walk) (holds : motive w) (listed : List Asset) :
    motive (routine.pass sinkKept w listed).walk := by
  induction listed generalizing w with
  | nil => exact holds
  | cons a rest ih =>
      have worked := handle w a holds
      rw [pass]
      split
      · exact holds
      · dsimp only
        split
        · exact ih _ worked
        · split
          · exact worked
          · exact ih _ worked

theorem report_keeps {motive : Walk → Prop} (handle : ∀ w a, motive w → motive (routine.handle w a).2)
    (conclude : ∀ conclude, routine.conclude = some conclude →
      ∀ w kept, motive w → motive (conclude w kept).2)
    (sinkKept : Bool) (w : Walk) (holds : motive w) (listed : List Asset) (stages : List (Outcome Unit)) :
    motive (routine.report sinkKept w listed stages).walk := by
  have passed := pass_keeps handle sinkKept w holds listed
  rw [report, leave]
  split
  · exact passed
  · split
    · exact passed
    · rename_i last ended
      have concluded (kept : List γ) := conclude last ended _ kept passed
      dsimp only
      split <;> exact concluded _

variable (careful : routine.Careful src)

include careful

theorem typed_report (sinkKept : Bool) (w : Walk) (listed : List Asset) (stages : List (Outcome Unit)) :
    Walk.Typed src w (routine.report sinkKept w listed stages).walk := by
  refine report_keeps (motive := Walk.Typed src w) ?_ ?_ sinkKept w (.refl src w) listed stages
  · intro v a run
    exact run.trans (careful.handle v a)
  · intro conclude last v kept run
    exact run.trans (careful.conclude conclude last v kept)

theorem unfired_report (sinkKept : Bool) (w : Walk) (listed : List Asset) (stages : List (Outcome Unit))
    (calm : (routine.report sinkKept w listed stages).walk.fired = false) : w.fired = false :=
  (typed_report careful sinkKept w listed stages).remembers.unfired calm

end Routine

namespace Desk

variable {γ β : Type}

section progress

variable (routine : Routine γ β)

def Onward (d later : Desk γ β) : Prop := ∃ n, d.run routine (List.replicate n .goes) = later

theorem Onward.refl (d : Desk γ β) : Onward routine d d := ⟨0, rfl⟩

variable {routine} {d middle later : Desk γ β}

theorem Onward.step (rest : Onward routine (d.goes routine) later) : Onward routine d later := by
  obtain ⟨n, reached⟩ := rest
  exact ⟨n + 1, reached⟩

theorem Onward.trans (first : Onward routine d middle) (second : Onward routine middle later) :
    Onward routine d later := by
  obtain ⟨n, rfl⟩ := first
  obtain ⟨m, rfl⟩ := second
  refine ⟨n + m, ?_⟩
  rw [List.replicate_add, run_append]

variable (routine) (sinkKept : Bool) (listed : List Asset) (stages : List (Outcome Unit))

def handed (fires : Bool) : List Turn :=
  (if fires then [.cancels] else []) ++ listed.map .arrives ++ [.ends stages]

end progress

section calm

variable {src : Sources} {routine : Routine γ β}

/-- The work on some assets is done, and all that is due to be sent of them is sent but `due`. -/
def Worked (routine : Routine γ β) (w : Walk) (front : List Asset) (due : List β) (d : Desk γ β) : Prop :=
  routine.handleAll w front = (d.kept, d.walk) ∧ d.sent ++ due = d.kept.filterMap routine.prompt

/-- Where a desk stands that nothing has stopped by now, as what it was handed says. -/
def Stands (routine : Routine γ β) (w : Walk) (d : Desk γ β) : Prop :=
  match d.phase with
  | .reading => ∃ front, d.listed = front ++ d.inbox ∧ Worked routine w front [] d
  | .holding a => ∃ front, d.listed = front ++ a :: d.inbox ∧ Worked routine w front [] d
  | .sending out false => ∃ front, d.listed = front ++ d.inbox ∧ Worked routine w front out d
  | .leaving => d.stages.isSome = true ∧ Worked routine w d.listed [] d
  | .sending out true =>
    ∃ stages conclude all, d.stages = some stages ∧ routine.conclude = some conclude ∧
      let p := routine.pass true w d.listed
      settle p.walk.fired stages = .ok () ∧ conclude p.walk p.kept = (.ok all, d.walk) ∧
        d.sent ++ out = p.sent ++ all
  | .closed o =>
    ∃ stages, d.stages = some stages ∧ routine.report true w d.listed stages = ⟨o, d.sent, d.walk⟩

theorem handleAll_append (w : Walk) (front back : List Asset) :
    routine.handleAll w (front ++ back) =
      ((routine.handleAll w front).1 ++ (routine.handleAll (routine.handleAll w front).2 back).1,
        (routine.handleAll (routine.handleAll w front).2 back).2) := by
  induction front generalizing w with
  | nil => rfl
  | cons a rest ih => simp only [List.cons_append, Routine.handleAll, ih]

theorem remembers_handleAll (careful : routine.Careful src) (w : Walk) (assets : List Asset) :
    Walk.Remembers src w (routine.handleAll w assets).2 := by
  induction assets generalizing w with
  | nil => exact .refl src w
  | cons a rest ih => exact (careful.handle w a).remembers.trans (ih _)

theorem fired_pass (careful : routine.Careful src) (w : Walk) (assets : List Asset) :
    (routine.pass true w assets).walk.fired = (routine.handleAll w assets).2.fired := by
  induction assets generalizing w with
  | nil => rfl
  | cons a rest ih =>
      have worked := (careful.handle w a).remembers
      have later := remembers_handleAll careful (routine.handle w a).2 rest
      simp only [Routine.pass, Routine.handleAll]
      cases fired : w.fired with
      | true =>
          rw [if_pos rfl, later.lasting (worked.lasting fired)]
          exact fired
      | false =>
          rw [if_neg Bool.false_ne_true]
          cases routine.prompt (routine.handle w a).1 with
          | none => exact ih _
          | some b =>
              cases now : (routine.handle w a).2.fired with
              | true => exact now.trans (later.lasting now).symm
              | false => exact ih _

theorem pass_of_calm (careful : routine.Careful src) (w : Walk) (assets : List Asset)
    (calm : (routine.handleAll w assets).2.fired = false) :
    routine.pass true w assets =
      ⟨(routine.handleAll w assets).1, (routine.handleAll w assets).1.filterMap routine.prompt,
        (routine.handleAll w assets).2⟩ := by
  induction assets generalizing w with
  | nil => rfl
  | cons a rest ih =>
      change (routine.handleAll (routine.handle w a).2 rest).2.fired = false at calm
      have worked : (routine.handle w a).2.fired = false :=
        (remembers_handleAll careful _ rest).unfired calm
      have begun : w.fired = false := (careful.handle w a).remembers.unfired worked
      have later := ih (routine.handle w a).2 calm
      simp only [Routine.pass, Routine.handleAll, begun, later]
      cases prompt : routine.prompt (routine.handle w a).1 with
      | none => simp [prompt]
      | some b => simp [prompt, worked]

theorem Worked.pass {w : Walk} {d : Desk γ β} (careful : routine.Careful src)
    (worked : Worked routine w d.listed [] d) (calm : d.walk.fired = false) :
    routine.pass true w d.listed = ⟨d.kept, d.sent, d.walk⟩ := by
  obtain ⟨all, sent⟩ := worked
  rw [pass_of_calm careful w d.listed (by rw [all]; exact calm), all, ← sent, List.append_nil]

theorem Moves.stands {w : Walk} {d later : Desk γ β} (careful : routine.Careful src)
    (moves : Moves routine d later) (stands : Stands routine w d) (calm : later.walk.fired = false)
    (kept : later.sinkKept = true) : Stands routine w later := by
  have begun : d.walk.fired = false := (moves.remembers careful).unfired calm
  cases moves with
  | rests _ => exact stands
  | gives before =>
      rcases before with ⟨reading, fired | ⟨empty, ended⟩⟩ | ⟨x, rest, sending, late⟩
      · exact absurd (fired.symm.trans begun) nofun
      · rw [Stands, reading] at stands
        obtain ⟨front, split, worked⟩ := stands
        rw [empty, List.append_nil] at split
        subst split
        exact ⟨ended, worked⟩
      · change d.sinkKept = true at kept
        rw [begun, kept] at late
        cases late
  | takes a rest reading _ waiting =>
      rw [Stands, reading] at stands
      obtain ⟨front, split, worked⟩ := stands
      rw [waiting] at split
      exact ⟨front, split, worked⟩
  | works a holding =>
      rw [Stands, holding] at stands
      obtain ⟨front, split, all, sent⟩ := stands
      refine ⟨front ++ [a], by simp [split], ?_, ?_⟩
      · rw [handleAll_append, all]
        rfl
      · rw [List.append_nil] at sent
        change d.sent ++ _ = (d.kept ++ _).filterMap routine.prompt
        rw [sent, List.filterMap_append]
        cases prompt : routine.prompt (routine.handle d.walk a).1 <;> simp [prompt]
  | resumes sending =>
      rw [Stands, sending] at stands
      exact stands
  | stops sending =>
      rw [Stands, sending] at stands
      obtain ⟨stages, conclude, all, ended, last, fine, made, sent⟩ := stands
      refine ⟨stages, ended, ?_⟩
      rw [Routine.report, Routine.leave, fine, last]
      simp only [made, begun]
      rw [List.append_nil] at sent
      simp [sent]
  | refused x rest _ late =>
      change d.sinkKept = true at kept
      rw [begun, kept] at late
      cases late
  | sends x rest last sending _ _ =>
      rw [Stands, sending] at stands
      cases last with
      | true =>
          obtain ⟨stages, conclude, all, ended, last, fine, made, sent⟩ := stands
          exact ⟨stages, conclude, all, ended, last, fine, made, by simpa using sent⟩
      | false =>
          obtain ⟨front, split, all, sent⟩ := stands
          exact ⟨front, split, all, by simpa using sent⟩
  | fails stages e leaving ended failed =>
      rw [Stands, leaving] at stands
      refine ⟨stages, ended, ?_⟩
      rw [Routine.report, stands.2.pass careful begun, Routine.leave, failed]
  | closes stages leaving ended fine plain =>
      rw [Stands, leaving] at stands
      refine ⟨stages, ended, ?_⟩
      rw [Routine.report, stands.2.pass careful begun, Routine.leave, fine, plain]
  | gathers stages conclude leaving ended fine last =>
      rw [Stands, leaving] at stands
      have passed := stands.2.pass careful begun
      cases made : (conclude d.walk d.kept).1 with
      | error e =>
          refine ⟨stages, ended, ?_⟩
          change routine.report true w d.listed stages = _
          rw [Routine.report, passed, Routine.leave, fine, last]
          simp only [made]
      | ok out =>
          refine ⟨stages, conclude, out, ended, last, ?_⟩
          change let p := routine.pass true w d.listed; _
          rw [passed]
          exact ⟨fine, Prod.ext made rfl, rfl⟩

theorem stands_begin (w : Walk) (sinkKept : Bool) : Stands routine w (begin w sinkKept) :=
  ⟨[], rfl, rfl, rfl⟩

/-- What the listing does to a desk that waits for it does not change where the desk stands. -/
theorem Stands.handed {w : Walk} {d : Desk γ β} (stands : Stands routine w d) (waits : d.stages = none)
    (more : List Asset) (stages : Option (List (Outcome Unit))) :
    Stands routine w
      { d with listed := d.listed ++ more, inbox := d.inbox ++ more, stages := stages } := by
  obtain ⟨walk, sinkKept, listed, inbox, before, made, sent, phase⟩ := d
  have splits {front rest : List Asset} (split : listed = front ++ rest) :
      listed ++ more = front ++ (rest ++ more) := by rw [split, List.append_assoc]
  -- Only a desk that still reads waits for its listing: to leave it needs the end of it.
  cases phase with
  | reading => exact stands.imp fun _ part => ⟨splits part.1, part.2⟩
  | holding b => exact stands.imp fun _ part => ⟨splits part.1, part.2⟩
  | sending out last =>
      cases last with
      | true =>
          obtain ⟨_, _, _, ended, _⟩ := stands
          exact absurd (waits.symm.trans ended) nofun
      | false => exact stands.imp fun _ part => ⟨splits part.1, part.2⟩
  | leaving =>
      subst waits
      cases stands.1
  | closed o =>
      obtain ⟨_, ended, _⟩ := stands
      exact absurd (waits.symm.trans ended) nofun

theorem stands_turn {w : Walk} {d : Desk γ β} (careful : routine.Careful src)
    (stands : Stands routine w d) (turn : Turn) (calm : (d.turn routine turn).walk.fired = false)
    (kept : (d.turn routine turn).sinkKept = true) : Stands routine w (d.turn routine turn) := by
  cases turn with
  | goes => exact (goes_moves routine d).stands careful stands calm kept
  | cancels => cases calm
  | dropsSink => cases kept
  | arrives a =>
      cases waits : d.stages with
      | some stages => simpa [Desk.turn, waits] using stands
      | none => simpa [Desk.turn, waits] using stands.handed waits [a] none
  | ends stages =>
      cases waits : d.stages with
      | some before => simpa [Desk.turn, waits] using stands
      | none => simpa [Desk.turn, waits] using stands.handed waits [] (some stages)

theorem sinkKept_turn {d : Desk γ β} (turn : Turn) (kept : (d.turn routine turn).sinkKept = true) :
    d.sinkKept = true := by
  cases turn with
  | goes =>
      change (d.goes routine).sinkKept = true at kept
      have moves := goes_moves routine d
      generalize d.goes routine = later at moves kept
      cases moves <;> exact kept
  | cancels => exact kept
  | dropsSink => cases kept
  | arrives a => rw [Desk.turn] at kept; split at kept <;> exact kept
  | ends stages => rw [Desk.turn] at kept; split at kept <;> exact kept

theorem stands_run (careful : routine.Careful src) (w : Walk) (sinkKept : Bool) (turns : List Turn) :
    let d := (begin w sinkKept : Desk γ β).run routine turns
    d.walk.fired = false → d.sinkKept = true → Stands routine w d := by
  -- From the end, as what is calm and has its sink by now had both a turn before.
  induction turns using List.reverseRecOn with
  | nil => exact fun _ _ => stands_begin w sinkKept
  | append_singleton past last ih =>
      rw [run_append]
      intro d calm kept
      have earlier := ih ((remembers_turn careful last).unfired calm) (sinkKept_turn last kept)
      exact stands_turn careful earlier last calm kept

/-- In any order of turns, a desk that nothing stops reports what it would report in one order. -/
theorem report_of_closed (careful : routine.Careful src) (w : Walk) (sinkKept : Bool) (turns : List Turn) :
    let d := (begin w sinkKept : Desk γ β).run routine turns
    d.walk.fired = false → d.sinkKept = true → ∀ o, d.phase = .closed o →
      ∃ stages, d.stages = some stages ∧ routine.report true w d.listed stages = ⟨o, d.sent, d.walk⟩ := by
  intro d calm kept o closed
  have stands : Stands routine w d := stands_run careful w sinkKept turns calm kept
  rw [Stands, closed] at stands
  exact stands

end calm

end Desk
end CloudCensus.Census
