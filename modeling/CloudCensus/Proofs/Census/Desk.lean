import CloudCensus.Census.Operations
import CloudCensus.Proofs.Ancestors.Course
import CloudCensus.Proofs.Listing.Settling

/-!
The desk of an operation, between a listing and a sink.

A desk takes the assets of its listing one by one, works on each, and sends what it makes of them.
Between its own turns the listing hands over more and comes to its end, the run may be cancelled, and
the sink may go.
-/

namespace CloudCensus.Census

structure Routine (γ β : Type) where
  handle : Walk → Asset → γ × Walk
  prompt : γ → Option β
  /-- What is made of everything that was handled, and sent once the listing ended well. -/
  conclude : Option (Walk → List γ → Outcome (List β) × Walk)

inductive Phase (β : Type) where
  | reading
  | holding (a : Asset)
  /-- Sends what is made of one asset or, as the last of all, what is made in the end. -/
  | sending (out : List β) (last : Bool)
  | leaving
  | closed (result : Outcome Unit)

structure Desk (γ β : Type) where
  walk : Walk
  sinkKept : Bool
  /-- What the listing has handed over, read or not. -/
  listed : List Asset
  inbox : List Asset
  stages : Option (List (Outcome Unit))
  kept : List γ
  sent : List β
  phase : Phase β

namespace Desk

inductive Turn where
  | arrives (a : Asset)
  | ends (stages : List (Outcome Unit))
  | cancels
  | dropsSink
  | goes

variable {γ β : Type}

def begin (w : Walk) (sinkKept : Bool) : Desk γ β := ⟨w, sinkKept, [], [], none, [], [], .reading⟩

/-- One step of the desk.  A cancellation comes before whatever could be read or sent. -/
def goes (routine : Routine γ β) (d : Desk γ β) : Desk γ β :=
  match d.phase with
  | .reading =>
    if d.walk.fired then { d with phase := .leaving }
    else
      match d.inbox with
      | a :: rest => { d with inbox := rest, phase := .holding a }
      | [] => if d.stages.isSome then { d with phase := .leaving } else d
  | .holding a =>
    let (x, w) := routine.handle d.walk a
    { d with walk := w, kept := d.kept ++ [x], phase := .sending (routine.prompt x).toList false }
  | .sending [] last => { d with phase := if last then .closed (stopped d.walk.fired) else .reading }
  | .sending (x :: rest) last =>
    if d.walk.fired || !d.sinkKept then { d with phase := if last then .sending [] true else .leaving }
    else { d with sent := d.sent ++ [x], phase := .sending rest last }
  | .leaving =>
    match d.stages with
    | none => d
    | some stages =>
      match settle d.walk.fired stages with
      | .error e => { d with phase := .closed (.error e) }
      | .ok () =>
        match routine.conclude with
        | none => { d with phase := .closed (.ok ()) }
        | some conclude =>
          let (made, w) := conclude d.walk d.kept
          { d with
            walk := w
            phase := match made with
              | .error e => .closed (.error e)
              | .ok out => .sending out true }
  | .closed _ => d

def turn (routine : Routine γ β) (d : Desk γ β) : Turn → Desk γ β
  | .arrives a =>
    if d.stages.isSome then d else { d with listed := d.listed ++ [a], inbox := d.inbox ++ [a] }
  | .ends stages => if d.stages.isSome then d else { d with stages := some stages }
  | .cancels => { d with walk := { d.walk with accounts := { d.walk.accounts with fired := true } } }
  | .dropsSink => { d with sinkKept := false }
  | .goes => d.goes routine

def run (routine : Routine γ β) (d : Desk γ β) (turns : List Turn) : Desk γ β :=
  turns.foldl (turn routine) d

def Closed (d : Desk γ β) : Prop := ∃ o, d.phase = .closed o

inductive Moves (routine : Routine γ β) (d : Desk γ β) : Desk γ β → Prop where
  | rests (waits : d.phase = .reading ∧ d.walk.fired = false ∨ d.phase = .leaving ∨ d.Closed) :
      Moves routine d d
  | gives (before : d.phase = .reading ∧ (d.walk.fired = true ∨ d.inbox = [] ∧ d.stages.isSome = true) ∨
        ∃ x rest, d.phase = .sending (x :: rest) false ∧ (d.walk.fired || !d.sinkKept) = true) :
      Moves routine d { d with phase := .leaving }
  | takes (a : Asset) (rest : List Asset) (before : d.phase = .reading) (calm : d.walk.fired = false)
      (waiting : d.inbox = a :: rest) : Moves routine d { d with inbox := rest, phase := .holding a }
  | works (a : Asset) (before : d.phase = .holding a) :
      Moves routine d
        { d with
          walk := (routine.handle d.walk a).2
          kept := d.kept ++ [(routine.handle d.walk a).1]
          phase := .sending (routine.prompt (routine.handle d.walk a).1).toList false }
  | resumes (before : d.phase = .sending [] false) : Moves routine d { d with phase := .reading }
  | stops (before : d.phase = .sending [] true) :
      Moves routine d { d with phase := .closed (stopped d.walk.fired) }
  | refused (x : β) (rest : List β) (before : d.phase = .sending (x :: rest) true)
      (late : (d.walk.fired || !d.sinkKept) = true) : Moves routine d { d with phase := .sending [] true }
  | sends (x : β) (rest : List β) (last : Bool) (before : d.phase = .sending (x :: rest) last)
      (calm : d.walk.fired = false) (taken : d.sinkKept = true) :
      Moves routine d { d with sent := d.sent ++ [x], phase := .sending rest last }
  | fails (stages : List (Outcome Unit)) (e : Failure) (before : d.phase = .leaving)
      (ended : d.stages = some stages) (failed : settle d.walk.fired stages = .error e) :
      Moves routine d { d with phase := .closed (.error e) }
  | closes (stages : List (Outcome Unit)) (before : d.phase = .leaving) (ended : d.stages = some stages)
      (fine : settle d.walk.fired stages = .ok ()) (plain : routine.conclude = none) :
      Moves routine d { d with phase := .closed (.ok ()) }
  | gathers (stages : List (Outcome Unit)) (conclude : Walk → List γ → Outcome (List β) × Walk)
      (before : d.phase = .leaving) (ended : d.stages = some stages)
      (fine : settle d.walk.fired stages = .ok ()) (last : routine.conclude = some conclude) :
      Moves routine d
        { d with
          walk := (conclude d.walk d.kept).2
          phase := match (conclude d.walk d.kept).1 with
            | .error e => .closed (.error e)
            | .ok out => .sending out true }

theorem goes_moves (routine : Routine γ β) (d : Desk γ β) : Moves routine d (d.goes routine) := by
  obtain ⟨walk, sinkKept, listed, inbox, stages, kept, sent, phase⟩ := d
  rw [goes]
  cases phase with
  | reading =>
      dsimp only
      cases fired : walk.fired with
      | true => exact .gives (.inl ⟨rfl, .inl fired⟩)
      | false =>
          cases inbox with
          | cons a rest => exact .takes a rest rfl fired rfl
          | nil =>
              cases stages with
              | none => exact .rests (.inl ⟨rfl, fired⟩)
              | some stages => exact .gives (.inl ⟨rfl, .inr ⟨rfl, rfl⟩⟩)
  | holding a => exact .works a rfl
  | sending out last =>
      cases out with
      | nil =>
          cases last with
          | true => exact .stops rfl
          | false => exact .resumes rfl
      | cons x rest =>
          dsimp only
          split
          · rename_i late
            cases last with
            | true => exact .refused x rest rfl late
            | false => exact .gives (.inr ⟨x, rest, rfl, late⟩)
          · rename_i goes_on
            obtain ⟨calm, taken⟩ := Bool.or_eq_false_iff.mp (Bool.eq_false_iff.mpr goes_on)
            exact .sends x rest last rfl calm (by simpa using taken)
  | leaving =>
      cases stages with
      | none => exact .rests (.inr (.inl rfl))
      | some stages =>
          dsimp only
          cases settled : settle walk.fired stages with
          | error e => exact .fails stages e rfl rfl settled
          | ok u =>
              cases last : routine.conclude with
              | none => exact .closes stages rfl rfl settled last
              | some conclude => exact .gathers stages conclude rfl rfl settled last
  | closed o => exact .rests (.inr (.inr ⟨o, rfl⟩))

theorem run_append (routine : Routine γ β) (d : Desk γ β) (front back : List Turn) :
    d.run routine (front ++ back) = (d.run routine front).run routine back :=
  List.foldl_append

end Desk

/-- A routine that remembers what the sources say in time, and refuses without asking them. -/
structure Routine.Careful {γ β : Type} (src : Sources) (routine : Routine γ β) : Prop where
  handle : ∀ w a, Walk.Typed src w (routine.handle w a).2
  conclude : ∀ conclude, routine.conclude = some conclude →
    ∀ w kept, Walk.Typed src w (conclude w kept).2
  refuses : ∀ conclude, routine.conclude = some conclude →
    ∀ w kept e, (conclude w kept).1 = .error e → (conclude w kept).2 = w

namespace Desk

variable {γ β : Type}

section cancellation

variable {src : Sources} {routine : Routine γ β} {d later : Desk γ β}

theorem Moves.remembers (moves : Moves routine d later) (careful : routine.Careful src) :
    Walk.Remembers src d.walk later.walk := by
  cases moves with
  | works a _ => exact (careful.handle d.walk a).remembers
  | gathers stages conclude _ _ _ last => exact (careful.conclude conclude last d.walk d.kept).remembers
  | _ => exact .refl src d.walk

theorem remembers_turn (careful : routine.Careful src) (turn : Turn) :
    Walk.Remembers src d.walk (d.turn routine turn).walk := by
  cases turn with
  | goes => exact (goes_moves routine d).remembers careful
  | cancels => exact .same rfl rfl fun _ => rfl
  | dropsSink => exact .refl src d.walk
  | arrives a =>
      rw [Desk.turn]
      split <;> exact .refl src d.walk
  | ends stages =>
      rw [Desk.turn]
      split <;> exact .refl src d.walk

theorem sent_turn_of_fired (fired : d.walk.fired = true) (turn : Turn) :
    (d.turn routine turn).sent = d.sent := by
  cases turn with
  | goes =>
      change (d.goes routine).sent = d.sent
      have moves := goes_moves routine d
      generalize d.goes routine = later at moves
      cases moves with
      | sends x rest last _ calm _ => exact absurd (fired.symm.trans calm) nofun
      | _ => rfl
  | cancels => rfl
  | dropsSink => rfl
  | arrives a => rw [Desk.turn]; split <;> rfl
  | ends stages => rw [Desk.turn]; split <;> rfl

/-- Once the run is cancelled nothing more is sent. -/
theorem sent_run_of_fired (careful : routine.Careful src) (fired : d.walk.fired = true)
    (turns : List Turn) : (d.run routine turns).sent = d.sent := by
  induction turns generalizing d with
  | nil => rfl
  | cons turn rest ih =>
      have still : (d.turn routine turn).walk.fired = true := (remembers_turn careful turn).lasting fired
      exact (ih still).trans (sent_turn_of_fired fired turn)

theorem moves_of_given {turn : Turn} {o : Outcome Unit} (unended : ¬ d.Closed)
    (given : (d.turn routine turn).phase = .closed o) : Moves routine d (d.turn routine turn) := by
  cases turn with
  | goes => exact goes_moves routine d
  | cancels => exact absurd ⟨o, given⟩ unended
  | dropsSink => exact absurd ⟨o, given⟩ unended
  | arrives a =>
      rw [Desk.turn] at given
      split at given <;> exact absurd ⟨o, given⟩ unended
  | ends stages =>
      rw [Desk.turn] at given
      split at given <;> exact absurd ⟨o, given⟩ unended

theorem given_of_fired (careful : routine.Careful src) {turn : Turn} {o : Outcome Unit}
    (unended : ¬ d.Closed) (given : (d.turn routine turn).phase = .closed o)
    (fired : (d.turn routine turn).walk.fired = true) : o = .error .cancelled := by
  have moves := moves_of_given unended given
  generalize d.turn routine turn = later at moves given fired
  cases moves with
  | rests _ => exact absurd ⟨o, given⟩ unended
  | stops _ =>
      change d.walk.fired = true at fired
      rw [fired] at given
      exact (Phase.closed.inj given).symm
  | fails stages e _ _ failed =>
      change d.walk.fired = true at fired
      rw [fired, settle_fired] at failed
      exact (Phase.closed.inj given).symm.trans failed.symm
  | closes stages _ _ fine _ =>
      change d.walk.fired = true at fired
      rw [fired, settle_fired] at fine
      cases fine
  | gathers stages conclude _ _ fine last =>
      change (match (conclude d.walk d.kept).1 with | .error e => _ | .ok out => _) = _ at given
      cases made : (conclude d.walk d.kept).1 with
      | error e =>
          -- A refusal makes no look-up at which the run could be cancelled after the listing ended well.
          have same : (conclude d.walk d.kept).2 = d.walk := careful.refuses conclude last _ _ e made
          change (conclude d.walk d.kept).2.fired = true at fired
          rw [← same, fired, settle_fired] at fine
          cases fine
      | ok out =>
          rw [made] at given
          cases given
  | _ => cases given

theorem phase_turn_of_closed {o : Outcome Unit} (closed : d.phase = .closed o) (turn : Turn) :
    (d.turn routine turn).phase = .closed o := by
  cases turn with
  | goes =>
      change (d.goes routine).phase = .closed o
      rw [goes, closed]
      exact closed
  | cancels => exact closed
  | dropsSink => exact closed
  | arrives a => rw [Desk.turn]; split <;> exact closed
  | ends stages => rw [Desk.turn]; split <;> exact closed

theorem phase_run_of_closed {o : Outcome Unit} (closed : d.phase = .closed o) (turns : List Turn) :
    (d.run routine turns).phase = .closed o := by
  induction turns generalizing d with
  | nil => exact closed
  | cons turn rest ih => exact ih (phase_turn_of_closed closed turn)

/-- An operation that is cancelled before its end has the cancellation as its result. -/
theorem closed_run_of_fired (careful : routine.Careful src) (unended : ¬ d.Closed)
    (fired : d.walk.fired = true) (turns : List Turn) (o : Outcome Unit)
    (closed : (d.run routine turns).phase = .closed o) : o = .error .cancelled := by
  induction turns generalizing d with
  | nil => exact absurd ⟨o, closed⟩ unended
  | cons turn rest ih =>
      have still : (d.turn routine turn).walk.fired = true := (remembers_turn careful turn).lasting fired
      by_cases ended : (d.turn routine turn).Closed
      · obtain ⟨given, now⟩ := ended
        have later : (d.run routine (turn :: rest)).phase = .closed given := phase_run_of_closed now rest
        obtain rfl : given = o := Phase.closed.inj (later.symm.trans closed)
        exact given_of_fired careful unended now still
      · exact ih ended still closed

end cancellation

section withholding

variable {routine : Routine γ β} {d later : Desk γ β}

def Fine (d : Desk γ β) : Prop := ∃ stages, d.stages = some stages ∧ settle false stages = .ok ()

theorem settle_fine {fired : Bool} {stages : List (Outcome Unit)} (fine : settle fired stages = .ok ()) :
    settle false stages = .ok () := by
  cases fired with
  | true => cases fine
  | false => exact fine

/-- A desk that has seen every failure before it sends anything. -/
def Withholds (d : Desk γ β) : Prop :=
  (d.Fine ∨ d.sent = []) ∧
    match d.phase with
    | .sending out false => out = []
    | .sending _ true => d.Fine
    | .closed (.ok _) => d.Fine
    | .closed (.error _) => d.stages.isSome = true
    | _ => True

theorem Moves.withholds (silent : ∀ x, routine.prompt x = none) (moves : Moves routine d later)
    (holds : d.Withholds) : later.Withholds := by
  obtain ⟨shut, here⟩ := holds
  cases moves with
  | rests _ => exact ⟨shut, here⟩
  | gives _ => exact ⟨shut, trivial⟩
  | takes a rest _ _ _ => exact ⟨shut, trivial⟩
  | works a _ => exact ⟨shut, by rw [silent]; rfl⟩
  | resumes _ => exact ⟨shut, trivial⟩
  | stops before =>
      rw [before] at here
      refine ⟨shut, ?_⟩
      cases d.walk.fired with
      | true =>
          obtain ⟨stages, ended, _⟩ := here
          exact Option.isSome_of_eq_some ended
      | false => exact here
  | refused x rest before _ =>
      rw [before] at here
      exact ⟨shut, here⟩
  | sends x rest last before _ _ =>
      rw [before] at here
      cases last with
      | true => exact ⟨.inl here, here⟩
      | false => cases here
  | fails stages e _ ended _ => exact ⟨shut, Option.isSome_of_eq_some ended⟩
  | closes stages _ ended fine _ => exact ⟨shut, stages, ended, settle_fine fine⟩
  | gathers stages conclude _ ended fine _ =>
      refine ⟨shut, ?_⟩
      dsimp only
      cases (conclude d.walk d.kept).1 with
      | error e => exact Option.isSome_of_eq_some ended
      | ok out => exact ⟨stages, ended, settle_fine fine⟩

theorem Withholds.mono (holds : d.Withholds) (sent : later.sent = d.sent) (phase : later.phase = d.phase)
    (fine : d.Fine → later.Fine) (ended : d.stages.isSome = true → later.stages.isSome = true) :
    later.Withholds := by
  obtain ⟨shut, here⟩ := holds
  refine ⟨shut.imp fine fun none => sent.trans none, ?_⟩
  rw [phase]
  cases before : d.phase with
  | sending out last =>
      rw [before] at here
      cases last with
      | true => exact fine here
      | false => exact here
  | closed o =>
      rw [before] at here
      cases o with
      | ok u => exact fine here
      | error e => exact ended here
  | _ => trivial

theorem withholds_turn (silent : ∀ x, routine.prompt x = none) (holds : d.Withholds) (turn : Turn) :
    (d.turn routine turn).Withholds := by
  cases turn with
  | goes => exact (goes_moves routine d).withholds silent holds
  | cancels => exact holds
  | dropsSink => exact holds
  | arrives a =>
      rw [Desk.turn]
      split
      · exact holds
      · exact holds.mono rfl rfl id id
  | ends stages =>
      rw [Desk.turn]
      split
      · exact holds
      · rename_i open_
        refine holds.mono rfl rfl ?_ fun _ => rfl
        rintro ⟨before, ended, _⟩
        exact absurd (Option.isSome_of_eq_some ended) open_

/-- A desk that sends nothing at once sends nothing before all tasks of its listing ended well. -/
theorem withholds_run (silent : ∀ x, routine.prompt x = none) (w : Walk) (sinkKept : Bool)
    (turns : List Turn) : ((begin w sinkKept : Desk γ β).run routine turns).Withholds := by
  suffices ∀ d : Desk γ β, d.Withholds → (d.run routine turns).Withholds from
    this _ ⟨.inr rfl, trivial⟩
  induction turns with
  | nil => exact fun _ => id
  | cons turn rest ih => exact fun d holds => ih _ (withholds_turn silent holds turn)

theorem Withholds.of_open (holds : d.Withholds) (goes_on : d.stages = none) : d.sent = [] ∧ ¬ d.Closed := by
  obtain ⟨shut, here⟩ := holds
  have unfine : ¬ d.Fine := by
    rintro ⟨stages, ended, _⟩
    rw [goes_on] at ended
    cases ended
  refine ⟨shut.resolve_left unfine, ?_⟩
  rintro ⟨o, closed⟩
  rw [closed] at here
  cases o with
  | ok u => exact unfine here
  | error e =>
      rw [goes_on] at here
      cases here

theorem Withholds.of_failed (holds : d.Withholds) {stages : List (Outcome Unit)}
    (ended : d.stages = some stages) (failed : settle false stages ≠ .ok ()) :
    d.sent = [] ∧ ∀ o, d.phase = .closed o → ∃ e, o = .error e := by
  obtain ⟨shut, here⟩ := holds
  have unfine : ¬ d.Fine := by
    rintro ⟨others, same, fine⟩
    obtain rfl : stages = others := Option.some.inj (ended.symm.trans same)
    exact failed fine
  refine ⟨shut.resolve_left unfine, ?_⟩
  intro o closed
  rw [closed] at here
  cases o with
  | ok u => exact absurd here unfine
  | error e => exact ⟨e, rfl⟩

end withholding

end Desk
end CloudCensus.Census
