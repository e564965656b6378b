import CloudCensus.Proofs.Listing.Rounds
import CloudCensus.Queue

/-!
A listing and its collector, taking turns in any order.

They are joined by a bounded queue.  The listing waits while the queue is full, and the collector stops at
the end of the queue, at a failure in it, or when the run is cancelled, which is all the same to it.  In a run
that nobody cancels the queue gets what the listing alone would leave in it.
-/

namespace CloudCensus

structure Collection where
  /-- What the listing has still to be given. -/
  items : List Item
  /-- What the listing holds until the queue takes it. -/
  held : Option (Outcome Asset)
  count : Nat
  outcome : Option (Outcome Nat)
  ledger : Ledger
  queue : Queue (Outcome Asset)
  assets : List Asset

namespace Collection

inductive Turn where
  | listing
  | collector
  | cancel
  deriving DecidableEq

def begin (items : List Item) (capacity : Nat) (fired : Bool) : Collection :=
  ⟨items, none, 0, none, [], { Queue.empty capacity with fired := fired }, []⟩

def leave (s : Collection) (o : Outcome Nat) (ledger : Ledger) : Collection :=
  { s with
    held := none
    outcome := some o
    ledger := s.ledger ++ ledger
    queue := (s.queue.step .dropSender).2 }

def ask (request : Request) (s : Collection) : Collection :=
  if s.queue.fired then s.leave (.error .cancelled) []
  else
    match s.items with
    | [] => s.leave (.ok s.count) [(.assetsListed request.facet, s.count)]
    | .asset a fires :: rest =>
      { s with
        items := rest
        held := some (.ok a)
        queue := if fires then (s.queue.step .cancel).2 else s.queue }
    | .failure .cancelled :: _ => s.leave (.error .cancelled) []
    | .failure e :: rest =>
      { s with
        items := rest
        held := some (.error (.listing request e))
        ledger := s.ledger ++ Ledger.one (.streamErrors request.facet e.label) }
    | .crash :: _ => s.leave (.error .crashed) []

def offer (request : Request) (s : Collection) (x : Outcome Asset) : Collection :=
  match s.queue.step (.send x), x with
  | (.blocked, _), _ => s
  | (.sent true, queue), .ok _ => { s with held := none, count := s.count + 1, queue := queue }
  | (.sent true, queue), .error e => { s with queue := queue }.leave (.error e) []
  | _, .error e => s.leave (.error e) []
  | _, .ok _ =>
    if s.queue.fired then s.leave (.error .cancelled) []
    else s.leave (.ok s.count) [(.assetsListed request.facet, s.count)]

/-- The collector receives, and drops its end of the queue at anything but an asset. -/
def receive (s : Collection) : Collection :=
  if s.queue.receiverGone then s
  else
    match s.queue.step .receive with
    | (.blocked, _) => s
    | (.received (some (.ok a)), queue) => { s with queue := queue, assets := s.assets ++ [a] }
    | (_, queue) => { s with queue := (queue.step .dropReceiver).2 }

def turn (request : Request) (s : Collection) : Turn → Collection
  | .listing =>
    match s.outcome, s.held with
    | some _, _ => s
    | none, some x => s.offer request x
    | none, none => s.ask request
  | .collector => s.receive
  | .cancel => { s with queue := (s.queue.step .cancel).2 }

def run (request : Request) (s : Collection) (turns : List Turn) : Collection :=
  turns.foldl (turn request) s

def Done (s : Collection) : Prop := s.outcome.isSome = true ∧ s.queue.receiverGone = true

def collected (s : Collection) : Collected :=
  let result := match settle s.queue.fired (s.outcome.toList.map Outcome.bare) with
    | .ok () => .ok s.assets
    | .error e => .error e
  ⟨result, s.queue.fired, s.ledger⟩

inductive Idle (s : Collection) : Turn → Prop where
  | ended (done : s.outcome.isSome = true) : Idle s .listing
  | full (calm : s.queue.fired = false) (heard : s.queue.receiverGone = false)
      (full : s.queue.capacity ≤ s.queue.items.length) : Idle s .listing
  | stopped (gone : s.queue.receiverGone = true) : Idle s .collector
  | empty (open_ : s.queue.senderGone = false) (nothing : s.queue.items = []) : Idle s .collector

/-- All that one turn can do while the listing has dropped its end of the queue exactly if it has ended. -/
inductive Goes (request : Request) (s : Collection) : Turn → Collection → Prop where
  | idle (t : Turn) (why : Idle s t) : Goes request s t s
  | asks (a : Asset) (fires : Bool) (rest : List Item) (unended : s.outcome = none) (free : s.held = none)
      (calm : s.queue.fired = false) (items : s.items = .asset a fires :: rest) :
      Goes request s .listing
        { s with items := rest, held := some (.ok a), queue := { s.queue with fired := fires } }
  | breaks (e : Failure) (rest : List Item) (unended : s.outcome = none) (free : s.held = none)
      (calm : s.queue.fired = false) (items : s.items = .failure e :: rest) (told : e ≠ .cancelled) :
      Goes request s .listing
        { s with
          items := rest
          held := some (.error (.listing request e))
          ledger := s.ledger ++ [(.streamErrors request.facet e.label, 1)] }
  | ends (p : Produced) (unended : s.outcome = none) (free : s.held = none) (calm : s.queue.fired = false)
      (alone : produceFrom request true false s.items s.count = p) (silent : p.queue = [])
      (unfired : p.fired = false) :
      Goes request s .listing (s.leave p.outcome p.ledger)
  | hands (a : Asset) (unended : s.outcome = none) (holds : s.held = some (.ok a))
      (calm : s.queue.fired = false) :
      Goes request s .listing
        { s with
          held := none
          count := s.count + 1
          queue := { s.queue with items := s.queue.items ++ [.ok a] } }
  | tells (f : Failure) (unended : s.outcome = none) (holds : s.held = some (.error f))
      (calm : s.queue.fired = false) :
      Goes request s .listing
        ({ s with queue := { s.queue with items := s.queue.items ++ [Except.error f] } }.leave (.error f) [])
  /-- A cancelled listing ends with what it has, and counts nothing. -/
  | gives_up (o : Outcome Nat) (unended : s.outcome = none) (fired : s.queue.fired = true) :
      Goes request s .listing (s.leave o [])
  /-- A listing whose collector has stopped ends. -/
  | deserted (o : Outcome Nat) (ledger : Ledger) (unended : s.outcome = none)
      (alone : s.queue.receiverGone = true) (calm : s.queue.fired = false) :
      Goes request s .listing (s.leave o ledger)
  | takes (a : Asset) (rest : List (Outcome Asset)) (calm : s.queue.fired = false)
      (heard : s.queue.receiverGone = false) (holds : s.queue.items = .ok a :: rest) :
      Goes request s .collector { s with queue := { s.queue with items := rest }, assets := s.assets ++ [a] }
  | stops (heard : s.queue.receiverGone = false)
      (why : s.queue.fired = true ∨ (∃ f rest, s.queue.items = .error f :: rest) ∨
        s.queue.senderGone = true ∧ s.queue.items = []) :
      Goes request s .collector { s with queue := { s.queue with receiverGone := true, items := [] } }
  | cancels : Goes request s .cancel { s with queue := { s.queue with fired := true } }

section inversion

variable (request : Request) (s : Collection)

theorem ask_goes (unended : s.outcome = none) (free : s.held = none) :
    Goes request s .listing (s.ask request) := by
  cases fired : s.queue.fired with
  | true =>
      rw [ask, if_pos fired]
      exact .gives_up _ unended fired
  | false =>
      have calm : ¬ s.queue.fired = true := Bool.eq_false_iff.mp fired
      rw [ask, if_neg calm]
      cases items : s.items with
      | nil =>
          exact .ends ⟨.ok s.count, [], false, [(.assetsListed request.facet, s.count)], 0⟩ unended free fired
            (by rw [items]; rfl) rfl rfl
      | cons item rest =>
          cases item with
          | asset a fires =>
              have queue : (if fires then (s.queue.step .cancel).2 else s.queue) =
                  { s.queue with fired := fires } := by
                cases fires with
                | true => rfl
                | false => rw [if_neg Bool.false_ne_true, ← fired]
              dsimp only
              rw [queue]
              exact .asks a fires rest unended free fired items
          | crash =>
              exact .ends ⟨.error .crashed, [], false, [], 1⟩ unended free fired (by rw [items]; rfl) rfl rfl
          | failure e =>
              cases e with
              | cancelled =>
                  exact .ends ⟨.error .cancelled, [], false, [], 1⟩ unended free fired
                    (by rw [items]; rfl) rfl rfl
              | because reason detail => exact .breaks _ rest unended free fired items nofun
              | listing inner source => exact .breaks _ rest unended free fired items nofun

theorem offer_goes (unended : s.outcome = none) (open_ : s.queue.senderGone = false) (x : Outcome Asset)
    (holds : s.held = some x) : Goes request s .listing (s.offer request x) := by
  cases fired : s.queue.fired with
  | true =>
      have refused : s.queue.step (.send x) = (.sent false, s.queue) := by
        simp [Queue.step, open_, fired]
      cases x with
      | ok a =>
          simp only [offer, refused, fired, if_true]
          exact .gives_up _ unended fired
      | error f =>
          simp only [offer, refused]
          exact .gives_up _ unended fired
  | false =>
      cases gone : s.queue.receiverGone with
      | true =>
          have refused : s.queue.step (.send x) = (.sent false, s.queue) := by
            simp [Queue.step, open_, gone]
          cases x with
          | ok a =>
              simp only [offer, refused, fired, Bool.false_eq_true, if_false]
              exact .deserted _ _ unended gone fired
          | error f =>
              simp only [offer, refused]
              exact .deserted _ _ unended gone fired
      | false =>
          by_cases room : s.queue.items.length < s.queue.capacity
          · have taken : s.queue.step (.send x) =
                (.sent true, { s.queue with items := s.queue.items ++ [x] }) := by
              simp [Queue.step, open_, fired, gone, room]
            cases x with
            | ok a =>
                simp only [offer, taken]
                exact .hands a unended holds fired
            | error f =>
                simp only [offer, taken]
                exact .tells f unended holds fired
          · have full : s.queue.step (.send x) = (.blocked, s.queue) := by
              simp [Queue.step, open_, fired, gone, room]
            simp only [offer, full]
            exact .idle .listing (.full fired gone (Nat.le_of_not_lt room))

theorem receive_goes : Goes request s .collector s.receive := by
  cases gone : s.queue.receiverGone with
  | true =>
      rw [receive, if_pos gone]
      exact .idle .collector (.stopped gone)
  | false =>
      rw [receive, if_neg (Bool.eq_false_iff.mp gone)]
      cases fired : s.queue.fired with
      | true =>
          have stopped : s.queue.step .receive = (.received none, s.queue) := by
            simp [Queue.step, gone, fired]
          rw [stopped]
          exact .stops gone (.inl fired)
      | false =>
          cases items : s.queue.items with
          | cons x rest =>
              have given : s.queue.step .receive = (.received (some x), { s.queue with items := rest }) := by
                simp [Queue.step, gone, fired, items]
              rw [given]
              cases x with
              | ok a => exact .takes a rest fired gone items
              | error f => exact .stops gone (.inr (.inl ⟨f, rest, items⟩))
          | nil =>
              cases open_ : s.queue.senderGone with
              | true =>
                  have finished : s.queue.step .receive = (.received none, s.queue) := by
                    simp [Queue.step, gone, fired, items, open_]
                  rw [finished]
                  exact .stops gone (.inr (.inr ⟨open_, items⟩))
              | false =>
                  have waits : s.queue.step .receive = (.blocked, s.queue) := by
                    simp [Queue.step, gone, fired, items, open_]
                  rw [waits]
                  exact .idle .collector (.empty open_ items)

theorem turn_goes (closed : s.queue.senderGone = s.outcome.isSome) (t : Turn) :
    Goes request s t (s.turn request t) := by
  cases t with
  | cancel => exact .cancels
  | collector => exact receive_goes request s
  | listing =>
      cases unended : s.outcome with
      | some o =>
          have still : s.turn request .listing = s := by
            rw [turn, unended]
          rw [still]
          exact .idle .listing (.ended (Option.isSome_of_eq_some unended))
      | none =>
          have open_ : s.queue.senderGone = false := by
            rw [closed, unended]
            rfl
          cases holds : s.held with
          | none =>
              have asks : s.turn request .listing = s.ask request := by
                rw [turn, unended, holds]
              rw [asks]
              exact ask_goes request s unended holds
          | some x =>
              have offers : s.turn request .listing = s.offer request x := by
                rw [turn, unended, holds]
              rw [offers]
              exact offer_goes request s unended open_ x holds

end inversion

section progress

variable {request : Request} {s later : Collection} {t : Turn}

/-- The queue has room when it is empty, and the listing holds its end exactly while it runs. -/
structure Wired (s : Collection) : Prop where
  roomy : 0 < s.queue.capacity
  closed : s.queue.senderGone = s.outcome.isSome

theorem wired_begin (items : List Item) (capacity : Nat) (fired : Bool) :
    (begin items capacity fired).Wired := ⟨Nat.lt_of_lt_of_le Nat.zero_lt_one (Nat.le_max_left 1 capacity), rfl⟩

theorem Goes.wired (goes : Goes request s t later) (wired : s.Wired) : later.Wired := by
  obtain ⟨roomy, closed⟩ := wired
  cases goes with
  | idle t why => exact ⟨roomy, closed⟩
  | asks => exact ⟨roomy, closed⟩
  | breaks => exact ⟨roomy, closed⟩
  | ends => exact ⟨roomy, rfl⟩
  | hands => exact ⟨roomy, closed⟩
  | tells => exact ⟨roomy, rfl⟩
  | gives_up => exact ⟨roomy, rfl⟩
  | deserted => exact ⟨roomy, rfl⟩
  | takes => exact ⟨roomy, closed⟩
  | stops => exact ⟨roomy, closed⟩
  | cancels => exact ⟨roomy, closed⟩

def work (s : Collection) : Nat :=
  3 * s.items.length + 2 * s.held.isSome.toNat + s.queue.items.length + s.outcome.isNone.toNat +
    (!s.queue.receiverGone).toNat + (!s.queue.fired).toNat

theorem work_leave (unended : s.outcome = none) (o : Outcome Nat) (ledger : Ledger) :
    (s.leave o ledger).work + 2 * s.held.isSome.toNat + 1 = s.work := by
  simp only [work, leave, Queue.step, unended, Option.isSome_none, Option.isNone_none, Option.isNone_some,
    Bool.toNat_true, Bool.toNat_false]
  omega

theorem Goes.progress (goes : Goes request s t later) :
    (later = s ∧ (t = .cancel ∨ Idle s t)) ∨ later.work < s.work := by
  cases goes with
  | idle t why => exact .inl ⟨rfl, .inr why⟩
  | asks a fires rest unended free calm items =>
      refine .inr ?_
      have fired : (!fires).toNat ≤ 1 := Bool.toNat_le _
      simp only [work, items, free, calm, List.length_cons, Option.isSome_none, Option.isSome_some,
        Bool.not_false, Bool.toNat_true, Bool.toNat_false]
      omega
  | breaks e rest unended free calm items told =>
      refine .inr ?_
      simp only [work, items, free, List.length_cons, Option.isSome_none, Option.isSome_some,
        Bool.toNat_true, Bool.toNat_false]
      omega
  | ends p unended free calm alone silent unfired =>
      have ended := work_leave unended p.outcome p.ledger
      exact .inr (by omega)
  | hands a unended holds calm =>
      refine .inr ?_
      simp only [work, holds, List.length_append, List.length_singleton, Option.isSome_none,
        Option.isSome_some, Bool.toNat_true, Bool.toNat_false]
      omega
  | tells f unended holds calm =>
      let told : Collection := { s with queue := { s.queue with items := s.queue.items ++ [.error f] } }
      have ended : (told.leave (.error f) []).work + 2 * s.held.isSome.toNat + 1 = told.work :=
        work_leave (s := told) unended _ _
      have longer : told.work = s.work + 1 := by
        simp only [work, told, List.length_append, List.length_singleton]
        omega
      rw [holds, Option.isSome_some, Bool.toNat_true] at ended
      refine .inr ?_
      change (told.leave (.error f) []).work < s.work
      omega
  | gives_up o unended fired =>
      have ended := work_leave unended o []
      exact .inr (by omega)
  | deserted o ledger unended alone calm =>
      have ended := work_leave unended o ledger
      exact .inr (by omega)
  | takes a rest calm heard holds =>
      refine .inr ?_
      simp only [work, holds, List.length_cons]
      omega
  | stops heard why =>
      refine .inr ?_
      simp only [work, heard, List.length_nil, Bool.not_true, Bool.not_false, Bool.toNat_true,
        Bool.toNat_false]
      omega
  | cancels =>
      cases fired : s.queue.fired with
      | true => exact .inl ⟨by rw [← fired], .inl rfl⟩
      | false =>
          refine .inr ?_
          simp only [work, fired, Bool.not_true, Bool.not_false, Bool.toNat_true, Bool.toNat_false]
          omega

theorem done_of_idle (wired : s.Wired) (listing : Idle s .listing) (collector : Idle s .collector) :
    s.Done := by
  cases collector with
  | stopped gone =>
      cases listing with
      | ended done => exact ⟨done, gone⟩
      | full calm heard full =>
          rw [gone] at heard
          cases heard
  | empty open_ nothing =>
      cases listing with
      | ended done =>
          rw [wired.closed, done] at open_
          cases open_
      | full calm heard full =>
          rw [nothing] at full
          exact absurd wired.roomy (Nat.not_lt_of_le full)

theorem done_of_no_work (finished : s.work = 0) : s.Done := by
  rw [work] at finished
  have ended : s.outcome.isNone.toNat = 0 := by omega
  have gone : (!s.queue.receiverGone).toNat = 0 := by omega
  constructor
  · cases outcome : s.outcome with
    | none => simp [outcome] at ended
    | some o => rfl
  · cases there : s.queue.receiverGone with
    | false => simp [there] at gone
    | true => rfl

end progress

section fairness

variable (request : Request) {s : Collection}

theorem Wired.turn (wired : s.Wired) (t : Turn) : (s.turn request t).Wired :=
  (turn_goes request s wired.closed t).wired wired

theorem Wired.run (wired : s.Wired) (turns : List Turn) : (s.run request turns).Wired := by
  induction turns generalizing s with
  | nil => exact wired
  | cons t rest ih => exact ih (wired.turn request t)

/-- Turns that leave no less to do were all idle. -/
theorem Wired.run_progress (wired : s.Wired) (turns : List Turn) :
    (s.run request turns = s ∧ ∀ t ∈ turns, t = .cancel ∨ Idle s t) ∨
      (s.run request turns).work < s.work := by
  induction turns generalizing s with
  | nil => exact .inl ⟨rfl, nofun⟩
  | cons t rest ih =>
      have later := ih (wired.turn request t)
      change ((s.turn request t).run request rest = s ∧ _) ∨ ((s.turn request t).run request rest).work < _
      rcases (turn_goes request s wired.closed t).progress with ⟨same, why⟩ | lower
      · rw [same] at later ⊢
        refine later.imp_left ?_
        rintro ⟨still, idle⟩
        exact ⟨still, List.forall_mem_cons.mpr ⟨why, idle⟩⟩
      · rcases later with ⟨still, _⟩ | lowerStill
        · rw [still]
          exact .inr lower
        · exact .inr (Nat.lt_trans lowerStill lower)

theorem Done.turn (done : s.Done) (t : Turn) : (s.turn request t).Done := by
  obtain ⟨ended, gone⟩ := done
  cases t with
  | listing =>
      obtain ⟨o, outcome⟩ := Option.isSome_iff_exists.mp ended
      rw [Collection.turn, outcome]
      exact ⟨ended, gone⟩
  | collector =>
      rw [Collection.turn, receive, if_pos gone]
      exact ⟨ended, gone⟩
  | cancel => exact ⟨ended, gone⟩

theorem Done.run (done : s.Done) (turns : List Turn) : (s.run request turns).Done := by
  induction turns generalizing s with
  | nil => exact done
  | cons t rest ih => exact ih (done.turn request t)

def Fair (turns : List Turn) : Prop := .listing ∈ turns ∧ .collector ∈ turns

theorem Wired.fair_progress (wired : s.Wired) {turns : List Turn} (fair : Fair turns) :
    s.Done ∨ (s.run request turns).work < s.work := by
  refine (wired.run_progress request turns).imp_left ?_
  rintro ⟨-, idle⟩
  have listing := (idle .listing fair.1).resolve_left nofun
  have collector := (idle .collector fair.2).resolve_left nofun
  exact done_of_idle wired listing collector

/-- A collection comes to its end once both tasks have had as many turns as there is work. -/
theorem Wired.run_fair (wired : s.Wired) (blocks : List (List Turn)) (fair : ∀ block ∈ blocks, Fair block)
    (enough : s.work ≤ blocks.length) : (s.run request blocks.flatten).Done := by
  induction blocks generalizing s with
  | nil => exact done_of_no_work (Nat.le_zero.mp enough)
  | cons block rest ih =>
      obtain ⟨first, later⟩ := List.forall_mem_cons.mp fair
      rw [List.flatten_cons, Collection.run, List.foldl_append]
      rcases wired.fair_progress request first with done | lower
      · exact (done.run request block).run request rest.flatten
      · exact ih (wired.run request block) later (Nat.le_of_lt_succ (Nat.lt_of_lt_of_le lower enough))

end fairness

end Collection
end CloudCensus
