import CloudCensus.Proofs.Steps
import CloudCensus.Queue

namespace CloudCensus.Queue

variable {α : Type}

def Step.value? : Step α → Option α
  | .send value => some value
  | .receive => none
  | .cancel => none
  | .dropSender => none
  | .dropReceiver => none

def Answer.accepts : Answer α → Bool
  | .sent accepted => accepted
  | .received _ => false
  | .blocked => false
  | .closed => false
  | .done => false

def Answer.value? : Answer α → Option α
  | .sent _ => none
  | .received value => value
  | .blocked => none
  | .closed => none
  | .done => none

inductive Moves (q : Queue α) : Step α → Answer α → Queue α → Prop where
  | takes (v : α) (open_ : q.senderGone = false) (calm : q.fired = false)
      (heard : q.receiverGone = false) (room : q.items.length < q.capacity) :
      Moves q (.send v) (.sent true) { q with items := q.items ++ [v] }
  | refuses (v : α) (a : Answer α) (refused : a.accepts = false) (nothing : a.value? = none)
      (why : q.senderGone = true ∨ q.fired = true ∨ q.receiverGone = true ∨
        q.capacity ≤ q.items.length) :
      Moves q (.send v) a q
  | gives (v : α) (rest : List α) (calm : q.fired = false) (heard : q.receiverGone = false)
      (holds : q.items = v :: rest) :
      Moves q .receive (.received (some v)) { q with items := rest }
  | ends (why : q.fired = true ∨ q.senderGone = true ∧ q.items = []) (heard : q.receiverGone = false) :
      Moves q .receive (.received none) q
  | waits (a : Answer α) (idle : a.accepts = false) (nothing : a.value? = none)
      (goes_on : a ≠ .received none)
      (why : q.receiverGone = true ∨ q.senderGone = false ∧ q.items = []) :
      Moves q .receive a q
  | cancels : Moves q .cancel .done { q with fired := true }
  | dropsSender : Moves q .dropSender .done { q with senderGone := true }
  | dropsReceiver : Moves q .dropReceiver .done { q with receiverGone := true, items := [] }

theorem step_moves (q : Queue α) (s : Step α) : Moves q s (q.step s).1 (q.step s).2 := by
  obtain ⟨capacity, items, fired, senderGone, receiverGone⟩ := q
  cases s with
  | send v =>
      rw [step]
      split
      · rename_i gone
        exact .refuses v _ rfl rfl (.inl gone)
      · rename_i open_
        split
        · rename_i stopped
          refine .refuses v _ rfl rfl ?_
          rcases Bool.or_eq_true_iff.mp stopped with late | alone
          · exact .inr (.inl late)
          · exact .inr (.inr (.inl alone))
        · rename_i goes
          obtain ⟨calm, heard⟩ := Bool.or_eq_false_iff.mp (Bool.eq_false_iff.mpr goes)
          split
          · rename_i room
            exact .takes v (Bool.eq_false_iff.mpr open_) calm heard room
          · rename_i full
            exact .refuses v _ rfl rfl (.inr (.inr (.inr (Nat.le_of_not_lt full))))
  | receive =>
      rw [step]
      split
      · rename_i alone
        exact .waits _ rfl rfl nofun (.inl alone)
      · rename_i there
        have heard := Bool.eq_false_iff.mpr there
        split
        · rename_i late
          exact .ends (.inl late) heard
        · rename_i goes
          have calm := Bool.eq_false_iff.mpr goes
          cases items with
          | cons v rest => exact .gives v rest calm heard rfl
          | nil =>
              cases senderGone with
              | true => exact .ends (.inr ⟨rfl, rfl⟩) heard
              | false => exact .waits _ rfl rfl nofun (.inr ⟨rfl, rfl⟩)
  | cancel => exact .cancels
  | dropSender => exact .dropsSender
  | dropReceiver => exact .dropsReceiver

theorem run_eq (q : Queue α) (steps : List (Step α)) : q.run steps = Steps.run step q steps := by
  induction steps generalizing q with
  | nil => rfl
  | cons s rest ih =>
      simp only [run, Steps.run, ih]

section histories

variable (capacity : Nat)

def after (steps : List (Step α)) : Queue α := ((empty capacity).run steps).2

def accepted (steps : List (Step α)) : List α :=
  (steps.zip ((empty capacity).run steps).1).filterMap fun p => if p.2.accepts then p.1.value? else none

def received (steps : List (Step α)) : List α := ((empty capacity).run steps).1.filterMap Answer.value?

variable (past rest : List (Step α)) (s : Step α)

theorem after_append : after capacity (past ++ rest) = ((after capacity past).run rest).2 := by
  simp only [after, run_eq, Steps.run_append]

theorem received_append :
    received capacity (past ++ rest) =
      received capacity past ++ ((after capacity past).run rest).1.filterMap Answer.value? := by
  simp only [received, after, run_eq, Steps.run_append, List.filterMap_append]

theorem received_concat :
    received capacity (past ++ [s]) =
      received capacity past ++ ((after capacity past).step s).1.value?.toList := by
  rw [received_append]
  change _ ++ [((after capacity past).step s).1].filterMap Answer.value? = _
  cases found : ((after capacity past).step s).1.value? <;> simp [found]

theorem accepted_concat :
    accepted capacity (past ++ [s]) =
      accepted capacity past ++
        (if ((after capacity past).step s).1.accepts then s.value? else none).toList := by
  have place : past.length = ((empty capacity).run past).1.length := by
    rw [run_eq, Steps.length_replies]
  rw [accepted, run_eq, Steps.replies_concat, ← run_eq, List.zip_append place, List.filterMap_append]
  change _ ++ [(s, ((after capacity past).step s).1)].filterMap _ = _
  cases taken : ((after capacity past).step s).1.accepts <;> cases sent : s.value? <;>
    simp [taken, sent, accepted]

end histories

section moving

variable {q later : Queue α} {s : Step α} {a : Answer α}

theorem Moves.flags (moves : Moves q s a later) :
    later.capacity = q.capacity ∧ (later.fired = true ↔ q.fired = true ∨ s = .cancel) ∧
      (later.senderGone = true ↔ q.senderGone = true ∨ s = .dropSender) ∧
      (later.receiverGone = true ↔ q.receiverGone = true ∨ s = .dropReceiver) := by
  cases moves <;> simp

/-- Whatever was taken in and not given out is still held, or was lost with the receiver. -/
theorem Moves.holds (moves : Moves q s a later) (taken given held : List α) (split : taken = given ++ held)
    (fits : held.length ≤ q.capacity) (items : q.items = if q.receiverGone then [] else held) :
    ∃ still, taken ++ (if a.accepts then s.value? else none).toList = given ++ a.value?.toList ++ still ∧
      still.length ≤ q.capacity ∧ later.items = if later.receiverGone then [] else still := by
  cases moves with
  | takes v open_ calm heard room =>
      rw [heard, if_neg Bool.false_ne_true] at items
      refine ⟨held ++ [v], ?_, ?_, ?_⟩
      · simp [split, Answer.accepts, Answer.value?, Step.value?]
      · rw [List.length_append, ← items]
        exact room
      · simp [heard, items]
  | refuses v a refused nothing _ => exact ⟨held, by simp [refused, nothing, split], fits, items⟩
  | gives v rest calm heard holds =>
      rw [heard, if_neg Bool.false_ne_true, holds] at items
      refine ⟨rest, ?_, ?_, ?_⟩
      · simp [split, Answer.accepts, Answer.value?, ← items]
      · rw [← items, List.length_cons] at fits
        exact Nat.le_of_succ_le fits
      · simp [heard]
  | waits a idle nothing _ _ => exact ⟨held, by simp [idle, nothing, split], fits, items⟩
  | dropsReceiver => exact ⟨held, by simp [Answer.accepts, Answer.value?, split], fits, rfl⟩
  | _ => exact ⟨held, by simp [Answer.accepts, Answer.value?, split], fits, items⟩

theorem Moves.idle_of_refused {v : α} (moves : Moves q (.send v) a later) (refused : a.accepts = false) :
    later = q := by
  cases moves with
  | takes => cases refused
  | refuses => rfl

theorem Moves.nothing_of_fired (moves : Moves q s a later) (fired : q.fired = true) :
    a.accepts = false ∧ a.value? = none := by
  cases moves with
  | takes v open_ calm _ _ => exact absurd (fired.symm.trans calm) nofun
  | gives v rest calm _ _ => exact absurd (fired.symm.trans calm) nofun
  | refuses v a refused nothing _ => exact ⟨refused, nothing⟩
  | waits a idle nothing _ _ => exact ⟨idle, nothing⟩
  | _ => exact ⟨rfl, rfl⟩

theorem Moves.accepts_iff {v : α} (moves : Moves q (.send v) a later) :
    a.accepts = true ↔
      q.fired = false ∧ q.senderGone = false ∧ q.receiverGone = false ∧ q.items.length < q.capacity := by
  cases moves with
  | takes _ open_ calm heard room => simp [Answer.accepts, open_, calm, heard, room]
  | refuses _ _ refused _ why =>
      rw [refused]
      constructor
      · exact nofun
      · intro free
        obtain ⟨calm, open_, heard, room⟩ := free
        rcases why with gone | late | alone | full
        · exact absurd (open_.symm.trans gone) nofun
        · exact absurd (calm.symm.trans late) nofun
        · exact absurd (heard.symm.trans alone) nofun
        · exact absurd room (Nat.not_lt.mpr full)

/-- The end is reported to a receiver if the run is cancelled or nothing can come any more. -/
theorem Moves.over (moves : Moves q .receive (.received none) later) :
    q.fired = true ∨ q.receiverGone = false ∧ q.senderGone = true ∧ q.items = [] := by
  generalize reported : Answer.received none = a at moves
  cases moves with
  | gives v rest _ _ _ => cases reported
  | ends why heard => exact why.imp id fun gone => ⟨heard, gone⟩
  | waits a idle nothing goes_on _ => exact absurd reported.symm goes_on

end moving

structure Balanced (room : Nat) (past : List (Step α)) (taken given : List α) (q : Queue α) : Prop where
  capacity : q.capacity = room
  fired : q.fired = true ↔ .cancel ∈ past
  senderGone : q.senderGone = true ↔ .dropSender ∈ past
  receiverGone : q.receiverGone = true ↔ .dropReceiver ∈ past
  held : ∃ held, taken = given ++ held ∧ held.length ≤ room ∧
    q.items = if q.receiverGone then [] else held

theorem Balanced.step {room : Nat} {past : List (Step α)} {taken given : List α} {q later : Queue α}
    {s : Step α} {a : Answer α} (balanced : Balanced room past taken given q)
    (moves : Moves q s a later) :
    Balanced room (past ++ [s]) (taken ++ (if a.accepts then s.value? else none).toList)
      (given ++ a.value?.toList) later := by
  obtain ⟨rfl, fired, senderGone, receiverGone, held, split, fits, items⟩ := balanced
  obtain ⟨capacity, firedToo, senderGoneToo, receiverGoneToo⟩ := moves.flags
  refine ⟨capacity, ?_, ?_, ?_, moves.holds taken given held split fits items⟩
  · simp [firedToo, fired, eq_comm]
  · simp [senderGoneToo, senderGone, eq_comm]
  · simp [receiverGoneToo, receiverGone, eq_comm]

theorem balanced_after (capacity : Nat) (past : List (Step α)) :
    Balanced (max 1 capacity) past (accepted capacity past) (received capacity past)
      (after capacity past) := by
  induction past using List.reverseRecOn with
  | nil => exact ⟨rfl, by simp [after, run, empty], by simp [after, run, empty],
      by simp [after, run, empty], [], rfl, Nat.zero_le _, rfl⟩
  | append_singleton past s ih =>
      rw [after_append, accepted_concat, received_concat]
      exact ih.step (step_moves _ s)

theorem split_of_mem_accepted (capacity : Nat) (steps : List (Step α)) (v : α)
    (member : v ∈ accepted capacity steps) :
    ∃ past rest, steps = past ++ .send v :: rest ∧
      ((after capacity past).step (.send v)).1.accepts = true := by
  induction steps using List.reverseRecOn with
  | nil => cases member
  | append_singleton past s ih =>
      rw [accepted_concat, List.mem_append] at member
      rcases member with earlier | last
      · obtain ⟨front, rest, split, accepts⟩ := ih earlier
        exact ⟨front, rest ++ [s], by simp [split], accepts⟩
      · cases accepts : ((after capacity past).step s).1.accepts with
        | false => simp [accepts] at last
        | true =>
            cases s with
            | send w =>
                obtain rfl : v = w := by simpa [accepts, Step.value?] using last
                exact ⟨past, [], rfl, accepts⟩
            | _ => simp [accepts, Step.value?] at last

theorem run_receives (items : List α) (q : Queue α) (holds : q.items = items) (calm : q.fired = false)
    (heard : q.receiverGone = false) :
    q.run (List.replicate items.length .receive) =
      (items.map fun v => .received (some v), { q with items := [] }) := by
  induction items generalizing q with
  | nil =>
      obtain ⟨capacity, held, fired, senderGone, receiverGone⟩ := q
      obtain rfl : held = [] := holds
      rfl
  | cons v rest ih =>
      have given : q.step .receive = (.received (some v), { q with items := rest }) := by
        simp [Queue.step, holds, calm, heard]
      have later := ih { q with items := rest } rfl calm heard
      simp only [List.length_cons, List.replicate_succ, run, given, later, List.map_cons]

section parts

variable (capacity : Nat) (steps : List (Step α))

theorem received_begins_accepted : received capacity steps <+: accepted capacity steps := by
  obtain ⟨held, split, _⟩ := (balanced_after capacity steps).held
  exact ⟨held, split.symm⟩

/-- While the receiver is there the queue holds what was accepted and not received. -/
theorem items_after (heard : .dropReceiver ∉ steps) :
    accepted capacity steps = received capacity steps ++ (after capacity steps).items := by
  have balanced := balanced_after capacity steps
  obtain ⟨held, split, _, items⟩ := balanced.held
  have there : (after capacity steps).receiverGone = false :=
    Bool.eq_false_iff.mpr (mt balanced.receiverGone.mp heard)
  rw [there, if_neg Bool.false_ne_true] at items
  rw [items, split]

theorem stopped_append (rest : List (Step α)) (fired : .cancel ∈ steps) :
    accepted capacity (steps ++ rest) = accepted capacity steps ∧
      received capacity (steps ++ rest) = received capacity steps := by
  induction rest using List.reverseRecOn with
  | nil => simp
  | append_singleton front s ih =>
      obtain ⟨taken, given⟩ := ih
      have late : (after capacity (steps ++ front)).fired = true :=
        (balanced_after capacity (steps ++ front)).fired.mpr (List.mem_append_left front fired)
      obtain ⟨refused, nothing⟩ := (step_moves _ s).nothing_of_fired late
      rw [← List.append_assoc, accepted_concat, received_concat, refused, nothing, taken, given]
      simp

end parts

/-- How an empty queue hands values over in a sequence of steps. -/
structure HandsOver (capacity : Nat) (steps : List (Step α)) : Prop where
  ordered : received capacity steps <+: accepted capacity steps
  bounded : (accepted capacity steps).length ≤ (received capacity steps).length + capacity
  /-- A send is accepted exactly if there is room and nothing stops it. -/
  admitted : ∀ past v rest, steps = past ++ .send v :: rest →
    (((after capacity past).step (.send v)).1.accepts = true ↔
      .cancel ∉ past ∧ .dropSender ∉ past ∧ .dropReceiver ∉ past ∧
        (accepted capacity past).length < (received capacity past).length + capacity)
  /-- A refused send leaves no trace: without it all other answers are the same. -/
  traceless : ∀ past v rest, steps = past ++ .send v :: rest →
    ((after capacity past).step (.send v)).1.accepts = false →
      ((empty capacity).run (past ++ rest)).1 = ((empty capacity).run steps).1.eraseIdx past.length
  /-- A value that is refused whenever it is sent is never received. -/
  refused : ∀ v, (∀ past rest, steps = past ++ .send v :: rest →
    ((after capacity past).step (.send v)).1.accepts = false) → v ∉ received capacity steps
  /-- Unless the run is cancelled or the receiver goes, all that was accepted can still be received, and
  only then the end is reported if the sender has gone. -/
  drained : .cancel ∉ steps → .dropReceiver ∉ steps →
    let waiting := (accepted capacity steps).drop (received capacity steps).length
    let emptied := steps ++ List.replicate waiting.length .receive
    received capacity emptied = accepted capacity steps ∧
      (.dropSender ∈ steps → ((after capacity emptied).step .receive).1 = .received none)
  ended : ∀ past rest, steps = past ++ .receive :: rest →
    ((after capacity past).step .receive).1 = .received none →
      .cancel ∈ past ∨ .dropSender ∈ past ∧ received capacity past = accepted capacity past
  /-- Once the cancellation has fired nothing passes any more. -/
  stopped : ∀ past rest, steps = past ++ .cancel :: rest →
    accepted capacity steps = accepted capacity past ∧ received capacity steps = received capacity past

/-- A bounded queue loses nothing that it accepted, hands it over once and in its order, and never holds
more than it has room for.  A refused value is never handed over; after the sender has gone all that was
accepted can still be received before the end; and nothing passes any more once the run is cancelled. -/
theorem hands_over (capacity : Nat) (positive : 0 < capacity) (steps : List (Step α)) :
    HandsOver capacity steps := by
  have room : max 1 capacity = capacity := Nat.max_eq_right positive
  refine ⟨received_begins_accepted capacity steps, ?bounded, ?admitted, ?traceless, ?refused, ?drained,
    ?ended, ?stopped⟩
  case bounded =>
    obtain ⟨held, split, fits, _⟩ := (balanced_after capacity steps).held
    rw [split, List.length_append]
    omega
  case admitted =>
    rintro past v rest -
    have balanced := balanced_after capacity past
    rw [(step_moves (after capacity past) (.send v)).accepts_iff, balanced.capacity, room,
      ← Bool.not_eq_true, ← Bool.not_eq_true, ← Bool.not_eq_true, balanced.fired, balanced.senderGone,
      balanced.receiverGone]
    refine and_congr_right fun _ => and_congr_right fun _ => and_congr_right fun heard => ?_
    rw [items_after capacity past heard, List.length_append]
    omega
  case traceless =>
    intro past v rest split refused
    have idle : ((after capacity past).step (.send v)).2 = after capacity past :=
      (step_moves _ _).idle_of_refused refused
    rw [after, run_eq] at idle
    rw [split, run_eq, run_eq]
    exact Steps.replies_without (empty capacity) past rest _ idle
  case refused =>
    intro v never member
    have taken : v ∈ accepted capacity steps := (received_begins_accepted capacity steps).subset member
    obtain ⟨past, rest, split, accepts⟩ := split_of_mem_accepted capacity steps v taken
    exact absurd (accepts.symm.trans (never past rest split)) nofun
  case drained =>
    intro calm heard waiting emptied
    have balanced := balanced_after capacity steps
    have unfired : (after capacity steps).fired = false :=
      Bool.eq_false_iff.mpr (mt balanced.fired.mp calm)
    have there : (after capacity steps).receiverGone = false :=
      Bool.eq_false_iff.mpr (mt balanced.receiverGone.mp heard)
    have split := items_after capacity steps heard
    have items : (after capacity steps).items = waiting := by
      change _ = (accepted capacity steps).drop _
      rw [split, List.drop_left]
    have receives := run_receives waiting (after capacity steps) items unfired there
    constructor
    · rw [received_append, receives, split, items, List.filterMap_map]
      simp [Function.comp_def, Answer.value?]
    · intro gone
      rw [after_append, receives]
      simp [Queue.step, there, unfired, balanced.senderGone.mpr gone]
  case ended =>
    rintro past rest - reported
    have balanced := balanced_after capacity past
    have moves := step_moves (after capacity past) .receive
    rw [reported] at moves
    rcases moves.over with fired | ⟨there, gone, empty⟩
    · exact .inl (balanced.fired.mp fired)
    · have heard : .dropReceiver ∉ past := mt balanced.receiverGone.mpr (Bool.eq_false_iff.mp there)
      have split := items_after capacity past heard
      rw [empty, List.append_nil] at split
      exact .inr ⟨balanced.senderGone.mp gone, split.symm⟩
  case stopped =>
    intro past rest split
    obtain ⟨taken, given⟩ := stopped_append capacity (past ++ [.cancel]) rest (by simp)
    rw [split, List.append_cons, taken, given, accepted_concat, received_concat]
    exact ⟨List.append_nil _, List.append_nil _⟩

def relay : List (Step Nat) :=
  [.send 1, .send 2, .send 3, .receive, .send 4, .cancel, .receive, .send 5]

theorem hands_over_relay :
    0 < 2 ∧ accepted 2 relay = [1, 2, 4] ∧ received 2 relay = [1] ∧ [1] <+: [1, 2, 4] ∧
      ((empty 2).run (relay.eraseIdx 2)).1 = ((empty 2).run relay).1.eraseIdx 2 ∧
      received 2 relay = received 2 (relay.take 5) ∧
      received 2 (relay.take 5 ++ [.receive, .receive]) = accepted 2 (relay.take 5) := by
  have cut := hands_over 2 (by decide) relay
  have uncut := hands_over 2 (by decide) (relay.take 5)
  refine ⟨by decide, by decide, by decide, cut.ordered, ?_, ?_, ?_⟩
  · exact cut.traceless (relay.take 2) 3 (relay.drop 3) rfl rfl
  · exact (cut.stopped (relay.take 5) (relay.drop 6) rfl).2
  · exact (uncut.drained (by simp [relay]) (by simp [relay])).1

end CloudCensus.Queue
