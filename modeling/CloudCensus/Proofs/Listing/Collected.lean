import CloudCensus.Proofs.Listing.Collecting
import CloudCensus.Proofs.Listing.Handover

namespace CloudCensus

structure Collects (request : Request) (items : List Item) (fired : Bool) (result : Outcome (List Asset)) :
    Prop where
  whole : ∀ assets, result = .ok assets ↔ fired = false ∧ items = assets.map .calm
  cancelled : fired = true → result = .error .cancelled
  broken : ∀ (assets : List Asset) e rest, fired = false →
    items = assets.map .calm ++ .failure e :: rest →
      result = .error (if e = .cancelled then .cancelled else .listing request e)
  crashed : ∀ (assets : List Asset) rest, fired = false → items = assets.map .calm ++ .crash :: rest →
    result = .error .crashed

section alone

variable (request : Request) (items : List Item)

theorem collects_fired : Collects request items true (.error .cancelled) where
  whole assets := by
    constructor
    · nofun
    · rintro ⟨calm, -⟩
      cases calm
  cancelled _ := rfl
  broken := nofun
  crashed := nofun

theorem comes_failure (assets : List Asset) (e : Failure) (rest : List Item) :
    ∃ fails, Item.Comes request (assets.map .calm ++ .failure e :: rest) assets
      (.error (if e = .cancelled then .cancelled else .listing request e)) fails := by
  by_cases silent : e = .cancelled
  · rw [if_pos silent, silent]
    exact ⟨_, _, rfl, .cancelled rest⟩
  · rw [if_neg silent]
    exact ⟨_, _, rfl, .broken e rest silent⟩

variable {request items}

theorem collects_of_comes {assets : List Asset} {o : Outcome Unit} {fails : List Failure}
    (comes : Item.Comes request items assets o fails) :
    Collects request items false (o.map fun _ => assets) where
  whole others := by
    constructor
    · intro fine
      cases o with
      | error f => cases fine
      | ok u =>
          cases fine
          exact ⟨rfl, comes.eq_calm⟩
    · rintro ⟨-, rfl⟩
      obtain ⟨rfl, rfl, -⟩ := comes.unique (Item.comes_calm request others)
      rfl
  cancelled := nofun
  broken others e rest _ split := by
    obtain ⟨fails, breaks⟩ := comes_failure request others e rest
    rw [← split] at breaks
    rw [(comes.unique breaks).2.1]
    rfl
  crashed others rest _ split := by
    have crashes : Item.Comes request items others (.error .crashed) [] := ⟨_, split, .crashed rest⟩
    rw [(comes.unique crashes).2.1]
    rfl

theorem collect_of_comes {assets : List Asset} {o : Outcome Unit} {fails : List Failure}
    (comes : Item.Comes request items assets o fails) :
    (collect request items false).result = o.map fun _ => assets := by
  obtain ⟨outcome, calm, queue⟩ := produce_of_comes comes
  rw [collect, outcome, calm, queue, received_of_broken]
  cases o with
  | ok u => rfl
  | error f => rfl

theorem collect_of_fired (before : Bool) (fired : before = true ∨ Item.Fires items) :
    collect request items before = ⟨.error .cancelled, true, []⟩ := by
  cases before with
  | true =>
      rw [collect, produce, produceFrom_fired]
      rfl
  | false =>
      obtain ⟨assets, a, rest, rfl⟩ := fired.resolve_left Bool.false_ne_true
      rw [collect, produce, produceFrom_calm]
      rfl

theorem collects_collect (request : Request) (items : List Item) (before : Bool) :
    Collects request items (collect request items before).fired (collect request items before).result := by
  by_cases fired : before = true ∨ Item.Fires items
  · rw [collect_of_fired before fired]
    exact collects_fired request items
  · obtain ⟨fresh, calm⟩ := not_or.mp fired
    rw [Bool.not_eq_true] at fresh
    rcases Item.comes_or_fires request items with ⟨assets, o, fails, comes⟩ | fires
    · have unfired : (collect request items before).fired = false := by
        rw [fresh]
        exact (produce_of_comes comes).2.1
      rw [unfired, fresh, collect_of_comes comes]
      exact collects_of_comes comes
    · exact absurd fires calm

end alone

namespace Collection

inductive Next (request : Request) (whole : List Item) (given : List Asset) (s : Collection) : Prop where
  | asks (free : s.held = none) (split : whole = given.map .calm ++ s.items) (ledger : s.ledger = [])
  | hands (a : Asset) (holds : s.held = some (.ok a))
      (split : whole = given.map .calm ++ .calm a :: s.items) (ledger : s.ledger = [])
  | tells (e : Failure) (told : e ≠ .cancelled) (holds : s.held = some (.error (.listing request e)))
      (split : whole = given.map .calm ++ .failure e :: s.items)
      (ledger : s.ledger = [(.streamErrors request.facet e.label, 1)])

/-- How far a collection has come.  `outside` says whether somebody else may have cancelled the run. -/
inductive Course (request : Request) (whole : List Item) (before : Bool) (outside : Prop) (s : Collection) :
    Prop where
  | running (given : List Asset) (fresh : before = false) (calm : s.queue.fired = false)
      (unended : s.outcome = none) (heard : s.queue.receiverGone = false) (count : s.count = given.length)
      (passed : given.map .ok = s.assets.map .ok ++ s.queue.items) (next : Next request whole given s)
  /-- Ended as it does alone, and all that it put is with the collector once that has stopped. -/
  | ended (calm : s.queue.fired = false) (unfired : (produce request whole true before).fired = false)
      (outcome : s.outcome = some (produce request whole true before).outcome)
      (ledger : s.ledger = (produce request whole true before).ledger)
      (pending : s.queue.receiverGone = false →
        (produce request whole true before).queue = s.assets.map .ok ++ s.queue.items)
      (all : s.queue.receiverGone = true → s.assets = received (produce request whole true before).queue)
  | cancelled (fired : s.queue.fired = true)
      (why : outside ∨ (before = true ∨ Item.Fires whole) ∧ s.ledger = [])

section course

variable {request : Request} {whole : List Item} {before : Bool} {outside : Prop} {given : List Asset}
  {s later : Collection} {t : Turn}

theorem course_begin (request : Request) (items : List Item) (capacity : Nat) (before : Bool) (outside : Prop) :
    Course request items before outside (begin items capacity before) := by
  cases before with
  | true => exact .cancelled rfl (.inr ⟨.inl rfl, rfl⟩)
  | false => exact .running [] rfl rfl rfl rfl rfl rfl (.asks rfl rfl rfl)

theorem received_append_error (assets : List Asset) (f : Failure) (rest : List (Outcome Asset)) :
    received (assets.map .ok ++ .error f :: rest) = assets := by
  induction assets with
  | nil => rfl
  | cons a assets ih => exact congrArg (a :: ·) ih

theorem Next.same (next : Next request whole given s) (held : later.held = s.held)
    (items : later.items = s.items) (ledger : later.ledger = s.ledger) :
    Next request whole given later := by
  cases next with
  | asks free split told => exact .asks (held.trans free) (items ▸ split) (ledger.trans told)
  | hands a holds split told => exact .hands a (held.trans holds) (items ▸ split) (ledger.trans told)
  | tells e said holds split told => exact .tells e said (held.trans holds) (items ▸ split) (ledger.trans told)

theorem Next.of_free (next : Next request whole given s) (free : s.held = none) :
    whole = given.map .calm ++ s.items ∧ s.ledger = [] := by
  cases next with
  | asks _ split ledger => exact ⟨split, ledger⟩
  | hands a holds _ _ => simp [free] at holds
  | tells e _ holds _ _ => simp [free] at holds

theorem Next.of_asset {a : Asset} (next : Next request whole given s) (holds : s.held = some (.ok a)) :
    whole = (given ++ [a]).map .calm ++ s.items ∧ s.ledger = [] := by
  cases next with
  | asks free _ _ => simp [free] at holds
  | tells e _ tells _ _ => simp [tells] at holds
  | hands b same split ledger =>
      obtain rfl : b = a := by simpa [same] using holds
      rw [List.map_append, List.append_assoc]
      exact ⟨split, ledger⟩

theorem Next.of_failure {f : Failure} (next : Next request whole given s) (holds : s.held = some (.error f)) :
    ∃ e, f = .listing request e ∧ e ≠ .cancelled ∧ whole = given.map .calm ++ .failure e :: s.items ∧
      s.ledger = [(.streamErrors request.facet e.label, 1)] := by
  cases next with
  | asks free _ _ => simp [free] at holds
  | hands b hands _ _ => simp [hands] at holds
  | tells e told same split ledger =>
      obtain rfl : Failure.listing request e = f := by simpa [same] using holds
      exact ⟨e, rfl, told, split, ledger⟩

theorem course_of_end {rest : List Item} {p : Produced} (split : whole = given.map .calm ++ rest)
    (alone : produceFrom request true false rest given.length = p) (unfired : p.fired = false)
    (calm : s.queue.fired = false) (heard : s.queue.receiverGone = false)
    (outcome : s.outcome = some p.outcome) (ledger : s.ledger = p.ledger)
    (passed : given.map .ok ++ p.queue = s.assets.map .ok ++ s.queue.items) :
    Course request whole false outside s := by
  have produced : produce request whole true false =
      { p with queue := given.map .ok ++ p.queue, read := p.read + given.length } := by
    rw [split, produce, produceFrom_calm, Nat.zero_add, alone]
  refine .ended calm ?_ ?_ ?_ ?_ ?_
  · rw [produced]
    exact unfired
  · rw [produced]
    exact outcome
  · rw [produced]
    exact ledger
  · intro _
    rw [produced]
    exact passed
  · intro gone
    exact absurd (heard.symm.trans gone) Bool.false_ne_true

theorem Goes.of_fired (goes : Goes request s t later) (fired : s.queue.fired = true) :
    later.queue.fired = true ∧ later.ledger = s.ledger := by
  cases goes with
  | idle t why => exact ⟨fired, rfl⟩
  | gives_up o unended _ => exact ⟨fired, List.append_nil _⟩
  | stops heard why => exact ⟨fired, rfl⟩
  | cancels => exact ⟨rfl, rfl⟩
  -- No other turn is taken in a cancelled run.
  | _ => simp_all

theorem Goes.course_of_running (goes : Goes request s t later)
    (closed : s.queue.senderGone = s.outcome.isSome) (allowed : t = .cancel → outside)
    (fresh : before = false) (calm : s.queue.fired = false) (unended : s.outcome = none)
    (heard : s.queue.receiverGone = false) (count : s.count = given.length)
    (passed : given.map .ok = s.assets.map .ok ++ s.queue.items) (next : Next request whole given s) :
    Course request whole before outside later := by
  subst fresh
  cases goes with
  | idle t why => exact .running given rfl calm unended heard count passed next
  | asks a fires rest _ free _ items =>
      obtain ⟨split, ledger⟩ := next.of_free free
      rw [items] at split
      cases fires with
      | true => exact .cancelled rfl (.inr ⟨.inr ⟨given, a, rest, split⟩, ledger⟩)
      | false => exact .running given rfl rfl unended heard count passed (.hands a rfl split ledger)
  | breaks e rest _ free _ items told =>
      obtain ⟨split, ledger⟩ := next.of_free free
      rw [items] at split
      exact .running given rfl calm unended heard count passed
        (.tells e told rfl split (by rw [ledger, List.nil_append]))
  | ends p _ free _ alone silent unfired =>
      obtain ⟨split, ledger⟩ := next.of_free free
      rw [count] at alone
      refine course_of_end split alone unfired calm heard rfl ?_ ?_
      · rw [leave, ledger, List.nil_append]
      · rw [silent, List.append_nil, passed]
        rfl
  | hands a _ holds _ =>
      obtain ⟨split, ledger⟩ := next.of_asset holds
      refine .running (given ++ [a]) rfl calm unended heard ?_ ?_ (.asks rfl split ledger)
      · rw [count, List.length_append]
        rfl
      · rw [List.map_append, passed, List.append_assoc]
        rfl
  | tells f _ holds _ =>
      obtain ⟨e, rfl, told, split, ledger⟩ := next.of_failure holds
      refine course_of_end split (produceFrom_failure request true s.items given.length e told) rfl calm heard
        rfl ?_ ?_
      · rw [leave, ledger, List.append_nil]
        rfl
      · rw [passed, List.append_assoc]
        rfl
  | gives_up o _ fired => exact absurd (calm.symm.trans fired) Bool.false_ne_true
  | deserted o ledger _ gone _ => exact absurd (heard.symm.trans gone) Bool.false_ne_true
  | takes a rest _ _ holds =>
      refine .running given rfl calm unended heard count ?_ (next.same rfl rfl rfl)
      rw [passed, holds, List.map_append, List.append_assoc]
      rfl
  | stops _ why =>
      rcases why with fired | ⟨f, rest, holds⟩ | ⟨shut, _⟩
      · exact absurd (calm.symm.trans fired) Bool.false_ne_true
      · -- Only a listing that has ended puts its failure into the queue.
        have failure : Except.error f ∈ given.map Except.ok := by
          rw [passed, holds]
          simp
        simp at failure
      · rw [closed, unended] at shut
        cases shut
  | cancels => exact .cancelled rfl (.inl (allowed rfl))

theorem Goes.course_of_ended (goes : Goes request s t later) (allowed : t = .cancel → outside)
    (calm : s.queue.fired = false) (unfired : (produce request whole true before).fired = false)
    (outcome : s.outcome = some (produce request whole true before).outcome)
    (ledger : s.ledger = (produce request whole true before).ledger)
    (pending : s.queue.receiverGone = false →
      (produce request whole true before).queue = s.assets.map .ok ++ s.queue.items)
    (all : s.queue.receiverGone = true → s.assets = received (produce request whole true before).queue) :
    Course request whole before outside later := by
  cases goes with
  | idle t why => exact .ended calm unfired outcome ledger pending all
  | takes a rest _ heard holds =>
      refine .ended calm unfired outcome ledger ?_ ?_
      · intro _
        rw [pending heard, holds, List.map_append, List.append_assoc]
        rfl
      · intro gone
        exact absurd (heard.symm.trans gone) Bool.false_ne_true
  | stops heard why =>
      refine .ended calm unfired outcome ledger nofun ?_
      intro _
      change s.assets = _
      rcases why with fired | ⟨f, rest, holds⟩ | ⟨_, nothing⟩
      · exact absurd (calm.symm.trans fired) Bool.false_ne_true
      · rw [pending heard, holds, received_append_error]
      · rw [pending heard, nothing, List.append_nil, received_map_ok]
  | cancels => exact .cancelled rfl (.inl (allowed rfl))
  -- A listing that has ended takes no other turn.
  | _ => simp_all

theorem Course.goes (course : Course request whole before outside s) (goes : Goes request s t later)
    (closed : s.queue.senderGone = s.outcome.isSome) (allowed : t = .cancel → outside) :
    Course request whole before outside later := by
  cases course with
  | running given fresh calm unended heard count passed next =>
      exact goes.course_of_running closed allowed fresh calm unended heard count passed next
  | ended calm unfired outcome ledger pending all =>
      exact goes.course_of_ended allowed calm unfired outcome ledger pending all
  | cancelled fired why =>
      obtain ⟨still, same⟩ := goes.of_fired fired
      refine .cancelled still ?_
      rw [same]
      exact why

theorem Course.run (course : Course request whole before outside s) (wired : s.Wired) (turns : List Turn)
    (allowed : .cancel ∈ turns → outside) :
    Course request whole before outside (s.run request turns) := by
  induction turns generalizing s with
  | nil => exact course
  | cons t rest ih =>
      have goes := turn_goes request s wired.closed t
      have first : t = .cancel → outside := by
        rintro rfl
        exact allowed List.mem_cons_self
      exact ih (course.goes goes wired.closed first) (wired.turn request t)
        fun later => allowed (List.mem_cons_of_mem t later)

/-- A run that is cancelled once is cancelled for good. -/
theorem fired_run (wired : s.Wired) (turns : List Turn) (fired : s.queue.fired = true ∨ .cancel ∈ turns) :
    (s.run request turns).queue.fired = true := by
  induction turns generalizing s with
  | nil => exact fired.resolve_right nofun
  | cons t rest ih =>
      refine ih (wired.turn request t) ?_
      rcases fired with already | now
      · exact .inl ((turn_goes request s wired.closed t).of_fired already).1
      · rcases List.mem_cons.mp now with rfl | later
        · exact .inl rfl
        · exact .inr later

theorem collected_of_fired (fired : s.queue.fired = true) :
    s.collected = ⟨.error .cancelled, true, s.ledger⟩ := by
  rw [collected, fired]
  rfl

theorem Course.collected_of_calm (course : Course request whole before outside s) (done : s.Done)
    (calm : s.queue.fired = false) : s.collected = collect request whole before := by
  cases course with
  | running given _ _ unended => simp [Done, unended] at done
  | cancelled fired _ => exact absurd (calm.symm.trans fired) Bool.false_ne_true
  | ended _ unfired outcome ledger _ all =>
      rw [collected, collect, calm, unfired, outcome, ledger, all done.2]
      rfl

theorem Course.fired_iff (course : Course request whole before outside s) (done : s.Done)
    (cancelled : outside → s.queue.fired = true) :
    s.queue.fired = true ↔ before = true ∨ outside ∨ Item.Fires whole := by
  cases course with
  | running given _ _ unended => simp [Done, unended] at done
  | cancelled fired why =>
      refine iff_of_true fired ?_
      rcases why with outside | ⟨first | fires, _⟩
      · exact .inr (.inl outside)
      · exact .inl first
      · exact .inr (.inr fires)
  | ended calm unfired outcome ledger _ all =>
      refine iff_of_false (Bool.eq_false_iff.mp calm) ?_
      have never (own : before = true ∨ Item.Fires whole) : False := by
        rw [(fired_produce_iff before).mpr own] at unfired
        cases unfired
      rintro (first | cancels | fires)
      · exact never (.inl first)
      · exact absurd (calm.symm.trans (cancelled cancels)) Bool.false_ne_true
      · exact never (.inr fires)

theorem Course.collected_alone (course : Course request whole before outside s) (done : s.Done)
    (nobody : ¬ outside) : s.collected = collect request whole before := by
  cases fired : s.queue.fired with
  | false => exact course.collected_of_calm done fired
  | true =>
      cases course with
      | running _ _ calm => exact absurd (calm.symm.trans fired) Bool.false_ne_true
      | ended calm => exact absurd (calm.symm.trans fired) Bool.false_ne_true
      | cancelled _ why =>
          obtain ⟨own, ledger⟩ := why.resolve_left nobody
          rw [collected_of_fired fired, collect_of_fired before own, ledger]

theorem Course.collects (course : Course request whole before outside s) (done : s.Done) :
    Collects request whole s.collected.fired s.collected.result := by
  cases fired : s.queue.fired with
  | false =>
      rw [course.collected_of_calm done fired]
      exact collects_collect request whole before
  | true =>
      rw [collected_of_fired fired]
      exact collects_fired request whole

end course

/-- A listing is collected as all of its assets in their order if it comes to its end in a run that nobody
cancels, and as a failure otherwise, whatever the room in the queue and the order of the turns. -/
theorem collects_whole_or_fails (request : Request) (items : List Item) (capacity : Nat) (before : Bool) :
    let alone := collect request items before
    Collects request items alone.fired alone.result ∧
      (alone.fired = true ↔ before = true ∨ Item.Fires items) ∧
      ∀ turns, let s := (begin items capacity before).run request turns
        (s.Done →
          Collects request items s.collected.fired s.collected.result ∧
            (s.collected.fired = true ↔ before = true ∨ .cancel ∈ turns ∨ Item.Fires items) ∧
            (.cancel ∉ turns → s.collected = alone)) ∧
          ∃ n, ∀ blocks : List (List Turn), (∀ block ∈ blocks, Fair block) → n ≤ blocks.length →
            (s.run request blocks.flatten).Done := by
  intro alone
  refine ⟨collects_collect request items before, fired_produce_iff before, ?_⟩
  intro turns s
  have wired : (begin items capacity before).Wired := wired_begin items capacity before
  have course : Course request items before (.cancel ∈ turns) s :=
    (course_begin request items capacity before _).run wired turns id
  constructor
  · intro done
    have cancelled : .cancel ∈ turns → s.queue.fired = true :=
      fun member => fired_run wired turns (.inr member)
    exact ⟨course.collects done, course.fired_iff done cancelled, course.collected_alone done⟩
  · exact ⟨s.work, fun blocks fair enough => (wired.run request turns).run_fair request blocks fair enough⟩

def deniedItems : List Item :=
  [.calm (bucketNamed "a"), .calm (bucketNamed "b"), .failure (.because .permissionDenied (.stated "denied"))]

def waitingTurns : List Turn :=
  [.listing, .listing, .listing, .listing, .collector, .listing, .listing, .listing, .collector, .listing,
    .collector]

theorem collects_whole_or_fails_denied :
    let broken : Failure := .listing bucketsAsked (.because .permissionDenied (.stated "denied"))
    let start := begin deniedItems 1 false
    let s := start.run bucketsAsked waitingTurns
    let late := start.run bucketsAsked (.cancel :: waitingTurns)
    (s.Done ∧ s.collected.result = .error broken ∧ s.collected = collect bucketsAsked deniedItems false) ∧
      (late.Done ∧ late.collected.result = .error .cancelled) ∧
      ∃ n, (start.run bucketsAsked (List.replicate n [.listing, .collector]).flatten).Done := by
  have done : ((begin deniedItems 1 false).run bucketsAsked waitingTurns).Done := ⟨rfl, rfl⟩
  have doneLate : ((begin deniedItems 1 false).run bucketsAsked (.cancel :: waitingTurns)).Done := ⟨rfl, rfl⟩
  have calm : ((begin deniedItems 1 false).run bucketsAsked waitingTurns).collected.fired = false := rfl
  intro broken start s late
  obtain ⟨-, -, runs⟩ := collects_whole_or_fails bucketsAsked deniedItems 1 false
  obtain ⟨ends, -⟩ := runs waitingTurns
  obtain ⟨endsLate, -⟩ := runs (.cancel :: waitingTurns)
  obtain ⟨-, n, enough⟩ := runs []
  obtain ⟨collects, -, alone⟩ := ends done
  obtain ⟨collectsLate, firedLate, -⟩ := endsLate doneLate
  refine ⟨⟨done, ?_, alone (by decide)⟩, ⟨doneLate, ?_⟩, n, ?_⟩
  · exact collects.broken [bucketNamed "a", bucketNamed "b"] _ [] calm rfl
  · exact collectsLate.cancelled (firedLate.mpr (.inr (.inl List.mem_cons_self)))
  · refine enough _ ?_ (Nat.le_of_eq List.length_replicate.symm)
    intro block member
    rw [List.eq_of_mem_replicate member]
    exact ⟨by decide, by decide⟩

end Collection
end CloudCensus
