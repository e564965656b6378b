import CloudCensus.Proofs.Merge.Batches
import CloudCensus.Proofs.Merge.Run
import CloudCensus.Steps

namespace CloudCensus

/-- A merger with a pool of its own, which it goes through after every event. -/
structure Survey where
  held : List Asset
  /-- The names that have left. -/
  gone : List String
  closed : Facet → Bool
  kept : Bool
  /-- A failure, a cancellation or a refused emission has ended it. -/
  ended : Bool

namespace Survey

def start : Survey := ⟨[], [], fun _ => false, true, false⟩

def hears (s : Survey) (side : Facet) : Bool := !s.ended && !s.closed side

def complete (s : Survey) (a : Asset) : Bool :=
  match a.resource, a.policy with
  | some _, some _ => true
  | some _, none => s.closed .policy
  | none, some _ => s.closed .resource
  | none, none => s.closed .resource && s.closed .policy

def unite (known a : Asset) : Asset where
  name := known.name
  kind := Asset.firstFilled "" [known.kind, a.kind]
  ancestors := Asset.firstFilled [] [known.ancestors, a.ancestors]
  resource := ([known, a].filterMap (·.resource)).getLast?
  policy := ([known, a].filterMap (·.policy)).getLast?
  updated := ([known, a].filterMap (·.updated)).max?

def noting (a : Asset) : List Asset → List Asset
  | [] => [a]
  | b :: rest => if b.name = a.name then unite b a :: rest else b :: noting a rest

def note (s : Survey) (a : Asset) : Survey :=
  if a.name ∈ s.gone then s else { s with held := noting a s.held }

def scan (s : Survey) : List Asset × Survey :=
  let leaving := s.held.filter s.complete
  let rest := { s with
    held := s.held.filter fun a => !s.complete a
    gone := s.gone ++ leaving.map (·.name) }
  if s.kept || leaving.isEmpty then (leaving, rest) else ([], { rest with ended := true })

def shut (s : Survey) (side : Facet) : Survey :=
  { s with closed := fun other => s.closed other || side = other }

def step (s : Survey) : Merger.Event → List Asset × Survey
  | .observe side a => if s.hears side then (s.note a).scan else ([], s)
  | .close side => if s.hears side then (s.shut side).scan else ([], s)
  | .fail side _ => ([], if s.hears side then { s with ended := true } else s)
  | .cancel => ([], { s with ended := true })
  | .dropOutput => ([], { s with kept := false })

end Survey

namespace Pool

theorem filter_of_waiting (ready : Asset → Bool) (as : List Asset)
    (waiting : ∀ b ∈ as, ready b = false) : as.filter ready = [] := by
  apply List.filter_eq_nil_iff.mpr
  intro b member
  simp [waiting b member]

theorem filter_not_of_waiting (ready : Asset → Bool) (as : List Asset)
    (waiting : ∀ b ∈ as, ready b = false) : as.filter (fun b => !ready b) = as := by
  apply List.filter_eq_self.mpr
  intro b member
  simp [waiting b member]

theorem filter_put (ready : Asset → Bool) (a : Asset) (as : List Asset)
    (waiting : ∀ b ∈ as, ready b = false) :
    (put a as).filter ready = if ready a then [a] else [] := by
  induction as with
  | nil => simp [put, List.filter_cons]
  | cons first rest ih =>
      obtain ⟨firstWaits, restWaiting⟩ := List.forall_mem_cons.mp waiting
      rw [put]
      split
      · rw [List.filter_cons, filter_of_waiting ready rest restWaiting]
      · rw [List.filter_cons_of_neg (by simp [firstWaits]), ih restWaiting]

theorem without_of_absent (name : String) (as : List Asset) (absent : name ∉ as.map (·.name)) :
    without name as = as := by
  apply List.filter_eq_self.mpr
  intro b member
  have other : b.name ≠ name := by
    intro same
    exact absent (List.mem_map.mpr ⟨b, member, same⟩)
  simp [other]

theorem filter_not_put_of_ready (ready : Asset → Bool) (a : Asset) (as : List Asset)
    (distinct : (as.map (·.name)).Nodup) (waiting : ∀ b ∈ as, ready b = false)
    (complete : ready a = true) :
    (put a as).filter (fun b => !ready b) = without a.name as := by
  induction as with
  | nil => simp [put, without, complete]
  | cons first rest ih =>
      obtain ⟨fresh, restDistinct⟩ := List.nodup_cons.mp distinct
      obtain ⟨firstWaits, restWaiting⟩ := List.forall_mem_cons.mp waiting
      by_cases same : first.name = a.name
      · have absent : a.name ∉ rest.map (·.name) := by rw [← same]; exact fresh
        rw [put, if_pos same, List.filter_cons_of_neg (by simp [complete]),
          filter_not_of_waiting ready rest restWaiting, without,
          List.filter_cons_of_neg (by simp [same])]
        exact (without_of_absent a.name rest absent).symm
      · rw [put, if_neg same, List.filter_cons_of_pos (by simp [firstWaits]),
          ih restDistinct restWaiting, without, without, List.filter_cons_of_pos (by simp [same])]

theorem drain_pending (p : Pool) (as : List Asset) :
    { p with pending := as }.drain =
      (as.filter p.isReady, { p with
        pending := as.filter fun a => !p.isReady a
        emitted := p.emitted ++ (as.filter p.isReady).map (·.name) }) := rfl

theorem drain_of_waiting (p : Pool) (waiting : ∀ b ∈ p.pending, p.isReady b = false) :
    p.drain = ([], p) := by
  rw [drain, filter_of_waiting _ _ waiting, filter_not_of_waiting _ _ waiting]
  simp

def absorbing (p : Pool) (a : Asset) : Pool :=
  if a.name ∈ p.emitted then p else { p with pending := put (p.absorbed a) p.pending }

/-- Nothing else can have become ready, so the touched asset is all that may leave. -/
theorem observe_eq_drain (p : Pool) (a : Asset) (consistent : p.Consistent) :
    p.observe a = (p.absorbing a).drain := by
  rcases observe_cases p a with ⟨left, same⟩ | ⟨fresh, ready, same⟩ | ⟨fresh, waits, same⟩
  · rw [same, absorbing, if_pos left, drain_of_waiting p consistent.settled]
  · rw [same, absorbing, if_neg fresh, drain_pending, filter_put _ _ _ consistent.settled,
      filter_not_put_of_ready _ _ _ consistent.distinct consistent.settled ready, if_pos ready,
      name_absorbed]
    simp [name_absorbed]
  · have waiting : ∀ b ∈ put (p.absorbed a) p.pending, p.isReady b = false := by
      intro b member
      rcases mem_put _ _ _ member with here | old
      · rw [here, waits]
      · exact consistent.settled b old
    rw [same, absorbing, if_neg fresh, drain_of_waiting _ waiting]

end Pool

namespace Survey

open Asset Merger

theorem unite_eq_absorb (known a : Asset) : unite known a = known.absorb a :=
  Combines.unique ⟨rfl, rfl, rfl, rfl, rfl, rfl⟩
    ((combines_singleton known).absorb (combines_singleton a))

theorem noting_eq_put (p : Pool) (a : Asset) :
    noting a p.pending = Pool.put (p.absorbed a) p.pending := by
  obtain ⟨as, gone, resourcesClosed, policiesClosed⟩ := p
  induction as with
  | nil => rfl
  | cons first rest ih =>
      by_cases same : first.name = a.name
      · have absorbed : Pool.absorbed ⟨first :: rest, gone, resourcesClosed, policiesClosed⟩ a =
            first.absorb a := by
          simp [Pool.absorbed, Pool.find?, same]
        rw [absorbed, noting, if_pos same, Pool.put, name_absorb, if_pos rfl, unite_eq_absorb]
      · have absorbed : Pool.absorbed ⟨first :: rest, gone, resourcesClosed, policiesClosed⟩ a =
            Pool.absorbed ⟨rest, gone, resourcesClosed, policiesClosed⟩ a := by
          simp [Pool.absorbed, Pool.find?, same]
        rw [absorbed, noting, if_neg same, Pool.put, Pool.name_absorbed, if_neg same, ih]

structure Mirrors (s : Survey) (p : Pool) : Prop where
  held : s.held = p.pending
  gone : s.gone = p.emitted
  closed : ∀ side, s.closed side = p.isClosed side

structure Follows (s : Survey) (m : Merger) : Prop where
  mirrors : s.Mirrors m.pool
  kept : s.kept = m.outputKept
  ended : m.ended = (s.ended || m.pool.bothClosed)

variable {s : Survey} {p : Pool} {m : Merger}

theorem Mirrors.flagged (mirrors : s.Mirrors p) (kept ended : Bool) :
    Mirrors { s with kept := kept, ended := ended } p :=
  ⟨mirrors.held, mirrors.gone, mirrors.closed⟩

theorem Mirrors.complete (mirrors : s.Mirrors p) : s.complete = p.isReady := by
  funext a
  have resources := mirrors.closed .resource
  have policies := mirrors.closed .policy
  simp only [Pool.isClosed] at resources policies
  cases resource : a.resource <;> cases policy : a.policy <;>
    simp [Survey.complete, Pool.isReady, has, resource, policy, resources, policies]

theorem Mirrors.note (mirrors : s.Mirrors p) (a : Asset) : (s.note a).Mirrors (p.absorbing a) := by
  by_cases left : a.name ∈ p.emitted
  · rw [Survey.note, mirrors.gone, if_pos left, Pool.absorbing, if_pos left]
    exact mirrors
  · rw [Survey.note, mirrors.gone, if_neg left, Pool.absorbing, if_neg left, mirrors.held,
      noting_eq_put]
    exact ⟨rfl, rfl, mirrors.closed⟩

theorem Mirrors.shut (mirrors : s.Mirrors p) (side : Facet) :
    (s.shut side).Mirrors (p.markClosed side) where
  held := by rw [Pool.pending_markClosed, ← mirrors.held, Survey.shut]
  gone := by rw [Pool.emitted_markClosed, ← mirrors.gone, Survey.shut]
  closed other := by rw [Pool.isClosed_markClosed, ← mirrors.closed other, Survey.shut]

/-- What a survey finds complete is what the pool lets go, and a refused emission ends both. -/
theorem Mirrors.scan (mirrors : s.Mirrors p) (kept : s.kept = m.outputKept) (going : s.ended = false) :
    (m.emit p.drain.1 p.drain.2).1 = s.scan.1 ∧
      s.scan.2.Follows (m.emit p.drain.1 p.drain.2).2 := by
  have leaving : s.held.filter s.complete = p.drain.1 := by rw [mirrors.held, mirrors.complete]; rfl
  have evicted : ∀ ended, Mirrors ⟨s.held.filter fun a => !s.complete a,
      s.gone ++ p.drain.1.map (·.name), s.closed, s.kept, ended⟩ p.drain.2 := by
    intro ended
    exact ⟨by rw [mirrors.held, mirrors.complete]; rfl, by rw [mirrors.gone]; rfl, mirrors.closed⟩
  have refuses : (!p.drain.1.isEmpty && !m.outputKept) = !(s.kept || p.drain.1.isEmpty) := by
    rw [kept, Bool.not_or, Bool.and_comm]
  rw [emit, Survey.scan, leaving, refuses]
  cases s.kept || p.drain.1.isEmpty with
  | true =>
      refine ⟨rfl, evicted _, kept, ?_⟩
      change (if p.drain.2.bothClosed then some (.ok ()) else none : Option (Outcome Unit)).isSome =
        (s.ended || p.drain.2.bothClosed)
      rw [going]
      cases p.drain.2.bothClosed <;> rfl
  | false => exact ⟨rfl, evicted _, kept, rfl⟩

theorem Follows.hears (follows : s.Follows m) (side : Facet) : s.hears side = m.listens side := by
  have shut : m.pool.bothClosed = true → m.pool.isClosed side = true :=
    fun both => (m.pool.bothClosed_iff.mp both) side
  rw [Survey.hears, listens, follows.ended, follows.mirrors.closed]
  cases s.ended <;> cases both : m.pool.bothClosed <;> simp_all

theorem Follows.going (follows : s.Follows m) (side : Facet) (heard : m.listens side = true) :
    s.ended = false := by
  rw [← follows.hears side, Survey.hears] at heard
  simp_all

theorem Follows.step (follows : s.Follows m) (consistent : m.pool.Consistent) (e : Event) :
    (m.step e).1.emitted = (s.step e).1 ∧ (s.step e).2.Follows (m.step e).2 := by
  cases e with
  | observe side a =>
      rw [step_observe, Survey.step, follows.hears]
      split
      · rename_i heard
        rw [Pool.observe_eq_drain m.pool a consistent]
        have noted : (s.note a).kept = s.kept ∧ (s.note a).ended = s.ended := by
          rw [Survey.note]
          split <;> exact ⟨rfl, rfl⟩
        exact (follows.mirrors.note a).scan (noted.1.trans follows.kept)
          (noted.2.trans (follows.going side heard))
      · exact ⟨rfl, follows⟩
  | close side =>
      rw [step_close, Survey.step, follows.hears]
      split
      · rename_i heard
        exact (follows.mirrors.shut side).scan follows.kept (follows.going side heard)
      · exact ⟨rfl, follows⟩
  | fail side f =>
      rw [step_fail, Survey.step, follows.hears]
      split
      · exact ⟨rfl, follows.mirrors.flagged _ _, follows.kept, rfl⟩
      · exact ⟨rfl, follows⟩
  | cancel =>
      rw [Merger.step, Survey.step]
      split
      · rename_i stopped
        exact ⟨rfl, follows.mirrors.flagged _ _, follows.kept, stopped⟩
      · exact ⟨rfl, follows.mirrors.flagged _ _, follows.kept, rfl⟩
  | dropOutput => exact ⟨rfl, follows.mirrors.flagged _ _, rfl, follows.ended⟩

theorem Follows.run (follows : s.Follows m) (consistent : m.pool.Consistent) (events : List Event) :
    (m.run events).1.map (·.emitted) = (Steps.run Survey.step s events).1 := by
  induction events generalizing s m with
  | nil => rfl
  | cons e rest ih =>
      obtain ⟨same, next⟩ := follows.step consistent e
      have later := ih next (step_consistent m e consistent)
      simp only [Merger.run, Steps.run, List.map_cons, same, later]

theorem follows_start : Survey.start.Follows Merger.start where
  mirrors := ⟨rfl, rfl, fun side => by cases side <;> rfl⟩
  kept := rfl
  ended := rfl

end Survey

namespace Merger

/-- At every single event of every run, a merger that goes through everything it holds emits what the
merger emits that looks at the touched asset alone. -/
theorem emits_as_surveyed (events : List Event) :
    (start.run events).1.map (·.emitted) = (Steps.run Survey.step Survey.start events).1 :=
  Survey.follows_start.run Pool.empty_consistent events

end Merger
end CloudCensus
