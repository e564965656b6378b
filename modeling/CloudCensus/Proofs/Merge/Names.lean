import CloudCensus.Proofs.Merge.Run

namespace CloudCensus

namespace Asset

section absorb

variable (a b : Asset)

theorem resource_absorb : (a.absorb b).resource = a.resource ∨ (a.absorb b).resource = b.resource := by
  cases found : b.resource with
  | none => exact .inl (by simp [absorb, found])
  | some r => exact .inr (by simp [absorb, found])

theorem policy_absorb : (a.absorb b).policy = a.policy ∨ (a.absorb b).policy = b.policy := by
  cases found : b.policy with
  | none => exact .inl (by simp [absorb, found])
  | some p => exact .inr (by simp [absorb, found])

theorem kind_absorb : (a.absorb b).kind = a.kind ∨ (a.absorb b).kind = b.kind := by
  simp only [absorb]
  split
  · exact .inr rfl
  · exact .inl rfl

theorem ancestors_absorb :
    (a.absorb b).ancestors = a.ancestors ∨ (a.absorb b).ancestors = b.ancestors := by
  simp only [absorb]
  split
  · exact .inr rfl
  · exact .inl rfl

theorem updated_absorb : (a.absorb b).updated = a.updated ∨ (a.absorb b).updated = b.updated := by
  change Instant.latest a.updated b.updated = _ ∨ Instant.latest a.updated b.updated = _
  cases a.updated with
  | none => exact .inr rfl
  | some first =>
      cases b.updated with
      | none => exact .inl rfl
      | some second =>
          simp only [Instant.latest]
          split
          · exact .inl rfl
          · exact .inr rfl

end absorb

theorem field_of_gather {β : Type} (field : Asset → β)
    (picks : ∀ a b : Asset, field (a.absorb b) = field a ∨ field (a.absorb b) = field b)
    (as : List Asset) (a : Asset) (gathered : gather as = some a) : ∃ b ∈ as, field b = field a := by
  induction as using List.reverseRecOn generalizing a with
  | nil => cases gathered
  | append_singleton front last ih =>
      rw [gather_concat] at gathered
      cases known : gather front with
      | none =>
          simp only [known, Option.some.injEq] at gathered
          exact ⟨last, by simp, by rw [gathered]⟩
      | some first =>
          simp only [known, Option.some.injEq] at gathered
          subst gathered
          rcases picks first last with old | new
          · obtain ⟨b, member, same⟩ := ih first known
            exact ⟨b, List.mem_append_left _ member, by rw [same, old]⟩
          · exact ⟨last, by simp, new.symm⟩

end Asset

namespace Pool

open Asset

def only (name : String) (p : Pool) : Pool :=
  { p with pending := named name p.pending, emitted := p.emitted.filter (· = name) }

theorem named_put (name : String) (a : Asset) (as : List Asset) :
    named name (put a as) = if a.name = name then put a (named name as) else named name as := by
  induction as with
  | nil => by_cases own : a.name = name <;> simp [put, named, own]
  | cons first rest ih =>
      by_cases same : first.name = a.name
      · by_cases own : a.name = name <;> simp [put, named, same, own]
      · by_cases own : a.name = name
        · have other : first.name ≠ name := by rw [← own]; exact same
          have tail : named name (put a rest) = put a (named name rest) := by rw [ih, if_pos own]
          simp only [named] at tail ⊢
          simp [put, other, own, tail]
        · have tail : named name (put a rest) = named name rest := by rw [ih, if_neg own]
          simp only [named] at tail ⊢
          simp [put, same, own, tail, List.filter_cons]

theorem named_without_self (name : String) (as : List Asset) : named name (without name as) = [] := by
  simp [named, without, List.filter_filter]

theorem without_named_self (name : String) (as : List Asset) : without name (named name as) = [] := by
  simp [named, without, List.filter_filter]

theorem named_without_other (name gone : String) (as : List Asset) (other : gone ≠ name) :
    named name (without gone as) = named name as := by
  simp only [named, without, List.filter_filter]
  apply List.filter_congr
  intro a _
  by_cases own : a.name = name <;> simp [own, Ne.symm other]

theorem absorbed_only (p : Pool) (a : Asset) : (p.only a.name).absorbed a = p.absorbed a := by
  have found : (p.only a.name).find? a.name = p.find? a.name := by
    simp [find?, only, named, List.find?_filter]
  simp only [absorbed, found]

theorem observe_only_self (p : Pool) (a : Asset) :
    (p.only a.name).observe a = ((p.observe a).1, (p.observe a).2.only a.name) := by
  have named_absorbed : (p.absorbed a).name = a.name := name_absorbed p a
  have inside : a.name ∈ (p.only a.name).emitted ↔ a.name ∈ p.emitted := by simp [only]
  have ready : (p.only a.name).isReady (p.absorbed a) = p.isReady (p.absorbed a) := rfl
  rcases observe_cases p a with ⟨left, same⟩ | ⟨fresh, complete, same⟩ | ⟨fresh, waiting, same⟩
  · rw [same]
    rw [observe, if_pos (inside.mpr left)]
  · rw [same]
    simp only [observe, if_neg (mt inside.mp fresh), absorbed_only, ready, if_pos complete,
      named_absorbed]
    simp [only, named_without_self, without_named_self]
  · rw [same]
    have waits : ¬ p.isReady (p.absorbed a) = true := by simp [waiting]
    simp only [observe, if_neg (mt inside.mp fresh), absorbed_only, ready, if_neg waits]
    simp [only, named_put, named_absorbed]

theorem named_observe (p : Pool) (a : Asset) : named a.name (p.observe a).1 = (p.observe a).1 := by
  have named_absorbed : (p.absorbed a).name = a.name := name_absorbed p a
  rcases observe_cases p a with ⟨_, same⟩ | ⟨_, _, same⟩ | ⟨_, _, same⟩ <;>
    simp [same, named, named_absorbed]

theorem observe_only_other (p : Pool) (a : Asset) (name : String) (other : a.name ≠ name) :
    named name (p.observe a).1 = [] ∧ (p.observe a).2.only name = p.only name := by
  have apart : (p.absorbed a).name ≠ name := by rw [name_absorbed]; exact other
  rcases observe_cases p a with ⟨_, same⟩ | ⟨_, _, same⟩ | ⟨_, _, same⟩
  · rw [same]
    exact ⟨rfl, rfl⟩
  · rw [same]
    constructor
    · simp [named, apart]
    · simp [only, named_without_other name a.name _ other, other]
  · rw [same]
    constructor
    · rfl
    · simp [only, named_put, apart]

theorem markClosed_only (p : Pool) (name : String) (side : Facet) :
    (p.only name).markClosed side = (p.markClosed side).only name := by
  cases side <;> rfl

theorem close_only (p : Pool) (name : String) (side : Facet) :
    (p.only name).close side = (named name (p.close side).1, (p.close side).2.only name) := by
  have ready (q : Pool) : (q.only name).isReady = q.isReady := rfl
  have both (q : Pool) (keep : Asset → Bool) :
      (named name q.pending).filter keep = named name (q.pending.filter keep) := List.filter_comm _ _ _
  rw [close, markClosed_only, close]
  simp only [drain, ready]
  simp only [only, both, List.filter_append, List.filter_map]
  rfl

theorem bothClosed_observe (p : Pool) (a : Asset) : (p.observe a).2.bothClosed = p.bothClosed := by
  apply Bool.eq_iff_iff.mpr
  rw [bothClosed_iff, bothClosed_iff]
  exact forall_congr' fun side => by rw [isClosed_observe]

end Pool

namespace Merger

open Asset

def only (name : String) (m : Merger) : Merger := { m with pool := m.pool.only name }

def Event.concerns (name : String) : Event → Bool
  | .observe _ a => a.name = name
  | _ => true

def about (name : String) (events : List Event) : List Event := events.filter (·.concerns name)

def Reply.about (name : String) (reply : Reply) : Reply := ⟨reply.delivered, named name reply.emitted⟩

theorem emit_kept (m : Merger) (out : List Asset) (pool : Pool) (kept : m.outputKept = true) :
    m.emit out pool =
      (out, { m with pool := pool, result := if pool.bothClosed then some (.ok ()) else none }) := by
  simp [emit, kept]

theorem running_of_listens (m : Merger) (side : Facet) (heard : m.listens side = true) :
    m.result = none ∧ m.pool.bothClosed = false := by
  obtain ⟨runs, unclosed⟩ : m.ended = false ∧ m.pool.isClosed side = false := by
    simpa [listens] using heard
  constructor
  · simpa [ended] using runs
  · by_contra both
    have closed := m.pool.bothClosed_iff.mp (by simpa using both) side
    rw [unclosed] at closed
    cases closed

section step

variable (m : Merger) (kept : m.outputKept = true) (name : String) (e : Event)

include kept in
theorem step_only (concerned : e.concerns name = true) :
    (m.only name).step e = ((m.step e).1.about name, (m.step e).2.only name) := by
  have alike (side : Facet) : (m.only name).listens side = m.listens side := rfl
  have keptToo : (m.only name).outputKept = true := kept
  cases e with
  | observe side a =>
      obtain rfl : a.name = name := of_decide_eq_true concerned
      have projected : (m.only a.name).pool.observe a =
          ((m.pool.observe a).1, (m.pool.observe a).2.only a.name) := m.pool.observe_only_self a
      have own := m.pool.named_observe a
      rw [step_observe, step_observe, alike]
      by_cases heard : m.listens side = true
      · rw [if_pos heard, if_pos heard, projected, emit_kept _ _ _ kept, emit_kept _ _ _ keptToo]
        simp only [Reply.about, own]
        rfl
      · rw [if_neg heard, if_neg heard]
        rfl
  | close side =>
      have projected : (m.only name).pool.close side =
          (named name (m.pool.close side).1, (m.pool.close side).2.only name) :=
        m.pool.close_only name side
      rw [step_close, step_close, alike]
      by_cases heard : m.listens side = true
      · rw [if_pos heard, if_pos heard, projected, emit_kept _ _ _ kept, emit_kept _ _ _ keptToo]
        rfl
      · rw [if_neg heard, if_neg heard]
        rfl
  | fail side f =>
      rw [step_fail, step_fail, alike]
      by_cases heard : m.listens side = true
      · rw [if_pos heard, if_pos heard]
        rfl
      · rw [if_neg heard, if_neg heard]
        rfl
  | cancel =>
      have running : (m.only name).ended = m.ended := rfl
      simp only [step, running]
      cases m.ended <;> rfl
  | dropOutput => rfl

include kept in
/-- An observation of another name leaves a name as it is. -/
theorem step_other (unconcerned : e.concerns name = false) :
    named name (m.step e).1.emitted = [] ∧ (m.step e).2.only name = m.only name := by
  cases e with
  | observe side a =>
      have other : a.name ≠ name := of_decide_eq_false unconcerned
      obtain ⟨nothing, unchanged⟩ := m.pool.observe_only_other a name other
      rw [step_observe]
      by_cases heard : m.listens side = true
      · obtain ⟨running, unclosed⟩ := running_of_listens m side heard
        have still : (m.pool.observe a).2.bothClosed = false := by
          rw [Pool.bothClosed_observe]
          exact unclosed
        rw [if_pos heard, emit_kept _ _ _ kept, still]
        refine ⟨nothing, ?_⟩
        simp [only, unchanged, running]
      · rw [if_neg heard]
        exact ⟨rfl, rfl⟩
  | close side => cases unconcerned
  | fail side f => cases unconcerned
  | cancel => cases unconcerned
  | dropOutput => cases unconcerned

end step

theorem outputKept_of_undropped (events : List Event) (kept : .dropOutput ∉ events) :
    (after events).outputKept = true := by
  induction events using List.reverseRecOn with
  | nil => rfl
  | append_singleton past last ih =>
      simp only [List.mem_append, List.mem_singleton, not_or] at kept
      rw [after_concat]
      exact (outputKept_step _ last).mpr ⟨ih kept.1, Ne.symm kept.2⟩

theorem about_concat (name : String) (past : List Event) (e : Event) :
    about name (past ++ [e]) = if e.concerns name then about name past ++ [e] else about name past := by
  cases concerned : e.concerns name <;> simp [about, concerned]

theorem after_about (name : String) (events : List Event) (kept : .dropOutput ∉ events) :
    after (about name events) = (after events).only name := by
  induction events using List.reverseRecOn with
  | nil => rfl
  | append_singleton past last ih =>
      have before : .dropOutput ∉ past := fun dropped => kept (List.mem_append_left _ dropped)
      have output := outputKept_of_undropped past before
      rw [about_concat, after_concat]
      cases concerned : last.concerns name with
      | true =>
          rw [if_pos rfl, after_concat, ih before, step_only _ output name last concerned]
      | false =>
          rw [if_neg Bool.false_ne_true, ih before, (step_other _ output name last concerned).2]

theorem emissions_about (name : String) (events : List Event) (kept : .dropOutput ∉ events) :
    start.emissions (about name events) = named name (start.emissions events) := by
  induction events using List.reverseRecOn with
  | nil => rfl
  | append_singleton past last ih =>
      have before : .dropOutput ∉ past := fun dropped => kept (List.mem_append_left _ dropped)
      have output := outputKept_of_undropped past before
      rw [about_concat, emissions_concat, named_append, ← ih before]
      cases concerned : last.concerns name with
      | true =>
          rw [if_pos rfl, emissions_concat, after_about name past before,
            step_only _ output name last concerned]
          rfl
      | false =>
          rw [if_neg Bool.false_ne_true, (step_other _ output name last concerned).1, List.append_nil]

theorem observe_of_mem_intake (events : List Event) (b : Asset) (taken : b ∈ start.intake events) :
    ∃ side, .observe side b ∈ events := by
  induction events using List.reverseRecOn with
  | nil => cases taken
  | append_singleton past last ih =>
      rw [intake_concat] at taken
      rcases List.mem_append.mp taken with earlier | now
      · obtain ⟨side, seen⟩ := ih earlier
        exact ⟨side, List.mem_append_left _ seen⟩
      · cases last with
        | observe side a =>
            simp only [Merger.taken] at now
            split at now
            · exact ⟨side, by simp [List.mem_singleton.mp now]⟩
            · cases now
        | close side => cases now
        | fail side f => cases now
        | cancel => cases now
        | dropOutput => cases now

def Observed {β : Type} (events : List Event) (name : String) (field : Asset → β) (value : β) : Prop :=
  ∃ side b, .observe side b ∈ events ∧ b.name = name ∧ field b = value

theorem observed_of_emitted {β : Type} (field : Asset → β)
    (picks : ∀ a b : Asset, field (a.absorb b) = field a ∨ field (a.absorb b) = field b)
    (events : List Event) (a : Asset) (out : a ∈ start.emissions events) :
    Observed events a.name field (field a) := by
  obtain ⟨past, e, rest, rfl, here⟩ := mem_emissions events a out
  obtain ⟨gathered, _⟩ := emitted_gathers past e a here
  obtain ⟨b, member, same⟩ := field_of_gather field picks _ a gathered
  obtain ⟨taken, own⟩ := (mem_named _ _ _).mp member
  obtain ⟨side, seen⟩ := observe_of_mem_intake _ b taken
  refine ⟨side, b, ?_, own, same⟩
  rw [List.append_cons]
  exact List.mem_append_left rest seen

/-- Deleting the observations of all names but one changes neither whether, nor at which event, nor with
which content that name is emitted, and no field of an emitted asset comes from another name. -/
theorem names_apart (name : String) (events : List Event) (kept : .dropOutput ∉ events) :
    (∀ past e rest, events = past ++ e :: rest →
      if e.concerns name then
        about name events = about name past ++ e :: about name rest ∧
          ((after (about name past)).step e).1 = ((after past).step e).1.about name
      else named name ((after past).step e).1.emitted = []) ∧
    start.emissions (about name events) = named name (start.emissions events) ∧
    ∀ a ∈ start.emissions events, a.name = name →
      Observed events name (·.resource) a.resource ∧ Observed events name (·.policy) a.policy ∧
        Observed events name (·.kind) a.kind ∧ Observed events name (·.ancestors) a.ancestors ∧
        Observed events name (·.updated) a.updated := by
  refine ⟨?_, ?_, ?_⟩
  · intro past e rest split
    have before : .dropOutput ∉ past := fun dropped => kept (by simp [split, dropped])
    have output := outputKept_of_undropped past before
    cases concerned : e.concerns name with
    | true =>
        rw [if_pos rfl, after_about name past before, step_only _ output name e concerned, split]
        exact ⟨by simp [about, concerned], rfl⟩
    | false =>
        rw [if_neg Bool.false_ne_true]
        exact (step_other _ output name e concerned).1
  · exact emissions_about name events kept
  · rintro a out rfl
    exact ⟨observed_of_emitted _ resource_absorb events a out,
      observed_of_emitted _ policy_absorb events a out,
      observed_of_emitted _ kind_absorb events a out,
      observed_of_emitted _ ancestors_absorb events a out,
      observed_of_emitted _ updated_absorb events a out⟩

def mingled : List Event :=
  [.observe .resource ⟨"a", "", ["projects/1"], some .empty, none, none⟩,
    .observe .policy ⟨"b", "disk", [], none, some .null, none⟩,
    .observe .resource ⟨"b", "", [], some .empty, none, none⟩,
    .observe .policy ⟨"a", "bucket", [], none, some .null, none⟩, .cancel]

theorem names_apart_mingled :
    .dropOutput ∉ mingled ∧ (about "a" mingled).length = 3 ∧
      start.emissions (about "a" mingled) = named "a" (start.emissions mingled) ∧
      (start.emissions mingled).map (·.name) = ["b", "a"] ∧
      named "a" ((after (mingled.take 2)).step (mingled.getD 2 .cancel)).1.emitted = [] := by
  have kept : .dropOutput ∉ mingled := by simp [mingled]
  obtain ⟨here, whole, _⟩ := names_apart "a" mingled kept
  exact ⟨kept, rfl, whole, rfl, here (mingled.take 2) _ (mingled.drop 3) rfl⟩

end Merger
end CloudCensus
