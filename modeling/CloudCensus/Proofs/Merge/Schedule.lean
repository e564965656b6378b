import CloudCensus.Listing.Merged
import CloudCensus.Proofs.Merge.Run

namespace CloudCensus.Merger

open Asset

def Event.side? : Event → Option Facet
  | .observe side _ => some side
  | .fail side _ => some side
  | .close side => some side
  | .cancel => none
  | .dropOutput => none

def sent (side : Facet) (events : List Event) : List Event :=
  events.filter (fun e => e.side? = some side)

/-- An interleaving of the queues of the two sides and of nothing else. -/
structure Schedule (queues : Facet → List (Outcome Asset)) (events : List Event) : Prop where
  ordered : ∀ side, sent side events = queueEvents side (queues side)
  sided : ∀ e ∈ events, e.side?.isSome = true

def sequential (queues : Facet → List (Outcome Asset)) : List Event :=
  queueEvents .resource (queues .resource) ++ queueEvents .policy (queues .policy)

def finished (listing : Facet → List Asset) (side : Facet) : List (Outcome Asset) :=
  (listing side).map .ok

def observed (side : Facet) (events : List Event) : List Asset :=
  (sent side events).filterMap fun
    | .observe _ a => some a
    | _ => none

theorem side_of_mem_queueEvents (side : Facet) (queue : List (Outcome Asset)) (e : Event)
    (member : e ∈ queueEvents side queue) : e.side? = some side := by
  rcases List.mem_append.mp member with item | last
  · obtain ⟨outcome, _, rfl⟩ := List.mem_map.mp item
    cases outcome <;> rfl
  · rw [List.mem_singleton.mp last]
    rfl

theorem sent_queueEvents (side sender : Facet) (queue : List (Outcome Asset)) :
    sent side (queueEvents sender queue) =
      if sender = side then queueEvents sender queue else [] := by
  split
  · rename_i same
    apply List.filter_eq_self.mpr
    intro e member
    simp [side_of_mem_queueEvents sender queue e member, same]
  · rename_i other
    apply List.filter_eq_nil_iff.mpr
    intro e member
    simp [side_of_mem_queueEvents sender queue e member, other]

theorem sequential_schedule (queues : Facet → List (Outcome Asset)) :
    Schedule queues (sequential queues) where
  ordered := by
    intro side
    rw [sequential, sent, List.filter_append]
    change sent side _ ++ sent side _ = _
    rw [sent_queueEvents, sent_queueEvents]
    cases side <;> simp
  sided := by
    intro e member
    rcases List.mem_append.mp member with first | second
    · rw [side_of_mem_queueEvents .resource _ e first]
      rfl
    · rw [side_of_mem_queueEvents .policy _ e second]
      rfl

def sightings : Facet → List Asset
  | .resource => [⟨"a", "", [], some .empty, none, none⟩, ⟨"b", "", [], some .empty, none, none⟩]
  | .policy => [⟨"b", "disk", [], none, some .null, none⟩, ⟨"c", "", [], none, none, none⟩]

def tangled : List Event :=
  [.observe .policy ⟨"b", "disk", [], none, some .null, none⟩,
    .observe .resource ⟨"a", "", [], some .empty, none, none⟩,
    .observe .policy ⟨"c", "", [], none, none, none⟩, .close .policy,
    .observe .resource ⟨"b", "", [], some .empty, none, none⟩, .close .resource]

theorem tangled_schedule : Schedule (finished sightings) tangled where
  ordered := by intro side; cases side <;> rfl
  sided := by decide

theorem queueEvents_finished (listing : Facet → List Asset) (side : Facet) :
    queueEvents side (finished listing side) =
      (listing side).map (.observe side) ++ [.close side] := by
  simp [queueEvents, finished]

theorem sent_append (side : Facet) (front back : List Event) :
    sent side (front ++ back) = sent side front ++ sent side back :=
  List.filter_append front back

theorem observed_append (side : Facet) (front back : List Event) :
    observed side (front ++ back) = observed side front ++ observed side back := by
  simp [observed, sent_append]

theorem last_of_append {α : Type} (front back items : List α) (last : α)
    (same : front ++ back = items ++ [last]) (fresh : last ∉ items) (here : last ∈ front) :
    back = [] := by
  induction back using List.reverseRecOn with
  | nil => rfl
  | append_singleton middle final _ =>
      rw [← List.append_assoc] at same
      have earlier := (List.append_inj' same rfl).1
      rw [← earlier] at fresh
      exact absurd (List.mem_append_left _ here) fresh

section finished

variable {listing : Facet → List Asset}

theorem event_of_finished (events : List Event) (schedule : Schedule (finished listing) events)
    (e : Event) (member : e ∈ events) :
    (∃ side, ∃ a ∈ listing side, e = .observe side a) ∨ ∃ side, e = .close side := by
  obtain ⟨side, sender⟩ := Option.isSome_iff_exists.mp (schedule.sided e member)
  have inside : e ∈ sent side events := List.mem_filter.mpr ⟨member, by simp [sender]⟩
  rw [schedule.ordered, queueEvents_finished] at inside
  rcases List.mem_append.mp inside with item | last
  · obtain ⟨a, present, same⟩ := List.mem_map.mp item
    exact .inl ⟨side, a, present, same.symm⟩
  · exact .inr ⟨side, List.mem_singleton.mp last⟩

theorem observed_finished (events : List Event) (schedule : Schedule (finished listing) events)
    (side : Facet) : observed side events = listing side := by
  rw [observed, schedule.ordered, queueEvents_finished]
  simp [List.filterMap_map]

theorem close_mem_finished (events : List Event) (schedule : Schedule (finished listing) events)
    (side : Facet) : .close side ∈ events := by
  have last : .close side ∈ sent side events := by
    rw [schedule.ordered, queueEvents_finished]
    simp
  exact (List.mem_filter.mp last).1

theorem sent_after_close (past rest : List Event)
    (schedule : Schedule (finished listing) (past ++ rest)) (side : Facet)
    (closed : .close side ∈ past) : sent side rest = [] := by
  have whole := schedule.ordered side
  rw [sent_append, queueEvents_finished] at whole
  apply last_of_append _ _ _ _ whole
  · simp
  · exact List.mem_filter.mpr ⟨closed, by simp [Event.side?]⟩

theorem observed_of_closed (past rest : List Event)
    (schedule : Schedule (finished listing) (past ++ rest)) (side : Facet)
    (closed : .close side ∈ past) : observed side past = listing side := by
  rw [← observed_finished _ schedule side, observed_append]
  simp [observed, sent_after_close past rest schedule side closed]

theorem mem_listing_of_observed (past rest : List Event)
    (schedule : Schedule (finished listing) (past ++ rest)) (side : Facet) (a : Asset)
    (seen : a ∈ observed side past) : a ∈ listing side := by
  rw [← observed_finished _ schedule side, observed_append]
  exact List.mem_append_left _ seen

end finished

end CloudCensus.Merger
