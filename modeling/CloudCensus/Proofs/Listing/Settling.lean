import CloudCensus.Proofs.Listing.Sequential

namespace CloudCensus

open Merger

/-- One asset for each name that occurs in either listing. -/
def Covers (listing : Facet → List Asset) (assets : List Asset) : Prop :=
  (assets.map (·.name)).Nodup ∧
    ∀ name, name ∈ assets.map (·.name) ↔ ∃ side, ∃ a ∈ listing side, a.name = name

theorem covers_of_schedule (listing : Facet → List Asset) (events : List Event)
    (schedule : Schedule (finished listing) events) : Covers listing (start.emissions events) :=
  ⟨names_nodup_of_finished events schedule, mem_names_iff_of_finished events schedule⟩

theorem settle_fired (stages : List (Outcome Unit)) : settle true stages = .error .cancelled := rfl

/-- The failure of two listings that are read in turn: that of the resource listing, or that of the policy
listing if the resource listing comes to its end. -/
def BreaksFirst (requests : Facet → Request) (items : Facet → List Item) (f : Failure) : Prop :=
  Item.Breaks (requests .resource) (items .resource) f ∨
    (∃ assets : List Asset, items .resource = assets.map .calm) ∧
      Item.Breaks (requests .policy) (items .policy) f

theorem whole_unique {items : Facet → List Item} {listing other : Facet → List Asset}
    (whole : ∀ side, items side = (listing side).map .calm)
    (too : ∀ side, items side = (other side).map .calm) : listing = other := by
  have injective : Function.Injective Item.calm := fun a b same => (Item.asset.inj same).1
  funext side
  exact List.map_injective_iff.mpr injective ((whole side).symm.trans (too side))

theorem Item.Breaks.not_whole {request : Request} {items : Facet → List Item} {side : Facet}
    {f : Failure} (breaks : Item.Breaks request (items side) f) :
    ¬ ∃ listing : Facet → List Asset, ∀ side, items side = (listing side).map .calm := by
  rintro ⟨listing, whole⟩
  exact breaks.not_calm (whole side)

section first

variable {requests : Facet → Request} {items : Facet → List Item} {f g : Failure}

theorem BreaksFirst.not_whole (breaks : BreaksFirst requests items f) :
    ¬ ∃ listing : Facet → List Asset, ∀ side, items side = (listing side).map .calm := by
  rcases breaks with first | ⟨_, second⟩
  · exact first.not_whole
  · exact second.not_whole

theorem BreaksFirst.unique (breaks : BreaksFirst requests items f)
    (too : BreaksFirst requests items g) : f = g := by
  rcases breaks with first | ⟨⟨_, calm⟩, second⟩
  · rcases too with firstToo | ⟨⟨_, calmToo⟩, _⟩
    · exact first.unique firstToo
    · exact absurd calmToo first.not_calm
  · rcases too with firstToo | ⟨_, secondToo⟩
    · exact absurd calm firstToo.not_calm
    · exact second.unique secondToo

end first

section tasks

variable {requests : Facet → Request} {items : Facet → List Item} {t : Tasks}

/-- Tasks that ended well have merged all assets of both listings. -/
theorem finished_of_fine (sound : Sound requests items t) (done : t.Done) (calm : t.fired = false)
    (fine : ∀ side, t.outcome side = some (.ok ())) :
    t.merger.result = some (.ok ()) ∧
      ∃ listing : Facet → List Asset, (∀ side, items side = (listing side).map .calm) ∧
        Schedule (finished listing) t.events := by
  rcases result_of_sided (sound.sided calm) with runs | ⟨result, both⟩ | ⟨side, f, sends, _⟩
  · have stopped := done.2
    rw [Tasks.merger, ended, runs] at stopped
    cases stopped
  · refine ⟨result, ?_⟩
    have told side := (sound.stage side).all_told (fine side) ((Pool.bothClosed_iff _).mp both side)
    choose listing whole sent using told
    refine ⟨listing, whole, ?_, sound.sided calm⟩
    intro side
    rw [sent, queueEvents_finished]
  · exact absurd sends ((sound.stage side).no_failure (fine side) f)

theorem settled_cases (sound : Sound requests items t) (done : t.Done) (calm : t.fired = false) :
    (settle false t.stages = .ok () ∧
      ∃ listing : Facet → List Asset, (∀ side, items side = (listing side).map .calm) ∧
        Schedule (finished listing) t.events) ∨
    ∃ side f, settle false t.stages = .error f ∧ Item.Breaks (requests side) (items side) f ∧
      (side = .policy → t.outcome .resource = some (.ok ())) := by
  rcases (sound.stage .resource).fair calm (done.1 .resource) with fine | ⟨f, failed, breaks⟩
  · rcases (sound.stage .policy).fair calm (done.1 .policy) with fineToo | ⟨f, failed, breaks⟩
    · have both : ∀ side, t.outcome side = some (.ok ()) := by
        intro side
        cases side with
        | resource => exact fine
        | policy => exact fineToo
      obtain ⟨result, listing⟩ := finished_of_fine sound done calm both
      refine .inl ⟨?_, listing⟩
      rw [Tasks.stages, fine, fineToo, result]
      rfl
    · refine .inr ⟨.policy, f, ?_, breaks, fun _ => fine⟩
      rw [Tasks.stages, fine, failed]
      rfl
  · refine .inr ⟨.resource, f, ?_, breaks, fun same => absurd same (by decide)⟩
    rw [Tasks.stages, failed]
    rfl

end tasks

section read

variable (inventory : Inventory) (parent : String) (kinds : List String)

theorem fired_read_iff (before : Bool) :
    (MergedListing.read inventory parent kinds before).fired = true ↔
      before = true ∨ ∃ side, Item.Fires (inventory ⟨parent, kinds, side⟩) := by
  change (produce _ _ true (produce _ _ true before).fired).fired = true ↔ _
  rw [fired_produce_iff, fired_produce_iff, or_assoc]
  constructor
  · rintro (already | first | second)
    · exact .inl already
    · exact .inr ⟨.resource, first⟩
    · exact .inr ⟨.policy, second⟩
  · rintro (already | ⟨side, fires⟩)
    · exact .inl already
    · cases side with
      | resource => exact .inr (.inl fires)
      | policy => exact .inr (.inr fires)

theorem calm_of_first_fine (before : Bool)
    (calm : (MergedListing.read inventory parent kinds before).fired = false)
    (fine : (MergedListing.read inventory parent kinds before).stages.head? = some (.ok ())) :
    ∃ assets : List Asset, inventory ⟨parent, kinds, .resource⟩ = assets.map .calm := by
  rw [← Bool.not_eq_true, fired_read_iff, not_or] at calm
  obtain ⟨never, nowhere⟩ := calm
  obtain rfl : before = false := Bool.eq_false_iff.mpr never
  rcases Item.comes_or_fires ⟨parent, kinds, .resource⟩ (inventory ⟨parent, kinds, .resource⟩) with
    ⟨assets, o, fails, comes⟩ | fires
  · have outcome := (produce_of_comes comes).1
    obtain rfl : o = .ok () := outcome.symm.trans (Option.some.inj fine)
    exact ⟨assets, comes.eq_calm⟩
  · exact absurd ⟨.resource, fires⟩ nowhere

/-- What is said of the tasks in any order of their turns holds of a listing that is read to its end,
and there the failure of the resource listing comes first. -/
theorem finish_cases (before : Bool)
    (calm : (MergedListing.read inventory parent kinds before).fired = false) :
    let items (side : Facet) : List Item := inventory ⟨parent, kinds, side⟩
    let l := MergedListing.read inventory parent kinds before
    (l.finish false = .ok () ∧
      ∃ listing : Facet → List Asset, (∀ side, items side = (listing side).map .calm) ∧
        Covers listing l.assets) ∨
    ∃ f, l.finish false = .error f ∧ BreaksFirst (fun side => ⟨parent, kinds, side⟩) items f := by
  intro items l
  obtain ⟨turns, done, fired, stages, assets⟩ := read_runs inventory parent kinds before
  have sound := sound_run (sound_begin (fun side => ⟨parent, kinds, side⟩) items before) turns
  rcases settled_cases sound done (fired.trans calm) with
    ⟨fine, listing, whole, schedule⟩ | ⟨side, f, failed, breaks, first⟩
  · rw [stages] at fine
    refine .inl ⟨fine, listing, whole, ?_⟩
    have covers := covers_of_schedule listing _ schedule
    rw [assets] at covers
    exact covers
  · rw [stages] at failed
    refine .inr ⟨f, failed, ?_⟩
    cases side with
    | resource => exact .inl breaks
    | policy =>
        refine .inr ⟨calm_of_first_fine inventory parent kinds before calm ?_, breaks⟩
        rw [← stages, Tasks.stages, first rfl]
        rfl

end read

section outcome

variable {items : Facet → List Item} {assets : List Asset} {fired : Bool} {result : Outcome Unit}
  {cause : Failure → Prop}

structure Settled (items : Facet → List Item) (assets : List Asset) (fired : Bool) (result : Outcome Unit)
    (cause : Failure → Prop) : Prop where
  cancelled : fired = true → result = .error .cancelled
  calm : fired = false →
    (result = .ok () ∧ ∃ listing : Facet → List Asset,
      (∀ side, items side = (listing side).map .calm) ∧ Covers listing assets) ∨
    ∃ f, result = .error f ∧ cause f
  broken : ∀ f, cause f → ¬ ∃ listing : Facet → List Asset, ∀ side, items side = (listing side).map .calm

theorem Settled.ok_iff (settled : Settled items assets fired result cause) :
    result = .ok () ↔ fired = false ∧
      ∃ listing : Facet → List Asset, ∀ side, items side = (listing side).map .calm := by
  cases fired with
  | true =>
      rw [settled.cancelled rfl]
      simp
  | false =>
      rcases settled.calm rfl with ⟨fine, listing, whole, _⟩ | ⟨f, failed, because⟩
      · exact ⟨fun _ => ⟨rfl, listing, whole⟩, fun _ => fine⟩
      · rw [failed]
        exact ⟨nofun, fun fine => absurd fine.2 (settled.broken f because)⟩

theorem Settled.covers (settled : Settled items assets fired result cause) (calm : fired = false)
    (listing : Facet → List Asset) (whole : ∀ side, items side = (listing side).map .calm) :
    Covers listing assets := by
  rcases settled.calm calm with ⟨_, other, too, covers⟩ | ⟨f, _, because⟩
  · rw [whole_unique whole too]
    exact covers
  · exact absurd ⟨listing, whole⟩ (settled.broken f because)

theorem Settled.of_error (settled : Settled items assets fired result cause) {f : Failure}
    (failed : result = .error f) :
    (fired = true ∧ f = .cancelled) ∨ (fired = false ∧ cause f) := by
  cases fired with
  | true =>
      rw [settled.cancelled rfl] at failed
      exact .inl ⟨rfl, (Except.error.inj failed).symm⟩
  | false =>
      rcases settled.calm rfl with ⟨fine, _⟩ | ⟨g, other, because⟩
      · rw [fine] at failed
        cases failed
      · obtain rfl : g = f := Except.error.inj (other.symm.trans failed)
        exact .inr ⟨rfl, because⟩

theorem Settled.error_iff (settled : Settled items assets fired result cause)
    (unique : ∀ f g, cause f → cause g → f = g) (f : Failure) :
    result = .error f ↔ (fired = true ∧ f = .cancelled) ∨ (fired = false ∧ cause f) := by
  refine ⟨settled.of_error, ?_⟩
  rintro (⟨now, rfl⟩ | ⟨calm, because⟩)
  · exact settled.cancelled now
  · rcases settled.calm calm with ⟨_, listing, whole, _⟩ | ⟨g, failed, too⟩
    · exact absurd ⟨listing, whole⟩ (settled.broken f because)
    · rw [failed, unique g f too because]

end outcome

theorem settled_read (inventory : Inventory) (parent : String) (kinds : List String) (before late : Bool) :
    let items (side : Facet) : List Item := inventory ⟨parent, kinds, side⟩
    let l := MergedListing.read inventory parent kinds before
    Settled items l.assets (l.fired || late) (l.finish (l.fired || late))
      (BreaksFirst (fun side => ⟨parent, kinds, side⟩) items) := by
  intro items l
  refine ⟨?_, ?_, fun f breaks => breaks.not_whole⟩
  · intro now
    rw [MergedListing.finish, now, settle_fired]
  · intro calm
    have unfired : l.fired = false := (Bool.or_eq_false_iff.mp calm).1
    rw [calm]
    exact finish_cases inventory parent kinds before unfired

theorem settled_later (inventory : Inventory) (parent : String) (kinds : List String) (before late : Bool)
    (lasting : (MergedListing.read inventory parent kinds before).fired = true → late = true) :
    let items (side : Facet) : List Item := inventory ⟨parent, kinds, side⟩
    let l := MergedListing.read inventory parent kinds before
    Settled items l.assets late (l.finish late) (BreaksFirst (fun side => ⟨parent, kinds, side⟩) items) := by
  intro items l
  have same : (l.fired || late) = late := by
    cases fired : l.fired with
    | true => exact (lasting fired).symm
    | false => rfl
  exact same ▸ settled_read inventory parent kinds before late

theorem settled_tasks {requests : Facet → Request} {items : Facet → List Item} {t : Tasks}
    (sound : Sound requests items t) (done : t.Done) :
    Settled items (start.emissions t.events) t.fired (settle t.fired t.stages) fun f =>
      ∃ side, Item.Breaks (requests side) (items side) f ∧
        (side = .policy → t.outcome .resource = some (.ok ())) := by
  refine ⟨?_, ?_, ?_⟩
  · intro now
    rw [now, settle_fired]
  · intro calm
    rw [calm]
    rcases settled_cases sound done calm with
      ⟨fine, listing, whole, schedule⟩ | ⟨side, f, failed, breaks, first⟩
    · exact .inl ⟨fine, listing, whole, covers_of_schedule listing t.events schedule⟩
    · exact .inr ⟨f, failed, side, breaks, first⟩
  · rintro f ⟨side, breaks, _⟩
    exact breaks.not_whole

theorem not_fine_of_breaks {requests : Facet → Request} {items : Facet → List Item} {t : Tasks}
    (sound : Sound requests items t) (done : t.Done) (calm : t.fired = false) (side : Facet) (f : Failure)
    (breaks : Item.Breaks (requests side) (items side) f) : settle false t.stages ≠ .ok () := by
  intro fine
  rw [← calm] at fine
  exact breaks.not_whole ((settled_tasks sound done).ok_iff.mp fine).2

/-- The outcome of a merged listing.  Read to its end one listing after the other, it is fine exactly if
both listings come to their end and nobody cancels the run, and then there is one asset for each name of
either listing; otherwise it is the cancellation, the failure of the resource listing or that of the
policy listing, in this order.  In any other order of turns the same holds, but that a failure of the
policy listing may stop the resource listing before it fails. -/
theorem merged_listing_settles (inventory : Inventory) (parent : String) (kinds : List String)
    (before : Bool) :
    let requests (side : Facet) : Request := ⟨parent, kinds, side⟩
    let items (side : Facet) : List Item := inventory (requests side)
    let Whole (listing : Facet → List Asset) : Prop := ∀ side, items side = (listing side).map .calm
    (∀ late, let l := MergedListing.read inventory parent kinds before
      let fired := l.fired || late
      (l.fired = true ↔ before = true ∨ ∃ side, Item.Fires (items side)) ∧
        (l.finish fired = .ok () ↔ fired = false ∧ ∃ listing, Whole listing) ∧
        (fired = false → ∀ listing, Whole listing → Covers listing l.assets) ∧
        ∀ f, l.finish fired = .error f ↔
          (fired = true ∧ f = .cancelled) ∨ (fired = false ∧ BreaksFirst requests items f)) ∧
    ∀ turns, let t := (Tasks.begin items before).run requests turns
      t.Done →
        (settle t.fired t.stages = .ok () ↔ t.fired = false ∧ ∃ listing, Whole listing) ∧
        (t.fired = false → ∀ listing, Whole listing → Covers listing (start.emissions t.events)) ∧
        ∀ f, settle t.fired t.stages = .error f →
          (t.fired = true ∧ f = .cancelled) ∨
          (t.fired = false ∧ ∃ side, Item.Breaks (requests side) (items side) f ∧
            (side = .policy → t.outcome .resource = some (.ok ()))) := by
  intro requests items Whole
  refine ⟨?read, ?tasks⟩
  case read =>
    intro late l fired
    have settled : Settled items l.assets fired (l.finish fired) (BreaksFirst requests items) :=
      settled_read inventory parent kinds before late
    refine ⟨fired_read_iff inventory parent kinds before, settled.ok_iff, settled.covers, ?_⟩
    exact settled.error_iff fun f g breaks too => breaks.unique too
  case tasks =>
    intro turns t done
    have sound : Sound requests items t := sound_run (sound_begin requests items before) turns
    have settled := settled_tasks sound done
    exact ⟨settled.ok_iff, settled.covers, fun f failed => settled.of_error failed⟩

/-- The policy listing is denied before the resource listing has begun, which then stops at its first
asset. -/
def denial : List Turn :=
  [.listing .policy, .listing .policy, .listing .policy, .merger .policy, .merger .policy,
    .merger .policy, .listing .resource]

def refusal : Failure := .listing (disks .policy) (.because .permissionDenied (.stated "denied"))

theorem breaks_denied : Item.Breaks (disks .policy) (denied .policy).items refusal :=
  ⟨sightings .policy, _, _, rfl, .broken _ [] (by decide)⟩

theorem done_denial :
    ((Tasks.begin (fun side => (denied side).items) false).run disks denial).Done := by
  refine ⟨?_, by decide +kernel⟩
  intro side
  cases side <;> decide +kernel

theorem merged_listing_settles_denied :
    let inventory : Inventory := fun request => (denied request.facet).items
    let t := (Tasks.begin (fun side => (denied side).items) false).run disks denial
    (MergedListing.read inventory "projects/1" [Kind.disk] false).finish false = .error refusal ∧
      t.Done ∧ t.outcome .resource = some (.ok ()) ∧ settle t.fired t.stages = .error refusal ∧
      ∃ side, Item.Breaks (disks side) (denied side).items refusal := by
  intro inventory t
  have settles := merged_listing_settles inventory "projects/1" [Kind.disk] false
  have failed : settle t.fired t.stages = .error refusal := by decide +kernel
  refine ⟨?_, done_denial, by decide +kernel, failed, ?_⟩
  · exact ((settles.1 false).2.2.2 refusal).mpr
      (.inr ⟨by decide +kernel, .inr ⟨⟨sightings .resource, rfl⟩, breaks_denied⟩⟩)
  · have calm : t.fired = false := by decide +kernel
    rcases (settles.2 denial done_denial).2.2 refusal failed with ⟨fired, _⟩ | ⟨_, side, broken, _⟩
    · exact absurd (fired.symm.trans calm) nofun
    · exact ⟨side, broken⟩

end CloudCensus
