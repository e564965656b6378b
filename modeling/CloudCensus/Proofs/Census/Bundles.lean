import CloudCensus.Proofs.Census.Routines
import CloudCensus.Proofs.Grouping

namespace CloudCensus.Census

open Merger

/-- A bundle whose two lists split the assets of its group by their types and keep their order. -/
structure Splits (m : MonitoringKinds) (group : Group) (b : MonitoringBundle) : Prop where
  account : b.account = group.account
  logMetrics : b.logMetrics.Sublist group.assets
  alerts : b.alerts.Sublist group.assets
  all : (b.logMetrics ++ b.alerts).Perm group.assets
  metric : ∀ p ∈ b.logMetrics, p.asset.kind ∈ m.logMetrics
  alert : ∀ p ∈ b.alerts, p.asset.kind ∉ m.logMetrics

theorem splits_monitoringBundle (m : MonitoringKinds) (group : Group) :
    Splits m group (monitoringBundle m group) where
  account := rfl
  logMetrics := List.filter_sublist
  alerts := List.filter_sublist
  all := List.filter_append_perm _ _
  metric p member := by simpa using (List.mem_filter.mp member).2
  alert p member := by simpa using (List.mem_filter.mp member).2

section bundling

variable {α : Type} (src : Sources) (bundle : Group → α)

theorem handleAll_bundling (w : Walk) (assets : List Asset) :
    (bundling src bundle).handleAll w assets = w.placeAll src assets := by
  induction assets generalizing w with
  | nil => rfl
  | cons a rest ih =>
      rw [Walk.placeAll_cons, Routine.handleAll, ih]
      rfl

variable (sinkKept : Bool) (w : Walk) (listed : List Asset) (stages : List (Outcome Unit))

theorem walk_report_bundling :
    ((bundling src bundle).report sinkKept w listed stages).walk =
      ((bundling src bundle).pass sinkKept w listed).walk := by
  rw [Routine.report, Routine.leave]
  cases settle _ stages <;> rfl

theorem report_bundling_of_error (e : Failure)
    (failed : settle ((bundling src bundle).report sinkKept w listed stages).walk.fired stages = .error e) :
    let r := (bundling src bundle).report sinkKept w listed stages
    r.result = .error e ∧ r.sent = [] := by
  rw [walk_report_bundling] at failed
  rw [Routine.report, Routine.leave, failed]
  exact ⟨rfl, (pass_bundling src sinkKept w listed bundle).2⟩

theorem report_bundling_of_fine
    (calm : ((bundling src bundle).report true w listed stages).walk.fired = false)
    (fine : settle false stages = .ok ()) :
    let r := (bundling src bundle).report true w listed stages
    r.result = .ok () ∧ r.sent = (Group.byProject (w.placeAll src listed).1).map bundle := by
  rw [walk_report_bundling] at calm
  have careful := careful_bundling src bundle
  have passed := Desk.pass_of_calm careful w listed ((Desk.fired_pass careful w listed).symm.trans calm)
  rw [handleAll_bundling] at passed
  rw [passed] at calm
  rw [Routine.report, passed, Routine.leave]
  simp only [calm, fine, stopped, bundling, List.filterMap_none]
  exact ⟨rfl, rfl⟩

end bundling

variable (src : Sources) (config : Config)

def Bundled (g : Grouping) (w : Walk) (assets : List Asset) (sent : List g.Bundle) : Prop :=
  sent = (Group.byProject (w.placeAll src assets).1).map (g.bundle config) ∧
    (sent.map fun b => (g.account b).id).Pairwise (· < ·)

theorem bundled_map (g : Grouping) (w : Walk) (assets : List Asset) :
    Bundled src config g w assets ((Group.byProject (w.placeAll src assets).1).map (g.bundle config)) := by
  refine ⟨rfl, ?_⟩
  rw [List.map_map]
  have ids : ((fun b => (g.account b).id) ∘ g.bundle config) = fun group : Group => group.account.id := by
    funext group
    exact congrArg Account.id (g.account_bundle config group)
  rw [ids]
  exact Group.increasing_byProject _

/-- Bundles are sent all or not at all.  If a listing breaks or the run is cancelled, the operation fails
and nothing is sent; if both come to their end and nobody cancels, it sends one bundle per project.
In any order of turns nothing is sent before all tasks of the listing ended, whether they ended well
decides, and so does a cancellation before. -/
theorem bundles_all_or_none (g : Grouping) (sinkKept : Bool) (w : Walk) (asks : g.kinds config ≠ []) :
    let requests (side : Facet) : Request := ⟨src.scope.render, g.kinds config, side⟩
    let items (side : Facet) : List Item := src.inventory (requests side)
    let Breaks : Prop := ∃ side f, Item.Breaks (requests side) (items side) f
    let Whole (listing : Facet → List Asset) : Prop := ∀ side, items side = (listing side).map .calm
    (let l := MergedListing.read src.inventory src.scope.render (g.kinds config) w.fired
      let r := g.list src config sinkKept w
      (w.fired = true ∨ (∃ side, Item.Fires (items side)) ∨ Breaks ∨ r.walk.fired = true →
          (∃ e, r.result = .error e) ∧ r.sent = []) ∧
        (r.walk.fired = false → sinkKept = true → ∀ listing, Whole listing →
          r.result = .ok () ∧ Covers listing l.assets ∧
            Bundled src config g (w.noting l.requests l.fired l.ledger) l.assets r.sent)) ∧
    (∀ turns, let d := (Desk.begin w sinkKept).run (bundling src (g.bundle config)) turns
      (d.stages = none → d.sent = [] ∧ ¬ d.Closed) ∧
        (d.stages = none → d.walk.fired = true → ∀ more,
          let later := d.run (bundling src (g.bundle config)) more
          later.sent = [] ∧ ∀ o, later.phase = .closed o → o = .error .cancelled) ∧
        ∀ steps, let t := (Tasks.begin items w.fired).run requests steps
          t.Done → t.fired = false → d.stages = some t.stages →
            (Breaks → d.sent = [] ∧ ∀ o, d.phase = .closed o → ∃ e, o = .error e) ∧
            (d.walk.fired = false → d.sinkKept = true → d.listed = start.emissions t.events →
              ∀ o, d.phase = .closed o → ∀ listing, Whole listing →
                o = .ok () ∧ Covers listing d.listed ∧ Bundled src config g w d.listed d.sent)) ∧
    ∀ group, Splits config.monitoring group (monitoringBundle config.monitoring group) := by
  intro requests items Breaks Whole
  refine ⟨?performed, ?turns, splits_monitoringBundle config.monitoring⟩
  case performed =>
    intro l r
    let opened := w.noting l.requests l.fired l.ledger
    have performed : r = (bundling src (g.bundle config)).report sinkKept opened l.assets l.stages :=
      (g.list_eq src config sinkKept w).trans (Operation.report_bundling src sinkKept w _ _ asks)
    have lasting : l.fired = true → r.walk.fired = true := by
      rw [performed]
      exact (Routine.typed_report (careful_bundling src _) sinkKept opened _ _).remembers.lasting
    have settled : Settled items l.assets r.walk.fired (settle r.walk.fired l.stages)
        (BreaksFirst requests items) :=
      settled_later src.inventory src.scope.render (g.kinds config) w.fired r.walk.fired lasting
    constructor
    · intro stops
      have fired_or : r.walk.fired = true ∨ Breaks := by
        rw [← or_assoc, ← fired_read_iff src.inventory src.scope.render (g.kinds config)] at stops
        exact stops.elim (fun fired => .inl (lasting fired)) Or.symm
      -- What stops the operation is known by the time its tasks are asked how they ended.
      cases fails : settle r.walk.fired l.stages with
      | ok u =>
          obtain ⟨calm, whole⟩ := settled.ok_iff.mp fails
          rcases fired_or with fired | ⟨side, f, breaks⟩
          · exact absurd (fired.symm.trans calm) nofun
          · exact absurd whole breaks.not_whole
      | error e =>
          rw [performed] at fails ⊢
          obtain ⟨result, none⟩ := report_bundling_of_error src _ sinkKept opened l.assets l.stages e fails
          exact ⟨⟨e, result⟩, none⟩
    · rintro calm rfl listing whole
      have covers := settled.covers calm listing whole
      have fine : settle false l.stages = .ok () := calm ▸ settled.ok_iff.mpr ⟨calm, listing, whole⟩
      rw [performed] at calm ⊢
      obtain ⟨result, sent⟩ := report_bundling_of_fine src _ opened l.assets l.stages calm fine
      rw [sent]
      exact ⟨result, covers, bundled_map src config g opened l.assets⟩
  case turns =>
    intro turns d
    have careful := careful_bundling src (g.bundle config)
    have holds : d.Withholds := Desk.withholds_run (fun _ => rfl) w sinkKept turns
    refine ⟨holds.of_open, ?cancelled, ?ended⟩
    case cancelled =>
      intro goes_on fired more later
      obtain ⟨none, unended⟩ := holds.of_open goes_on
      exact ⟨(Desk.sent_run_of_fired careful fired more).trans none,
        Desk.closed_run_of_fired careful unended fired more⟩
    case ended =>
      intro steps t done calm ended
      have sound : Sound requests items t := sound_run (sound_begin requests items w.fired) steps
      refine ⟨?broken, ?whole⟩
      case broken =>
        rintro ⟨side, f, breaks⟩
        exact holds.of_failed ended (not_fine_of_breaks sound done calm side f breaks)
      case whole =>
        intro unfired kept told o closed listing whole
        obtain ⟨stages, same, report⟩ := Desk.report_of_closed careful w sinkKept turns unfired kept o closed
        obtain rfl : t.stages = stages := Option.some.inj (ended.symm.trans same)
        have settled := settled_tasks sound done
        have fine : settle false t.stages = .ok () := calm ▸ settled.ok_iff.mpr ⟨calm, listing, whole⟩
        obtain ⟨result, sent⟩ := report_bundling_of_fine src (g.bundle config) w d.listed t.stages
          (by rw [report]; exact unfired) fine
        rw [report] at result sent
        refine ⟨result, told ▸ settled.covers calm listing whole, ?_⟩
        change d.sent = _ at sent
        rw [sent]
        exact bundled_map src config g w d.listed

def sinks : Facet → List Asset
  | .resource =>
    [⟨"b", Kind.logSink, ["projects/2", "folders/3"], some .empty, none, none⟩,
      ⟨"c", Kind.logSink, ["folders/3"], some .empty, none, none⟩,
      ⟨"a", Kind.logSink, ["projects/1", "folders/3"], some .empty, none, none⟩]
  | .policy => []

def nameless (inventory : Inventory) : Sources := ⟨.project "1", fun _ _ _ => ⟨.ok "", false⟩, inventory⟩

theorem bundles_all_or_none_sinks :
    let config := Config.ofScope (.project "1")
    let whole := nameless fun request => (sinks request.facet).map .calm
    let broken := nameless fun request => (denied request.facet).items
    let byDisk := Grouping.byProject [Kind.disk]
    let sends := Grouping.logSinks.list whole config true .start
    let fails := byDisk.list broken config true .start
    let t := (Tasks.begin (fun side => (denied side).items) false).run disks denial
    let d := (Desk.begin .start true).run (bundling broken (byDisk.bundle config))
      [.ends t.stages, .goes, .goes]
    Grouping.logSinks.kinds config ≠ [] ∧ byDisk.kinds config ≠ [] ∧
      sends.result = .ok () ∧
      sends.sent.map (fun b => (b.account.id, b.assets.map (·.asset.name))) =
        [("1", ["a", "c"]), ("2", ["b", "c"])] ∧
      ((∃ e, fails.result = .error e) ∧ fails.sent = []) ∧
      d.sent = [] ∧ ∃ e, d.phase = .closed (.error e) := by
  intro config whole broken byDisk sends fails t d
  have asks : Grouping.logSinks.kinds config ≠ [] := by decide
  have asksToo : byDisk.kinds config ≠ [] := by decide
  obtain ⟨performed, -, -⟩ := bundles_all_or_none whole config .logSinks true .start asks
  obtain ⟨failing, turns, -⟩ := bundles_all_or_none broken config byDisk true .start asksToo
  obtain ⟨result, -, sent, -⟩ := performed.2 (by decide +kernel) rfl sinks fun side => by cases side <;> rfl
  have ended := (turns [.ends t.stages, .goes, .goes]).2.2 denial done_denial (by decide +kernel) rfl
  obtain ⟨none, errs⟩ := ended.1 ⟨.policy, refusal, breaks_denied⟩
  refine ⟨asks, asksToo, result, ?_, failing.1 (.inr (.inr (.inl ⟨.policy, refusal, breaks_denied⟩))),
    none, ?_⟩
  · rw [sent]
    decide +kernel
  · obtain ⟨o, closed⟩ : d.Closed := ⟨.error refusal, rfl⟩
    obtain ⟨e, rfl⟩ := errs o closed
    exact ⟨e, closed⟩

end CloudCensus.Census
