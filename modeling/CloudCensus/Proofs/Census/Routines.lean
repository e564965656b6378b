import CloudCensus.Census.Calls
import CloudCensus.Proofs.Census.Reports

namespace CloudCensus.Census

namespace Grouping

def kinds (config : Config) : Grouping → List String
  | .byProject asked => orConfigured asked config.projectKinds
  | .monitoring => monitoringKinds config.monitoring
  | .logSinks => [Kind.logSink]
  | .services => [Kind.service]

def bundle (config : Config) : (g : Grouping) → Group → g.Bundle
  | .byProject _ => fun group => ⟨group.account, group.assets⟩
  | .monitoring => monitoringBundle config.monitoring
  | .logSinks => fun group => ⟨group.account, group.assets⟩
  | .services => fun group => ⟨group.account, group.assets⟩

def account : (g : Grouping) → g.Bundle → Account
  | .byProject _ => ProjectBundle.account
  | .monitoring => MonitoringBundle.account
  | .logSinks => ProjectBundle.account
  | .services => ProjectBundle.account

theorem account_bundle (config : Config) (g : Grouping) (group : Group) :
    g.account (g.bundle config group) = group.account := by
  cases g <;> rfl

theorem list_eq (src : Sources) (config : Config) (sinkKept : Bool) (w : Walk) (g : Grouping) :
    g.list src config sinkKept w = sendGrouped src (g.kinds config) sinkKept (g.bundle config) w := by
  cases g <;> rfl

end Grouping

section routines

variable (src : Sources)

def placing : Routine Placed Placed := ⟨Walk.place src, some, none⟩

def bundling {α : Type} (bundle : Group → α) : Routine Placed α where
  handle := Walk.place src
  prompt _ := none
  conclude := some fun w placed => (.ok ((Group.byProject placed).map bundle), w)

def inheriting : Routine PolicyBundle PolicyBundle := ⟨policyBundle src, some, none⟩

/-- Sends the networks in the end, with the flags of the DNS policies listed meanwhile.  Its listing has
ended once both have. -/
def joining (dns : Outcome (List Asset)) : Routine Asset Placed where
  handle w a := (a, w)
  prompt _ := none
  conclude := some fun w networks =>
    match usableDns dns with
    | .error e => (.error e, w)
    | .ok policies =>
      let placed := w.placeAll src networks
      (.ok (annotateNetworks placed.1 (policies.map DnsPolicy.ofAsset)), placed.2)

variable (sinkKept : Bool) (w : Walk) (listed : List Asset)

theorem pass_of_prompt {α : Type} (make : Walk → Asset → α × Walk) :
    let p := (Routine.mk make some none).pass sinkKept w listed
    sendEach make sinkKept w listed = (p.sent, p.walk) := by
  induction listed generalizing w with
  | nil => rfl
  | cons a rest ih =>
      simp only [Routine.pass, sendEach, ih]
      cases w.fired with
      | true => rfl
      | false => cases (make w a).2.fired || !sinkKept <;> rfl

theorem pass_bundling {α : Type} (bundle : Group → α) :
    let p := (bundling src bundle).pass sinkKept w listed
    placeUntilFired src w listed = (p.kept, p.walk) ∧ p.sent = [] := by
  induction listed generalizing w with
  | nil => exact ⟨rfl, rfl⟩
  | cons a rest ih =>
      obtain ⟨same, none⟩ := ih (w.place src a).2
      simp only [Routine.pass, placeUntilFired]
      cases w.fired with
      | true => exact ⟨rfl, rfl⟩
      | false =>
          refine ⟨?_, none⟩
          simp only [Bool.false_eq_true, if_false, same]
          rfl

theorem pass_joining (dns : Outcome (List Asset)) :
    (joining src dns).pass sinkKept w listed = ⟨if w.fired then [] else listed, [], w⟩ := by
  induction listed with
  | nil => simp [Routine.pass]
  | cons a rest ih =>
      rw [Routine.pass]
      dsimp only [joining] at ih ⊢
      rw [ih]
      cases w.fired <;> rfl

theorem careful_placing : (placing src).Careful src := ⟨Walk.typed_place src, nofun, nofun⟩

theorem careful_bundling {α : Type} (bundle : Group → α) : (bundling src bundle).Careful src where
  handle := Walk.typed_place src
  conclude _ last w _ := by
    cases last
    exact .refl src w
  refuses _ last _ _ _ refused := by
    cases last
    cases refused

theorem careful_inheriting : (inheriting src).Careful src where
  handle w project := (Walk.typed_place src w project).trans (Walk.typed_policiesFor src _ _)
  conclude := nofun
  refuses := nofun

theorem careful_joining (dns : Outcome (List Asset)) : (joining src dns).Careful src where
  handle w _ := .refl src w
  conclude _ last w networks := by
    cases last
    cases usableDns dns with
    | error e => exact .refl src w
    | ok policies => exact Walk.typed_placeAll src w networks
  refuses _ last w networks e refused := by
    cases last
    dsimp only at refused ⊢
    cases usable : usableDns dns with
    | error e => rfl
    | ok policies =>
        rw [usable] at refused
        cases refused

end routines

structure Opening where
  listed : List Asset
  stages : List (Outcome Unit)
  requests : List Request
  fired : Bool
  ledger : Ledger
  dns : Outcome (List Asset)

namespace Operation

/-- Whether an operation lists anything.  Without any type to ask for, bundles are not even begun. -/
def Opens (config : Config) : Operation → Prop
  | .grouped g => g.kinds config ≠ []
  | _ => True

abbrev Keeps : Operation → Type
  | .kinds _ => Placed
  | .grouped _ => Placed
  | .projectPolicies => PolicyBundle
  | .networks => Asset

section

variable (src : Sources) (config : Config)

def routine (dns : Outcome (List Asset)) : (op : Operation) → Routine op.Keeps op.Sends
  | .kinds _ => placing src
  | .grouped g => bundling src (g.bundle config)
  | .projectPolicies => inheriting src
  | .networks => joining src dns

variable (before : Bool)

def openKinds (kinds : List String) : Opening :=
  let l := MergedListing.read src.inventory src.scope.render kinds before
  ⟨l.assets, l.stages, l.requests, l.fired, l.ledger, .ok []⟩

def openProjects : Opening :=
  let request := projectRequest src
  let p := produce request (src.inventory request) true before
  ⟨received p.queue, [p.outcome.bare], [request], p.fired, p.ledger, .ok []⟩

def openNetworks : Opening :=
  let l := MergedListing.read src.inventory src.scope.render [Kind.network] before
  let request := dnsRequest src
  let dns := collect request (src.inventory request) l.fired
  ⟨l.assets, l.stages, l.requests ++ [request], dns.fired, l.ledger ++ dns.ledger, dns.result⟩

def opening : Operation → Opening
  | .kinds asked => openKinds src before (orConfigured asked config.kinds)
  | .grouped g => openKinds src before (g.kinds config)
  | .projectPolicies => openProjects src before
  | .networks => openNetworks src before

end

variable (src : Sources) (config : Config) (sinkKept : Bool) (w : Walk)

theorem careful_routine (dns : Outcome (List Asset)) (op : Operation) :
    (op.routine src config dns).Careful src := by
  cases op with
  | kinds asked => exact careful_placing src
  | grouped g => exact careful_bundling src (g.bundle config)
  | projectPolicies => exact careful_inheriting src
  | networks => exact careful_joining src dns

theorem report_of_prompt {α : Type} (make : Walk → Asset → α × Walk) (listed : List Asset)
    (stages : List (Outcome Unit)) :
    let sends := sendEach make sinkKept w listed
    (Routine.mk make some none).report sinkKept w listed stages =
      ⟨settle sends.2.fired stages, sends.1, sends.2⟩ := by
  simp only [Routine.report, Routine.leave, pass_of_prompt]
  cases settle _ stages <;> rfl

theorem report_bundling {α : Type} (bundle : Group → α) (kinds : List String) (asks : kinds ≠ []) :
    let o := openKinds src w.fired kinds
    sendGrouped src kinds sinkKept bundle w =
      (bundling src bundle).report sinkKept (w.noting o.requests o.fired o.ledger) o.listed o.stages := by
  intro o
  obtain ⟨same, none⟩ := pass_bundling src sinkKept (w.noting o.requests o.fired o.ledger) o.listed bundle
  have unempty : ¬ kinds.isEmpty = true := by simpa using asks
  rw [sendGrouped, if_neg unempty, collectMerged]
  simp only [o, openKinds] at same none
  simp only [o, openKinds, openMerged, MergedListing.finish, Routine.report, Routine.leave, same, none]
  cases settle _ (MergedListing.read src.inventory src.scope.render kinds w.fired).stages <;> rfl

theorem noting_noting (requests more : List Request) (fired late : Bool) (ledger further : Ledger) :
    (w.noting requests fired ledger).noting more late further =
      w.noting (requests ++ more) late (ledger ++ further) := by
  simp only [Walk.noting, List.append_assoc]

@[simp] theorem fired_noting (requests : List Request) (fired : Bool) (ledger : Ledger) :
    (w.noting requests fired ledger).fired = fired := rfl

theorem report_joining :
    let o := openNetworks src w.fired
    listNetworks src sinkKept w =
      (joining src o.dns).report sinkKept (w.noting o.requests o.fired o.ledger) o.listed o.stages := by
  intro o
  rw [listNetworks]
  simp only [o, openNetworks, openMerged, MergedListing.finish, Routine.report, Routine.leave, pass_joining,
    noting_noting, fired_noting]
  generalize MergedListing.read src.inventory src.scope.render [Kind.network] w.fired = l
  generalize collect (dnsRequest src) (src.inventory (dnsRequest src)) l.fired = dns
  obtain ⟨usable, fired, ledger⟩ := dns
  cases fired with
  | true => rfl
  | false =>
      cases settle false l.stages with
      | error e => rfl
      | ok u =>
          simp only [joining]
          cases usableDns usable <;> rfl

theorem perform_eq (op : Operation) (opens : op.Opens config) :
    let o := op.opening src config w.fired
    op.perform src config sinkKept w =
      (op.routine src config o.dns).report sinkKept (w.noting o.requests o.fired o.ledger) o.listed
        o.stages := by
  cases op with
  | kinds asked => exact (report_of_prompt sinkKept _ (Walk.place src) _ _).symm
  | grouped g => exact (g.list_eq src config sinkKept w).trans (report_bundling src sinkKept w _ _ opens)
  | projectPolicies => exact (report_of_prompt sinkKept _ (policyBundle src) _ _).symm
  | networks => exact report_joining src sinkKept w

theorem perform_of_unopened (op : Operation) (unopened : ¬ op.Opens config) :
    op.perform src config sinkKept w = ⟨stopped w.fired, [], w⟩ := by
  cases op with
  | grouped g =>
      have empty : g.kinds config = [] := not_not.mp unopened
      rw [perform, g.list_eq, empty]
      rfl
  | _ => exact absurd trivial unopened

theorem fired_openKinds_iff (before : Bool) (kinds : List String) :
    (openKinds src before kinds).fired = true ↔
      before = true ∨ ∃ q ∈ (openKinds src before kinds).requests, Item.Fires (src.inventory q) := by
  change (MergedListing.read _ _ _ _).fired = true ↔ _ ∨ ∃ q ∈ [Request.mk _ _ _, Request.mk _ _ _], _
  rw [fired_read_iff]
  constructor
  · rintro (already | ⟨side, fires⟩)
    · exact .inl already
    · exact .inr ⟨_, by cases side <;> simp, fires⟩
  · rintro (already | ⟨q, member, fires⟩)
    · exact .inl already
    · rcases List.mem_pair.mp member with rfl | rfl
      · exact .inr ⟨.resource, fires⟩
      · exact .inr ⟨.policy, fires⟩

theorem fired_opening_iff (before : Bool) (op : Operation) :
    (op.opening src config before).fired = true ↔
      before = true ∨ ∃ q ∈ (op.opening src config before).requests, Item.Fires (src.inventory q) := by
  cases op with
  | kinds asked => exact fired_openKinds_iff src before _
  | grouped g => exact fired_openKinds_iff src before _
  | projectPolicies =>
      change (produce _ _ true before).fired = true ↔ _ ∨ ∃ q ∈ [projectRequest src], _
      rw [fired_produce_iff]
      simp
  | networks =>
      have first := fired_openKinds_iff src before [Kind.network]
      change (produce _ _ true (MergedListing.read _ _ _ _).fired).fired = true ↔
        _ ∨ ∃ q ∈ (MergedListing.read _ _ _ _).requests ++ [dnsRequest src], _
      rw [fired_produce_iff]
      simp only [openKinds] at first
      rw [first]
      simp only [List.mem_append, List.mem_singleton, or_and_right, exists_or, exists_eq_left, or_assoc]

/-- Only one operation leaves the types of a listing to the configuration alone. -/
theorem untyped_opening_iff (before : Bool) (op : Operation) (opens : op.Opens config) :
    (∃ q ∈ (op.opening src config before).requests, q.kinds = []) ↔ op = .kinds [] ∧ config.kinds = [] := by
  cases op with
  | kinds asked =>
      change (∃ q ∈ [Request.mk _ (orConfigured asked config.kinds) _, Request.mk _ _ _], q.kinds = []) ↔ _
      cases asked <;> simp [orConfigured]
  | grouped g =>
      change (∃ q ∈ [Request.mk _ (g.kinds config) _, Request.mk _ _ _], q.kinds = []) ↔ _
      have asks : g.kinds config ≠ [] := opens
      simpa using asks
  | projectPolicies =>
      change (∃ q ∈ [projectRequest src], q.kinds = []) ↔ _
      simp [projectRequest]
  | networks =>
      change (∃ q ∈ [Request.mk _ [Kind.network] _, Request.mk _ _ _, dnsRequest src], q.kinds = []) ↔ _
      simp [dnsRequest]

theorem course_perform (op : Operation) :
    ∃ asked named, Walk.Course src w (op.perform src config sinkKept w).walk asked named ∧
      ((∃ q ∈ asked, q.kinds = []) ↔ op = .kinds [] ∧ config.kinds = []) := by
  by_cases opens : op.Opens config
  · rw [perform_eq src config sinkKept w op opens]
    let o := op.opening src config w.fired
    have opened : Walk.Course src w (w.noting o.requests o.fired o.ledger) o.requests [] :=
      Walk.course_noting src w _ _ _ (fired_opening_iff src config w.fired op)
    obtain ⟨asked, named, typed, course⟩ := Routine.typed_report (careful_routine src config o.dns op)
      sinkKept (w.noting o.requests o.fired o.ledger) o.listed o.stages
    refine ⟨o.requests ++ asked, named, opened.trans course, ?_⟩
    rw [← untyped_opening_iff src config w.fired op opens]
    simp only [List.mem_append, or_and_right, exists_or]
    apply or_iff_left
    rintro ⟨q, member, untyped⟩
    exact typed q member untyped
  · rw [perform_of_unopened src config sinkKept w op opens]
    refine ⟨[], [], .refl src w, by simp, ?_⟩
    rintro ⟨rfl, _⟩
    exact absurd trivial opens

end Operation

end CloudCensus.Census
