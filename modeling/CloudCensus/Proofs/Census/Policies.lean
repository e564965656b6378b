import CloudCensus.Proofs.Ancestors.Shared
import CloudCensus.Proofs.Census.Routines

namespace CloudCensus.Census

/-- The ancestors of a project; the project itself is the first of its chain. -/
def above (project : Asset) : List String := project.ancestors.drop 1

def bundleOf (held : String → List Placed) (own : Placed) : PolicyBundle :=
  ⟨own.account, own :: (above own.asset).flatMap held⟩

section inheriting

variable (src : Sources)

theorem policyBundle_inherits (w : Walk) (project : Asset) (distinct : (above project).Nodup)
    (calm : (policyBundle src w project).2.fired = false) :
    (policyBundle src w project).1 =
        bundleOf (Walk.policiesIn (policyBundle src w project).2.memo) (w.place src project).1 ∧
      Walk.Gains src w (policyBundle src w project).2 (above project) := by
  have placed : Walk.Gains src w (w.place src project).2 [] := .same rfl
  have visited := Walk.gains_policiesFor src (w.place src project).2 (above project) distinct calm
  have inherited := (Walk.policiesFor_policiesIn src (w.place src project).2 (above project) distinct calm).1
  constructor
  · exact congrArg (fun policies => PolicyBundle.mk _ (_ :: policies)) inherited
  · exact placed.trans visited

theorem unfired_before_handleAll (w : Walk) (projects : List Asset)
    (calm : ((inheriting src).handleAll w projects).2.fired = false) : w.fired = false :=
  (Desk.remembers_handleAll (careful_inheriting src) w projects).unfired calm

theorem gains_inheriting (w : Walk) (projects : List Asset)
    (distinct : ∀ project ∈ projects, (above project).Nodup)
    (calm : ((inheriting src).handleAll w projects).2.fired = false) :
    Walk.Gains src w ((inheriting src).handleAll w projects).2 (projects.flatMap above) := by
  induction projects generalizing w with
  | nil => exact .same rfl
  | cons project rest ih =>
      obtain ⟨here, there⟩ := List.forall_mem_cons.mp distinct
      have between := unfired_before_handleAll src (policyBundle src w project).2 rest calm
      have first := (policyBundle_inherits src w project here between).2
      exact first.trans (ih (policyBundle src w project).2 there calm)

theorem handleAll_inheriting (w : Walk) (projects : List Asset)
    (distinct : ∀ project ∈ projects, (above project).Nodup)
    (calm : ((inheriting src).handleAll w projects).2.fired = false) :
    ∃ owns : List Placed, owns.map (·.asset) = projects ∧
      ((inheriting src).handleAll w projects).1 =
        owns.map (bundleOf (Walk.policiesIn ((inheriting src).handleAll w projects).2.memo)) := by
  induction projects generalizing w with
  | nil => exact ⟨[], rfl, rfl⟩
  | cons project rest ih =>
      obtain ⟨here, there⟩ := List.forall_mem_cons.mp distinct
      let next := (policyBundle src w project).2
      have between : next.fired = false := unfired_before_handleAll src next rest calm
      obtain ⟨first, gains⟩ := policyBundle_inherits src w project here between
      have later : Walk.Gains src next _ _ := gains_inheriting src next rest there calm
      obtain ⟨owns, assets, bundles⟩ := ih next there calm
      refine ⟨(w.place src project).1 :: owns, congrArg (project :: ·) assets, ?_⟩
      change (policyBundle src w project).1 :: ((inheriting src).handleAll next rest).1 = _
      rw [bundles, first, List.map_cons]
      congr 1
      -- The first project met the memo as it was then, which had all of its ancestors.
      refine congrArg (fun policies => PolicyBundle.mk _ (_ :: policies)) ?_
      apply List.flatMap_congr
      intro ancestor member
      exact (gains.policiesIn_eq later ancestor member).symm

def listingsDue (m : Memo (List Placed)) (projects : List Asset) (ancestor : String) : Nat :=
  if Walk.knows m ancestor then 0
  else Walk.timesDue src.inventory ancestor (projects.countP fun project => ancestor ∈ above project)

structure Asks (m : Memo (List Placed)) (projects : List Asset) (asked : List Request) : Prop where
  own : ∀ q ∈ asked, Walk.listingFor? q.parent = some q
  times : ∀ ancestor, asked.countP (fun q => decide (q.parent = ancestor)) =
    listingsDue src m projects ancestor

theorem own_of_missing (m : Memo (List Placed)) (ancestor : String) (q : Request)
    (missing : Walk.missing? m ancestor = some q) :
    q.parent = ancestor ∧ Walk.listingFor? ancestor = some q := by
  rw [Walk.missing?] at missing
  split at missing
  · cases missing
  · exact ⟨Walk.parent_of_listingFor ancestor q missing, missing⟩

theorem listingsDue_cons {w next : Walk} (project : Asset) (rest : List Asset)
    (gains : Walk.Gains src w next (above project)) (ancestor : String) :
    listingsDue src w.memo (project :: rest) ancestor =
      (if ancestor ∈ above project ∧ (Walk.missing? w.memo ancestor).isSome then 1 else 0) +
        listingsDue src next.memo rest ancestor := by
  have knows := gains.knows_eq ancestor
  rw [listingsDue, listingsDue, Walk.missing?, List.countP_cons]
  cases before : Walk.knows w.memo ancestor with
  | true => simp [knows.mpr (.inl before)]
  | false =>
      simp only [before, Bool.false_eq_true, false_or] at knows
      by_cases named : ancestor ∈ above project
      · cases ends : Walk.finishes src.inventory ancestor with
        | true =>
            have supported := Walk.supported_of_finishes src.inventory ancestor ends
            simp [knows.mpr ⟨named, ends⟩, named, supported, Walk.timesDue, ends,
              Option.ne_none_iff_isSome]
        | false =>
            have unknown : Walk.knows next.memo ancestor = false :=
              Bool.eq_false_iff.mpr fun now => by simpa [ends] using (knows.mp now).2
            cases supported : Walk.listingFor? ancestor <;>
              simp [unknown, named, Walk.timesDue, ends, supported, Nat.add_comm]
      · have unknown : Walk.knows next.memo ancestor = false :=
          Bool.eq_false_iff.mpr fun now => named (knows.mp now).1
        simp [unknown, named]

theorem asks_inheriting (w : Walk) (projects : List Asset) (own : Walk.Labelled w)
    (distinct : ∀ project ∈ projects, (above project).Nodup)
    (calm : ((inheriting src).handleAll w projects).2.fired = false) :
    ∃ asked, ((inheriting src).handleAll w projects).2.requests = w.requests ++ asked ∧
      Asks src w.memo projects asked := by
  induction projects generalizing w with
  | nil =>
      refine ⟨[], (List.append_nil _).symm, nofun, ?_⟩
      intro ancestor
      simp [listingsDue, Walk.timesDue]
  | cons project rest ih =>
      obtain ⟨here, there⟩ := List.forall_mem_cons.mp distinct
      let next := (policyBundle src w project).2
      have between : next.fired = false := unfired_before_handleAll src next rest calm
      have gains := (policyBundle_inherits src w project here between).2
      have placing := Walk.listed_place src w project own
      have listed : Walk.Listed w next _ _ := placing.trans
        (Walk.listed_policiesFor src (w.place src project).2 (above project) placing.labelled)
      obtain ⟨asked, made, later⟩ := ih next listed.labelled there calm
      let first := (above project).filterMap (Walk.missing? w.memo)
      refine ⟨first ++ asked, ?_, ?_, ?_⟩
      · exact made.trans ((congrArg (· ++ asked) listed.made).trans (List.append_assoc _ _ _))
      · rw [List.forall_mem_append]
        refine ⟨?_, later.own⟩
        intro q member
        obtain ⟨ancestor, _, missing⟩ := List.mem_filterMap.mp member
        obtain ⟨rfl, own⟩ := own_of_missing w.memo ancestor q missing
        exact own
      · intro ancestor
        have once := Walk.countP_parent ancestor (above project) here (Walk.missing? w.memo)
          fun place q missing => (own_of_missing w.memo place q missing).1
        rw [List.countP_append, once, later.times, listingsDue_cons src project rest gains]

structure Inherits (m : Memo (List Placed)) (projects : List Asset) (sent : List PolicyBundle)
    (asked : List Request) (held : String → List Placed) : Prop extends Asks src m projects asked where
  /-- Every project has its bundle, in the order of the projects. -/
  bundles : ∃ owns : List Placed, owns.map (·.asset) = projects ∧ sent = owns.map (bundleOf held)
  remembered : ∀ ancestor ∈ projects.flatMap above, Walk.knows m ancestor = true →
    m.find? ancestor = some (held ancestor)
  /-- An ancestor whose listing breaks, or that has none, adds nothing. -/
  listed : ∀ ancestor ∈ projects.flatMap above, Walk.knows m ancestor = false →
    (held ancestor).map (·.asset) = Walk.listedUnder src.inventory ancestor

section inherits

variable {src : Sources} {m : Memo (List Placed)} {projects : List Asset} {sent : List PolicyBundle}
  {asked : List Request} {held : String → List Placed}
  (inherits : Inherits src m projects sent asked held)

include inherits

/-- An ancestor whose listing comes to its end is listed once for all projects, if at all. -/
theorem Inherits.once (ancestor : String) (ends : Walk.finishes src.inventory ancestor = true) :
    asked.countP (fun q => decide (q.parent = ancestor)) ≤ 1 := by
  rw [inherits.times, listingsDue, Walk.timesDue, ends]
  split
  · exact Nat.zero_le 1
  · split
    · exact Nat.zero_le 1
    · exact Nat.min_le_left 1 _

theorem Inherits.assets (stocked : Walk.Stocked src.inventory m) :
    sent.map (fun b => b.policies.map (·.asset)) =
      projects.map fun project => project :: (above project).flatMap (Walk.listedUnder src.inventory) := by
  have listed (ancestor : String) (member : ancestor ∈ projects.flatMap above) :
      (held ancestor).map (·.asset) = Walk.listedUnder src.inventory ancestor := by
    cases known : Walk.knows m ancestor with
    | false => exact inherits.listed ancestor member known
    | true => exact stocked ancestor _ (inherits.remembered ancestor member known)
  obtain ⟨owns, rfl, rfl⟩ := inherits.bundles
  rw [List.map_map, List.map_map]
  apply List.map_congr_left
  intro own member
  simp only [Function.comp_apply, bundleOf, List.map_cons, List.map_flatMap]
  congr 1
  apply List.flatMap_congr
  intro ancestor up
  exact listed ancestor (List.mem_flatMap.mpr ⟨own.asset, List.mem_map_of_mem member, up⟩)

end inherits

theorem report_inheriting (w : Walk) (projects : List Asset) (stages : List (Outcome Unit))
    (own : Walk.Labelled w) (distinct : ∀ project ∈ projects, (above project).Nodup)
    (calm : ((inheriting src).report true w projects stages).walk.fired = false) :
    let r := (inheriting src).report true w projects stages
    r.result = settle false stages ∧
      ∃ asked held, r.walk.requests = w.requests ++ asked ∧
        Inherits src w.memo projects r.sent asked held := by
  intro r
  have careful := careful_inheriting src
  let worked := (inheriting src).handleAll w projects
  have reported : r = ⟨settle ((inheriting src).pass true w projects).walk.fired stages,
      ((inheriting src).pass true w projects).sent, ((inheriting src).pass true w projects).walk⟩ := by
    have sends := pass_of_prompt true w projects (policyBundle src)
    have report := Operation.report_of_prompt true w (policyBundle src) projects stages
    rw [sends] at report
    exact report
  have unfired : worked.2.fired = false := by
    rw [← Desk.fired_pass careful, ← calm]
    exact (congrArg (·.walk.fired) reported).symm
  have passed := Desk.pass_of_calm careful w projects unfired
  have same : r = ⟨settle false stages, worked.1, worked.2⟩ := by
    rw [reported, passed]
    change Report.mk (settle worked.2.fired stages) (worked.1.filterMap some) worked.2 = _
    rw [unfired, List.filterMap_some]
  have gains : Walk.Gains src w worked.2 _ := gains_inheriting src w projects distinct unfired
  have remembers : Walk.Remembers src w worked.2 := Desk.remembers_handleAll careful w projects
  obtain ⟨asked, made, asks⟩ := asks_inheriting src w projects own distinct unfired
  refine ⟨congrArg Report.result same, asked, Walk.policiesIn worked.2.memo, ?_, asks, ?_, ?_, ?_⟩
  · rw [same]
    exact made
  · rw [same]
    exact handleAll_inheriting src w projects distinct unfired
  · intro ancestor _ known
    obtain ⟨supported, found⟩ := Bool.and_eq_true_iff.mp known
    obtain ⟨policies, found⟩ := Option.isSome_iff_exists.mp found
    rw [Walk.policiesIn, if_pos supported, gains.kept ancestor policies found]
    exact found
  · exact gains.listed remembers

end inheriting

section memory

theorem labelled_perform (src : Sources) (config : Config) (sinkKept : Bool) (op : Operation) (w : Walk)
    (own : Walk.Labelled w) : Walk.Labelled (op.perform src config sinkKept w).walk := by
  by_cases opens : op.Opens config
  · let o := op.opening src config w.fired
    have opened : Walk.Labelled (w.noting o.requests o.fired o.ledger) := ⟨own.policies, own.accounts⟩
    rw [op.perform_eq src config sinkKept w opens]
    have places (v : Walk) (a : Asset) (own : Walk.Labelled v) : Walk.Labelled (v.place src a).2 :=
      (Walk.listed_place src v a own).labelled
    refine Routine.report_keeps (motive := Walk.Labelled) ?_ ?_ sinkKept _ opened _ _
    · intro v a own
      cases op with
      | kinds asked => exact places v a own
      | grouped g => exact places v a own
      | projectPolicies =>
          exact (Walk.listed_policiesFor src _ (above a) (places v a own)).labelled
      | networks => exact own
    · intro conclude last v kept own
      cases op with
      | kinds asked => cases last
      | grouped g =>
          cases last
          exact own
      | projectPolicies => cases last
      | networks =>
          cases last
          dsimp only
          split
          · exact own
          · exact (Walk.listed_placeAll src v _ own).labelled
  · rw [op.perform_of_unopened src config sinkKept w opens]
    exact own

variable (config : Config)

theorem after_concat (past : List Call) (c : Call) :
    after config (past ++ [c]) = step config (after config past) c := List.foldl_concat ..

theorem labelled_after (calls : List Call) : Walk.Labelled (after config calls) := by
  induction calls using List.reverseRecOn with
  | nil => exact ⟨rfl, rfl⟩
  | append_singleton past c ih =>
      rw [after_concat]
      cases c with
      | perform src op sinkKept cancelled =>
          exact labelled_perform src config sinkKept op _ ⟨ih.policies, ih.accounts⟩
      | clear => exact ⟨ih.policies, ih.accounts⟩

def EndAlike (inventory : Inventory) (calls : List Call) : Prop :=
  ∀ src op sinkKept cancelled, .perform src op sinkKept cancelled ∈ calls →
    ∀ request, Item.complete? (src.inventory request) = Item.complete? (inventory request)

theorem stocked_after (inventory : Inventory) (calls : List Call) (alike : EndAlike inventory calls) :
    Walk.Stocked inventory (after config calls).memo := by
  induction calls using List.reverseRecOn with
  | nil => nofun
  | append_singleton past c ih =>
      have earlier := ih fun src op sinkKept cancelled member =>
        alike src op sinkKept cancelled (List.mem_append_left _ member)
      rw [after_concat]
      cases c with
      | clear => nofun
      | perform src op sinkKept cancelled =>
          have endings := alike src op sinkKept cancelled (by simp)
          obtain ⟨_, _, course, _⟩ := Operation.course_perform src config sinkKept
            ((after config past).begin cancelled) op
          intro ancestor policies found
          rcases course.policies ancestor policies found with before | whole
          · exact earlier ancestor policies before
          · rw [whole.listed, Walk.listedUnder, Walk.listedUnder]
            simp only [endings]

end memory

/-- After any earlier calls, a run of the projects that nobody cancels sends one bundle for each project
that is listed before the listing ends or breaks, in their order, and its result is how the listing ended.
A bundle begins with the project itself, whose account is that of the bundle, and goes on with the policies
of its other ancestors in the order of its chain.  All projects get the same of an ancestor: what was
remembered of it, or else what its listing comes to; if the earlier calls found the listings end as they do
now, it is that in any case.  An ancestor whose listing comes to its end is listed at most once.  So it is
in any order of turns. -/
theorem projects_inherit (src : Sources) (config : Config) (past : List Call)
    (distinct : ∀ project fires, .asset project fires ∈ src.inventory (projectRequest src) →
      (above project).Nodup)
    (calm : (listProjectPolicies src true ((after config past).begin false)).walk.fired = false) :
    let w := (after config past).begin false
    let request := projectRequest src
    let r := listProjectPolicies src true w
    let Shares (projects : List Asset) (sent : List PolicyBundle) (asked : List Request) : Prop :=
      (∃ held, Inherits src w.memo projects sent asked held) ∧
        (∀ ancestor, Walk.finishes src.inventory ancestor = true →
          asked.countP (fun q => decide (q.parent = ancestor)) ≤ 1) ∧
        (EndAlike src.inventory past → sent.map (fun b => b.policies.map (·.asset)) =
          projects.map fun project => project :: (above project).flatMap (Walk.listedUnder src.inventory))
    (∃ projects o fails asked, Item.Comes request (src.inventory request) projects o fails ∧
      r.result = o ∧ r.walk.requests = w.requests ++ request :: asked ∧ Shares projects r.sent asked) ∧
    ∀ turns, let d := (Desk.begin w true).run (inheriting src) turns
      d.walk.fired = false → d.sinkKept = true → (∀ project ∈ d.listed, (above project).Nodup) →
        ∀ o, d.phase = .closed o →
          ∃ stages asked, d.stages = some stages ∧ o = settle false stages ∧
            d.walk.requests = w.requests ++ asked ∧ Shares d.listed d.sent asked := by
  intro w request r Shares
  have remembered := labelled_after config past
  have own : Walk.Labelled w := ⟨remembered.policies, remembered.accounts⟩
  have shares {projects : List Asset} {sent : List PolicyBundle} {asked : List Request}
      {held : String → List Placed} (inherits : Inherits src w.memo projects sent asked held) :
      Shares projects sent asked := by
    refine ⟨⟨held, inherits⟩, inherits.once, fun alike => ?_⟩
    exact inherits.assets (stocked_after config src.inventory past alike)
  refine ⟨?performed, ?turns⟩
  case performed =>
    let opening := Operation.openProjects src w.fired
    let opened := w.noting opening.requests opening.fired opening.ledger
    have labelled : Walk.Labelled opened := ⟨own.policies, own.accounts⟩
    have performed : r = (inheriting src).report true opened opening.listed opening.stages :=
      Operation.perform_eq src config true w .projectPolicies trivial
    have late : ((inheriting src).report true opened opening.listed opening.stages).walk.fired = false :=
      (congrArg (·.walk.fired) performed).symm.trans calm
    have begun : opening.fired = false :=
      Routine.unfired_report (careful_inheriting src) true opened opening.listed opening.stages late
    rcases Item.comes_or_fires request (src.inventory request) with ⟨projects, o, fails, comes⟩ | fires
    · obtain ⟨outcome, -, queue⟩ := produce_of_comes comes
      have listed : opening.listed = projects := by
        change received (produce request (src.inventory request) true false).queue = projects
        rw [queue, received_of_broken]
      have stages : opening.stages = [o] := congrArg (fun ended => [ended]) outcome
      have each (project : Asset) (member : project ∈ projects) : (above project).Nodup := by
        obtain ⟨rest, split, -⟩ := comes
        apply distinct project false
        change _ ∈ src.inventory request
        rw [split]
        exact List.mem_append_left _ (List.mem_map_of_mem member)
      rw [listed, stages] at performed late
      obtain ⟨result, asked, held, made, inherits⟩ :=
        report_inheriting src opened projects [o] labelled each late
      rw [← performed] at result made inherits
      refine ⟨projects, o, fails, asked, comes, ?_, ?_, shares inherits⟩
      · rw [result]
        cases o <;> rfl
      · rw [made]
        exact List.append_assoc _ _ _
    · have fired : opening.fired = true := (produce_of_fires fires).2
      exact absurd (fired.symm.trans begun) nofun
  case turns =>
    intro turns d unfired kept each o closed
    obtain ⟨stages, ended, report⟩ :=
      Desk.report_of_closed (careful_inheriting src) w true turns unfired kept o closed
    have late : ((inheriting src).report true w d.listed stages).walk.fired = false :=
      (congrArg (·.walk.fired) report).trans unfired
    obtain ⟨result, asked, held, made, inherits⟩ := report_inheriting src w d.listed stages own each late
    rw [report] at result made inherits
    exact ⟨stages, asked, ended, result, made, shares inherits⟩

def tenancies : List Asset :=
  [Walk.grant "one" ["projects/a", "folders/2", "organizations/1"],
    Walk.grant "two" ["projects/b", "folders/3", "folders/2", "billing/4", "organizations/1"]]

def tenants : Sources where
  scope := .organization "1"
  directory := Accounts.twoProjects
  inventory request :=
    if request.kinds = [Kind.project] then
      tenancies.map .calm ++ [.failure (.because .permissionDenied (.stated "denied"))]
    else (Walk.estate false).inventory request

theorem projects_inherit_tenants :
    let begun (past : List Call) : Walk := (after (.ofScope (.organization "1")) past).begin false
    let run (past : List Call) := listProjectPolicies tenants true (begun past)
    let names (past : List Call) := (run past).sent.map fun b => b.policies.map (·.asset.name)
    let places := ["folders/2", "folders/3", "organizations/1", "billing/4"]
    let listed (past : List Call) := places.map fun place =>
      ((run past).walk.requests.drop ((begun past).requests.length + 1)).countP
        fun q => decide (q.parent = place)
    let earlier : List Call := [.perform tenants .projectPolicies true false]
    let broken := Failure.listing (projectRequest tenants) (.because .permissionDenied (.stated "denied"))
    let bundles := [["one", "inherited", "kept", "top"], ["two", "inherited", "kept", "top"]]
    (∀ project fires, .asset project fires ∈ tenants.inventory (projectRequest tenants) →
      (above project).Nodup) ∧
    ((run []).walk.fired = false ∧ (run []).result = .error broken ∧ names [] = bundles ∧
      listed [] = [1, 1, 1, 0]) ∧
    (run earlier).walk.fired = false ∧ names earlier = bundles ∧ listed earlier = [0, 1, 0, 0] := by
  intro begun run names places listed earlier broken bundles
  have items : tenants.inventory (projectRequest tenants) =
      tenancies.map .calm ++ [.failure (.because .permissionDenied (.stated "denied"))] := rfl
  have distinct : ∀ project fires, .asset project fires ∈ tenants.inventory (projectRequest tenants) →
      (above project).Nodup := by
    intro project fires member
    rw [items] at member
    simp only [tenancies, List.map_cons, List.map_nil, List.cons_append, List.nil_append, List.mem_cons,
      Item.calm, Item.asset.injEq, reduceCtorEq, List.not_mem_nil, or_false] at member
    rcases member with ⟨rfl, -⟩ | ⟨rfl, -⟩ <;> decide
  have comes : Item.Comes (projectRequest tenants) (tenants.inventory (projectRequest tenants)) tenancies
      (.error broken) [broken] := ⟨_, items, .broken _ [] (by decide)⟩
  have shares (past : List Call) (alike : EndAlike tenants.inventory past)
      (calm : (run past).walk.fired = false) :
      (run past).result = .error broken ∧ names past = bundles ∧
        listed past = places.map (listingsDue tenants (begun past).memo tenancies) := by
    obtain ⟨⟨_, _, _, asked, comesToo, result, made, ⟨_, inherits⟩, -, assets⟩, -⟩ :=
      projects_inherit tenants _ past distinct calm
    obtain ⟨rfl, rfl, -⟩ := comesToo.unique comes
    refine ⟨result, ?_, List.map_congr_left fun place _ => ?_⟩
    · have named := congrArg (List.map (List.map Asset.name)) (assets alike)
      rw [List.map_map] at named
      simp only [Function.comp_def, List.map_map] at named
      exact named.trans (by decide +kernel)
    · have rest : (run past).walk.requests.drop ((begun past).requests.length + 1) = asked := by
        change List.drop _ (listProjectPolicies tenants true _).walk.requests = _
        rw [made, List.append_cons]
        exact List.drop_left' (by simp [begun])
      rw [rest]
      exact inherits.times place
  have calm : (run []).walk.fired = false := by decide +kernel
  have calmToo : (run earlier).walk.fired = false := by decide +kernel
  have alike : EndAlike tenants.inventory earlier := by
    intro src op sinkKept cancelled member request
    obtain ⟨rfl, -⟩ : src = tenants ∧ _ := by simpa [earlier] using member
    rfl
  have alikeAtFirst : EndAlike tenants.inventory [] := fun _ _ _ _ member => absurd member List.not_mem_nil
  obtain ⟨result, bundled, due⟩ := shares [] alikeAtFirst calm
  obtain ⟨-, bundledToo, dueToo⟩ := shares earlier alike calmToo
  refine ⟨distinct, ⟨calm, result, bundled, ?_⟩, calmToo, bundledToo, ?_⟩
  · exact due.trans (by decide +kernel)
  · exact dueToo.trans (by decide +kernel)

end CloudCensus.Census
