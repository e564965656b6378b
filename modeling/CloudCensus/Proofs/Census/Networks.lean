import CloudCensus.Proofs.Ancestors.Visit
import CloudCensus.Proofs.Census.Routines

namespace CloudCensus

section collected

variable {request : Request} {items : List Item}

theorem collect_of_breaks {f : Failure} (breaks : Item.Breaks request items f) :
    (collect request items false).result = .error f := by
  obtain ⟨assets, fails, comes⟩ := breaks
  obtain ⟨outcome, calm, -⟩ := produce_of_comes comes
  rw [collect, outcome, calm]
  rfl

theorem collect_calm (assets : List Asset) :
    (collect request (assets.map .calm) false).result = .ok assets := by
  obtain ⟨outcome, calm, queue⟩ := produce_of_comes (Item.comes_calm request assets)
  rw [collect, outcome, calm, queue]
  simp [settle]

end collected

theorem annotateNetworks_nil (networks : List Placed) : annotateNetworks networks [] = networks := by
  simp [annotateNetworks, DnsPolicy.findFor?]

theorem names_annotateNetworks (networks : List Placed) (policies : List DnsPolicy) :
    (annotateNetworks networks policies).map (·.asset.name) = networks.map (·.asset.name) := by
  rw [annotateNetworks, List.map_map]
  apply List.map_congr_left
  intro n _
  dsimp only [Function.comp_apply]
  split <;> rfl

namespace Census

open Merger

/-- Each asset has the account of its own chain, as long as the memo is right about such chains. -/
def Accounted (src : Sources) (w : Walk) (assets : List Asset) (placed : List Placed) : Prop :=
  ∀ such, Accounts.CutKnown such → Accounts.Faithful src.scope src.directory such w.accounts.memo →
    (∀ a ∈ assets, such a.ancestors) → placed = assets.map src.placed

theorem accounted_placeAll (src : Sources) (w : Walk) (assets : List Asset)
    (calm : (w.placeAll src assets).2.fired = false) :
    Accounted src w assets (w.placeAll src assets).1 := fun _ known holds own =>
  Walk.placeAll_placed src src (.refl src) known own holds calm

structure Joins (networks : List Placed) (dns : Outcome (List Asset)) (o : Outcome Unit)
    (sent : List Placed) : Prop where
  broken : ∀ f, dns = .error f → f ≠ .cancelled → o = .ok () ∧ sent = networks
  whole : ∀ policies, dns = .ok policies →
    o = .ok () ∧ sent = annotateNetworks networks (policies.map .ofAsset)
  cancelled : dns = .error .cancelled → o = .error .cancelled ∧ sent = []

/-- The networks that are sent are those that are there, whatever their DNS listing came to. -/
theorem Joins.covers {networks sent : List Placed} {dns : Outcome (List Asset)} {o : Outcome Unit}
    {listing : Facet → List Asset} {assets : List Asset} (joins : Joins networks dns o sent)
    (said : dns ≠ .error .cancelled) (same : networks.map (·.asset) = assets)
    (covers : Covers listing assets) : Covers listing (sent.map (·.asset)) := by
  have names : (sent.map (·.asset)).map (·.name) = assets.map (·.name) := by
    rw [← same, List.map_map, List.map_map]
    cases dns with
    | error f =>
        have told : f ≠ .cancelled := fun cancels => said (congrArg Except.error cancels)
        rw [(joins.broken f rfl told).2]
    | ok policies =>
        rw [(joins.whole policies rfl).2]
        exact names_annotateNetworks networks (policies.map .ofAsset)
  rw [Covers, names]
  exact covers

section joining

variable (src : Sources) (dns : Outcome (List Asset)) (w : Walk) (listed : List Asset)
  (stages : List (Outcome Unit))

theorem report_joining_of_error (sinkKept : Bool) (e : Failure) (failed : settle w.fired stages = .error e) :
    (joining src dns).report sinkKept w listed stages = ⟨.error e, [], w⟩ := by
  rw [Routine.report, pass_joining, Routine.leave, failed]

theorem report_joining_of_fine (fine : settle false stages = .ok ())
    (calm : ((joining src dns).report true w listed stages).walk.fired = false) :
    let r := (joining src dns).report true w listed stages
    Joins (w.placeAll src listed).1 dns r.result r.sent ∧
      (dns ≠ .error .cancelled → Accounted src w listed (w.placeAll src listed).1) := by
  intro r
  have begun : w.fired = false := Routine.unfired_report (careful_joining src dns) true w listed stages calm
  have left : r = (joining src dns).leave true ⟨listed, [], w⟩ stages := by
    change (joining src dns).leave true _ stages = _
    rw [pass_joining, begun, if_neg Bool.false_ne_true]
  have joined (policies : List Asset) (usable : usableDns dns = .ok policies) :
      r.result = .ok () ∧
        r.sent = annotateNetworks (w.placeAll src listed).1 (policies.map .ofAsset) ∧
          Accounted src w listed (w.placeAll src listed).1 := by
    change r.walk.fired = false at calm
    rw [left, Routine.leave] at calm ⊢
    simp only [begun, fine, joining, usable] at calm ⊢
    have placing := accounted_placeAll src w listed calm
    rw [calm]
    exact ⟨rfl, rfl, placing⟩
  have unused (f : Failure) (said : f ≠ .cancelled) : usableDns (.error f) = .ok [] := by
    cases f <;> first | rfl | exact absurd rfl said
  refine ⟨⟨?_, ?_, ?_⟩, ?_⟩
  · rintro f rfl said
    obtain ⟨result, sent, -⟩ := joined [] (unused f said)
    rw [List.map_nil, annotateNetworks_nil] at sent
    exact ⟨result, sent⟩
  · rintro policies rfl
    obtain ⟨result, sent, -⟩ := joined policies rfl
    exact ⟨result, sent⟩
  · rintro rfl
    rw [left, Routine.leave]
    simp only [begun, fine, joining, usableDns]
    exact ⟨trivial, trivial⟩
  · intro said
    cases dns with
    | ok policies => exact (joined policies rfl).2.2
    | error f => exact (joined [] (unused f fun cancels => said (congrArg Except.error cancels))).2.2

end joining

theorem openNetworks_calm (src : Sources) (before : Bool)
    (calm : (Operation.openNetworks src before).fired = false) :
    let request := dnsRequest src
    (MergedListing.read src.inventory src.scope.render [Kind.network] before).fired = false ∧
      (Operation.openNetworks src before).dns = (collect request (src.inventory request) false).result := by
  intro request
  have read : (MergedListing.read src.inventory src.scope.render [Kind.network] before).fired = false := by
    apply Bool.eq_false_iff.mpr
    intro now
    have late : (Operation.openNetworks src before).fired = true := (fired_produce_iff _).mpr (.inl now)
    exact Bool.false_ne_true (calm.symm.trans late)
  refine ⟨read, ?_⟩
  rw [Operation.openNetworks, read]

/-- Only the DNS side of the networks degrades.  In a run that nobody cancels, a failure of a network
listing is the result and nothing is sent, whatever the DNS listing does.  If both network listings come to
their end, one network per name is sent with the account of its chain: as it is if the DNS listing breaks,
and with the flags of all its policies if it comes to its end.  So it is in any order of turns. -/
theorem networks_degrade_on_dns_side (src : Sources) (w : Walk)
    (calm : (listNetworks src true w).walk.fired = false) :
    let requests (side : Facet) : Request := ⟨src.scope.render, [Kind.network], side⟩
    let items (side : Facet) : List Item := src.inventory (requests side)
    let policies : List Item := src.inventory (dnsRequest src)
    let Breaks (f : Failure) : Prop := ∃ side, Item.Breaks (requests side) (items side) f
    let Whole (listing : Facet → List Asset) : Prop := ∀ side, items side = (listing side).map .calm
    (let r := listNetworks src true w
      let o := Operation.openNetworks src w.fired
      let networks := ((w.noting o.requests o.fired o.ledger).placeAll src o.listed).1
      ((∃ f, Breaks f) → ∃ f, BreaksFirst requests items f ∧ r.result = .error f ∧ r.sent = []) ∧
        ∀ listing, Whole listing →
          Covers listing o.listed ∧ networks.map (·.asset) = o.listed ∧
            (o.dns ≠ .error .cancelled → Covers listing (r.sent.map (·.asset)) ∧
              Accounted src w o.listed networks) ∧
            (∀ f, Item.Breaks (dnsRequest src) policies f → Joins networks (.error f) r.result r.sent) ∧
            ∀ listed, policies = listed.map .calm → Joins networks (.ok listed) r.result r.sent) ∧
    ∀ dns turns, let d := (Desk.begin w true).run (joining src dns) turns
      (d.stages = none → d.sent = [] ∧ ¬ d.Closed) ∧
        ∀ steps, let t := (Tasks.begin items w.fired).run requests steps
          t.Done → t.fired = false → d.stages = some t.stages →
            ((∃ f, Breaks f) → d.sent = []) ∧
            (d.walk.fired = false → d.sinkKept = true → ∀ o, d.phase = .closed o →
              ((∃ f, Breaks f) → ∃ f, Breaks f ∧ o = .error f) ∧
              (d.listed = start.emissions t.events → ∀ listing, Whole listing →
                Joins (w.placeAll src d.listed).1 dns o d.sent ∧
                  (dns ≠ .error .cancelled → Covers listing (d.sent.map (·.asset)) ∧
                    Accounted src w d.listed (w.placeAll src d.listed).1))) := by
  intro requests items policies Breaks Whole
  refine ⟨?performed, ?turns⟩
  case performed =>
    intro r o networks
    let opened := w.noting o.requests o.fired o.ledger
    have performed : r = (joining src o.dns).report true opened o.listed o.stages :=
      Operation.report_joining src true w
    have settled : (joining src o.dns).report true opened o.listed o.stages = r := performed.symm
    have late : ((joining src o.dns).report true opened o.listed o.stages).walk.fired = false :=
      (congrArg (·.walk.fired) settled).trans calm
    have begun : o.fired = false :=
      Routine.unfired_report (careful_joining src o.dns) true opened o.listed o.stages late
    obtain ⟨read, dns⟩ := openNetworks_calm src w.fired begun
    rw [← settled]
    -- The network listings alone say which of the two it is; the DNS listing comes in once they are fine.
    rcases finish_cases src.inventory src.scope.render [Kind.network] w.fired read with
      ⟨fine, told, whole, covers⟩ | ⟨e, failed, first⟩
    · constructor
      · rintro ⟨f, side, breaks⟩
        exact absurd ⟨told, whole⟩ breaks.not_whole
      · intro listing wholeToo
        obtain rfl : listing = told := whole_unique wholeToo whole
        obtain ⟨joins, accounted⟩ := report_joining_of_fine src o.dns opened o.listed o.stages fine late
        have same := Walk.assets_placeAll src opened o.listed
        refine ⟨covers, same, fun said => ⟨joins.covers said same covers, accounted said⟩, ?_, ?_⟩
        · intro f breaks
          rw [← collect_of_breaks breaks, ← dns]
          exact joins
        · intro listed calmly
          rw [← collect_calm listed, ← calmly, ← dns]
          exact joins
    · rw [MergedListing.finish, ← begun] at failed
      rw [report_joining_of_error src o.dns opened o.listed o.stages true e failed]
      refine ⟨fun _ => ⟨e, first, rfl, rfl⟩, ?_⟩
      intro listing whole
      exact absurd ⟨listing, whole⟩ first.not_whole
  case turns =>
    intro dns turns d
    have careful := careful_joining src dns
    have holds : d.Withholds := Desk.withholds_run (fun _ => rfl) w true turns
    refine ⟨holds.of_open, ?_⟩
    intro steps t done calm ended
    have sound : Sound requests items t := sound_run (sound_begin requests items w.fired) steps
    have settled := settled_tasks sound done
    refine ⟨?_, ?_⟩
    · rintro ⟨f, side, breaks⟩
      exact (holds.of_failed ended (not_fine_of_breaks sound done calm side f breaks)).1
    · intro unfired kept o closed
      obtain ⟨stages, same, report⟩ := Desk.report_of_closed careful w true turns unfired kept o closed
      obtain rfl : t.stages = stages := Option.some.inj (ended.symm.trans same)
      have late : ((joining src dns).report true w d.listed t.stages).walk.fired = false :=
        (congrArg (·.walk.fired) report).trans unfired
      have begun : w.fired = false := Routine.unfired_report careful true w d.listed t.stages late
      rcases settled.calm calm with ⟨fine, told, whole, covers⟩ | ⟨e, failed, side, breaks, -⟩
      · obtain ⟨joins, accounted⟩ :=
          report_joining_of_fine src dns w d.listed t.stages (calm ▸ fine) late
        rw [report] at joins
        constructor
        · rintro ⟨f, side, breaks⟩
          exact absurd ⟨told, whole⟩ breaks.not_whole
        · intro all listing wholeToo
          obtain rfl : listing = told := whole_unique wholeToo whole
          rw [← all] at covers
          have same := Walk.assets_placeAll src w d.listed
          exact ⟨joins, fun said => ⟨joins.covers said same covers, accounted said⟩⟩
      · rw [calm, ← begun] at failed
        rw [report_joining_of_error src dns w d.listed t.stages true e failed] at report
        obtain rfl : .error e = o := congrArg Report.result report
        refine ⟨fun _ => ⟨e, ⟨side, breaks⟩, rfl⟩, ?_⟩
        intro _ listing whole
        exact absurd ⟨listing, whole⟩ breaks.not_whole

def wired (networks : Facet → List Item) (policies : List Item) : Sources :=
  ⟨.project "1", fun _ _ _ => ⟨.ok "one", false⟩,
    fun request => if request.kinds = [Kind.network] then networks request.facet else policies⟩

def wires : Facet → List Asset
  | .resource =>
    [⟨"//compute.googleapis.com/projects/1/global/networks/a", Kind.network, ["projects/1"], some .empty,
        none, none⟩,
      ⟨"//compute.googleapis.com/projects/1/global/networks/b", Kind.network, ["projects/1"], some .empty,
        none, none⟩]
  | .policy => []

def logged : Asset where
  name := "p"
  kind := Kind.dnsPolicy
  ancestors := ["projects/1"]
  resource := some
    { Resource.empty with
      data := [("enableLogging", .bool true),
        ("networks", .list [.record [("networkUrl", .text "compute/projects/1/global/networks/a")]])] }
  policy := none
  updated := none

theorem networks_degrade_on_dns_side_wires :
    let unreadable : Failure := .because .permissionDenied (.stated "denied")
    let calmly side := (wires side).map Item.calm
    let whole := wired calmly [.calm logged]
    let soft := wired calmly [.calm logged, .failure unreadable]
    let hard := wired (fun side => calmly side ++ [.failure unreadable]) [.calm logged]
    let shown (r : Report Placed) : List (Account × Option Bool) :=
      r.sent.map fun n => (n.account, (n.field? dnsLoggingField).bind Json.bool?)
    let own : Account := ⟨"1", "one", "", ""⟩
    let sends := listNetworks whole true .start
    let lacks := listNetworks soft true .start
    let fails := listNetworks hard true .start
    (sends.walk.fired = false ∧ sends.result = .ok () ∧ shown sends = [(own, some true), (own, none)]) ∧
      (lacks.walk.fired = false ∧ lacks.result = .ok () ∧ shown lacks = [(own, none), (own, none)]) ∧
      fails.walk.fired = false ∧ (∃ e, fails.result = .error e) ∧ fails.sent = [] := by
  intro unreadable calmly whole soft hard shown own sends lacks fails
  have sends_calm : sends.walk.fired = false := by decide +kernel
  have lacks_calm : lacks.walk.fired = false := by decide +kernel
  have fails_calm : fails.walk.fired = false := by decide +kernel
  have there (policies : List Item) (side : Facet) :
      (wired calmly policies).inventory ⟨"projects/1", [Kind.network], side⟩ = (wires side).map .calm := rfl
  obtain ⟨⟨-, sending⟩, -⟩ := networks_degrade_on_dns_side whole .start sends_calm
  obtain ⟨⟨-, lacking⟩, -⟩ := networks_degrade_on_dns_side soft .start lacks_calm
  obtain ⟨⟨failing, -⟩, -⟩ := networks_degrade_on_dns_side hard .start fails_calm
  obtain ⟨-, -, told, -, joins⟩ := sending wires (there _)
  obtain ⟨result, sent⟩ := (joins [logged] rfl).whole [logged] rfl
  obtain ⟨-, -, -, degrades, -⟩ := lacking wires (there _)
  obtain ⟨plain, bare⟩ :=
    (degrades _ ⟨[logged], _, _, rfl, .broken unreadable [] (by decide)⟩).broken _ rfl (by decide)
  obtain ⟨e, -, failed, none⟩ :=
    failing ⟨_, .resource, wires .resource, _, _, rfl, .broken unreadable [] (by decide)⟩
  -- All networks have one chain, and a walk that begins remembers nothing.
  let chain := ["projects/1"]
  have known : Accounts.CutKnown (· = chain) := by
    left
    rintro _ rfl
    decide
  have fresh : Accounts.Faithful whole.scope whole.directory (· = chain) Walk.start.accounts.memo := by
    rintro _ _ a found
    cases found
  have alike : ∀ a ∈ (Operation.openNetworks whole false).listed, a.ancestors = chain := by
    have all : ((Operation.openNetworks whole false).listed.all (·.ancestors = chain)) = true := by
      decide +kernel
    simpa using all
  have said : (Operation.openNetworks whole false).dns ≠ .error .cancelled := by
    intro cancels
    cases cancels
  have accounted := (told said).2 _ known fresh alike
  refine ⟨⟨sends_calm, result, ?_⟩, ⟨lacks_calm, plain, ?_⟩, fails_calm, ⟨e, failed⟩, none⟩
  · change sends.sent.map _ = _
    rw [sent, accounted]
    decide +kernel
  · change lacks.sent.map _ = _
    rw [bare]
    decide +kernel

end Census
end CloudCensus
