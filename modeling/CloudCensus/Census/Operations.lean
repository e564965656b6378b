import CloudCensus.Ancestors
import CloudCensus.Config.Basic
import CloudCensus.Grouping
import CloudCensus.Listing.Merged
import CloudCensus.Network

/-!
The operations of a census over one scope.

Each operation sends its results to a sink one by one.  Its outcome tells whether the run was
complete; once the run is cancelled nothing more is sent.  Accounts and ancestor policies are
remembered from one operation to the next.
-/

namespace CloudCensus

structure Report (α : Type) where
  result : Outcome Unit
  sent : List α
  walk : Walk

structure ProjectBundle where
  account : Account
  assets : List Placed
  deriving Repr

structure MonitoringBundle where
  account : Account
  logMetrics : List Placed
  alerts : List Placed
  deriving Repr

structure PolicyBundle where
  account : Account
  policies : List Placed
  deriving Repr

namespace Census

def stopped (fired : Bool) : Outcome Unit := if fired then .error .cancelled else .ok ()

/-- The types asked for, or the configured ones if none are. -/
def orConfigured (asked configured : List String) : List String :=
  if asked.isEmpty then configured else asked

def openMerged (src : Sources) (kinds : List String) (w : Walk) : MergedListing × Walk :=
  let l := MergedListing.read src.inventory src.scope.render kinds w.fired
  (l, w.noting l.requests l.fired l.ledger)

/-- Sends what is made of each asset until the run is cancelled or the sink is gone. -/
def sendEach {α : Type} (make : Walk → Asset → α × Walk) (sinkKept : Bool) (w : Walk) :
    List Asset → List α × Walk
  | [] => ([], w)
  | a :: rest =>
    if w.fired then ([], w)
    else
      let (x, w) := make w a
      if w.fired || !sinkKept then ([], w)
      else
        let (xs, w) := sendEach make sinkKept w rest
        (x :: xs, w)

def listKinds (src : Sources) (config : Config) (asked : List String) (sinkKept : Bool) (w : Walk) :
    Report Placed :=
  let (l, w) := openMerged src (orConfigured asked config.kinds) w
  let (sent, w) := sendEach (Walk.place src) sinkKept w l.assets
  ⟨l.finish w.fired, sent, w⟩

def placeUntilFired (src : Sources) (w : Walk) : List Asset → List Placed × Walk
  | [] => ([], w)
  | a :: rest =>
    if w.fired then ([], w)
    else
      let (p, w) := w.place src a
      let (ps, w) := placeUntilFired src w rest
      (p :: ps, w)

def collectMerged (src : Sources) (kinds : List String) (w : Walk) : Outcome (List Placed) × Walk :=
  let (l, w) := openMerged src kinds w
  let (placed, w) := placeUntilFired src w l.assets
  match l.finish w.fired with
  | .ok () => (.ok placed, w)
  | .error e => (.error e, w)

/-- One bundle per project.  Without any type nothing is listed, as no type would stand for every type. -/
def sendGrouped {α : Type} (src : Sources) (kinds : List String) (sinkKept : Bool) (bundle : Group → α)
    (w : Walk) : Report α :=
  if kinds.isEmpty then ⟨stopped w.fired, [], w⟩
  else
    match collectMerged src kinds w with
    | (.error e, w) => ⟨.error e, [], w⟩
    | (.ok assets, w) =>
      let sent := if w.fired || !sinkKept then [] else (Group.byProject assets).map bundle
      ⟨stopped w.fired, sent, w⟩

def listByProject (src : Sources) (config : Config) (asked : List String) (sinkKept : Bool) (w : Walk) :
    Report ProjectBundle :=
  sendGrouped src (orConfigured asked config.projectKinds) sinkKept (fun g => ⟨g.account, g.assets⟩) w

/-- The types of both parts of a monitoring bundle; one that belongs to both is listed once. -/
def monitoringKinds (m : MonitoringKinds) : List String :=
  m.logMetrics ++ m.alerts.filter fun kind => !m.logMetrics.contains kind

def monitoringBundle (m : MonitoringKinds) (g : Group) : MonitoringBundle where
  account := g.account
  logMetrics := g.assets.filter fun p => m.logMetrics.contains p.asset.kind
  alerts := g.assets.filter fun p => !m.logMetrics.contains p.asset.kind

def listMonitoring (src : Sources) (config : Config) (sinkKept : Bool) (w : Walk) : Report MonitoringBundle :=
  sendGrouped src (monitoringKinds config.monitoring) sinkKept (monitoringBundle config.monitoring) w

def listLogSinks (src : Sources) (sinkKept : Bool) (w : Walk) : Report ProjectBundle :=
  sendGrouped src [Kind.logSink] sinkKept (fun g => ⟨g.account, g.assets⟩) w

def listServices (src : Sources) (sinkKept : Bool) (w : Walk) : Report ProjectBundle :=
  sendGrouped src [Kind.service] sinkKept (fun g => ⟨g.account, g.assets⟩) w

def projectRequest (src : Sources) : Request := ⟨src.scope.render, [Kind.project], .policy⟩

/-- The bundle of one project; the project itself is the first of its ancestors. -/
def policyBundle (src : Sources) (w : Walk) (project : Asset) : PolicyBundle × Walk :=
  let (own, w) := w.place src project
  let (inherited, w) := w.policiesFor src (project.ancestors.drop 1)
  (⟨own.account, own :: inherited⟩, w)

def listProjectPolicies (src : Sources) (sinkKept : Bool) (w : Walk) : Report PolicyBundle :=
  let request := projectRequest src
  let p := produce request (src.inventory request) true w.fired
  let w := w.noting [request] p.fired p.ledger
  let (sent, w) := sendEach (policyBundle src) sinkKept w (received p.queue)
  ⟨settle w.fired [p.outcome.bare], sent, w⟩

def dnsRequest (src : Sources) : Request := ⟨src.scope.render, [Kind.dnsPolicy], .resource⟩

/-- The assets of a DNS policy listing: those of a broken one are not used, but a cancellation counts. -/
def usableDns : Outcome (List Asset) → Outcome (List Asset)
  | .ok assets => .ok assets
  | .error .cancelled => .error .cancelled
  | .error _ => .ok []

def listNetworks (src : Sources) (sinkKept : Bool) (w : Walk) : Report Placed :=
  let (l, w) := openMerged src [Kind.network] w
  let request := dnsRequest src
  let dns := collect request (src.inventory request) w.fired
  let w := w.noting [request] dns.fired dns.ledger
  match l.finish w.fired with
  | .error e => ⟨.error e, [], w⟩
  | .ok () =>
    match usableDns dns.result with
    | .error e => ⟨.error e, [], w⟩
    | .ok policies =>
      let (networks, w) := w.placeAll src l.assets
      let sent := if w.fired || !sinkKept then [] else annotateNetworks networks (policies.map DnsPolicy.ofAsset)
      ⟨stopped w.fired, sent, w⟩

end Census
end CloudCensus
