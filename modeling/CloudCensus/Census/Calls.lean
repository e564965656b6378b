import CloudCensus.Census.Operations

namespace CloudCensus.Census

inductive Grouping where
  | byProject (asked : List String)
  | monitoring
  | logSinks
  | services
  deriving DecidableEq, Repr

namespace Grouping

abbrev Bundle : Grouping → Type
  | .byProject _ => ProjectBundle
  | .monitoring => MonitoringBundle
  | .logSinks => ProjectBundle
  | .services => ProjectBundle

def list (src : Sources) (config : Config) (sinkKept : Bool) (w : Walk) :
    (g : Grouping) → Report g.Bundle
  | .byProject asked => listByProject src config asked sinkKept w
  | .monitoring => listMonitoring src config sinkKept w
  | .logSinks => listLogSinks src sinkKept w
  | .services => listServices src sinkKept w

end Grouping

inductive Operation where
  | kinds (asked : List String)
  | grouped (g : Grouping)
  | projectPolicies
  | networks
  deriving DecidableEq, Repr

namespace Operation

abbrev Sends : Operation → Type
  | .kinds _ => Placed
  | .grouped g => g.Bundle
  | .projectPolicies => PolicyBundle
  | .networks => Placed

def perform (src : Sources) (config : Config) (sinkKept : Bool) (w : Walk) :
    (op : Operation) → Report op.Sends
  | .kinds asked => listKinds src config asked sinkKept w
  | .grouped g => g.list src config sinkKept w
  | .projectPolicies => listProjectPolicies src sinkKept w
  | .networks => listNetworks src sinkKept w

end Operation

inductive Call where
  /-- An operation that is cancelled from the start or not and finds the sources as they answer then. -/
  | perform (src : Sources) (op : Operation) (sinkKept cancelled : Bool)
  | clear

def step (config : Config) (w : Walk) : Call → Walk
  | .perform src op sinkKept cancelled => (op.perform src config sinkKept (w.begin cancelled)).walk
  | .clear => w.clear

def after (config : Config) (calls : List Call) : Walk := calls.foldl (step config) .start

end CloudCensus.Census
