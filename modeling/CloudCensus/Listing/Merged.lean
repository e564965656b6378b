import CloudCensus.Listing.Produce
import CloudCensus.Merge.Merger

/-!
The resource listing and the policy listing of one query, merged by name.

The listings are independent of one another and the merger does not depend on the order in which
their assets arrive, so the resource listing is read to its end first and the policy listing then.
-/

namespace CloudCensus

def queueEvents (side : Facet) (queue : List (Outcome Asset)) : List Merger.Event :=
  queue.map (fun x => match x with
    | .ok a => .observe side a
    | .error e => .fail side e) ++ [.close side]

structure MergedListing where
  assets : List Asset
  /-- The outcomes of the resource listing, the policy listing and the merger. -/
  stages : List (Outcome Unit)
  fired : Bool
  ledger : Ledger
  requests : List Request

namespace MergedListing

def read (inventory : Inventory) (parent : String) (kinds : List String) (fired : Bool) : MergedListing :=
  let resourceRequest : Request := ⟨parent, kinds, .resource⟩
  let policyRequest : Request := ⟨parent, kinds, .policy⟩
  let resources := produce resourceRequest (inventory resourceRequest) true fired
  let policies := produce policyRequest (inventory policyRequest) true resources.fired
  let stop := if policies.fired then [Merger.Event.cancel] else []
  let events := stop ++ queueEvents .resource resources.queue ++ queueEvents .policy policies.queue
  let merger := (Merger.start.run events).2
  { assets := Merger.start.emissions events
    stages := [resources.outcome.bare, policies.outcome.bare, merger.result.getD (.ok ())]
    fired := policies.fired
    ledger := resources.ledger ++ policies.ledger
    requests := [resourceRequest, policyRequest] }

def finish (l : MergedListing) (fired : Bool) : Outcome Unit := settle fired l.stages

end MergedListing
end CloudCensus
