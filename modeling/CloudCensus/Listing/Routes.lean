import CloudCensus.Listing.Produce

namespace CloudCensus

structure Route where
  parent : Option String
  kind : String
  facet : Facet
  items : List Item
  deriving Repr, Inhabited

namespace Route

def items? (routes : List Route) (parent : Option String) (kind : String) (facet : Facet) : Option (List Item) :=
  let found := routes.filter fun r => r.parent = parent && r.kind = kind && r.facet = facet
  if found.isEmpty then none else some (found.flatMap (·.items))

/-- Serves the types of a request in their order, each from the routes of its parent if there are any and
from those of any parent otherwise. -/
def inventory (routes : List Route) : Inventory := fun request =>
  request.kinds.flatMap fun kind =>
    ((items? routes (some request.parent) kind request.facet).or
      (items? routes none kind request.facet)).getD []

end Route
end CloudCensus
