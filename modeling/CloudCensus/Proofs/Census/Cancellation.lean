import CloudCensus.Proofs.Census.Routines

namespace CloudCensus.Census

namespace Routine

variable {γ β : Type} {src : Sources} {routine : Routine γ β}

end Routine

def buckets : Facet → List Asset
  | .resource =>
    [⟨"a", Kind.bucket, ["projects/1"], some .empty, none, none⟩,
      ⟨"b", Kind.bucket, ["projects/2"], some .empty, none, none⟩]
  | .policy => []

def interrupted : Sources :=
  ⟨.project "1", fun _ name _ => ⟨.ok "", name = "projects/2"⟩,
    fun request => (buckets request.facet).map .calm⟩

end CloudCensus.Census
