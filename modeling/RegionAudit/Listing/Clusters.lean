import RegionAudit.Json.Shape

/-!
Answers that list clusters as JSON: a record of clusters, each of which is a record of its identifier.
-/
namespace RegionAudit.Listing

open Json (Shape)

def clusterShape : Shape :=
  .record "Cluster" "id" .text

def clustersShape : Shape :=
  .record "ClustersResponse" "data" (.list clusterShape)

/-- The identifiers of the clusters in an answer, with repeats. -/
def clusterIds (answer : List Char) : Except Json.Fault (List String) :=
  Json.decode clustersShape answer

end RegionAudit.Listing
