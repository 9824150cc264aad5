import RegionAudit.Proofs.Json.Reading
import RegionAudit.Proofs.Lookup

/-! Answers that list clusters. An answer gives regions exactly when it is JSON of one form: a record of a list
of clusters, each a record of its identifier, with any other members in the objects of both. Every other text
is a failure of the answer. -/
namespace RegionAudit.Listing

open Json (Padded Shape)

/-- The texts of responses with these identifiers: a record with a list under `data`, of records with a text under
`id`. Blanks may stand around a response, as around any value. -/
def IsResponse (ids : List String) (answer : List Char) : Prop :=
  ∃ p : Padded, Shape.Writes (.record "ClustersResponse" "data" (.list (.record "Cluster" "id" .text))) ids p.body ∧
    answer = p.text

theorem clusterIds_eq_ok_iff {answer : List Char} {ids : List String} :
    clusterIds answer = .ok ids ↔ IsResponse ids answer :=
  Json.decode_ok_iff clustersShape answer ids

theorem regions_linode_of_ok {answer : List Char} {ids : List String} (url : String)
    (h : clusterIds answer = .ok ids) : regions .linode url answer = regionsOf url ids := by
  simp only [regions,Listing.ids,h]

theorem regions_linode_of_error {answer : List Char} {f : Json.Fault} (url : String)
    (h : clusterIds answer = .error f) :
    regions .linode url answer = .error (.invalidJson url (f.message answer)) := by
  simp only [regions,Listing.ids,h]

/-- A response with identifiers gives its regions, each once and in the order of the response; a response
without clusters is a failure that there are no regions; and everything else is no JSON of this form. -/
theorem regions_responses (url : String) (answer : List Char) :
    (∀ rs, regions .linode url answer = .ok rs ↔
      ∃ ids, IsResponse ids answer ∧ ids ≠ [] ∧ rs = ids.eraseDups.map Region.mk) ∧
    (regions .linode url answer = .error (.noRegions url) ↔ IsResponse [] answer) ∧
    ((∃ reason, regions .linode url answer = .error (.invalidJson url reason)) ↔
      ∀ ids, ¬ IsResponse ids answer) := by
  simp only [← clusterIds_eq_ok_iff]
  cases h : clusterIds answer with
  | error f =>
    rw [regions_linode_of_error url h]
    simp
  | ok ids =>
    rw [regions_linode_of_ok url h]
    by_cases hne : ids = []
    · subst hne
      simp [regionsOf_nil]
    · rw [regionsOf_of_ne_nil url hne,Region.ofIds_eq_eraseDups]
      simp [hne,eq_comm]

end RegionAudit.Listing
