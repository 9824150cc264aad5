import RegionAudit.Failure
import RegionAudit.Listing.Availability
import RegionAudit.Listing.Clusters
import RegionAudit.Listing.Hostnames
import RegionAudit.Provider

/-!
The regions in what a provider answers. Every provider has its own form of answer; whatever the form, an
answer without regions is a failure, and no region is listed twice.
-/
namespace RegionAudit.Listing

def ids (p : Provider) (url : String) (answer : List Char) : Except Failure (List String) :=
  match p with
  | .digitalocean => .ok (availabilityIds answer)
  | .linode =>
    match clusterIds answer with
    | .ok ids => .ok ids
    | .error f => .error (.invalidJson url (f.message answer))
  | .dreamhost => .ok (hostIds answer)

/-- The regions that identifiers stand for; there has to be one. -/
def regionsOf (url : String) (ids : List String) : Except Failure (List Region) :=
  match Region.ofIds ids with
  | [] => .error (.noRegions url)
  | regions => .ok regions

/-- The regions in a provider's answer. `url` is where the answer came from. -/
def regions (p : Provider) (url : String) (answer : List Char) : Except Failure (List Region) :=
  match ids p url answer with
  | .ok ids => regionsOf url ids
  | .error f => .error f

theorem regionsOf_ok {url : String} {ids : List String} {rs : List Region}
    (h : regionsOf url ids = .ok rs) : rs ≠ [] ∧ rs = Region.ofIds ids := by
  unfold regionsOf at h
  split at h
  · cases h
  · next hne =>
    cases h
    exact ⟨hne,rfl⟩

end RegionAudit.Listing
