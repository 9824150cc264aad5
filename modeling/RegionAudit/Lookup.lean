import RegionAudit.Listing
import RegionAudit.Network.Fetch

/-!
Lookups: asking a provider for its regions.
-/
namespace RegionAudit

def tellAnswer (p : Provider) (answer : List Char) : Run Unit :=
  match p with
  | .digitalocean => Run.tell (.columnsRead (Listing.availabilityIds answer).length)
  | _ => pure ()

def readAnswer (p : Provider) (url : String) (answer : List Char) :
    Run (Except Failure (List Region)) := do
  tellAnswer p answer
  match Listing.regions p url answer with
  | .ok regions =>
    Run.tell (.answerRead p url regions.length)
    return .ok regions
  | .error f => return .error f

/-- Asks for the regions of a provider at an address. -/
def lookup (remote : Remote) (client : Client) (p : Provider) (url : String) :
    Run (Except Failure (List Region)) := do
  match ← Network.fetch remote client url with
  | .ok answer => readAnswer p url answer
  | .error f => return .error f

end RegionAudit
