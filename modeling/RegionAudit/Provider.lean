import RegionAudit.Region
import RegionAudit.Text.Blank
import RegionAudit.Text.LowerCase

/-!
The providers whose regions are audited, their names, and the regions that are already known of each.
-/
namespace RegionAudit

inductive Provider
  | digitalocean
  | linode
  | dreamhost
  deriving DecidableEq, Repr

namespace Provider

/-- All providers, in the order in which they are treated. -/
def all : List Provider :=
  [.digitalocean,.linode,.dreamhost]

theorem mem_all (p : Provider) : p ∈ all := by
  cases p <;> simp [all]

def name : Provider → String
  | .digitalocean => "digitalocean"
  | .linode => "linode"
  | .dreamhost => "dreamhost"

theorem name_injective {p q : Provider} (h : p.name = q.name) : p = q := by
  revert h
  cases p <;> cases q <;> decide

def ofName? (name : String) : Option Provider :=
  if name = "digitalocean" || name = "do" then some .digitalocean
  else if name = "linode" then some .linode
  else if name = "dreamhost" then some .dreamhost
  else none

/-- A provider's name as people write it, without outer blanks and in small letters. -/
def canonical (text : String) : String :=
  String.ofList (Text.lower (Text.trim text.toList))

/-- The provider that a text names; otherwise the name that no provider has. -/
def ofText (text : String) : Except String Provider :=
  match ofName? (canonical text) with
  | some p => .ok p
  | none => .error (canonical text)

def knownIds : Provider → List String
  | .digitalocean => ["ams3","blr1","fra1","lon1","nyc3","sfo2","sfo3","sgp1","syd1"]
  | .linode =>
    [
      "ap-south-1","eu-central-1","us-east-1","us-southeast-1","us-iad-1","fr-par-1",
      "us-ord-1","se-sto-1","in-maa-1","jp-osa-1","it-mil-1","us-mia-1","id-cgk-1",
      "us-lax-1","es-mad-1","nl-ams-1","us-sea-1","br-gru-1"
    ]
  | .dreamhost => ["us-east-1"]

def known (p : Provider) : List Region :=
  p.knownIds.map Region.mk

end Provider

end RegionAudit
