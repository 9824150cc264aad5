import RegionAudit.Region

/-!
How a live list of regions departs from a known one. A drift is a patch: the regions to add to the known
ones and those to remove from them, each in order and without repeats.
-/
namespace RegionAudit

structure Drift where
  added : List Region
  removed : List Region
  deriving DecidableEq, Repr

namespace Drift

/-- The regions of the first list that are not in the second, in order. -/
def missing (regions others : List Region) : List Region :=
  Region.sorted (regions.filter (· ∉ others))

/-- The drift from the known regions to the live ones. -/
def between (known live : List Region) : Drift :=
  ⟨missing live known,missing known live⟩

def isEmpty (d : Drift) : Bool :=
  d.added.isEmpty && d.removed.isEmpty

@[simp] theorem mem_missing {r : Region} {regions others : List Region} :
    r ∈ missing regions others ↔ r ∈ regions ∧ r ∉ others := by
  simp [missing]

theorem mem_added_between {r : Region} {known live : List Region} :
    r ∈ (between known live).added ↔ r ∈ live ∧ r ∉ known :=
  mem_missing

theorem mem_removed_between {r : Region} {known live : List Region} :
    r ∈ (between known live).removed ↔ r ∈ known ∧ r ∉ live :=
  mem_missing

theorem between_swap (known live : List Region) :
    between live known = ⟨(between known live).removed,(between known live).added⟩ := rfl

end Drift

end RegionAudit
