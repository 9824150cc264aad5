import RegionAudit.Distinct
import RegionAudit.Json.Shape

/-!
Storage regions: the identifiers that providers give them, their order, and their JSON form.
-/
namespace RegionAudit

/-- A region, by its provider's identifier such as `nyc3` or `us-east-1`. -/
structure Region where
  id : String
  deriving DecidableEq, Repr

namespace Region

/-- Regions are ordered by the code points of their identifiers. -/
def before (a b : Region) : Bool :=
  decide (a.id < b.id)

def order (a b : Region) : Ordering :=
  if a.id < b.id then .lt else if a = b then .eq else .gt

def insertSorted (r : Region) : List Region → List Region
  | [] => [r]
  | s :: rest => if s.before r then s :: insertSorted r rest else r :: s :: rest

/-- The regions in order, each once. -/
def sorted (regions : List Region) : List Region :=
  (distinct regions).foldr insertSorted []

/-- The regions with these identifiers, in the order of first occurrence. -/
def ofIds (ids : List String) : List Region :=
  distinct (ids.map Region.mk)

def joined (regions : List Region) : String :=
  String.intercalate ", " (regions.map id)

def toJson (r : Region) : String :=
  String.ofList (Json.writeText r.id.toList)

def listToJson (regions : List Region) : String :=
  String.ofList (Json.writeTexts (regions.map (·.id.toList)))

def listOfJson (text : List Char) : Except Json.Fault (List Region) :=
  match Json.decode (.list .text) text with
  | .ok ids => .ok (List.map Region.mk ids)
  | .error f => .error f

theorem ofIds_eq_eraseDups (ids : List String) : ofIds ids = ids.eraseDups.map Region.mk := by
  rw [ofIds,distinct_map fun _ _ h => Region.mk.inj h,distinct_eq_eraseDups]

theorem mem_ofIds {r : Region} {ids : List String} : r ∈ ofIds ids ↔ r.id ∈ ids := by
  rw [ofIds,mem_distinct,List.mem_map]
  exact ⟨fun ⟨_,hid,h⟩ => h ▸ hid,fun h => ⟨r.id,h,rfl⟩⟩

@[simp] theorem mem_insertSorted {r s : Region} {regions : List Region} :
    s ∈ insertSorted r regions ↔ s = r ∨ s ∈ regions := by
  induction regions with
  | nil => simp [insertSorted]
  | cons t rest ih =>
    simp only [insertSorted]
    split
    · simp only [List.mem_cons,ih]
      constructor
      · rintro (h | h | h)
        · exact .inr (.inl h)
        · exact .inl h
        · exact .inr (.inr h)
      · rintro (h | h | h)
        · exact .inr (.inl h)
        · exact .inl h
        · exact .inr (.inr h)
    · simp

@[simp] theorem mem_sorted {r : Region} {regions : List Region} :
    r ∈ sorted regions ↔ r ∈ regions := by
  have h : ∀ xs : List Region, r ∈ xs.foldr insertSorted [] ↔ r ∈ xs := by
    intro xs
    induction xs with
    | nil => simp
    | cons x xs ih => simp [ih]
  rw [sorted,h,mem_distinct]

end Region

end RegionAudit
