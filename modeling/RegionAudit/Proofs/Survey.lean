import Mathlib.Tactic.Common
import RegionAudit.Proofs.Drift
import RegionAudit.Survey

/-! What a survey brings: an entry for each source, in its place, made of that source's own lookup. -/
namespace RegionAudit

open Run

namespace Survey

def listing (s : Source) : Entry (List Region) :=
  ⟨s.provider,s.lookup.result⟩

def comparison (s : Source) : Entry Drift :=
  ⟨s.provider,s.lookup.result.map (drift s.provider)⟩

@[simp] theorem list_result (sources : List Source) :
    (list sources).result = sources.map listing := by
  rw [list,result_each]
  rfl

theorem compare_result (s : Source) : (compare (listing s)).result = comparison s := by
  simp only [compare,comparison,listing]
  cases s.lookup.result <;> rfl

@[simp] theorem check_result (sources : List Source) :
    (check sources).result = sources.map comparison := by
  simp only [check,result_bind,result_each,list_result,List.map_map]
  exact List.map_congr_left fun s _ => compare_result s

/-- A provider has changed when its lookup gives regions that are not the known ones. -/
theorem hasDrift_comparison (s : Source) :
    (comparison s).hasDrift = true ↔
      ∃ live, s.lookup.result = .ok live ∧ ¬ ∀ r, r ∈ live ↔ r ∈ s.provider.known := by
  cases h : s.lookup.result with
  | error f => simp [comparison,Entry.hasDrift,Except.map,h]
  | ok live =>
    have hd : (drift s.provider live).isEmpty = true ↔ ∀ r, r ∈ live ↔ r ∈ s.provider.known :=
      Drift.isEmpty_between_iff
    simp only [comparison,Entry.hasDrift,Except.map,h,Except.ok.injEq,exists_eq_left',← hd,
      Bool.not_eq_true']
    exact (Bool.not_eq_true _).symm.to_iff

end Survey

end RegionAudit
