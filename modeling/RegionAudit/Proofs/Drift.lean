import Mathlib.Data.Finset.Basic
import RegionAudit.Drift
import RegionAudit.Proofs.RegionOrder

/-! A drift is a patch for sets of regions. It is empty exactly when the two lists hold the same regions, it
turns the known regions into the live ones, and there is no smaller one. -/
namespace RegionAudit.Drift

theorem missing_eq_nil_iff {regions others : List Region} :
    missing regions others = [] ↔ ∀ r ∈ regions, r ∈ others := by
  rw [List.eq_nil_iff_forall_not_mem]
  simp only [mem_missing,not_and,not_not]

theorem isEmpty_between_iff {known live : List Region} :
    (between known live).isEmpty = true ↔ ∀ r, r ∈ live ↔ r ∈ known := by
  simp only [isEmpty,between,Bool.and_eq_true,List.isEmpty_iff,missing_eq_nil_iff]
  exact ⟨fun h r => ⟨h.1 r,h.2 r⟩,fun h => ⟨fun r => (h r).mp,fun r => (h r).mpr⟩⟩

/-! ### The patch -/

section Patch

variable (known live : List Region)

theorem toFinset_missing (regions others : List Region) :
    (missing regions others).toFinset = regions.toFinset \ others.toFinset := by
  ext r
  simp only [List.mem_toFinset,mem_missing,Finset.mem_sdiff]

theorem toFinset_added : (between known live).added.toFinset = live.toFinset \ known.toFinset :=
  toFinset_missing live known

theorem toFinset_removed :
    (between known live).removed.toFinset = known.toFinset \ live.toFinset :=
  toFinset_missing known live

theorem missing_congr {regions regions' others others' : List Region}
    (hregions : regions.toFinset = regions'.toFinset) (hothers : others.toFinset = others'.toFinset) :
    missing regions others = missing regions' others' := by
  refine (Region.ordered_sorted _).eq_of_mem_iff (Region.ordered_sorted _) fun r => ?_
  have hr := Finset.ext_iff.mp hregions r
  have ho := Finset.ext_iff.mp hothers r
  rw [List.mem_toFinset,List.mem_toFinset] at hr ho
  change r ∈ missing regions others ↔ r ∈ missing regions' others'
  rw [mem_missing,mem_missing,hr,ho]

theorem patch_eq_live :
    (known.toFinset \ (between known live).removed.toFinset) ∪ (between known live).added.toFinset =
      live.toFinset := by
  rw [toFinset_removed,toFinset_added,sdiff_sdiff_right_self]
  ext r
  simp only [Finset.inf_eq_inter,Finset.mem_union,Finset.mem_inter,Finset.mem_sdiff]
  tauto

/-- Every patch that gives the live regions adds and removes at least as much. -/
theorem patch_minimal {added removed : Finset Region}
    (h : (known.toFinset \ removed) ∪ added = live.toFinset) :
    (between known live).added.toFinset ⊆ added ∧
      (between known live).removed.toFinset ⊆ removed := by
  rw [toFinset_added,toFinset_removed,← h]
  constructor
  · intro r hr
    obtain ⟨hlive,hknown⟩ := Finset.mem_sdiff.mp hr
    rcases Finset.mem_union.mp hlive with hkept | hadded
    · exact absurd (Finset.mem_sdiff.mp hkept).1 hknown
    · exact hadded
  · intro r hr
    obtain ⟨hknown,hlive⟩ := Finset.mem_sdiff.mp hr
    by_contra hremoved
    exact hlive (Finset.mem_union_left _ (Finset.mem_sdiff.mpr ⟨hknown,hremoved⟩))

/-- The drift is the least patch from the known regions to the live ones. Its sides are in the order of
regions, which is the order of their bytes; exchanging the lists exchanges the sides, and neither order
nor repeats in the lists make a difference. -/
theorem between_exact :
    Region.Ordered (between known live).added ∧ Region.Ordered (between known live).removed ∧
    (∀ a b : Region, a.before b = true ↔ a.bytes < b.bytes) ∧
    (between known live).added.Disjoint known ∧ (between known live).removed.Disjoint live ∧
    (between known live).added.Disjoint (between known live).removed ∧
    (known.toFinset \ (between known live).removed.toFinset) ∪ (between known live).added.toFinset =
      live.toFinset ∧
    (∀ added removed : Finset Region, (known.toFinset \ removed) ∪ added = live.toFinset →
      (between known live).added.toFinset ⊆ added ∧
        (between known live).removed.toFinset ⊆ removed) ∧
    ((between known live).isEmpty = true ↔ known.toFinset = live.toFinset) ∧
    between live known = ⟨(between known live).removed,(between known live).added⟩ ∧
    ∀ known' live' : List Region, known.toFinset = known'.toFinset →
      live.toFinset = live'.toFinset → between known live = between known' live' := by
  refine ⟨Region.ordered_sorted _,Region.ordered_sorted _,Region.before_iff_bytes_lt,
    fun r hr => (mem_added_between.mp hr).2,fun r hr => (mem_removed_between.mp hr).2,
    fun r hr hr' => (mem_added_between.mp hr).2 (mem_removed_between.mp hr').1,
    patch_eq_live known live,fun _ _ => patch_minimal known live,?_,between_swap known live,?_⟩
  · rw [isEmpty_between_iff,Finset.ext_iff]
    simp only [List.mem_toFinset]
    exact forall_congr' fun r => iff_comm
  · intro known' live' hknown hlive
    rw [between,between,missing_congr hlive hknown,missing_congr hknown hlive]

theorem between_exact_repeats :
    between [⟨"b"⟩,⟨"a"⟩,⟨"a"⟩] [⟨"c"⟩,⟨"b"⟩] = between [⟨"a"⟩,⟨"b"⟩] [⟨"b"⟩,⟨"c"⟩,⟨"b"⟩] := by
  obtain ⟨-,-,-,-,-,-,-,-,-,-,h⟩ := between_exact [⟨"b"⟩,⟨"a"⟩,⟨"a"⟩] [⟨"c"⟩,⟨"b"⟩]
  exact h _ _ (by decide) (by decide)

end Patch

end RegionAudit.Drift
