import Mathlib.Data.List.Induction
import Mathlib.Data.List.Nodup
import RegionAudit.Region

/-! Lists collected without repeats. An element is noted behind those seen before it, unless it is one of them; what is
noted of a whole list are the first occurrences in it, each once and in their order, and nothing else is. The first
occurrences in two lists, one behind the other, are those in the first and then those in the second that are new. -/
namespace RegionAudit

section Occurrences

variable {α : Type} [DecidableEq α] {xs ys zs seen : List α} {x : α}

/-- Notes an element behind those that were seen, unless it is one of them. -/
def noted (seen : List α) (x : α) : List α :=
  if x ∈ seen then seen else seen++[x]

theorem noted_of_mem (h : x ∈ seen) : noted seen x = seen :=
  if_pos h

theorem noted_of_notMem (h : x ∉ seen) : noted seen x = seen++[x] :=
  if_neg h

/-- `ys` are the first occurrences in `xs`: its elements, each once, taken out of it in the order of their first
places. -/
structure FirstOccurrences (xs ys : List α) : Prop where
  nodup : ys.Nodup
  mem_iff (x : α) : x ∈ ys ↔ x ∈ xs
  sublist : ys.Sublist xs
  order : ys.Pairwise fun x y => xs.idxOf x < xs.idxOf y

/-! ### Noting one element after another -/

theorem FirstOccurrences.nil : FirstOccurrences ([] : List α) [] where
  nodup := List.nodup_nil
  mem_iff _ := Iff.rfl
  sublist := List.Sublist.refl _
  order := List.Pairwise.nil

/-- First occurrences stay what they are when one more element is noted. -/
theorem FirstOccurrences.note (h : FirstOccurrences xs seen) (x : α) :
    FirstOccurrences (xs++[x]) (noted seen x) := by
  -- the first place of what was seen is the same in the longer list
  have hplace : ∀ y ∈ seen, (xs++[x]).idxOf y = xs.idxOf y := fun y hy =>
    List.idxOf_append_of_mem ((h.mem_iff y).mp hy)
  have horder : seen.Pairwise fun y z => (xs++[x]).idxOf y < (xs++[x]).idxOf z := by
    refine h.order.imp_of_mem fun {y z} hy hz hlt => ?_
    rw [hplace y hy,hplace z hz]
    exact hlt
  by_cases hx : x ∈ seen
  · rw [noted_of_mem hx]
    refine ⟨h.nodup,fun y => ?_,h.sublist.trans (List.sublist_append_left xs [x]),horder⟩
    have hin : x ∈ xs := (h.mem_iff x).mp hx
    rw [h.mem_iff,List.mem_append,List.mem_singleton]
    exact ⟨.inl,fun hy => hy.elim id fun heq => heq ▸ hin⟩
  · rw [noted_of_notMem hx]
    have hout : x ∉ xs := fun hin => hx ((h.mem_iff x).mpr hin)
    have hlast : (xs++[x]).idxOf x = xs.length := by
      rw [List.idxOf_append_of_notMem hout,List.idxOf_cons_self,Nat.add_zero]
    refine ⟨?_,fun y => ?_,h.sublist.append (List.Sublist.refl [x]),?_⟩
    · refine List.nodup_append.mpr ⟨h.nodup,List.nodup_singleton x,fun y hy z hz heq => hx ?_⟩
      rw [← List.mem_singleton.mp hz,← heq]
      exact hy
    · rw [List.mem_append,List.mem_append,h.mem_iff]
    · refine List.pairwise_append.mpr ⟨horder,List.pairwise_singleton _ x,fun y hy z hz => ?_⟩
      rw [List.mem_singleton.mp hz,hplace y hy,hlast]
      exact List.idxOf_lt_length_of_mem ((h.mem_iff y).mp hy)

/-- What is noted of a list from its beginning to its end are the first occurrences in it. -/
theorem firstOccurrences_foldl (xs : List α) : FirstOccurrences xs (xs.foldl noted []) := by
  induction xs using List.reverseRecOn with
  | nil => exact .nil
  | append_singleton xs x ih =>
    rw [List.foldl_append]
    exact ih.note x

theorem FirstOccurrences.unique (hys : FirstOccurrences xs ys) (hzs : FirstOccurrences xs zs) : ys = zs := by
  have hperm : ys.Perm zs := (List.perm_ext_iff_of_nodup hys.nodup hzs.nodup).mpr fun x => by
    rw [hys.mem_iff,hzs.mem_iff]
  exact hperm.eq_of_pairwise (fun _ _ _ _ hlt hgt => absurd hlt (Nat.lt_asymm hgt)) hys.order hzs.order

/-! ### First occurrences by themselves -/

theorem distinct_sublist (xs : List α) : (distinct xs).Sublist xs := by
  induction xs with
  | nil => exact List.Sublist.refl _
  | cons x xs ih => exact (List.filter_sublist.trans ih).cons_cons x

theorem firstOccurrences_distinct (xs : List α) : FirstOccurrences xs (distinct xs) where
  nodup := nodup_distinct xs
  mem_iff _ := mem_distinct
  sublist := distinct_sublist xs
  order := pairwise_distinct xs

theorem firstOccurrences_iff : FirstOccurrences xs ys ↔ ys = distinct xs := by
  constructor
  · exact fun h => h.unique (firstOccurrences_distinct xs)
  · rintro rfl
    exact firstOccurrences_distinct xs

theorem foldl_noted (xs : List α) : xs.foldl noted [] = distinct xs :=
  firstOccurrences_iff.mp (firstOccurrences_foldl xs)

theorem distinct_eq_self_iff : distinct xs = xs ↔ xs.Nodup := by
  constructor
  · intro h
    rw [← h]
    exact nodup_distinct xs
  · exact distinct_eq_self

theorem distinct_distinct (xs : List α) : distinct (distinct xs) = distinct xs :=
  distinct_eq_self (nodup_distinct xs)

/-! ### One list behind another -/

theorem distinct_append (xs ys : List α) :
    distinct (xs++ys) = distinct xs++(distinct ys).filter (· ∉ xs) := by
  induction xs with
  | nil =>
    have hall : (distinct ys).filter (· ∉ ([] : List α)) = distinct ys :=
      List.filter_eq_self.mpr fun y _ => by simp
    rw [hall,List.nil_append,distinct_nil,List.nil_append]
  | cons x xs ih =>
    have hnew : ((distinct ys).filter (· ∉ xs)).filter (· ≠ x) = (distinct ys).filter (· ∉ x :: xs) := by
      rw [List.filter_filter]
      refine List.filter_congr fun y _ => ?_
      by_cases hy : y = x <;> simp [hy]
    rw [List.cons_append,distinct_cons,ih,List.filter_append,hnew,distinct_cons,List.cons_append]

theorem distinct_append_distinct (xs ys : List α) : distinct (distinct xs++distinct ys) = distinct (xs++ys) := by
  rw [distinct_append,distinct_append,distinct_distinct,distinct_distinct]
  simp only [mem_distinct]

end Occurrences

/-! ### Regions -/

/-- The regions of identifiers are what is noted of them one after another, and so the first occurrences among them:
each region once, in the order of the first places, taken out of the list. Only a list without repeats stays as it is.
Of two lists, one behind the other, the second adds the regions that the first does not have, and repeats within each
of them may be dropped before. -/
theorem Region.ofIds_first_occurrences (ids more : List String) :
    (ids.map Region.mk).foldl noted [] = ofIds ids ∧
    (∀ rs, FirstOccurrences (ids.map Region.mk) rs ↔ rs = ofIds ids) ∧
    (ofIds ids = ids.map Region.mk ↔ ids.Nodup) ∧
    distinct (ofIds ids) = ofIds ids ∧
    ofIds (ids++more) = ofIds ids++(ofIds more).filter (·.id ∉ ids) ∧
    ofIds (ids++more) = distinct (ofIds ids++ofIds more) := by
  have hmem (r : Region) : r ∈ ids.map Region.mk ↔ r.id ∈ ids := by
    rw [← mem_distinct]
    exact mem_ofIds
  refine ⟨foldl_noted _,fun rs => firstOccurrences_iff,?_,distinct_distinct _,?_,?_⟩
  · rw [ofIds,distinct_eq_self_iff]
    exact List.nodup_map_iff fun _ _ h => (Region.mk.inj h)
  · rw [ofIds,List.map_append,distinct_append]
    simp only [hmem]
    rfl
  · rw [ofIds,List.map_append]
    exact (distinct_append_distinct _ _).symm

end RegionAudit
