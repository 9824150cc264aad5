/-!
Lists without repeats. `distinct` keeps the first occurrence of every element; its result has the same
elements (`mem_distinct`), each once (`nodup_distinct`), in the order of those occurrences
(`pairwise_distinct`), and a list without repeats stays as it is (`distinct_eq_self`). It is the library's
`List.eraseDups` (`distinct_eq_eraseDups`).
-/
namespace RegionAudit

variable {α : Type} [DecidableEq α]

/-- The elements of a list in the order of their first occurrences. -/
def distinct : List α → List α
  | [] => []
  | x :: xs => x :: (distinct xs).filter (· ≠ x)

@[simp] theorem distinct_nil : distinct ([] : List α) = [] := rfl

@[simp] theorem distinct_cons (x : α) (xs : List α) :
    distinct (x :: xs) = x :: (distinct xs).filter (· ≠ x) := rfl

@[simp] theorem mem_distinct {x : α} {xs : List α} : x ∈ distinct xs ↔ x ∈ xs := by
  induction xs with
  | nil => simp
  | cons y ys ih => by_cases h : x = y <;> simp [h,ih]

theorem distinct_eq_nil_iff {xs : List α} : distinct xs = [] ↔ xs = [] := by
  cases xs <;> simp

theorem nodup_distinct (xs : List α) : (distinct xs).Nodup := by
  induction xs with
  | nil => simp
  | cons y ys ih => exact List.nodup_cons.mpr ⟨by simp,ih.filter _⟩

theorem pairwise_distinct (xs : List α) :
    (distinct xs).Pairwise fun x y => xs.idxOf x < xs.idxOf y := by
  induction xs with
  | nil => exact .nil
  | cons z zs ih =>
    -- In front of `zs`, `z` moves every other element up by one.
    have hlater : ∀ y ∈ (distinct zs).filter (· ≠ z), (z :: zs).idxOf y = zs.idxOf y + 1 := by
      intro y hy
      have hne : (z == y) = false := by
        rw [beq_eq_false_iff_ne]
        exact fun e => by simp [e] at hy
      simp [List.idxOf_cons,hne]
    rw [distinct_cons]
    refine List.pairwise_cons.mpr ⟨fun y hy => ?_,?_⟩
    · rw [hlater y hy,List.idxOf_cons_self]
      exact Nat.zero_lt_succ _
    · refine (ih.filter _).imp_of_mem fun {x y} hx hy h => ?_
      rw [hlater x hx,hlater y hy]
      exact Nat.succ_lt_succ h

theorem distinct_eq_self {xs : List α} (h : xs.Nodup) : distinct xs = xs := by
  induction xs with
  | nil => rfl
  | cons y ys ih =>
    obtain ⟨hy,hys⟩ := List.nodup_cons.mp h
    rw [distinct_cons,ih hys,List.filter_eq_self.mpr]
    intro x hx
    simpa using fun e : x = y => hy (e ▸ hx)

theorem distinct_map {β : Type} [DecidableEq β] {f : α → β} (hf : ∀ x y, f x = f y → x = y)
    (xs : List α) : distinct (xs.map f) = (distinct xs).map f := by
  induction xs with
  | nil => rfl
  | cons x xs ih =>
    rw [List.map_cons,distinct_cons,distinct_cons,List.map_cons,ih,List.filter_map]
    congr 2
    refine List.filter_congr fun y _ => ?_
    by_cases h : y = x
    · simp [h]
    · have hne : f y ≠ f x := fun e => h (hf y x e)
      simp [h,hne]

theorem filter_distinct (p : α → Bool) (xs : List α) :
    (distinct xs).filter p = distinct (xs.filter p) := by
  induction xs with
  | nil => rfl
  | cons x xs ih =>
    cases h : p x with
    | true =>
      rw [distinct_cons,List.filter_cons_of_pos h,List.filter_cons_of_pos h,distinct_cons,← ih,
        List.filter_filter,List.filter_filter]
      congr 2
      funext y
      exact Bool.and_comm _ _
    | false =>
      have hne : ∀ y, p y = true → y ≠ x := fun y hy e => by simp [← e,hy] at h
      rw [distinct_cons,List.filter_cons_of_neg (by simp [h]),List.filter_cons_of_neg (by simp [h]),
        List.filter_filter,← ih]
      refine List.filter_congr fun y _ => ?_
      cases hy : p y with
      | true => simp [hne y hy]
      | false => rfl

theorem distinct_eq_eraseDups (xs : List α) : distinct xs = xs.eraseDups := by
  induction h : xs.length using Nat.strongRecOn generalizing xs with
  | _ n ih =>
    cases xs with
    | nil => rfl
    | cons x xs =>
      rw [distinct_cons,filter_distinct,List.eraseDups_cons]
      congr 1
      have hlen : (xs.filter (· ≠ x)).length < n := by
        rw [← h]
        exact Nat.lt_succ_of_le (List.length_filter_le _ _)
      rw [ih _ hlen _ rfl]
      congr 2
      funext y
      by_cases hy : y = x <;> simp [hy]

end RegionAudit
