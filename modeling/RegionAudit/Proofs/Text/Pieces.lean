import Mathlib.Data.List.Infix

/-! Texts that are put together from others and taken apart again: the lines that are printed one after
another, and what stands between commas. A text comes back as it was unless the sign that parts it from the
next stands in it. -/
namespace RegionAudit.Text

/-! ### Lines -/

/-- The text that comes of printing lines. -/
def printedText (lines : List String) : List Char :=
  lines.flatMap fun line => line.toList ++ ['\n']

/-- The lines of a text, of which the last one ends as well. -/
def linesOf (cs : List Char) : List (List Char) :=
  (cs.splitOn '\n').dropLast

theorem notMem_of_mem_splitOn {a : Char} {cs piece : List Char} (h : piece ∈ cs.splitOn a) :
    a ∉ piece := by
  induction cs generalizing piece with
  | nil =>
    obtain rfl : piece = [] := by simpa using h
    exact List.not_mem_nil
  | cons c cs ih =>
    rw [List.splitOn_cons_eq_if_modifyHead] at h
    split at h
    · rcases List.mem_cons.mp h with rfl | h
      · exact List.not_mem_nil
      · exact ih h
    · rename_i hc
      have hne : a ≠ c := fun e => hc (beq_iff_eq.mpr e.symm)
      cases hs : cs.splitOn a with
      | nil => exact absurd hs (List.splitOn_ne_nil a cs)
      | cons p ps =>
        rw [hs,List.modifyHead_cons] at h
        rcases List.mem_cons.mp h with rfl | h
        · simpa [hne] using ih (hs ▸ List.mem_cons_self)
        · exact ih (hs ▸ List.mem_cons_of_mem p h)

theorem notMem_of_mem_linesOf {cs line : List Char} (h : line ∈ linesOf cs) : '\n' ∉ line :=
  notMem_of_mem_splitOn (List.dropLast_subset _ h)

/-- Lines without line feeds come back as they were printed. -/
theorem linesOf_printedText {lines : List String} (h : ∀ line ∈ lines, '\n' ∉ line.toList) :
    linesOf (printedText lines) = lines.map String.toList := by
  induction lines with
  | nil => simp [linesOf,printedText]
  | cons line lines ih =>
    have hline : '\n' ∉ line.toList := h line (by simp)
    have ih := ih fun l hl => h l (List.mem_cons_of_mem line hl)
    unfold linesOf at ih ⊢
    have hsplit : (printedText (line :: lines)).splitOn '\n' =
        line.toList :: (printedText lines).splitOn '\n' := by
      rw [printedText,List.flatMap_cons,List.append_assoc,List.singleton_append,
        List.splitOn_append_cons_self_of_not_mem hline]
      rfl
    rw [hsplit,List.dropLast_cons_of_ne_nil (List.splitOn_ne_nil _ _),ih,List.map_cons]

/-! ### Enumerations -/

def comma : List Char := [',',' ']

def items : List Char → List (List Char)
  | [] => [[]]
  | [c] => [[c]]
  | c :: d :: cs =>
    if c = ',' ∧ d = ' ' then [] :: items cs else (items (d :: cs)).modifyHead (c :: ·)

theorem items_ne_nil (cs : List Char) : items cs ≠ [] := by
  fun_induction items cs with
  | case1 => simp
  | case2 => simp
  | case3 => simp
  | case4 c d cs hne ih =>
    cases h : items (d :: cs) with
    | nil => exact absurd h ih
    | cons p ps => simp

theorem intercalate_items (cs : List Char) : comma.intercalate (items cs) = cs := by
  fun_induction items cs with
  | case1 => rfl
  | case2 => rfl
  | case3 c d cs h ih =>
    obtain ⟨rfl,rfl⟩ := h
    cases hs : items cs with
    | nil => exact absurd hs (items_ne_nil cs)
    | cons p ps =>
      rw [hs] at ih
      rw [List.intercalate_cons_cons,ih]
      rfl
  | case4 c d cs hne ih =>
    cases hs : items (d :: cs) with
    | nil => exact absurd hs (items_ne_nil _)
    | cons p ps =>
      rw [hs] at ih
      rw [List.modifyHead_cons,← ih]
      cases ps <;> simp [List.intercalate_cons_cons]

def HasNoComma (cs : List Char) : Prop :=
  ¬ comma <:+: cs

instance : DecidablePred HasNoComma := fun _ => inferInstanceAs (Decidable (¬ _))

theorem hasNoComma_nil : HasNoComma [] := by
  simp [HasNoComma,comma]

theorem hasNoComma_cons {c : Char} {cs : List Char} :
    HasNoComma (c :: cs) ↔ ¬ (c = ',' ∧ cs.head? = some ' ') ∧ HasNoComma cs := by
  unfold HasNoComma
  rw [List.infix_cons_iff,not_or,comma,List.cons_prefix_cons]
  cases cs with
  | nil => simp
  | cons d cs => simp [List.cons_prefix_cons,eq_comm]

theorem hasNoComma_of_mem_items {cs item : List Char} (h : item ∈ items cs) : HasNoComma item := by
  fun_induction items cs generalizing item with
  | case1 =>
    obtain rfl := List.mem_singleton.mp h
    exact hasNoComma_nil
  | case2 c =>
    obtain rfl := List.mem_singleton.mp h
    exact hasNoComma_cons.mpr ⟨by simp,hasNoComma_nil⟩
  | case3 c d cs hcomma ih =>
    rcases List.mem_cons.mp h with rfl | h
    · exact hasNoComma_nil
    · exact ih h
  | case4 c d cs hne ih =>
    have hjoin := intercalate_items (d :: cs)
    cases hs : items (d :: cs) with
    | nil => exact absurd hs (items_ne_nil _)
    | cons p ps =>
      rw [hs] at h hjoin ih
      rw [List.modifyHead_cons] at h
      rcases List.mem_cons.mp h with rfl | h
      · refine hasNoComma_cons.mpr ⟨fun ⟨hc,hp⟩ => hne ⟨hc,?_⟩,ih List.mem_cons_self⟩
        obtain ⟨p',rfl⟩ : ∃ p', p = ' ' :: p' := List.head?_eq_some_iff.mp hp
        cases ps with
        | nil => exact (List.cons.inj hjoin).1.symm
        | cons q qs =>
          rw [List.intercalate_cons_cons] at hjoin
          exact (List.cons.inj hjoin).1.symm
      · exact ih (List.mem_cons_of_mem p h)

theorem items_of_hasNoComma {cs : List Char} (h : HasNoComma cs) : items cs = [cs] := by
  fun_induction items cs with
  | case1 => rfl
  | case2 => rfl
  | case3 c d cs hcomma =>
    exact absurd ⟨hcomma.1,congrArg some hcomma.2⟩ (hasNoComma_cons.mp h).1
  | case4 c d cs hne ih => rw [ih (hasNoComma_cons.mp h).2,List.modifyHead_cons]

theorem items_append {item : List Char} (h : HasNoComma item) (cs : List Char) :
    items (item ++ comma ++ cs) = item :: items cs := by
  induction item with
  | nil => simp [comma,items]
  | cons c item ih =>
    obtain ⟨hc,h⟩ := hasNoComma_cons.mp h
    have ih := ih h
    cases item with
    | nil =>
      have hc' : ¬ (c = ',' ∧ ',' = ' ') := fun hd => absurd hd.2 (by decide)
      simp only [comma,List.nil_append,List.cons_append] at ih ⊢
      rw [items,if_neg hc',ih,List.modifyHead_cons]
    | cons d item =>
      have hc' : ¬ (c = ',' ∧ d = ' ') := fun hd => hc ⟨hd.1,congrArg some hd.2⟩
      simp only [List.cons_append] at ih ⊢
      rw [items,if_neg hc',ih,List.modifyHead_cons]

/-- Items without commas come back as they were enumerated. -/
theorem items_intercalate {xs : List (List Char)} (hne : xs ≠ []) (h : ∀ x ∈ xs, HasNoComma x) :
    items (comma.intercalate xs) = xs := by
  induction xs with
  | nil => exact absurd rfl hne
  | cons x xs ih =>
    have hx := h x (by simp)
    cases xs with
    | nil => simpa using items_of_hasNoComma hx
    | cons y ys =>
      rw [List.intercalate_cons_cons,items_append hx,
        ih (by simp) fun z hz => h z (List.mem_cons_of_mem x hz)]

end RegionAudit.Text
