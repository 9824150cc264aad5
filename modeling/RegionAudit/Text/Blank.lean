/-!
White space and trimming. Main statements: a text with no white space at either end is its own
trimmed form (`trim_eq_self`), and nothing is left of a text exactly when it is all white space
(`trim_eq_nil_iff`).
-/
namespace RegionAudit.Text

/-- White space: tab to carriage return, space, next line, and the space, line and paragraph
separators. -/
def isBlank (c : Char) : Bool :=
  ('\t' ≤ c && c ≤ '\r') || c = ' ' || c = '\u0085' || c = '\u00a0' || c = '\u1680' ||
    ('\u2000' ≤ c && c ≤ '\u200a') || c = '\u2028' || c = '\u2029' || c = '\u202f' ||
    c = '\u205f' || c = '\u3000'

/-- The five blanks that separate things in markup: tab, line feed, form feed, carriage return
and space. -/
def isMarkupBlank (c : Char) : Bool :=
  c = '\t' || c = '\n' || c = '\x0c' || c = '\r' || c = ' '

def trimStart (cs : List Char) : List Char :=
  cs.dropWhile isBlank

def trimEnd (cs : List Char) : List Char :=
  (cs.reverse.dropWhile isBlank).reverse

/-- The text without the white space at either end. -/
def trim (cs : List Char) : List Char :=
  trimEnd (trimStart cs)

@[simp] theorem trimStart_nil : trimStart [] = [] := rfl

theorem trimStart_cons_blank {c : Char} (h : isBlank c = true) (cs : List Char) :
    trimStart (c :: cs) = trimStart cs := by
  simp [trimStart,h]

theorem trimStart_cons_of_not_blank {c : Char} (h : isBlank c = false) (cs : List Char) :
    trimStart (c :: cs) = c :: cs := by
  simp [trimStart,h]

theorem trimEnd_concat_of_not_blank {c : Char} (h : isBlank c = false) (cs : List Char) :
    trimEnd (cs ++ [c]) = cs ++ [c] := by
  simp [trimEnd,h]

theorem trimEnd_concat_blank {c : Char} (h : isBlank c = true) (cs : List Char) :
    trimEnd (cs ++ [c]) = trimEnd cs := by
  simp [trimEnd,h]

theorem trimStart_eq_nil_iff {cs : List Char} :
    trimStart cs = [] ↔ ∀ c ∈ cs, isBlank c = true := by
  induction cs with
  | nil => simp
  | cons c cs ih =>
    cases h : isBlank c with
    | true => simp [trimStart_cons_blank h,ih,h]
    | false => simp [trimStart_cons_of_not_blank h,h]

theorem trimEnd_eq_nil_iff {cs : List Char} : trimEnd cs = [] ↔ ∀ c ∈ cs, isBlank c = true := by
  rw [trimEnd,List.reverse_eq_nil_iff,← trimStart,trimStart_eq_nil_iff]
  simp

theorem trim_eq_nil_iff {cs : List Char} : trim cs = [] ↔ ∀ c ∈ cs, isBlank c = true := by
  have hsplit : ∀ c ∈ cs, isBlank c = true ∨ c ∈ trimStart cs := fun c hc => by
    rw [← List.takeWhile_append_dropWhile (p := isBlank) (l := cs)] at hc
    exact (List.mem_append.mp hc).imp_left (List.all_eq_true.mp List.all_takeWhile c)
  rw [trim,trimEnd_eq_nil_iff]
  exact ⟨fun h c hc => (hsplit c hc).elim id (h c),
    fun h c hc => h c ((List.dropWhile_suffix isBlank).subset hc)⟩

theorem trim_eq_self {cs : List Char} (first : ∀ c ∈ cs.head?, isBlank c = false)
    (last : ∀ c ∈ cs.getLast?, isBlank c = false) : trim cs = cs := by
  cases cs with
  | nil => rfl
  | cons c cs =>
    have hc : isBlank c = false := first c rfl
    rw [trim,trimStart_cons_of_not_blank hc]
    have hne : c :: cs ≠ [] := by simp
    rw [← List.dropLast_concat_getLast hne] at last ⊢
    exact trimEnd_concat_of_not_blank (last _ (by simp)) _

theorem isBlank_head_trimStart (cs : List Char) : ∀ c ∈ (trimStart cs).head?, isBlank c = false := by
  intro c hc
  have hhead := List.head?_dropWhile_not isBlank cs
  rw [trimStart] at hc
  rwa [Option.mem_def.mp hc] at hhead

theorem isBlank_last_trim {cs : List Char} : ∀ c ∈ (trim cs).getLast?, isBlank c = false := by
  intro c hc
  rw [trim,trimEnd,List.getLast?_reverse] at hc
  exact isBlank_head_trimStart _ c hc

theorem trimEnd_prefix (cs : List Char) : trimEnd cs <+: cs := by
  have hsuffix := List.reverse_prefix.mpr (List.dropWhile_suffix (l := cs.reverse) isBlank)
  rwa [List.reverse_reverse] at hsuffix

theorem isBlank_head_trim {cs : List Char} : ∀ c ∈ (trim cs).head?, isBlank c = false := by
  intro c hc
  obtain ⟨rest,hrest⟩ := trimEnd_prefix (trimStart cs)
  refine isBlank_head_trimStart cs c ?_
  rw [← hrest,List.head?_append,trim] at *
  rw [Option.mem_def.mp hc]
  rfl

theorem mem_trimStart {c : Char} (h : isBlank c = false) {cs : List Char} (hc : c ∈ cs) :
    c ∈ trimStart cs := by
  rw [← List.takeWhile_append_dropWhile (p := isBlank) (l := cs)] at hc
  refine (List.mem_append.mp hc).resolve_left fun htake => ?_
  rw [List.all_eq_true.mp List.all_takeWhile c htake] at h
  exact Bool.noConfusion h

theorem mem_trim {c : Char} (h : isBlank c = false) {cs : List Char} (hc : c ∈ cs) : c ∈ trim cs := by
  have hreversed := mem_trimStart h (List.mem_reverse.mpr (mem_trimStart h hc))
  exact List.mem_reverse.mpr hreversed

end RegionAudit.Text
