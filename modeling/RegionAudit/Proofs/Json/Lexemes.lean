import RegionAudit.Proofs.Json.Grammar

/-! Passing over blanks, words and numbers. What is passed over is always one of these; and each of them is
passed over as a whole, a number only where it does not go on. -/
namespace RegionAudit.Json

/-! ### Where a reading ends -/

/-- Passing over something leaves this much of a text. -/
def Leaves (r : Except Fault Cursor) (rest : List Char) : Prop :=
  ∃ n, r = .ok ⟨rest,n⟩

/-- A reading gives a value and leaves this much of a text. -/
def Gives {α : Type} (r : Reading α) (v : α) (rest : List Char) : Prop :=
  ∃ n, r = .ok (v,⟨rest,n⟩)

@[simp] theorem leaves_ok {c : Cursor} {rest : List Char} : Leaves (.ok c) rest ↔ c.rest = rest := by
  constructor
  · rintro ⟨n,h⟩
    cases h
    rfl
  · rintro rfl
    exact ⟨c.offset,rfl⟩

@[simp] theorem not_leaves_error {f : Fault} {rest : List Char} : ¬ Leaves (.error f) rest := by
  rintro ⟨n,h⟩
  cases h

@[simp] theorem gives_ok {α : Type} {v w : α} {c : Cursor} {rest : List Char} :
    Gives (.ok (v,c)) w rest ↔ v = w ∧ c.rest = rest := by
  constructor
  · rintro ⟨n,h⟩
    cases h
    exact ⟨rfl,rfl⟩
  · rintro ⟨rfl,rfl⟩
    exact ⟨c.offset,rfl⟩

@[simp] theorem not_gives_error {α : Type} {f : Fault} {v : α} {rest : List Char} :
    ¬ Gives (.error f) v rest := by
  rintro ⟨n,h⟩
  cases h

/-! ### Blanks -/

theorem exists_gap (c : Cursor) : ∃ g, IsGap g ∧ c.rest = g ++ c.pastGap.rest :=
  ⟨c.rest.takeWhile isGap,fun _ hd => List.all_eq_true.mp List.all_takeWhile _ hd,
    List.takeWhile_append_dropWhile.symm⟩

theorem pastGap_rest_eq {c : Cursor} {g xs : List Char} {x : Char} (hc : c.rest = g ++ x :: xs)
    (hg : IsGap g) (hx : isGap x = false) : c.pastGap.rest = x :: xs := by
  rw [Cursor.pastGap_rest,hc,List.dropWhile_append_of_pos hg,List.dropWhile_cons_of_neg (by simp [hx])]

theorem pastGap_rest_iff {c : Cursor} {x : Char} {xs : List Char} (hx : isGap x = false) :
    c.pastGap.rest = x :: xs ↔ ∃ g, IsGap g ∧ c.rest = g ++ x :: xs := by
  constructor
  · intro h
    obtain ⟨g,hg,hc⟩ := exists_gap c
    exact ⟨g,hg,h ▸ hc⟩
  · rintro ⟨g,hg,hc⟩
    exact pastGap_rest_eq hc hg hx

theorem pastGap_rest_eq_nil_iff {c : Cursor} : c.pastGap.rest = [] ↔ IsGap c.rest := by
  constructor
  · intro h
    obtain ⟨g,hg,hc⟩ := exists_gap c
    rwa [hc,h,List.append_nil]
  · intro h
    rw [Cursor.pastGap_rest,← List.append_nil c.rest,List.dropWhile_append_of_pos h,List.dropWhile_nil]

theorem next_rest {c : Cursor} {x : Char} {xs : List Char} (hc : c.rest = x :: xs) :
    c.next.rest = xs := by
  simp [Cursor.next,hc]

/-! ### Words -/

theorem leaves_readWord_iff {w : List Char} {c : Cursor} {rest : List Char} :
    Leaves (readWord w c) rest ↔ c.rest = w ++ rest := by
  fun_induction readWord w c with
  | case1 c => simp
  | case2 c w ws hc => simp [hc]
  | case3 c ws x xs hc ih => simp [hc,ih]
  | case4 c w ws x xs hc hne => simp [hc,hne]

/-! ### Numbers -/

/-- Whether a number may end before a text. -/
def Breaks (rest : List Char) : Prop :=
  ∀ x ∈ rest.head?, x.isDigit = false ∧ x ≠ '.' ∧ x ≠ 'e' ∧ x ≠ 'E'

theorem breaks_cons {x : Char} {xs : List Char} :
    Breaks (x :: xs) ↔ x.isDigit = false ∧ x ≠ '.' ∧ x ≠ 'e' ∧ x ≠ 'E' := by
  simp [Breaks]

theorem breaks_gap_append {g rest : List Char} (hg : IsGap g) (hr : Breaks rest) : Breaks (g ++ rest) := by
  cases g with
  | nil => exact hr
  | cons x g =>
    have hx := hg x (by simp)
    simp only [isGap,Bool.or_eq_true,decide_eq_true_eq] at hx
    rw [List.cons_append,breaks_cons]
    rcases hx with ((rfl | rfl) | rfl) | rfl <;> decide

theorem exists_digits {c : Cursor} (h : digitsAt c ≠ []) :
    IsDigits (digitsAt c) ∧ c.rest = digitsAt c ++ c.pastDigits.rest :=
  ⟨⟨h,fun _ hd => List.all_eq_true.mp List.all_takeWhile _ hd⟩,
    List.takeWhile_append_dropWhile.symm⟩

theorem digitsAt_ne_nil {c : Cursor} {d : Char} {ds : List Char} (hc : c.rest = d :: ds)
    (hd : d.isDigit = true) : digitsAt c ≠ [] := by
  simp [digitsAt,hc,hd]

theorem digitsAt_eq {c : Cursor} {ds rest : List Char} (hc : c.rest = ds ++ rest) (hds : IsDigits ds)
    (hr : ∀ x ∈ rest.head?, x.isDigit = false) : digitsAt c = ds ∧ c.pastDigits.rest = rest := by
  simp only [digitsAt,Cursor.pastDigits,hc,List.takeWhile_append_of_pos hds.2,
    List.dropWhile_append_of_pos hds.2]
  cases rest with
  | nil => simp
  | cons x xs => simp [hr x rfl]

theorem atExponent_iff {c : Cursor} :
    atExponent c = true ↔ ∃ e cs, (e = 'e' ∨ e = 'E') ∧ c.rest = e :: cs := by
  cases h : c.rest with
  | nil => simp [atExponent,h]
  | cons x xs => simp [atExponent,h]

theorem exists_sign (c : Cursor) : ∃ sign, (sign = [] ∨ sign = ['+'] ∨ sign = ['-']) ∧
    c.rest = sign ++ (if c.rest.head? = some '-' || c.rest.head? = some '+' then c.next else c).rest := by
  rcases c with ⟨_ | ⟨x,xs⟩,n⟩
  · exact ⟨[],.inl rfl,rfl⟩
  · by_cases hm : x = '-'
    · exact ⟨['-'],.inr (.inr rfl),by simp [hm]⟩
    · by_cases hp : x = '+'
      · exact ⟨['+'],.inr (.inl rfl),by simp [hp]⟩
      · exact ⟨[],.inl rfl,by simp [hm,hp]⟩

theorem skipExponent_sound {c : Cursor} {rest : List Char} (hc : atExponent c = true)
    (h : Leaves (skipExponent c) rest) : ∃ x, IsExponent x ∧ c.rest = x ++ rest := by
  obtain ⟨e,cs,he,hcs⟩ := atExponent_iff.mp hc
  have hnext := next_rest hcs
  obtain ⟨sign,hsign,hsplit⟩ := exists_sign c.next
  unfold skipExponent at h
  dsimp only at h
  generalize (if c.next.rest.head? = some '-' || c.next.rest.head? = some '+' then c.next.next
    else c.next) = c' at h hsplit
  split at h
  · simp at h
  · rename_i d ds hd
    split at h
    · rename_i hdigit
      obtain ⟨hds,hrest⟩ := exists_digits (digitsAt_ne_nil hd hdigit)
      rw [leaves_ok] at h
      refine ⟨e :: sign ++ digitsAt c',.inr ⟨e,sign,_,he,hsign,hds,rfl⟩,?_⟩
      rw [hcs,← hnext,hsplit,hrest,h]
      simp
    · simp at h

/-- What may follow the whole part of a number, or its fraction. -/
theorem afterDigits_sound {c : Cursor} {rest : List Char}
    (h : Leaves (if atExponent c then skipExponent c else .ok c) rest) :
    ∃ x, IsExponent x ∧ c.rest = x ++ rest := by
  split at h
  · exact skipExponent_sound ‹_› h
  · exact ⟨[],.inl rfl,leaves_ok.mp h⟩

theorem skipFraction_sound {c : Cursor} {rest : List Char} (h : Leaves (skipFraction c) rest) :
    ∃ f x, IsFraction f ∧ IsExponent x ∧ c.rest = f ++ x ++ rest := by
  unfold skipFraction at h
  split at h
  · rename_i hpoint
    obtain ⟨cs,hcs⟩ := List.head?_eq_some_iff.mp hpoint
    have hnext := next_rest hcs
    dsimp only at h
    split at h
    · simp at h
    · rename_i hne
      obtain ⟨hds,hrest⟩ := exists_digits (by simpa using hne)
      obtain ⟨x,hx,hc⟩ := afterDigits_sound h
      exact ⟨_,x,.inr ⟨_,hds,rfl⟩,hx,by rw [hcs,← hnext,hrest,hc]; simp⟩
  · obtain ⟨x,hx,hc⟩ := afterDigits_sound h
    exact ⟨[],x,.inl rfl,hx,hc⟩

theorem skipNumber_sound {c : Cursor} {rest : List Char} (h : Leaves (skipNumber c) rest) :
    ∃ n, IsUnsigned n ∧ c.rest = n ++ rest := by
  unfold skipNumber at h
  split at h
  · simp at h
  · rename_i d ds hc
    split at h
    · rename_i hd
      subst hd
      have hnext := next_rest hc
      split at h
      · simp at h
      · obtain ⟨f,x,hf,hx,hrest⟩ := skipFraction_sound h
        exact ⟨['0'] ++ f ++ x,⟨_,f,x,.inl rfl,hf,hx,rfl⟩,by rw [hc,← hnext,hrest]; simp⟩
    · rename_i hzero
      split at h
      · rename_i hdigit
        obtain ⟨hds,hsplit⟩ := exists_digits (digitsAt_ne_nil hc hdigit)
        obtain ⟨f,x,hf,hx,hrest⟩ := skipFraction_sound h
        have hhead : (digitsAt c).head? ≠ some '0' := by simp [digitsAt,hc,hdigit,hzero]
        exact ⟨digitsAt c ++ f ++ x,⟨_,f,x,.inr ⟨hds,hhead⟩,hf,hx,rfl⟩,by rw [hsplit,hrest]; simp⟩
      · simp at h

theorem skipExponent_complete {c : Cursor} {e : Char} {sign ds rest : List Char}
    (hc : c.rest = e :: sign ++ ds ++ rest) (hsign : sign = [] ∨ sign = ['+'] ∨ sign = ['-'])
    (hds : IsDigits ds) (hr : Breaks rest) : Leaves (skipExponent c) rest := by
  obtain ⟨d,ds',rfl⟩ := List.exists_cons_of_ne_nil hds.1
  have hd : d.isDigit = true := hds.2 d (by simp)
  have hnext : c.next.rest = sign ++ (d :: ds' ++ rest) := by rw [next_rest hc]; simp
  -- the sign is passed over if it is there
  have hsplit : (if c.next.rest.head? = some '-' || c.next.rest.head? = some '+' then c.next.next
      else c.next).rest = d :: ds' ++ rest := by
    have hm : d ≠ '-' := ne_of_isDigit hd (by decide)
    have hp : d ≠ '+' := ne_of_isDigit hd (by decide)
    rcases hsign with rfl | rfl | rfl
    · simp [hnext,hm,hp]
    · simpa [hnext] using next_rest hnext
    · simpa [hnext] using next_rest hnext
  obtain ⟨-,hpast⟩ := digitsAt_eq hsplit hds fun x hx => (hr x hx).1
  unfold skipExponent
  dsimp only
  generalize (if c.next.rest.head? = some '-' || c.next.rest.head? = some '+' then c.next.next
    else c.next) = c' at hsplit hpast
  rw [hsplit]
  simp [hd,hpast]

theorem afterDigits_complete {c : Cursor} {x rest : List Char} (hc : c.rest = x ++ rest)
    (hx : IsExponent x) (hr : Breaks rest) :
    Leaves (if atExponent c then skipExponent c else .ok c) rest := by
  rcases hx with rfl | ⟨e,sign,ds,he,hsign,hds,rfl⟩
  · have hat : ¬ atExponent c = true := by
      rw [atExponent_iff]
      rintro ⟨e,cs,he,hcs⟩
      obtain ⟨-,-,hne⟩ := hr e (by rw [← List.nil_append rest,← hc,hcs]; rfl)
      exact he.elim hne.1 hne.2
    rw [if_neg hat]
    exact leaves_ok.mpr hc
  · rw [if_pos (atExponent_iff.mpr ⟨e,_,he,hc⟩)]
    exact skipExponent_complete hc hsign hds hr

/-- Neither an exponent nor what a number breaks before goes on with digits or a point. -/
theorem IsExponent.head_append {x rest : List Char} (hx : IsExponent x) (hr : Breaks rest) :
    ∀ y ∈ (x ++ rest).head?, y.isDigit = false ∧ y ≠ '.' := by
  rcases hx with rfl | ⟨e,sign,ds,he,-,-,rfl⟩
  · exact fun y hy => ⟨(hr y hy).1,(hr y hy).2.1⟩
  · rintro _ ⟨⟩
    rcases he with rfl | rfl <;> decide

theorem skipFraction_complete {c : Cursor} {f x rest : List Char} (hc : c.rest = f ++ (x ++ rest))
    (hf : IsFraction f) (hx : IsExponent x) (hr : Breaks rest) : Leaves (skipFraction c) rest := by
  have hhead := hx.head_append hr
  unfold skipFraction
  rcases hf with rfl | ⟨ds,hds,rfl⟩
  · have hpoint : c.rest.head? ≠ some '.' := fun h => (hhead '.' (hc ▸ h)).2 rfl
    rw [if_neg hpoint]
    exact afterDigits_complete hc hx hr
  · obtain ⟨hat,hpast⟩ := digitsAt_eq (next_rest hc) hds fun y hy => (hhead y hy).1
    rw [if_pos (by rw [hc]; rfl)]
    dsimp only
    rw [hat,if_neg (by simpa using hds.1)]
    exact afterDigits_complete hpast hx hr

theorem skipNumber_complete {c : Cursor} {m rest : List Char} (hc : c.rest = m ++ rest)
    (hm : IsUnsigned m) (hr : Breaks rest) : Leaves (skipNumber c) rest := by
  obtain ⟨w,f,x,hw,hf,hx,rfl⟩ := hm
  have hsplit : c.rest = w ++ (f ++ (x ++ rest)) := by simpa using hc
  have hno : ∀ y ∈ (f ++ (x ++ rest)).head?, y.isDigit = false := by
    rcases hf with rfl | ⟨ds,-,rfl⟩
    · exact fun y hy => (hx.head_append hr y hy).1
    · rintro _ ⟨⟩
      rfl
  unfold skipNumber
  rcases hw with rfl | ⟨hds,hhead⟩
  · have hlead : ((f ++ (x ++ rest)).head?.map Char.isDigit).getD false = false := by
      cases hh : (f ++ (x ++ rest)).head? with
      | none => rfl
      | some y => exact hno y hh
    simp only [hsplit,List.cons_append,List.nil_append,hlead]
    exact skipFraction_complete (next_rest hsplit) hf hx hr
  · obtain ⟨d,ds,rfl⟩ := List.exists_cons_of_ne_nil hds.1
    have hd : d.isDigit = true := hds.2 d (by simp)
    have hzero : d ≠ '0' := by simpa using hhead
    obtain ⟨-,hpast⟩ := digitsAt_eq hsplit hds hno
    simp only [hsplit,List.cons_append,hzero,hd,if_false,if_true]
    exact skipFraction_complete hpast hf hx hr

end RegionAudit.Json
