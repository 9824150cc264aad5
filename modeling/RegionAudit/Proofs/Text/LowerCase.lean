import Mathlib.Data.List.Basic
import Mathlib.Tactic.Common
import RegionAudit.Text.Blank
import RegionAudit.Text.Bytes
import RegionAudit.Text.LowerCase

/-! Lower case of any text. It leaves a text in small letters as it is, so it does nothing when it is done twice
(`lower_lower`); it makes no white space; and of all letters beyond the basic ones, the Kelvin sign alone becomes a
basic one. So a text that lower case turns into a word of basic letters without a `k` is that word but for the case
of basic letters (`lower_eq_iff`). -/
namespace RegionAudit.Text

/-! ### The table of small forms -/

def CaseRun.small (r : CaseRun) (n : Nat) : Nat :=
  (n+r.shift).toNat

/-- What holds of all small forms of a run: they are characters, and neither white space nor a capital I with a dot;
and they are no basic letters, unless the run is of basic letters or of the Kelvin sign. -/
def CaseRun.Fits (r : CaseRun) : Prop :=
  0 ≤ r.first+r.shift ∧ (r.stride = 1 ∨ r.stride = 2) ∧
  (r.small r.last < 0xd800 ∨ 0xdfff < r.small r.first ∧ r.small r.last < 0x110000) ∧
  (r.small r.last < 0x130 ∨ 0x130 < r.small r.first) ∧
  (0x80 ≤ r.small r.first ∨ r.last < 0x80 ∨ r.first = 0x212a ∧ r.last = 0x212a) ∧
  (0x20 < r.small r.first ∧ r.small r.last < 0x85 ∨ 0xa0 < r.small r.first ∧ r.small r.last < 0x1680 ∨
    0x1680 < r.small r.first ∧ r.small r.last < 0x2000 ∨ 0x205f < r.small r.first ∧ r.small r.last < 0x3000 ∨
    0x3000 < r.small r.first)

instance (r : CaseRun) : Decidable r.Fits :=
  inferInstanceAs (Decidable (_ ∧ _))

/-- The small forms of one run are no letters of another: they stand before or behind them, or in the places between
them that are left out. -/
def CaseRun.apart (r r' : CaseRun) : Bool :=
  (r.small r.last).blt r'.first || r'.last.blt (r.small r.first) ||
    (r'.stride == 2 && (r.stride == 2 || r.first == r.last) && (r.small r.first+r'.first) % 2 == 1)

theorem fits_of_mem : ∀ r ∈ caseRuns, r.Fits := by
  decide +kernel

theorem apart_of_mem {r r' : CaseRun} (hr : r ∈ caseRuns) (hr' : r' ∈ caseRuns) : r.apart r' = true := by
  have hall : (caseRuns.all fun r => caseRuns.all r.apart) = true := by decide +kernel
  exact List.all_eq_true.mp (List.all_eq_true.mp hall r hr) r' hr'

theorem CaseRun.contains_iff {r : CaseRun} {n : Nat} :
    r.contains n = true ↔ r.first ≤ n ∧ n ≤ r.last ∧ (n-r.first) % r.stride = 0 := by
  simp only [contains,Bool.and_eq_true,decide_eq_true_eq,and_assoc]

section Run
variable {r : CaseRun} {n : Nat}

theorem CaseRun.small_bounds (hn : r.contains n = true) :
    r.small r.first ≤ r.small n ∧ r.small n ≤ r.small r.last := by
  obtain ⟨hfirst,hlast,-⟩ := contains_iff.mp hn
  simp only [small]
  omega

theorem CaseRun.not_contains_small {r' : CaseRun} (hr : r ∈ caseRuns) (hr' : r' ∈ caseRuns)
    (hn : r.contains n = true) : r'.contains (r.small n) = false := by
  obtain ⟨hlow,hhigh⟩ := small_bounds hn
  obtain ⟨hfirst,hlast,hstep⟩ := contains_iff.mp hn
  have hapart := apart_of_mem hr hr'
  refine Bool.eq_false_iff.mpr fun hsmall => ?_
  obtain ⟨hfirst',hlast',hstep'⟩ := contains_iff.mp hsmall
  simp only [apart,Bool.or_eq_true,Bool.and_eq_true,Nat.blt_eq,beq_iff_eq] at hapart
  obtain (hbefore | hbehind) | ⟨⟨htwo',htwo⟩,hodd⟩ := hapart
  · omega
  · omega
  · -- both steps are even, or there is one letter only
    rw [htwo'] at hstep'
    obtain ⟨hpos,-⟩ := fits_of_mem r hr
    rcases htwo with htwo | hone
    · rw [htwo] at hstep
      simp only [small] at *
      omega
    · obtain rfl : n = r.first := by omega
      omega

end Run

/-! ### Small forms -/

/-- A character has no small form but itself, or one that a run of the table gives. -/
theorem smallForm_cases (c : Char) :
    smallForm c = c ∧ (∀ r ∈ caseRuns, r.contains c.toNat = false) ∨
      ∃ r ∈ caseRuns, r.contains c.toNat = true ∧ (smallForm c).toNat = r.small c.toNat := by
  unfold smallForm
  cases h : caseRuns.find? (·.contains c.toNat) with
  | none => exact .inl ⟨rfl,fun r hr => by simpa using List.find?_eq_none.mp h r hr⟩
  | some r =>
    have hr := List.mem_of_find?_eq_some h
    have hc : r.contains c.toNat = true := by simpa using List.find?_some h
    obtain ⟨hlow,hhigh⟩ := CaseRun.small_bounds hc
    obtain ⟨-,-,hvalid,-⟩ := fits_of_mem r hr
    refine .inr ⟨r,hr,hc,?_⟩
    have hchar : (r.small c.toNat).isValidChar := by
      rcases hvalid with hvalid | hvalid
      · exact .inl (by omega)
      · exact .inr (by omega)
    exact toNat_ofNat hchar

theorem smallForm_of_not_contains {c : Char} (h : ∀ r ∈ caseRuns, r.contains c.toNat = false) :
    smallForm c = c := by
  rw [smallForm,List.find?_eq_none.mpr fun r hr => by simp [h r hr]]

theorem not_contains_smallForm (c : Char) : ∀ r ∈ caseRuns, r.contains (smallForm c).toNat = false := by
  intro r hr
  rcases smallForm_cases c with ⟨hself,hnone⟩ | ⟨r',hr',hc,hsmall⟩
  · rw [hself]
    exact hnone r hr
  · rw [hsmall]
    exact CaseRun.not_contains_small hr' hr hc

theorem smallForm_smallForm (c : Char) : smallForm (smallForm c) = smallForm c :=
  smallForm_of_not_contains (not_contains_smallForm c)

theorem smallForm_ne_sigma (c : Char) : smallForm c ≠ 'Σ' := by
  intro h
  have hnone := not_contains_smallForm c
  rw [h] at hnone
  exact absurd hnone (by decide +kernel)

theorem smallForm_ne_dotted {c : Char} (h : c ≠ 'İ') : smallForm c ≠ 'İ' := by
  rcases smallForm_cases c with ⟨hself,-⟩ | ⟨r,hr,hc,hsmall⟩
  · rwa [hself]
  · obtain ⟨hlow,hhigh⟩ := CaseRun.small_bounds hc
    obtain ⟨-,-,-,hdotted,-⟩ := fits_of_mem r hr
    intro heq
    rw [heq] at hsmall
    have hcode : ('İ' : Char).toNat = 0x130 := rfl
    omega

/-- No letter beyond the basic ones has a basic small form, but for the Kelvin sign. -/
theorem basic_of_smallForm {c : Char} (h : (smallForm c).toNat < 0x80) : c.toNat < 0x80 ∨ c = '\u212a' := by
  rcases smallForm_cases c with ⟨hself,-⟩ | ⟨r,hr,hc,hsmall⟩
  · rw [hself] at h
    exact .inl h
  · obtain ⟨hlow,-⟩ := CaseRun.small_bounds hc
    obtain ⟨hfirst,hlast,-⟩ := CaseRun.contains_iff.mp hc
    obtain ⟨-,-,-,-,hbasic,-⟩ := fits_of_mem r hr
    rcases hbasic with hbasic | hbasic | ⟨hone,hone'⟩
    · omega
    · exact .inl (by omega)
    · have hcode : c.toNat = ('\u212a' : Char).toNat := by
        have : ('\u212a' : Char).toNat = 0x212a := rfl
        omega
      exact .inr (Char.toNat_inj.mp hcode)

theorem toNat_of_blank {c : Char} (h : isBlank c = true) :
    c.toNat ≤ 0x20 ∨ c.toNat = 0x85 ∨ c.toNat = 0xa0 ∨ c.toNat = 0x1680 ∨
      0x2000 ≤ c.toNat ∧ c.toNat ≤ 0x205f ∨ c.toNat = 0x3000 := by
  simp only [isBlank,Bool.or_eq_true,Bool.and_eq_true,decide_eq_true_eq] at h
  rcases h with (((((((((⟨-,h⟩ | rfl) | rfl) | rfl) | rfl) | ⟨h,h'⟩) | rfl) | rfl) | rfl) | rfl) | rfl
  · exact .inl (Nat.le_trans h (by decide))
  · decide
  · decide
  · decide
  · decide
  · have hlow : 0x2000 ≤ c.toNat := h
    have hhigh : c.toNat ≤ 0x200a := h'
    omega
  · decide
  · decide
  · decide
  · decide
  · decide

theorem isBlank_smallForm {c : Char} (h : isBlank c = false) : isBlank (smallForm c) = false := by
  rcases smallForm_cases c with ⟨hself,-⟩ | ⟨r,hr,hc,hsmall⟩
  · rwa [hself]
  · obtain ⟨hlow,hhigh⟩ := CaseRun.small_bounds hc
    obtain ⟨-,-,-,-,-,hclear⟩ := fits_of_mem r hr
    refine Bool.eq_false_iff.mpr fun hblank => ?_
    have hnumber := toNat_of_blank hblank
    omega

/-! ### Lower case of a text -/

def lowered (before : List Char) (c : Char) (after : List Char) : List Char :=
  if c.toNat < 0x80 then [c.toLower]
  else if c = 'Σ' then [sigma before after]
  else if c = 'İ' then ['i','\u0307']
  else [smallForm c]

theorem lowerAfter_cons (before : List Char) (c : Char) (cs : List Char) :
    lowerAfter before (c :: cs) = lowered before c cs ++ lowerAfter (c :: before) cs := by
  rw [lowerAfter,lowered]
  split_ifs <;> rfl

theorem lowered_cases (before : List Char) (c : Char) (after : List Char) :
    c.toNat < 0x80 ∧ lowered before c after = [c.toLower] ∨
    c = 'Σ' ∧ (lowered before c after = ['ς'] ∨ lowered before c after = ['σ']) ∨
    c = 'İ' ∧ lowered before c after = ['i','\u0307'] ∨
    0x80 ≤ c.toNat ∧ c ≠ 'İ' ∧ lowered before c after = [smallForm c] := by
  unfold lowered sigma
  split_ifs <;> simp_all

/-- A character that lower case leaves as it is, wherever it stands. -/
def IsSmall (c : Char) : Prop :=
  ∀ before after, lowered before c after = [c]

theorem isSmall_of_basic {c : Char} (h : c.toNat < 0x80) (hc : c.toLower = c) : IsSmall c := fun _ _ => by
  rw [lowered,if_pos h,hc]

theorem isSmall_of_smallForm {c : Char} (h : 0x80 ≤ c.toNat) (hsigma : c ≠ 'Σ') (hdotted : c ≠ 'İ')
    (hc : smallForm c = c) : IsSmall c := fun _ _ => by
  rw [lowered,if_neg (Nat.not_lt.mpr h),if_neg hsigma,if_neg hdotted,hc]

theorem toLower_cases (c : Char) :
    c.toLower = c ∨ 65 ≤ c.toNat ∧ c.toNat ≤ 90 ∧ c.toLower.toNat = c.toNat+32 := by
  by_cases hupper : 'A'.val ≤ c.val ∧ c.val ≤ 'Z'.val
  · have hbounds : 65 ≤ c.toNat ∧ c.toNat ≤ 90 := by
      simpa [UInt32.le_iff_toNat_le] using hupper
    have hcode : c.toLower.toNat = (c.val.toNat+32) % 2 ^ 32 := congrArg Char.toNat (dif_pos hupper)
    have hval : c.val.toNat = c.toNat := rfl
    exact .inr ⟨hbounds.1,hbounds.2,by omega⟩
  · exact .inl (dif_neg hupper)

theorem toLower_toLower (c : Char) : c.toLower.toLower = c.toLower := by
  rcases toLower_cases c with hself | hcapital
  · rw [hself,hself]
  · rcases toLower_cases c.toLower with hself | hcapital'
    · exact hself
    · omega

theorem toLower_basic_iff {c : Char} : c.toLower.toNat < 0x80 ↔ c.toNat < 0x80 := by
  rcases toLower_cases c with hself | hcapital
  · rw [hself]
  · omega

theorem isBlank_toLower {c : Char} (h : isBlank c = false) : isBlank c.toLower = false := by
  rcases toLower_cases c with hself | hcapital
  · rwa [hself]
  · refine Bool.eq_false_iff.mpr fun hblank => ?_
    have hnumber := toNat_of_blank hblank
    omega

theorem isSmall_of_mem_lowered {before after : List Char} {c d : Char} (h : d ∈ lowered before c after) :
    IsSmall d := by
  rcases lowered_cases before c after with ⟨hbasic,heq⟩ | ⟨-,heq | heq⟩ | ⟨-,heq⟩ | ⟨hlarge,hdotted,heq⟩
  · obtain rfl : d = c.toLower := by simpa [heq] using h
    exact isSmall_of_basic (toLower_basic_iff.mpr hbasic) (toLower_toLower c)
  · obtain rfl : d = 'ς' := by simpa [heq] using h
    exact isSmall_of_smallForm (by decide) (by decide) (by decide) (by decide +kernel)
  · obtain rfl : d = 'σ' := by simpa [heq] using h
    exact isSmall_of_smallForm (by decide) (by decide) (by decide) (by decide +kernel)
  · obtain rfl | rfl : d = 'i' ∨ d = '\u0307' := by simpa [heq] using h
    · exact isSmall_of_basic (by decide) (by decide)
    · exact isSmall_of_smallForm (by decide) (by decide) (by decide) (by decide +kernel)
  · obtain rfl : d = smallForm c := by simpa [heq] using h
    by_cases hbasic : (smallForm c).toNat < 0x80
    · -- a basic letter among the small forms is the one of the Kelvin sign
      obtain rfl := (basic_of_smallForm hbasic).resolve_left (Nat.not_lt.mpr hlarge)
      exact isSmall_of_basic hbasic (by decide +kernel)
    · exact isSmall_of_smallForm (Nat.not_lt.mp hbasic) (smallForm_ne_sigma c) (smallForm_ne_dotted hdotted)
        (smallForm_smallForm c)

theorem isSmall_of_mem_lowerAfter {before cs : List Char} {d : Char} (h : d ∈ lowerAfter before cs) :
    IsSmall d := by
  induction cs generalizing before with
  | nil => cases h
  | cons c cs ih =>
    rw [lowerAfter_cons] at h
    rcases List.mem_append.mp h with h | h
    · exact isSmall_of_mem_lowered h
    · exact ih h

theorem lowerAfter_of_small {cs : List Char} (before : List Char) (h : ∀ c ∈ cs, IsSmall c) :
    lowerAfter before cs = cs := by
  induction cs generalizing before with
  | nil => rfl
  | cons c cs ih =>
    rw [List.forall_mem_cons] at h
    rw [lowerAfter_cons,h.1,ih _ h.2]
    rfl

/-- Lower case of a text in lower case is that text. -/
theorem lower_lower (cs : List Char) : lower (lower cs) = lower cs :=
  lowerAfter_of_small [] fun _ hc => isSmall_of_mem_lowerAfter hc

/-! ### White space -/

theorem isBlank_of_mem_lowered {before after : List Char} {c d : Char} (hc : isBlank c = false)
    (h : d ∈ lowered before c after) : isBlank d = false := by
  rcases lowered_cases before c after with ⟨hbasic,heq⟩ | ⟨-,heq | heq⟩ | ⟨-,heq⟩ | ⟨hlarge,hdotted,heq⟩
  · obtain rfl : d = c.toLower := by simpa [heq] using h
    exact isBlank_toLower hc
  · obtain rfl : d = 'ς' := by simpa [heq] using h
    decide
  · obtain rfl : d = 'σ' := by simpa [heq] using h
    decide
  · obtain rfl | rfl : d = 'i' ∨ d = '\u0307' := by simpa [heq] using h
    · decide
    · decide
  · obtain rfl : d = smallForm c := by simpa [heq] using h
    exact isBlank_smallForm hc

theorem lowered_ne_nil (before : List Char) (c : Char) (after : List Char) : lowered before c after ≠ [] := by
  unfold lowered
  split_ifs <;> simp

theorem lowerAfter_ne_nil (before : List Char) (c : Char) (cs : List Char) : lowerAfter before (c :: cs) ≠ [] := by
  rw [lowerAfter_cons]
  exact List.append_ne_nil_of_left_ne_nil (lowered_ne_nil before c cs) _

/-- A text that begins with no white space does not in lower case. -/
theorem isBlank_head_lowerAfter {before cs : List Char} (h : ∀ c ∈ cs.head?, isBlank c = false) :
    ∀ d ∈ (lowerAfter before cs).head?, isBlank d = false := by
  intro d hd
  cases cs with
  | nil => cases hd
  | cons c cs =>
    rw [lowerAfter_cons,List.head?_append,List.head?_eq_some_head (lowered_ne_nil before c cs)] at hd
    cases hd
    exact isBlank_of_mem_lowered (h c rfl) (List.head_mem _)

theorem isBlank_last_lowerAfter {before cs : List Char} (h : ∀ c ∈ cs.getLast?, isBlank c = false) :
    ∀ d ∈ (lowerAfter before cs).getLast?, isBlank d = false := by
  intro d hd
  induction cs generalizing before with
  | nil => cases hd
  | cons c cs ih =>
    rw [lowerAfter_cons] at hd
    cases cs with
    | nil =>
      rw [lowerAfter,List.append_nil] at hd
      exact isBlank_of_mem_lowered (h c rfl) (List.mem_of_mem_getLast? hd)
    | cons c' cs =>
      -- the last character comes of what follows
      rw [List.getLast?_append_of_ne_nil _ (lowerAfter_ne_nil (c :: before) c' cs)] at hd
      exact ih (fun e he => h e (by rwa [List.getLast?_cons_cons])) hd

theorem trim_lower_trim (cs : List Char) : trim (lower (trim cs)) = lower (trim cs) :=
  trim_eq_self (isBlank_head_lowerAfter isBlank_head_trim) (isBlank_last_lowerAfter isBlank_last_trim)

/-! ### Basic letters -/

theorem basic_of_lowered {before after : List Char} {c : Char}
    (h : ∀ d ∈ lowered before c after, d.toNat < 0x80) : c.toNat < 0x80 ∨ c = '\u212a' := by
  rcases lowered_cases before c after with ⟨hbasic,-⟩ | ⟨-,heq | heq⟩ | ⟨-,heq⟩ | ⟨hlarge,hdotted,heq⟩
  · exact .inl hbasic
  · exact absurd (h 'ς' (by simp [heq])) (by decide)
  · exact absurd (h 'σ' (by simp [heq])) (by decide)
  · exact absurd (h '\u0307' (by simp [heq])) (by decide)
  · exact basic_of_smallForm (h _ (by simp [heq]))

theorem basic_of_lowerAfter {before cs : List Char} (h : ∀ d ∈ lowerAfter before cs, d.toNat < 0x80 ∧ d ≠ 'k') :
    ∀ c ∈ cs, c.toNat < 0x80 := by
  induction cs generalizing before with
  | nil => exact fun _ hc => nomatch hc
  | cons c cs ih =>
    rw [lowerAfter_cons,List.forall_mem_append] at h
    refine List.forall_mem_cons.mpr ⟨?_,ih h.2⟩
    rcases basic_of_lowered fun d hd => (h.1 d hd).1 with hbasic | rfl
    · exact hbasic
    · have hkelvin : 'k' ∈ lowered before '\u212a' cs := by
        have hsmall : smallForm '\u212a' = 'k' := by decide +kernel
        simp [lowered,hsmall]
      exact absurd rfl (h.1 'k' hkelvin).2

/-- A word of basic letters without a `k` is the lower case of those texts alone that are the word but for the case
of basic letters. -/
theorem lower_eq_iff {word : List Char} (h : ∀ d ∈ word, d.toNat < 0x80 ∧ d ≠ 'k') (cs : List Char) :
    lower cs = word ↔ cs.map Char.toLower = word := by
  constructor
  · rintro rfl
    exact (lower_of_basic (basic_of_lowerAfter h)).symm
  · rintro rfl
    refine lower_of_basic fun c hc => ?_
    exact toLower_basic_iff.mp (h c.toLower (List.mem_map_of_mem hc)).1

end RegionAudit.Text
