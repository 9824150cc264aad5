import RegionAudit.Proofs.Json.Lexemes

/-! Texts in quotation marks. Passing over one takes what may stand within the marks; reading one takes what
spells characters out, and gives them. -/
namespace RegionAudit.Json

open Text (number? numberAfter? hexValue? isHighHalf isLowHalf)

/-! ### Escapes of four digits -/

theorem hexValue?_lt {c : Char} {d : Nat} (h : hexValue? c = some d) : d < 16 := by
  unfold hexValue? at h
  split at h
  · rename_i hd
    cases h
    simp [Char.isDigit,UInt32.le_iff_toNat_le] at hd ⊢
    omega
  · split at h
    · rename_i hd
      cases h
      simp [Char.le_def,UInt32.le_iff_toNat_le] at hd ⊢
      omega
    · split at h
      · rename_i hd
        cases h
        simp [Char.le_def,UInt32.le_iff_toNat_le] at hd ⊢
        omega
      · cases h

theorem numberAfter?_cons_iff {n m : Nat} {c : Char} {ds : List Char} :
    numberAfter? 16 n (c :: ds) = some m ↔
      ∃ d, hexValue? c = some d ∧ numberAfter? 16 (n * 16 + d) ds = some m := by
  cases hc : hexValue? c with
  | none => simp [numberAfter?,hc]
  | some d => simp [numberAfter?,hc,hexValue?_lt hc]

theorem numberAfter?_append {n m d : Nat} {c : Char} {ds : List Char}
    (hds : numberAfter? 16 n ds = some m) (hc : hexValue? c = some d) :
    numberAfter? 16 n (ds ++ [c]) = some (m * 16 + d) := by
  induction ds generalizing n with
  | nil =>
    cases hds
    exact numberAfter?_cons_iff.mpr ⟨d,hc,rfl⟩
  | cons e ds ih =>
    obtain ⟨k,hk,hds⟩ := numberAfter?_cons_iff.mp hds
    exact numberAfter?_cons_iff.mpr ⟨k,hk,ih hds⟩

def IsUnitBegun (count value : Nat) (u : List Char) : Prop :=
  ∃ ds, ds.length = count ∧ number? 16 ds = some value ∧ u = '\\' :: 'u' :: ds

theorem isUnitBegun_zero : IsUnitBegun 0 0 ['\\','u'] :=
  ⟨[],rfl,rfl,rfl⟩

theorem IsUnitBegun.append {count value d : Nat} {u : List Char} {c : Char}
    (hu : IsUnitBegun count value u) (hc : hexValue? c = some d) :
    IsUnitBegun (count + 1) (value * 16 + d) (u ++ [c]) := by
  obtain ⟨ds,hlen,hds,rfl⟩ := hu
  exact ⟨ds ++ [c],by simp [hlen],numberAfter?_append hds hc,rfl⟩

/-! ### Texts -/

/-- What has been passed over since the last whole piece. -/
def Skipping.Behind : Skipping → List Char → Prop
  | .plain, b => b = []
  | .backslash, b => b = ['\\']
  | .digits count, b => count < 4 ∧ ∃ value, IsUnitBegun count value b

theorem skipQuoted_sound {w : Skipping} {cs b rest : List Char} {n : Nat} (hb : w.Behind b)
    (h : Leaves (skipQuoted w cs n) rest) : ∃ i, IsInside (b ++ i) ∧ cs = i ++ '"' :: rest := by
  fun_induction skipQuoted w cs n generalizing b with
  | case1 => simp at h
  | case2 cs n =>
    subst hb
    obtain rfl : cs = rest := leaves_ok.mp h
    exact ⟨[],.nil,rfl⟩
  | case3 cs n hq ih =>
    subst hb
    obtain ⟨i,hi,rfl⟩ := ih rfl h
    exact ⟨'\\' :: i,hi,rfl⟩
  | case4 => simp at h
  | case5 c cs n hq hbs hlt ih =>
    subst hb
    obtain ⟨i,hi,rfl⟩ := ih rfl h
    exact ⟨c :: i,.cons (p := [c]) (.plain ⟨Char.not_lt.mp hlt,hq,hbs⟩) hi,rfl⟩
  | case6 cs n ih =>
    subst hb
    obtain ⟨i,hi,rfl⟩ := ih ⟨by omega,0,isUnitBegun_zero⟩ h
    exact ⟨'u' :: i,hi,rfl⟩
  | case7 c cs n hu e he ih =>
    subst hb
    obtain ⟨i,hi,rfl⟩ := ih rfl h
    exact ⟨c :: i,.cons (p := ['\\',c]) (.letter he) hi,rfl⟩
  | case8 => simp at h
  | case9 => simp at h
  | case10 count c cs n d hd ih =>
    obtain ⟨hlt,value,hu⟩ := hb
    have hu := hu.append hd
    by_cases hc : count < 3
    · rw [if_pos hc] at ih h
      obtain ⟨i,hi,rfl⟩ := ih ⟨by omega,_,hu⟩ h
      exact ⟨c :: i,by simpa using hi,rfl⟩
    · rw [if_neg hc] at ih h
      obtain ⟨i,hi,rfl⟩ := ih rfl h
      obtain rfl : count = 3 := by omega
      exact ⟨c :: i,by simpa using IsInside.cons (.unit hu) hi,rfl⟩

theorem skipQuoted_digits {ds : List Char} (count : Nat) {k m : Nat} (hne : ds ≠ [])
    (hlen : count + ds.length = 4) (hds : numberAfter? 16 k ds = some m) (cs : List Char) (n : Nat) :
    ∃ n', skipQuoted (.digits count) (ds ++ cs) n = skipQuoted .plain cs n' := by
  induction ds generalizing count k n with
  | nil => exact absurd rfl hne
  | cons c ds ih =>
    obtain ⟨d,hd,hds⟩ := numberAfter?_cons_iff.mp hds
    simp only [List.length_cons] at hlen
    simp only [List.cons_append,skipQuoted,hd]
    by_cases hc : count < 3
    · rw [if_pos hc]
      exact ih (count + 1) (by rintro rfl; simp at hlen; omega) (by omega) hds _
    · rw [if_neg hc]
      obtain rfl : ds = [] := List.length_eq_zero_iff.mp (by omega)
      exact ⟨_,rfl⟩

theorem skipQuoted_piece {p : List Char} (hp : IsPiece p) (cs : List Char) (n : Nat) :
    ∃ n', skipQuoted .plain (p ++ cs) n = skipQuoted .plain cs n' := by
  cases hp with
  | @plain c hc =>
    obtain ⟨hle,hq,hb⟩ := hc
    exact ⟨n + c.utf8Size,by simp [skipQuoted,hq,hb,Char.not_lt.mpr hle]⟩
  | @letter l c hl =>
    have hu : l ≠ 'u' := by
      rintro rfl
      cases hl
    exact ⟨n + 1 + 1,by simp [skipQuoted,hu,hl]⟩
  | unit hu =>
    obtain ⟨ds,hlen,hds,rfl⟩ := hu
    have hne : ds ≠ [] := List.ne_nil_of_length_eq_add_one hlen
    obtain ⟨n',h⟩ := skipQuoted_digits 0 hne (by omega) hds cs (n + 1 + 1)
    exact ⟨n',by simpa [skipQuoted] using h⟩

theorem skipQuoted_complete {i : List Char} (hi : IsInside i) (rest : List Char) (n : Nat) :
    Leaves (skipQuoted .plain (i ++ '"' :: rest) n) rest := by
  induction hi generalizing n with
  | nil => simp [skipQuoted]
  | cons hp _ ih =>
    rw [List.append_assoc]
    obtain ⟨n',h⟩ := skipQuoted_piece hp _ n
    rw [h]
    exact ih n'

theorem leaves_skipQuoted_iff {cs rest : List Char} {n : Nat} :
    Leaves (skipQuoted .plain cs n) rest ↔ ∃ i, IsInside i ∧ cs = i ++ '"' :: rest := by
  constructor
  · exact fun h => skipQuoted_sound (w := .plain) rfl h
  · rintro ⟨i,hi,rfl⟩
    exact skipQuoted_complete hi rest n

/-! ### Reading texts -/

theorem gives_before_iff {c : Char} {r : Reading (List Char)} {s rest : List Char} :
    Gives (before c r) s rest ↔ ∃ s', s = c :: s' ∧ Gives r s' rest := by
  cases r with
  | error f => simp [before]
  | ok r =>
    obtain ⟨s',after⟩ := r
    simp [before,eq_comm]

def IsHalfRead (u : List Char) : Option Nat → Prop
  | none => u = []
  | some h => IsUnit u h ∧ isHighHalf h = true

/-- What has been read since the last whole character. -/
def Within.Behind : Within → List Char → Prop
  | .plain, b => b = []
  | .backslash, b => b = ['\\']
  | .digits high count value, b =>
      count < 4 ∧ ∃ u v, IsHalfRead u high ∧ IsUnitBegun count value v ∧ b = u ++ v
  | .half h, b => IsHalfRead b (some h)
  | .halfBackslash h, b => ∃ u, IsHalfRead u (some h) ∧ b = u ++ ['\\']

/-- What comes of four digits is a character and goes on plainly, or the first half of one. -/
theorem unit16_spells {u v : List Char} {high : Option Nat} {m : Nat} (hu : IsHalfRead u high)
    (hv : IsUnit v m) :
    (∀ c, unit16 high m = .char c → Spells (u ++ v) c) ∧
      ∀ h, unit16 high m = .half h → IsHalfRead (u ++ v) (some h) := by
  cases high with
  | none =>
    obtain rfl : u = [] := hu
    unfold unit16
    cases hl : isLowHalf m with
    | true => simp
    | false =>
      cases hh : isHighHalf m with
      | true => simpa [IsHalfRead,hh] using hv
      | false => simpa using Spells.unit hv hh hl
  | some h =>
    obtain ⟨hu,hh⟩ := hu
    unfold unit16
    cases hl : isLowHalf m with
    | true => simpa using Spells.halves hu hv hh hl
    | false => simp

theorem readQuoted_sound {w : Within} {cs b s rest : List Char} {n : Nat} (hb : w.Behind b)
    (h : Gives (readQuoted w cs n) s rest) : ∃ i, SpellsAll (b ++ i) s ∧ cs = i ++ '"' :: rest := by
  fun_induction readQuoted w cs n generalizing b s with
  | case1 => simp at h
  | case2 cs n =>
    subst hb
    obtain ⟨rfl,rfl⟩ := gives_ok.mp h
    exact ⟨[],.nil,rfl⟩
  | case3 cs n hq ih =>
    subst hb
    obtain ⟨i,hi,rfl⟩ := ih rfl h
    exact ⟨'\\' :: i,hi,rfl⟩
  | case4 => simp at h
  | case5 c cs n hq hbs hlt ih =>
    subst hb
    obtain ⟨s,rfl,hs⟩ := gives_before_iff.mp h
    obtain ⟨i,hi,rfl⟩ := ih rfl hs
    exact ⟨c :: i,.cons (p := [c]) (.plain ⟨Char.not_lt.mp hlt,hq,hbs⟩) hi,rfl⟩
  | case6 cs n ih =>
    subst hb
    obtain ⟨i,hi,rfl⟩ := ih ⟨by omega,[],_,rfl,isUnitBegun_zero,rfl⟩ h
    exact ⟨'u' :: i,hi,rfl⟩
  | case7 c cs n hu e he ih =>
    subst hb
    obtain ⟨s,rfl,hs⟩ := gives_before_iff.mp h
    obtain ⟨i,hi,rfl⟩ := ih rfl hs
    exact ⟨c :: i,.cons (p := ['\\',c]) (.letter he) hi,rfl⟩
  | case8 => simp at h
  | case9 => simp at h
  | case10 high count value c cs n d hd value' hc =>
    rename_i ih
    obtain ⟨-,u,v,hu,hv,rfl⟩ := hb
    obtain ⟨i,hi,rfl⟩ := ih ⟨by omega,u,_,hu,hv.append hd,rfl⟩ h
    exact ⟨c :: i,by simpa using hi,rfl⟩
  | case11 high count value c cs n d hd value' hc e he =>
    rename_i ih
    obtain ⟨hlt,u,v,hu,hv,rfl⟩ := hb
    obtain rfl : count = 3 := by omega
    obtain ⟨s,rfl,hs⟩ := gives_before_iff.mp h
    obtain ⟨i,hi,rfl⟩ := ih rfl hs
    have hspells := (unit16_spells hu (hv.append hd)).1 e he
    exact ⟨c :: i,by simpa using SpellsAll.cons hspells hi,rfl⟩
  | case12 high count value c cs n d hd value' hc k hk =>
    rename_i ih
    obtain ⟨hlt,u,v,hu,hv,rfl⟩ := hb
    obtain rfl : count = 3 := by omega
    obtain ⟨i,hi,rfl⟩ := ih ((unit16_spells hu (hv.append hd)).2 k hk) h
    exact ⟨c :: i,by simpa using hi,rfl⟩
  | case13 => simp at h
  | case14 k cs n ih =>
    obtain ⟨i,hi,rfl⟩ := ih ⟨b,hb,rfl⟩ h
    exact ⟨'\\' :: i,by simpa using hi,rfl⟩
  | case15 => simp at h
  | case16 k cs n ih =>
    obtain ⟨u,hu,rfl⟩ := hb
    obtain ⟨i,hi,rfl⟩ := ih ⟨by omega,u,_,hu,isUnitBegun_zero,rfl⟩ h
    exact ⟨'u' :: i,by simpa using hi,rfl⟩
  | case17 => simp at h

def afterUnit (u : Unit16) (cs : List Char) (n : Nat) : Reading (List Char) :=
  match u with
  | .char c => before c (readQuoted .plain cs n)
  | .half h => readQuoted (.half h) cs n
  | .bad => .error ⟨.loneSurrogate,n⟩

theorem readQuoted_digits (high : Option Nat) (count : Nat) {ds : List Char} {k m : Nat} (hne : ds ≠ [])
    (hlen : count + ds.length = 4) (hds : numberAfter? 16 k ds = some m) (cs : List Char) (n : Nat) :
    ∃ n', readQuoted (.digits high count k) (ds ++ cs) n = afterUnit (unit16 high m) cs n' := by
  induction ds generalizing count k n with
  | nil => exact absurd rfl hne
  | cons c ds ih =>
    obtain ⟨d,hd,hds⟩ := numberAfter?_cons_iff.mp hds
    simp only [List.length_cons] at hlen
    simp only [List.cons_append,readQuoted,hd]
    by_cases hc : count < 3
    · rw [if_pos hc]
      exact ih (count + 1) (by rintro rfl; simp at hlen; omega) (by omega) hds _
    · rw [if_neg hc]
      obtain rfl : ds = [] := List.length_eq_zero_iff.mp (by omega)
      obtain rfl : k * 16 + d = m := Option.some.inj hds
      exact ⟨n + 1,rfl⟩

/-- Where a reading stands after a whole character, or after the first half of one. -/
def Within.afterHalf : Option Nat → Within
  | none => .plain
  | some h => .half h

theorem readQuoted_unit {u : List Char} {m : Nat} (hu : IsUnit u m) (high : Option Nat) (cs : List Char)
    (n : Nat) :
    ∃ n', readQuoted (.afterHalf high) (u ++ cs) n = afterUnit (unit16 high m) cs n' := by
  obtain ⟨ds,hlen,hds,rfl⟩ := hu
  have hne : ds ≠ [] := List.ne_nil_of_length_eq_add_one hlen
  obtain ⟨n',h⟩ := readQuoted_digits high 0 hne (by omega) hds cs (n + 1 + 1)
  refine ⟨n',?_⟩
  cases high with
  | none => simpa [Within.afterHalf,readQuoted] using h
  | some k => simpa [Within.afterHalf,readQuoted] using h

theorem not_isLowHalf_of_isHighHalf {n : Nat} (h : isHighHalf n = true) : isLowHalf n = false := by
  simp [isHighHalf,isLowHalf] at h ⊢
  omega

theorem readQuoted_spells {p : List Char} {c : Char} (hp : Spells p c) (cs : List Char) (n : Nat) :
    ∃ n', readQuoted .plain (p ++ cs) n = before c (readQuoted .plain cs n') := by
  cases hp with
  | plain hc =>
    obtain ⟨hle,hq,hb⟩ := hc
    exact ⟨n + c.utf8Size,by simp [readQuoted,hq,hb,Char.not_lt.mpr hle]⟩
  | @letter l c hl =>
    have hu : l ≠ 'u' := by
      rintro rfl
      cases hl
    exact ⟨n + 1 + 1,by simp [readQuoted,hu,hl]⟩
  | unit hu hhigh hlow =>
    obtain ⟨n',h⟩ := readQuoted_unit hu none cs n
    exact ⟨n',by simpa [unit16,hhigh,hlow,afterUnit,Within.afterHalf] using h⟩
  | @halves u v h l hu hv hhigh hlow =>
    rw [List.append_assoc]
    obtain ⟨k,hfirst⟩ := readQuoted_unit hu none (v ++ cs) n
    obtain ⟨n',hsecond⟩ := readQuoted_unit hv (some h) cs k
    refine ⟨n',hfirst.trans ?_⟩
    simpa [unit16,not_isLowHalf_of_isHighHalf hhigh,hhigh,hlow,afterUnit,Within.afterHalf] using hsecond

theorem readQuoted_complete {i s : List Char} (hi : SpellsAll i s) (rest : List Char) (n : Nat) :
    Gives (readQuoted .plain (i ++ '"' :: rest) n) s rest := by
  induction hi generalizing n with
  | nil => simp [readQuoted]
  | cons hp _ ih =>
    rw [List.append_assoc]
    obtain ⟨n',h⟩ := readQuoted_spells hp _ n
    rw [h]
    exact gives_before_iff.mpr ⟨_,rfl,ih n'⟩

/-- Reading a text after its quotation mark. -/
theorem gives_readQuoted_iff {cs s rest : List Char} {n : Nat} :
    Gives (readQuoted .plain cs n) s rest ↔ ∃ i, SpellsAll i s ∧ cs = i ++ '"' :: rest := by
  constructor
  · exact fun h => readQuoted_sound (w := .plain) rfl h
  · rintro ⟨i,hi,rfl⟩
    exact readQuoted_complete hi rest n

end RegionAudit.Json
