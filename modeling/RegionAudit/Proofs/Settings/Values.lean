import RegionAudit.Proofs.Settings.Overrides

/-! Which values of a settings file are accepted, and what is said of the others. A timeout is written in decimal
digits after at most one plus sign, with any number of zeros in front; it is read as the number that the digits
denote, and one that has no place in 64 bits is refused like one that is no number. -/
namespace RegionAudit.Settings

/-- A text is a number: decimal digits, of which there is at least one, after at most one plus sign. -/
def Denotes (cs : List Char) (n : Nat) : Prop :=
  ∃ digits, (cs = digits ∨ cs = '+' :: digits) ∧ digits ≠ [] ∧ (∀ d ∈ digits, d.isDigit = true) ∧
    Nat.ofDigitChars 10 digits 0 = n

def maxSeconds : Nat := 18446744073709551615

theorem lt_size_iff {n : Nat} : n < UInt64.size ↔ n ≤ maxSeconds := by
  simp only [UInt64.size,maxSeconds]
  omega

theorem unsigned_of_denotes {cs digits : List Char} (h : cs = digits ∨ cs = '+' :: digits)
    (hdigits : ∀ d ∈ digits, d.isDigit = true) : unsigned cs = digits := by
  rcases h with rfl | rfl
  · exact unsigned_of_digit fun d hd => hdigits d (List.mem_of_mem_head? hd)
  · rfl

theorem eq_or_eq_sign_unsigned (cs : List Char) : cs = unsigned cs ∨ cs = '+' :: unsigned cs := by
  unfold unsigned
  split
  · exact .inr rfl
  · exact .inl rfl

theorem denotes_iff {cs : List Char} {n : Nat} :
    Denotes cs n ↔ unsigned cs ≠ [] ∧ (∀ d ∈ unsigned cs, d.isDigit = true) ∧ decimal (unsigned cs) = n := by
  constructor
  · rintro ⟨digits,hcs,hne,hdigits,rfl⟩
    rw [unsigned_of_denotes hcs hdigits]
    exact ⟨hne,hdigits,decimal_eq digits⟩
  · rintro ⟨hne,hdigits,hvalue⟩
    exact ⟨unsigned cs,eq_or_eq_sign_unsigned cs,hne,hdigits,(decimal_eq _).symm.trans hvalue⟩

theorem Denotes.unique {cs : List Char} {m n : Nat} (hm : Denotes cs m) (hn : Denotes cs n) : m = n :=
  (denotes_iff.mp hm).2.2.symm.trans (denotes_iff.mp hn).2.2

theorem wholeNumber?_eq_some_iff {cs : List Char} {n : Nat} :
    wholeNumber? cs = some n ↔ Denotes (Text.trim cs) n ∧ n ≤ maxSeconds := by
  rw [denotes_iff,← lt_size_iff]
  simp only [wholeNumber?,Bool.and_eq_true,Bool.not_eq_true',List.isEmpty_eq_false_iff,List.all_eq_true,
    decide_eq_true_eq,Option.ite_none_right_eq_some,Option.some.injEq,and_assoc]
  constructor
  · rintro ⟨hne,hdigits,hlt,rfl⟩
    exact ⟨hne,hdigits,rfl,hlt⟩
  · rintro ⟨hne,hdigits,rfl,hlt⟩
    exact ⟨hne,hdigits,hlt,rfl⟩

theorem wholeNumber?_eq_none_iff {cs : List Char} :
    wholeNumber? cs = none ↔ ∀ n, Denotes (Text.trim cs) n → maxSeconds < n := by
  simp only [Option.eq_none_iff_forall_ne_some,ne_eq,wholeNumber?_eq_some_iff,not_and,not_le]

/-- A timeout is accepted as the number of seconds that it denotes. -/
theorem timeoutOf_eq_ok_iff {value : String} {n : Nat} :
    timeoutOf value = .ok n ↔ Denotes (Text.trim value.toList) n ∧ 1 ≤ n ∧ n ≤ maxSeconds := by
  unfold timeoutOf
  cases h : wholeNumber? value.toList with
  | none =>
    have hnone := wholeNumber?_eq_none_iff.mp h
    constructor
    · intro hok
      cases hok
    · rintro ⟨hn,-,hle⟩
      exact absurd (hnone n hn) (Nat.not_lt.mpr hle)
  | some k =>
    obtain ⟨hk,hle⟩ := wholeNumber?_eq_some_iff.mp h
    cases k with
    | zero =>
      constructor
      · intro hok
        cases hok
      · rintro ⟨hn,hpos,-⟩
        exact absurd (hn.unique hk) (Nat.ne_of_gt hpos)
    | succ k =>
      constructor
      · intro hok
        cases hok
        exact ⟨hk,Nat.succ_pos k,hle⟩
      · rintro ⟨hn,-,-⟩
        exact congrArg Except.ok (hk.unique hn)

/-- What is said of a timeout that is refused. -/
theorem timeoutOf_eq_error_iff {value : String} {e : Failure} :
    timeoutOf value = .error e ↔
      (Denotes (Text.trim value.toList) 0 ∧ e = .invalidValue "timeout_secs" "must be greater than zero") ∨
      ((∀ n, Denotes (Text.trim value.toList) n → maxSeconds < n) ∧
        e = .invalidValue "timeout_secs" ("\u0060" ++ value ++ "\u0060 is not a whole number of seconds")) := by
  unfold timeoutOf
  cases h : wholeNumber? value.toList with
  | none =>
    have hnone := wholeNumber?_eq_none_iff.mp h
    have hzero : ¬ Denotes (Text.trim value.toList) 0 := fun hz => Nat.not_lt_zero _ (hnone 0 hz)
    simp only [hzero,false_and,false_or,Except.error.injEq,eq_comm,and_iff_right hnone]
  | some k =>
    obtain ⟨hk,hle⟩ := wholeNumber?_eq_some_iff.mp h
    have hfits : ¬ ∀ n, Denotes (Text.trim value.toList) n → maxSeconds < n :=
      fun hall => Nat.not_lt.mpr hle (hall k hk)
    cases k with
    | zero => simp only [hfits,hk,true_and,false_and,or_false,Except.error.injEq,eq_comm]
    | succ k =>
      have hzero : ¬ Denotes (Text.trim value.toList) 0 := fun hz => Nat.succ_ne_zero k (hk.unique hz)
      simp only [hfits,hzero,false_and,or_self,reduceCtorEq]

def BeginsAsWebAddress (cs : List Char) : Prop :=
  "http://".toList <+: cs ∨ "https://".toList <+: cs

instance (cs : List Char) : Decidable (BeginsAsWebAddress cs) :=
  inferInstanceAs (Decidable (_ ∨ _))

theorem isWebUrl_iff {cs : List Char} : isWebUrl cs = true ↔ BeginsAsWebAddress cs := by
  rw [isWebUrl,Bool.or_eq_true,List.isPrefixOf_iff_prefix,List.isPrefixOf_iff_prefix,or_comm]
  rfl

theorem endpointOf_eq_error_iff {p : Provider} {value : String} {e : Failure} :
    endpointOf p value = .error e ↔ ¬ BeginsAsWebAddress (Text.trim value.toList) ∧
      e = .invalidValue (p.name ++ ".url")
        ("\u0060" ++ Ini.trimmed value.toList ++ "\u0060 is not an http(s) URL") := by
  rw [← isWebUrl_iff,endpointOf,Ini.trimmed]
  split
  · rename_i hweb
    simp only [reduceCtorEq,hweb,not_true_eq_false,false_and]
  · rename_i hweb
    rw [Except.error.injEq,and_iff_right hweb]
    exact eq_comm

end RegionAudit.Settings
