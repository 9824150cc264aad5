import RegionAudit.Proofs.Settings.Faults

/-! The timeout of a settings file. It is the number that the first value for it denotes, however many digits that has,
and no other part of the file changes it or is changed by it. A value is refused where it denotes nothing, or nothing
that fits into a word of 64 bits; its digits may as well be put together in such words, with a check at each of them,
for a number that is once too large stays too large. -/
namespace RegionAudit.Settings

open Text (trim)

/-! ### Numbers in words -/

def lastWord : UInt64 := 18446744073709551615

def digitWord (d : Char) : UInt64 :=
  UInt64.ofNat (d.toNat - '0'.toNat)

/-- A word with one more digit behind its digits, if ten times the word and then the sum are words. -/
def pushDigit (w : UInt64) (d : Char) : Option UInt64 :=
  if w ≤ lastWord/10 ∧ digitWord d ≤ lastWord-w*10 then some (w*10+digitWord d) else none

/-- The whole number that a text is, put together in words. -/
def wordNumber? (text : List Char) : Option UInt64 :=
  let digits := unsigned (trim text)
  if !digits.isEmpty && digits.all Char.isDigit then digits.foldlM pushDigit 0 else none

theorem toNat_lastWord : lastWord.toNat = maxSeconds := rfl

theorem toNat_le_maxSeconds (w : UInt64) : w.toNat ≤ maxSeconds :=
  lt_size_iff.mp w.toNat_lt

theorem le_tenth_iff {w : UInt64} : w ≤ lastWord/10 ↔ 10*w.toNat ≤ maxSeconds := by
  have htenth : (lastWord/10).toNat = 1844674407370955161 := rfl
  rw [UInt64.le_iff_toNat_le,htenth,maxSeconds]
  omega

theorem toNat_mul_ten {w : UInt64} (h : 10*w.toNat ≤ maxSeconds) : (w*10).toNat = 10*w.toNat := by
  have hten : (10 : UInt64).toNat = 10 := rfl
  rw [UInt64.toNat_mul,hten,Nat.mul_comm]
  exact Nat.mod_eq_of_lt (lt_size_iff.mpr h)

theorem toNat_digitWord {d : Char} (hd : d.isDigit = true) : (digitWord d).toNat = d.toNat - '0'.toNat := by
  have hle : d.toNat ≤ '9'.toNat := of_decide_eq_true (Bool.and_eq_true_iff.mp hd).2
  have hnine : '9'.toNat = 57 := rfl
  refine UInt64.toNat_ofNat_of_lt' (lt_size_iff.mpr ?_)
  rw [maxSeconds]
  omega

section PushDigit

variable {w v : UInt64} {d : Char} (hd : d.isDigit = true)
include hd

theorem fits_iff : (w ≤ lastWord/10 ∧ digitWord d ≤ lastWord-w*10) ↔
    10*w.toNat+(d.toNat - '0'.toNat) ≤ maxSeconds := by
  rw [le_tenth_iff]
  by_cases h : 10*w.toNat ≤ maxSeconds
  · have hle : w*10 ≤ lastWord := by
      rw [UInt64.le_iff_toNat_le,toNat_mul_ten h]
      exact h
    have hroom : (lastWord-w*10).toNat = maxSeconds-10*w.toNat := by
      rw [UInt64.toNat_sub_of_le _ _ hle,toNat_mul_ten h,toNat_lastWord]
    rw [UInt64.le_iff_toNat_le,hroom,toNat_digitWord hd]
    omega
  · omega

/-- A digit is pushed without a loss, unless there is no word for the number. -/
theorem pushDigit_eq_some_iff : pushDigit w d = some v ↔ 10*w.toNat+(d.toNat - '0'.toNat) = v.toNat := by
  simp only [pushDigit,fits_iff hd]
  by_cases h : 10*w.toNat+(d.toNat - '0'.toNat) ≤ maxSeconds
  · have hsum : (w*10+digitWord d).toNat = 10*w.toNat+(d.toNat - '0'.toNat) := by
      have hten : 10*w.toNat ≤ maxSeconds := Nat.le_of_add_right_le h
      rw [UInt64.toNat_add,toNat_mul_ten hten,toNat_digitWord hd]
      exact Nat.mod_eq_of_lt (lt_size_iff.mpr h)
    rw [if_pos h,Option.some.injEq,← UInt64.toNat_inj,hsum]
  · rw [if_neg h]
    constructor
    · nofun
    · intro heq
      rw [heq] at h
      exact absurd (toNat_le_maxSeconds v) h

end PushDigit

/-- More digits make a number no smaller. -/
theorem le_ofDigitChars (n : Nat) (digits : List Char) : n ≤ Nat.ofDigitChars 10 digits n := by
  induction digits generalizing n with
  | nil => exact Nat.le_refl n
  | cons d digits ih =>
    have hpush : n ≤ 10*n+(d.toNat - '0'.toNat) := by omega
    exact hpush.trans (ih _)

/-- Digits are put together to the number that they denote, however many they are; if there is no word for it, then
this is noticed at some digit. -/
theorem foldlM_pushDigit_eq_some_iff {digits : List Char} (hdigits : ∀ d ∈ digits, d.isDigit = true) {w v : UInt64} :
    digits.foldlM pushDigit w = some v ↔ Nat.ofDigitChars 10 digits w.toNat = v.toNat := by
  induction digits generalizing w with
  | nil =>
    show some w = some v ↔ w.toNat = v.toNat
    rw [Option.some.injEq,UInt64.toNat_inj]
  | cons d digits ih =>
    have hd : d.isDigit = true := hdigits d List.mem_cons_self
    have ih := fun u => ih (fun e he => hdigits e (List.mem_cons_of_mem d he)) (w := u)
    have hstep : Nat.ofDigitChars 10 (d :: digits) w.toNat =
        Nat.ofDigitChars 10 digits (10*w.toNat+(d.toNat - '0'.toNat)) := rfl
    rw [List.foldlM_cons,hstep]
    cases hpush : pushDigit w d with
    | some u =>
      rw [(pushDigit_eq_some_iff hd).mp hpush]
      exact ih u
    | none =>
      -- the number is too large for every word from here on
      constructor
      · nofun
      · intro heq
        have hle := le_ofDigitChars (10*w.toNat+(d.toNat - '0'.toNat)) digits
        rw [heq] at hle
        have hfits := hle.trans (toNat_le_maxSeconds v)
        have hsome : pushDigit w d = some (w*10+digitWord d) := if_pos ((fits_iff hd).mpr hfits)
        rw [hpush] at hsome
        cases hsome

theorem wordNumber?_eq_some_iff {text : List Char} {w : UInt64} :
    wordNumber? text = some w ↔ Denotes (trim text) w.toNat := by
  rw [denotes_iff,decimal_eq]
  unfold wordNumber?
  by_cases h : (!(unsigned (trim text)).isEmpty && (unsigned (trim text)).all Char.isDigit) = true
  · obtain ⟨hne,hall⟩ := Bool.and_eq_true_iff.mp h
    have hne' : unsigned (trim text) ≠ [] := by simpa using hne
    have hdigits := List.all_eq_true.mp hall
    rw [if_pos h,foldlM_pushDigit_eq_some_iff hdigits]
    exact ⟨fun hw => ⟨hne',hdigits,hw⟩,fun hw => hw.2.2⟩
  · rw [if_neg h]
    constructor
    · nofun
    · rintro ⟨hne,hdigits,-⟩
      refine absurd (Bool.and_eq_true_iff.mpr ⟨?_,List.all_eq_true.mpr hdigits⟩) h
      simpa using hne

/-- Whole numbers are read as if they were put together in words. -/
theorem map_wordNumber? (text : List Char) : (wordNumber? text).map UInt64.toNat = wholeNumber? text := by
  refine Option.ext fun n => ?_
  rw [Option.map_eq_some_iff,wholeNumber?_eq_some_iff]
  constructor
  · rintro ⟨w,hw,rfl⟩
    exact ⟨wordNumber?_eq_some_iff.mp hw,toNat_le_maxSeconds w⟩
  · rintro ⟨hn,hle⟩
    have hword : (UInt64.ofNat n).toNat = n := UInt64.toNat_ofNat_of_lt' (lt_size_iff.mpr hle)
    exact ⟨UInt64.ofNat n,wordNumber?_eq_some_iff.mpr (hword.symm ▸ hn),hword⟩

/-! ### What denotes no number -/

theorem Denotes.isDigit {cs : List Char} {n : Nat} (h : Denotes cs n) {c : Char} (hc : c ∈ cs) :
    c = '+' ∨ c.isDigit = true := by
  obtain ⟨digits,hcs,-,hdigits,-⟩ := h
  rcases hcs with rfl | rfl
  · exact .inr (hdigits c hc)
  · exact (List.mem_cons.mp hc).imp id (hdigits c)

theorem Denotes.exists_isDigit {cs : List Char} {n : Nat} (h : Denotes cs n) : ∃ c ∈ cs, c.isDigit = true := by
  obtain ⟨digits,hcs,hne,hdigits,-⟩ := h
  obtain ⟨d,ds,rfl⟩ := List.exists_cons_of_ne_nil hne
  have hd : d ∈ cs := by
    rcases hcs with rfl | rfl
    · exact List.mem_cons_self
    · exact List.mem_cons_of_mem _ List.mem_cons_self
  exact ⟨d,hd,hdigits d List.mem_cons_self⟩

/-! ### The timeout in a file -/

def withTimeout (s : Settings) (seconds : Nat) : Settings :=
  { s with timeout := seconds }

/-- A file without its values for the timeout. -/
def withoutTimeout (ini : Ini) : Ini :=
  { ini with general := ini.general.filter (·.key ≠ "timeout_secs") }

theorem firstValue?_withoutTimeout {ini : Ini} {f : Field} (hf : f ≠ .timeout) :
    firstValue? (withoutTimeout ini) f = firstValue? ini f := by
  cases f with
  | timeout => exact absurd rfl hf
  | userAgent =>
    rw [firstValue?,withoutTimeout,Ini.value?,List.find?_filter,firstValue?,Ini.value?]
    congr 2
    funext p
    by_cases hkey : p.key = "user_agent" <;> simp [hkey]
  | endpoint p => rfl

theorem firstValue?_withoutTimeout_timeout (ini : Ini) : firstValue? (withoutTimeout ini) .timeout = none := by
  refine Ini.value?_eq_none_iff.mpr fun p hp => ?_
  simpa using (List.mem_filter.mp hp).2

/-- A file makes the settings that it makes without its timeout, and the timeout is read before all else. -/
theorem ofIni_eq_bind {ini : Ini} {text : String} (h : firstValue? ini .timeout = some text) :
    ofIni ini = timeoutOf text >>= fun seconds => (·.withTimeout seconds) <$> ofIni (withoutTimeout ini) := by
  have htimeout : Ini.value? ini.general "timeout_secs" = some text := h
  have hnone : Ini.value? (withoutTimeout ini).general "timeout_secs" = none :=
    firstValue?_withoutTimeout_timeout ini
  have hagent : Ini.value? (withoutTimeout ini).general "user_agent" = Ini.value? ini.general "user_agent" :=
    firstValue?_withoutTimeout (f := .userAgent) nofun
  have hendpoint (p : Provider) : endpointIn (withoutTimeout ini) p = endpointIn ini p := rfl
  simp only [ofIni,htimeout,hnone,hagent,hendpoint,override]
  cases timeoutOf text with
  | error e => rfl
  | ok seconds =>
    cases Ini.value? ini.general "user_agent" <;> cases endpointIn ini .digitalocean <;>
      cases endpointIn ini .linode <;> cases endpointIn ini .dreamhost <;> rfl

theorem firstValue?_timeout {ini : Ini} {before after : List Ini.Property} {text : String}
    (hfile : ini.general = before++⟨"timeout_secs",text⟩ :: after)
    (hfirst : ∀ p ∈ before, p.key ≠ "timeout_secs") : firstValue? ini .timeout = some text := by
  have hbefore : before.find? (·.key = "timeout_secs") = none := by
    refine List.find?_eq_none.mpr fun p hp => ?_
    simpa using hfirst p hp
  rw [firstValue?,Ini.value?,hfile,List.find?_append,hbefore]
  rfl

theorem ofIni_withoutTimeout_ne {ini : Ini} {reason : String} :
    ofIni (withoutTimeout ini) ≠ .error (.invalidValue "timeout_secs" reason) := by
  intro h
  obtain ⟨before,f,after,-,⟨text,htext,reason',hrefuses,he⟩,-⟩ := ofIni_eq_error_iff.mp h
  have hf : f = .timeout := by
    cases f with
    | timeout => rfl
    | userAgent => cases hrefuses
    | endpoint p =>
      have hlabel : "timeout_secs" ≠ (Field.endpoint p).label := by cases p <;> decide
      exact absurd (Failure.invalidValue.inj he).1 hlabel
  rw [hf,firstValue?_withoutTimeout_timeout] at htext
  cases htext

section FirstValue

variable {ini : Ini} {text : String} (h : firstValue? ini .timeout = some text)
include h

theorem exists_timeout_iff {n : Nat} : (∃ s, ofIni ini = .ok s ∧ s.timeout = n) ↔
    timeoutOf text = .ok n ∧ ∃ s, ofIni (withoutTimeout ini) = .ok s := by
  rw [ofIni_eq_bind h]
  constructor
  · rintro ⟨s,hs,rfl⟩
    obtain ⟨seconds,hseconds,hs⟩ := exists_ok_of_bind hs
    cases hrest : ofIni (withoutTimeout ini) with
    | error e =>
      rw [hrest] at hs
      cases hs
    | ok rest =>
      rw [hrest] at hs
      cases hs
      exact ⟨hseconds,rest,rfl⟩
  · rintro ⟨hn,rest,hrest⟩
    rw [hn,hrest]
    exact ⟨rest.withTimeout n,rfl,rfl⟩

/-- A timeout is told as wrong exactly for its own value. -/
theorem ofIni_eq_timeout_error_iff {reason : String} :
    ofIni ini = .error (.invalidValue "timeout_secs" reason) ↔ Refuses .timeout text reason := by
  have hrefuses : timeoutOf text = .error (.invalidValue "timeout_secs" reason) ↔ Refuses .timeout text reason := by
    rw [timeoutOf_eq_error_iff_refuses]
    constructor
    · rintro ⟨reason',hreason,he⟩
      rw [(Failure.invalidValue.inj he).2]
      exact hreason
    · exact fun hreason => ⟨reason,hreason,rfl⟩
  rw [← hrefuses,ofIni_eq_bind h]
  cases timeoutOf text with
  | error e => exact ⟨fun he => congrArg _ (Except.error.inj he),fun he => congrArg _ (Except.error.inj he)⟩
  | ok seconds =>
    constructor
    · intro hfails
      cases hrest : ofIni (withoutTimeout ini) with
      | error e =>
        rw [hrest] at hfails
        rw [show e = .invalidValue "timeout_secs" reason from Except.error.inj hfails] at hrest
        exact absurd hrest ofIni_withoutTimeout_ne
      | ok s =>
        rw [hrest] at hfails
        cases hfails
    · nofun

end FirstValue

theorem refuses_zero_iff {text : String} :
    Refuses .timeout text "must be greater than zero" ↔ Denotes (trim text.toList) 0 := by
  constructor
  · intro h
    generalize hreason : "must be greater than zero" = reason at h
    cases h with
    | noTime zero => exact zero
    | noNumber large =>
      have hhead := congrArg (·.toList.head?) hreason
      simp at hhead
  · exact .noTime

theorem refuses_number_iff {text : String} :
    Refuses .timeout text ("\u0060" ++ text ++ "\u0060 is not a whole number of seconds") ↔
      ∀ n, Denotes (trim text.toList) n → maxSeconds < n := by
  constructor
  · intro h
    generalize hreason : "\u0060" ++ text ++ "\u0060 is not a whole number of seconds" = reason at h
    cases h with
    | noTime zero =>
      have hhead := congrArg (·.toList.head?) hreason
      simp at hhead
    | noNumber large => exact large
  · exact .noNumber

/-- The first value for the timeout counts, and it counts for exactly the number that it denotes between its blanks, in
digits with any zeros in front and at most one plus sign. A number of seconds from one to the greatest that there is in
64 bits becomes the timeout, whatever else the file makes. For zero, and for what is no number or a greater one, the
file fails, and so it fails with a timeout for no other reason. The number is the same when its digits are put together
in words. Where there is a character that is neither a digit nor a plus sign, or no digit at all, there is no number. -/
theorem ofIni_timeout_exact {ini : Ini} {before after : List Ini.Property} {text : String}
    (hfile : ini.general = before++⟨"timeout_secs",text⟩ :: after)
    (hfirst : ∀ p ∈ before, p.key ≠ "timeout_secs") :
    (∀ n, (∃ s, ofIni ini = .ok s ∧ s.timeout = n) ↔
      (Denotes (trim text.toList) n ∧ 1 ≤ n ∧ n ≤ maxSeconds) ∧ ∃ s, ofIni (withoutTimeout ini) = .ok s) ∧
    (∀ n, Denotes (trim text.toList) n → 1 ≤ n → n ≤ maxSeconds →
      ofIni ini = (·.withTimeout n) <$> ofIni (withoutTimeout ini)) ∧
    (ofIni ini = .error (.invalidValue "timeout_secs" "must be greater than zero") ↔
      Denotes (trim text.toList) 0) ∧
    (ofIni ini =
        .error (.invalidValue "timeout_secs" ("\u0060" ++ text ++ "\u0060 is not a whole number of seconds")) ↔
      ∀ n, Denotes (trim text.toList) n → maxSeconds < n) ∧
    (wordNumber? text.toList).map UInt64.toNat = wholeNumber? text.toList ∧
    ((∃ c ∈ trim text.toList, c ≠ '+' ∧ c.isDigit = false) ∨ (∀ c ∈ trim text.toList, c.isDigit = false) →
      ∀ n, ¬ Denotes (trim text.toList) n) := by
  have hvalue := firstValue?_timeout hfile hfirst
  refine ⟨fun n => ?_,fun n hn hpos hle => ?_,?_,?_,map_wordNumber? _,?_⟩
  · rw [exists_timeout_iff hvalue,timeoutOf_eq_ok_iff]
  · have hok : timeoutOf text = .ok n := timeoutOf_eq_ok_iff.mpr ⟨hn,hpos,hle⟩
    rw [ofIni_eq_bind hvalue,hok]
    rfl
  · rw [ofIni_eq_timeout_error_iff hvalue,refuses_zero_iff]
  · rw [ofIni_eq_timeout_error_iff hvalue,refuses_number_iff]
  · rintro (⟨c,hc,hsign,hdigit⟩ | hnone) n hn
    · rcases hn.isDigit hc with hplus | hyes
      · exact hsign hplus
      · rw [hdigit] at hyes
        cases hyes
    · obtain ⟨c,hc,hyes⟩ := hn.exists_isDigit
      rw [hnone c hc] at hyes
      cases hyes

/-- The greatest timeout with a sign and zeros in front, and a second value that does not count. -/
def greatestTimeoutFile : Ini where
  general := [⟨"user_agent"," audit "⟩,⟨"timeout_secs","\t+0018446744073709551615 "⟩,⟨"timeout_secs","soon"⟩]
  sections := [⟨"linode",[⟨"url","http://c/"⟩]⟩]

def tooLargeTimeoutFile : Ini where
  general := [⟨"timeout_secs","18446744073709551616"⟩]
  sections := []

theorem ofIni_timeout_exact_greatest :
    ofIni greatestTimeoutFile =
        .ok { defaults with timeout := 18446744073709551615, userAgent := "audit", linodeUrl := "http://c/" } ∧
      ofIni tooLargeTimeoutFile = .error
        (.invalidValue "timeout_secs" "\u006018446744073709551616\u0060 is not a whole number of seconds") := by
  have hnumber : Denotes (trim "\t+0018446744073709551615 ".toList) 18446744073709551615 :=
    ⟨"0018446744073709551615".toList,by decide,by decide,List.all_eq_true.mp (by decide),by decide⟩
  have hlarge : Denotes (trim "18446744073709551616".toList) 18446744073709551616 :=
    ⟨"18446744073709551616".toList,by decide,by decide,List.all_eq_true.mp (by decide),by decide⟩
  constructor
  · obtain ⟨-,hbecomes,-⟩ := @ofIni_timeout_exact greatestTimeoutFile [⟨"user_agent"," audit "⟩]
      [⟨"timeout_secs","soon"⟩] "\t+0018446744073709551615 " rfl (by decide)
    rw [hbecomes _ hnumber (by decide) (Nat.le_refl _)]
    decide
  · obtain ⟨-,-,-,hrefused,-⟩ := @ofIni_timeout_exact tooLargeTimeoutFile [] [] "18446744073709551616" rfl
      (by decide)
    refine hrefused.mpr fun n hn => ?_
    rw [hn.unique hlarge]
    decide

end RegionAudit.Settings
