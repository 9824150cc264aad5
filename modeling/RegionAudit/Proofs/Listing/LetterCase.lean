import RegionAudit.Proofs.Listing.Alphabet

/-! Letter case in hostnames. A hostname counts in whatever case its letters are written, and an identifier is listed
in small letters. The long s is the one letter that counts as another one and has no small form but itself, so
identifiers that are listed are of small basic letters, and do not depend on the case, exactly where it is absent. -/
namespace RegionAudit.Listing

open Text (lower)

/-! ### Runs -/

theorem map_intercalate_hyphen {f : Char → Char} (hf : f '-' = '-') (runs : List (List Char)) :
    (List.intercalate ['-'] runs).map f = List.intercalate ['-'] (runs.map (List.map f)) := by
  induction runs with
  | nil => rfl
  | cons r rs ih =>
    cases rs with
    | nil => simp
    | cons q qs =>
      rw [List.map_cons] at ih
      simp only [List.map_cons,List.intercalate_cons_cons,List.map_append,List.map_nil,hf,ih]

theorem mem_intercalate_of_mem {runs : List (List Char)} {r : List Char} (hr : r ∈ runs) {c : Char} (hc : c ∈ r) :
    c ∈ List.intercalate ['-'] runs := by
  induction runs with
  | nil => cases hr
  | cons q qs ih =>
    cases qs with
    | nil =>
      rw [List.mem_singleton.mp hr] at hc
      simpa using hc
    | cons q' qs =>
      rw [List.intercalate_cons_cons,List.append_assoc,List.mem_append,List.mem_append]
      rcases List.mem_cons.mp hr with rfl | hr
      · exact .inl hc
      · exact .inr (.inr (ih hr))

theorem IsRuns.map {P Q : Char → Prop} {f : Char → Char} (hf : f '-' = '-') {t : List Char} (h : IsRuns P t)
    (hPQ : ∀ c ∈ t, P c → Q (f c)) : IsRuns Q (t.map f) := by
  obtain ⟨runs,hne,hruns,rfl⟩ := h
  refine ⟨runs.map (List.map f),by simpa using hne,?_,map_intercalate_hyphen hf runs⟩
  intro r hr
  obtain ⟨q,hq,rfl⟩ := List.mem_map.mp hr
  obtain ⟨hqne,hqP⟩ := hruns q hq
  refine ⟨by simpa using hqne,fun d hd => ?_⟩
  obtain ⟨c,hc,rfl⟩ := List.mem_map.mp hd
  exact hPQ c (mem_intercalate_of_mem hq hc) (hqP c hc)

/-! ### Identifiers in small letters -/

theorem isPlainChar_longS : ¬ IsPlainChar '\u017f' := by decide

theorem IsIdentifier.isRuns_lower {t : List Char} (h : IsIdentifier t) :
    IsRuns (fun c => IsPlainChar c ∨ c = '\u017f') (lower t) := by
  rw [h.lower_eq]
  refine h.isRuns.map (by decide) fun c _ hc => ?_
  by_cases hs : c = '\u017f'
  · rw [hs]
    exact .inr (by decide)
  · exact .inl (isPlainChar_loweredChar hc hs)

theorem IsIdentifier.isRuns_lower_iff {t : List Char} (h : IsIdentifier t) :
    IsRuns IsPlainChar (lower t) ↔ '\u017f' ∉ t := by
  rw [h.lower_eq]
  constructor
  · intro hruns hs
    have hmem : '\u017f' ∈ t.map loweredChar := List.mem_map.mpr ⟨_,hs,by decide⟩
    rcases hruns.forall_mem _ hmem with hplain | hhyphen
    · exact isPlainChar_longS hplain
    · exact absurd hhyphen (by decide)
  · intro hs
    refine h.isRuns.map (by decide) fun c hin hc => isPlainChar_loweredChar hc ?_
    rintro rfl
    exact hs hin

/-! ### Texts that differ only in case -/

/-- Two texts that differ only in the case of letters: both are forms of one word. -/
def CaseVariants (a b : List Char) : Prop :=
  ∃ word, IsWord word a ∧ IsWord word b

theorem folded_eq_of_isFormOf {w c d : Char} (hc : IsFormOf w c) (hd : IsFormOf w d) : folded c = folded d := by
  by_cases hw : w.toNat < 128
  · rw [(folded_eq_iff hw c).mpr hc,(folded_eq_iff hw d).mpr hd]
  · -- beyond the basic letters a sign has no form but itself
    have hletter : ¬ w.isAlpha = true := by
      intro halpha
      have := Text.toNat_of_isAlphanum (c := w) (by simp [Char.isAlphanum,halpha])
      omega
    have hself : ∀ {e : Char}, IsFormOf w e → e = w := eq_of_isFormOf (by simpa using hletter)
    rw [hself hc,hself hd]

theorem CaseVariants.map_folded_eq {a b : List Char} (h : CaseVariants a b) : a.map folded = b.map folded := by
  obtain ⟨word,ha,hb⟩ := h
  induction ha generalizing b with
  | nil =>
    cases hb
    rfl
  | cons hc _ ih =>
    cases hb with
    | cons hd hb => rw [List.map_cons,List.map_cons,folded_eq_of_isFormOf hc hd,ih hb]

theorem IsHost.map_folded_eq {t t' h h' : List Char} (hh : IsHost t h) (hh' : IsHost t' h')
    (heq : h.map folded = h'.map folded) : t.map folded = t'.map folded := by
  have hlength : t.length = t'.length := by
    have hlen := congrArg List.length heq
    simp only [List.length_map,hh.length_eq,hh'.length_eq,hostLength] at hlen
    omega
  obtain ⟨a,b,ha,-,-,rfl⟩ := hh
  obtain ⟨a',b',ha',-,-,rfl⟩ := hh'
  simp only [List.map_append,List.append_assoc] at heq
  have hrest := List.append_inj_right heq (by simp [ha.length_eq,ha'.length_eq])
  exact List.append_inj_left hrest (by simpa using hlength)

theorem loweredChar_eq (c : Char) : loweredChar c = if c = '\u017f' then '\u017f' else folded c := by
  unfold loweredChar folded
  by_cases hs : c = '\u017f'
  · rw [hs]
    decide
  · simp only [hs,if_false]

theorem loweredChar_eq_iff {c d : Char} (h : folded c = folded d) :
    loweredChar c = loweredChar d ↔ (c = '\u017f' ↔ d = '\u017f') := by
  have hne (e : Char) (he : folded e = 's') : '\u017f' ≠ folded e := by
    rw [he]
    decide
  rw [loweredChar_eq,loweredChar_eq]
  by_cases hc : c = '\u017f' <;> by_cases hd : d = '\u017f'
  · simp [hc,hd]
  · subst hc
    simpa [hd] using hne d (h ▸ by decide)
  · subst hd
    simpa [hc] using (hne c (h ▸ by decide)).symm
  · simpa [hc,hd] using h

/-- Identifiers that differ only in case are listed as one exactly if they have the long s in the same places. -/
theorem map_loweredChar_eq_iff {t t' : List Char} (h : t.map folded = t'.map folded) :
    t.map loweredChar = t'.map loweredChar ↔ ∀ i : Nat, t[i]? = some '\u017f' ↔ t'[i]? = some '\u017f' := by
  induction t generalizing t' with
  | nil =>
    obtain rfl : t' = [] := by simpa using h.symm
    simp
  | cons c t ih =>
    cases t' with
    | nil => cases h
    | cons d t' =>
      obtain ⟨hhead,htail⟩ := List.cons.inj h
      rw [List.map_cons,List.map_cons,List.cons.injEq,loweredChar_eq_iff hhead,ih htail]
      constructor
      · rintro ⟨hfirst,hrest⟩ i
        cases i with
        | zero => simpa using hfirst
        | succ i => simpa using hrest i
      · intro hall
        exact ⟨by simpa using hall 0,fun i => by simpa using hall (i+1)⟩

theorem regionOfHost_eq_iff {t t' : List Char} (ht : IsIdentifier t) (ht' : IsIdentifier t')
    (h : t.map folded = t'.map folded) :
    regionOfHost t = regionOfHost t' ↔ ∀ i : Nat, t[i]? = some '\u017f' ↔ t'[i]? = some '\u017f' := by
  rw [← map_loweredChar_eq_iff h,← ht.lower_eq,← ht'.lower_eq,regionOfHost,regionOfHost,Region.mk.injEq,
    String.ofList_inj]

/-! ### The regions of a page -/

theorem IsHost.isIdentifier {t h : List Char} (hh : IsHost t h) : IsIdentifier t := by
  obtain ⟨-,-,-,ht,-,-⟩ := hh
  exact ht

theorem Hosts.isIdentifier {body : List Char} {ts : List (List Char)} (hts : Hosts body ts) :
    ∀ t ∈ ts, IsIdentifier t := by
  intro t ht
  obtain ⟨-,_,-,hh,-⟩ := hts.exists_host ht
  exact hh.isIdentifier

theorem exists_host_of_regions {url : String} {body : List Char} {ts : List (List Char)} (hts : Hosts body ts)
    {rs : List Region} (h : regions .dreamhost url body = .ok rs) {r : Region} (hr : r ∈ rs) :
    ∃ t ∈ ts, r = regionOfHost t := by
  rw [regions_dreamhost url hts] at h
  split at h
  · cases h
  · cases h
    obtain ⟨t,ht,rfl⟩ := List.mem_map.mp (mem_distinct.mp hr)
    exact ⟨t,ht,rfl⟩

theorem regionOfHost_mem_regions (url : String) {body : List Char} {ts : List (List Char)} (hts : Hosts body ts)
    {t : List Char} (ht : t ∈ ts) : ∃ rs, regions .dreamhost url body = .ok rs ∧ regionOfHost t ∈ rs := by
  rw [regions_dreamhost url hts,if_neg (List.ne_nil_of_mem ht)]
  exact ⟨_,rfl,mem_distinct.mpr (List.mem_map_of_mem ht)⟩

/-- The rule of plain identifiers: what a page lists are runs of small letters a to z and digits with single hyphens
between them, and hostnames on it whose identifiers differ only in case have one region. -/
def KeepsPlainIds (url : String) (body : List Char) : Prop :=
  (∀ rs, regions .dreamhost url body = .ok rs → ∀ r ∈ rs, IsRuns IsPlainChar r.id.toList) ∧
  ∀ ts, Hosts body ts → ∀ t ∈ ts, ∀ t' ∈ ts, CaseVariants t t' → regionOfHost t = regionOfHost t'

/-- What a page lists are runs of small letters, digits and long s; hostnames that differ only in case have one
region exactly if they have the long s in the same places. So the rule of plain identifiers is kept exactly on pages
that list no hostname with a long s in its identifier. -/
theorem keepsPlainIds_iff (url : String) (body : List Char) :
    (∀ rs, regions .dreamhost url body = .ok rs → ∀ r ∈ rs,
      IsRuns (fun c => IsPlainChar c ∨ c = '\u017f') r.id.toList) ∧
    (∀ t t' h h', IsHost t h → IsHost t' h' → CaseVariants h h' →
      (regionOfHost t = regionOfHost t' ↔ ∀ i : Nat, t[i]? = some '\u017f' ↔ t'[i]? = some '\u017f')) ∧
    (KeepsPlainIds url body ↔ ∀ ts, Hosts body ts → ∀ t ∈ ts, '\u017f' ∉ t) := by
  have hid (t : List Char) : (regionOfHost t).id.toList = lower t := String.toList_ofList
  refine ⟨?_,?_,?_,?_⟩
  · intro rs hrs r hr
    have hts := hosts_hostIdsFrom body
    obtain ⟨t,ht,rfl⟩ := exists_host_of_regions hts hrs hr
    rw [hid]
    exact (hts.isIdentifier t ht).isRuns_lower
  · intro t t' h h' hh hh' hcase
    exact regionOfHost_eq_iff hh.isIdentifier hh'.isIdentifier (hh.map_folded_eq hh' hcase.map_folded_eq)
  · rintro ⟨hplain,-⟩ ts hts t ht
    obtain ⟨rs,hrs,hr⟩ := regionOfHost_mem_regions url hts ht
    have hruns := hplain rs hrs _ hr
    rw [hid] at hruns
    exact (hts.isIdentifier t ht).isRuns_lower_iff.mp hruns
  · intro hnone
    constructor
    · intro rs hrs r hr
      have hts := hosts_hostIdsFrom body
      obtain ⟨t,ht,rfl⟩ := exists_host_of_regions hts hrs hr
      rw [hid]
      exact (hts.isIdentifier t ht).isRuns_lower_iff.mpr (hnone _ hts t ht)
    · intro ts hts t ht t' ht' hcase
      refine (regionOfHost_eq_iff (hts.isIdentifier t ht) (hts.isIdentifier t' ht') hcase.map_folded_eq).mpr ?_
      -- neither has a long s anywhere
      intro i
      exact ⟨fun hi => absurd (List.mem_of_getElem? hi) (hnone ts hts t ht),
        fun hi => absurd (List.mem_of_getElem? hi) (hnone ts hts t' ht')⟩

/-- One hostname written twice, once with a long s: the page lists two regions, one of them with a letter beyond
the basic ones. -/
theorem longS_lists_two_regions :
    let body := "objects-us-east-1.dream.io objects-us-ea\u017ft-1.dream.io".toList
    regions .dreamhost "https://help.example/" body = .ok [⟨"us-east-1"⟩,⟨"us-ea\u017ft-1"⟩] ∧
      ¬ KeepsPlainIds "https://help.example/" body := by
  intro body
  have hlisted : regions .dreamhost "https://help.example/" body = .ok [⟨"us-east-1"⟩,⟨"us-ea\u017ft-1"⟩] := by
    decide +kernel
  refine ⟨hlisted,fun ⟨hplain,_⟩ => ?_⟩
  have hruns : IsRuns IsPlainChar "us-ea\u017ft-1".toList := hplain _ hlisted ⟨"us-ea\u017ft-1"⟩ (by simp)
  rcases hruns.forall_mem '\u017f' (by decide) with hletter | hhyphen
  · exact isPlainChar_longS hletter
  · exact absurd hhyphen (by decide)

end RegionAudit.Listing
