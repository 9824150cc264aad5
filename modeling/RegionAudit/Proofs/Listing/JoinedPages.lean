import RegionAudit.Proofs.FirstOccurrences
import RegionAudit.Proofs.Listing.LetterCase
import RegionAudit.Proofs.Text.LowerCase

/-! Pages joined of two. A character that no hostname has parts the hostnames of a page into those before it and those
behind it, so the regions of the page are those of its two parts, the first of them first. None of this depends on the
case in which the letters a to z are written. -/
namespace RegionAudit.Listing

open Text (lower sameIgnoringBasicCase)

/-! ### Separators -/

/-- A character that no hostname has. -/
def IsSeparator (c : Char) : Prop :=
  c.isAlphanum = false ∧ c ≠ '-' ∧ c ≠ '.' ∧ c ≠ '\u017f' ∧ c ≠ '\u212a'

instance : DecidablePred IsSeparator := fun _ => inferInstanceAs (Decidable (_ ∧ _))

theorem IsSeparator.not_isWordChar {c : Char} (hc : IsSeparator c) : ¬ IsWordChar c := by
  obtain ⟨halnum,-,-,hs,hk⟩ := hc
  rintro (hyes | hyes | hyes)
  · rw [halnum] at hyes
    cases hyes
  · exact hs hyes
  · exact hk hyes

def IsPlainWord (word : List Char) : Prop :=
  ∀ w ∈ word, w.toNat < 128 ∧ (('a' ≤ w ∧ w ≤ 'z') ∨ w = '-' ∨ w = '.')

theorem isPlainWord_hostStart : IsPlainWord hostStart := List.all_iff_forall_prop.mp (by decide)

theorem isPlainWord_hostEnd : IsPlainWord hostEnd := List.all_iff_forall_prop.mp (by decide)

theorem IsSeparator.notMem_of_isWord {c : Char} (hc : IsSeparator c) {word a : List Char} (hword : IsPlainWord word)
    (ha : IsWord word a) : c ∉ a := by
  intro hin
  have hfolded : folded c ∈ word := by
    rw [← (isWord_iff fun w hw => (hword w hw).1).mp ha]
    exact List.mem_map_of_mem hin
  rcases (hword _ hfolded).2 with hletter | hhyphen | hpoint
  · exact hc.not_isWordChar ((isWordChar_iff c).mp (by simp [isWordChar,hletter]))
  · exact hc.2.1 (eq_of_isFormOf (by decide) ((folded_eq_iff (by decide) c).mp hhyphen))
  · exact hc.2.2.1 (eq_of_isFormOf (by decide) ((folded_eq_iff (by decide) c).mp hpoint))

theorem IsHost.separator_notMem {t h : List Char} (hh : IsHost t h) {c : Char} (hc : IsSeparator c) : c ∉ h := by
  obtain ⟨a,b,ha,ht,hb,rfl⟩ := hh
  have hstart : c ∉ a := hc.notMem_of_isWord isPlainWord_hostStart ha
  have hend : c ∉ b := hc.notMem_of_isWord isPlainWord_hostEnd hb
  have hid : c ∉ t := fun hin => (ht.forall_mem c hin).elim hc.not_isWordChar hc.2.1
  simp only [List.mem_append,not_or]
  exact ⟨⟨hstart,hid⟩,hend⟩

/-! ### Hostnames on either side -/

section Sides

variable {xs ys : List Char} {c : Char} (hc : IsSeparator c)
include hc

/-- No hostname crosses a separator. -/
theorem IsHost.before_or_behind {p t h s : List Char} (hh : IsHost t h) (heq : xs++c :: ys = p++h++s) :
    (∃ r, xs = p++h++r ∧ s = r++c :: ys) ∨ ∃ q, ys = q++h++s ∧ p = xs++c :: q := by
  have hout : c ∉ h := hh.separator_notMem hc
  rw [List.append_assoc] at heq
  rcases List.append_eq_append_iff.mp heq with ⟨m,rfl,hm⟩ | ⟨m,rfl,hm⟩
  · cases m with
    | nil =>
      -- the hostname would begin with the separator
      obtain ⟨d,v,rfl⟩ := List.exists_cons_of_length_pos hh.length_pos
      obtain ⟨rfl,-⟩ := List.cons.inj hm
      exact absurd List.mem_cons_self hout
    | cons d q =>
      obtain ⟨rfl,rfl⟩ := List.cons.inj hm
      exact .inr ⟨q,(List.append_assoc _ _ _).symm,rfl⟩
  · rcases List.append_eq_append_iff.mp hm with ⟨r,rfl,hr⟩ | ⟨r,rfl,hr⟩
    · exact .inl ⟨r,(List.append_assoc _ _ _).symm,hr⟩
    · cases r with
      | nil => exact .inl ⟨[],by simp,hr.symm⟩
      | cons d r =>
        obtain ⟨rfl,-⟩ := List.cons.inj hr
        exact absurd (by simp) hout

theorem Hosts.behind {us : List (List Char)} (hno : ∀ p t h s, IsHost t h → xs ≠ p++h++s) (hys : Hosts ys us) :
    Hosts (xs++c :: ys) us := by
  have hbehind : ∀ p t h s, IsHost t h → xs++c :: ys = p++h++s → ∃ q, ys = q++h++s ∧ p = xs++c :: q := by
    intro p t h s hh heq
    refine (hh.before_or_behind hc heq).resolve_left ?_
    rintro ⟨r,hr,-⟩
    exact hno p t h r hh hr
  cases hys with
  | none hnone =>
    refine .none fun p t h s hh heq => ?_
    obtain ⟨q,hq,-⟩ := hbehind p t h s hh heq
    exact hnone q t h s hh hq
  | @next p t h s us hh hfirst hrest =>
    have heq : xs++c :: (p++h++s) = (xs++c :: p)++h++s := by simp
    rw [heq]
    refine Hosts.next hh (fun p' t' h' s' hh' heq' => ?_) hrest
    obtain ⟨q,hq,rfl⟩ := hbehind p' t' h' s' hh' (heq.trans heq')
    have hle : p.length ≤ q.length := hfirst q t' h' s' hh' hq
    simp only [List.length_append,List.length_cons]
    omega

/-- The hostnames of a page with a separator are those before it and then those behind it. -/
theorem Hosts.join {ts us : List (List Char)} (hxs : Hosts xs ts) (hys : Hosts ys us) :
    Hosts (xs++c :: ys) (ts++us) := by
  induction hxs with
  | none hno => exact hys.behind hc hno
  | @next p t h s ts hh hfirst hrest ih =>
    have heq : p++h++s++c :: ys = p++h++(s++c :: ys) := List.append_assoc _ _ _
    rw [heq,List.cons_append]
    refine Hosts.next hh (fun p' t' h' s' hh' heq' => ?_) ih
    rcases hh'.before_or_behind hc (heq.trans heq') with ⟨r,hr,-⟩ | ⟨q,-,rfl⟩
    · exact hfirst p' t' h' r hh' hr
    · simp only [List.length_append]
      omega

end Sides

/-! ### Letter case -/

theorem toLower_eq_iff {c d : Char} (hd : d.toNat < 97 ∨ 122 < d.toNat) (hcapital : d.toNat < 65 ∨ 90 < d.toNat) :
    c.toLower = d ↔ c = d := by
  rcases Text.toLower_cases c with hself | ⟨hfirst,hlast,hcode⟩
  · rw [hself]
  · constructor
    · rintro rfl
      omega
    · rintro rfl
      omega

theorem folded_toLower (c : Char) : folded c.toLower = folded c := by
  have hs : c.toLower = '\u017f' ↔ c = '\u017f' := toLower_eq_iff (by decide) (by decide)
  have hk : c.toLower = '\u212a' ↔ c = '\u212a' := toLower_eq_iff (by decide) (by decide)
  simp only [folded,hs,hk,Text.toLower_toLower]

theorem isDigit_toLower (c : Char) : c.toLower.isDigit = c.isDigit := by
  rcases Text.toLower_cases c with hself | ⟨hfirst,hlast,hcode⟩
  · rw [hself]
  · have hno : ∀ d : Char, 65 ≤ d.toNat → d.isDigit = false := by
      intro d hd
      refine Bool.eq_false_iff.mpr fun hdigit => ?_
      have hle : d.toNat ≤ '9'.toNat := of_decide_eq_true (Bool.and_eq_true_iff.mp hdigit).2
      have hnine : '9'.toNat = 57 := rfl
      omega
    rw [hno c hfirst,hno c.toLower (by omega)]

theorem isWordChar_toLower (c : Char) : isWordChar c.toLower = isWordChar c := by
  rw [isWordChar,isWordChar,folded_toLower,isDigit_toLower]

theorem loweredChar_toLower (c : Char) : loweredChar c.toLower = loweredChar c := by
  have hk : c.toLower = '\u212a' ↔ c = '\u212a' := toLower_eq_iff (by decide) (by decide)
  simp only [loweredChar,hk,Text.toLower_toLower]

theorem after?_map_toLower (word cs : List Char) :
    after? word (cs.map Char.toLower) = (after? word cs).map (List.map Char.toLower) := by
  fun_induction after? word cs with
  | case1 cs => rfl
  | case2 w ws => rfl
  | case3 ws c cs ih =>
    rw [List.map_cons,after?,folded_toLower,if_pos rfl]
    exact ih
  | case4 w ws c cs hne =>
    rw [List.map_cons,after?,folded_toLower,if_neg hne]
    rfl

theorem identifierAt_map_toLower (hyphens : Bool) (cs : List Char) :
    identifierAt hyphens (cs.map Char.toLower) =
      ((identifierAt hyphens cs).1.map Char.toLower,(identifierAt hyphens cs).2.map Char.toLower) := by
  have hhyphen (c : Char) : c.toLower = '-' ↔ c = '-' := toLower_eq_iff (by decide) (by decide)
  fun_induction identifierAt hyphens cs with
  | case1 hyphens => rfl
  | case2 hyphens c cs hc id rest heq ih =>
    rw [heq] at ih
    simp only [List.map_cons,identifierAt,isWordChar_toLower,hc,if_true,ih]
  | case3 hyphens c cs hc hh rest heq ih =>
    rw [heq] at ih
    simp only [List.map_cons,identifierAt,isWordChar_toLower,hc,hhyphen,hh,ih,if_true]
    simp
  | case4 hyphens c cs hc hh id rest hne heq ih =>
    rw [heq] at ih
    obtain ⟨d,ds,rfl⟩ := List.exists_cons_of_ne_nil hne
    simp only [List.map_cons,identifierAt,isWordChar_toLower,hc,hhyphen,hh,ih,if_true]
    simp
  | case5 hyphens c cs hc hh =>
    simp only [List.map_cons,identifierAt,isWordChar_toLower,hc,hhyphen,hh]
    simp

theorem hostAt?_map_toLower (cs : List Char) :
    hostAt? (cs.map Char.toLower) = (hostAt? cs).map (List.map Char.toLower) := by
  unfold hostAt?
  rw [after?_map_toLower]
  cases after? hostStart cs with
  | none => rfl
  | some rest =>
    simp only [Option.map_some,identifierAt_map_toLower]
    cases hid : identifierAt false rest with
    | mk id rest =>
      cases id with
      | nil => rfl
      | cons c id =>
        simp only [List.map_cons,after?_map_toLower,Option.map_map]
        rfl

theorem hostIdsFrom_map_toLower (busy : Nat) (cs : List Char) :
    hostIdsFrom busy (cs.map Char.toLower) = (hostIdsFrom busy cs).map (List.map Char.toLower) := by
  fun_induction hostIdsFrom busy cs with
  | case1 busy => cases busy <;> rfl
  | case2 busy c cs ih => exact ih
  | case3 c cs id hid ih =>
    have hat : hostAt? (c.toLower :: cs.map Char.toLower) = some (id.map Char.toLower) := by
      rw [← List.map_cons,hostAt?_map_toLower,hid]
      rfl
    have hlength : hostLength (id.map Char.toLower) = hostLength id := by
      rw [hostLength,List.length_map,hostLength]
    rw [List.map_cons,hostIdsFrom,List.map_cons,← ih]
    simp only [hat,hlength]
  | case4 c cs hnone ih =>
    have hat : hostAt? (c.toLower :: cs.map Char.toLower) = none := by
      rw [← List.map_cons,hostAt?_map_toLower,hnone]
      rfl
    rw [List.map_cons,hostIdsFrom,← ih]
    simp only [hat]

/-- An identifier is listed as one region whatever the case of its letters. -/
theorem regionOfHost_map_toLower {t : List Char} (ht : IsIdentifier t) (ht' : IsIdentifier (t.map Char.toLower)) :
    regionOfHost (t.map Char.toLower) = regionOfHost t := by
  have hchars : (t.map Char.toLower).map loweredChar = t.map loweredChar := by
    rw [List.map_map]
    exact List.map_congr_left fun c _ => loweredChar_toLower c
  rw [regionOfHost,regionOfHost,ht'.lower_eq,ht.lower_eq,hchars]

/-- Pages that differ only in the case of the letters a to z have hostnames of the same regions. -/
theorem map_regionOfHost_eq {page page' : List Char} (h : sameIgnoringBasicCase page page' = true) :
    (hostIdsFrom 0 page).map regionOfHost = (hostIdsFrom 0 page').map regionOfHost := by
  have hsmall (cs : List Char) :
      (hostIdsFrom 0 (cs.map Char.toLower)).map regionOfHost = (hostIdsFrom 0 cs).map regionOfHost := by
    have hids := (hosts_hostIdsFrom (cs.map Char.toLower)).isIdentifier
    rw [hostIdsFrom_map_toLower] at hids ⊢
    rw [List.map_map]
    apply List.map_congr_left
    intro t ht
    exact regionOfHost_map_toLower ((hosts_hostIdsFrom cs).isIdentifier t ht) (hids _ (List.mem_map_of_mem ht))
  have hchars : page.map Char.toLower = page'.map Char.toLower := of_decide_eq_true h
  rw [← hsmall page,hchars,hsmall page']

/-! ### The regions of a page -/

/-- The regions that a page of hostnames lists; a page that is refused lists none. -/
def listedRegions (url : String) (page : List Char) : List Region :=
  match regions .dreamhost url page with
  | .ok rs => rs
  | .error _ => []

theorem listedRegions_eq (url : String) (page : List Char) :
    listedRegions url page = distinct ((hostIdsFrom 0 page).map regionOfHost) := by
  rw [listedRegions,regions_dreamhost url (hosts_hostIdsFrom page)]
  by_cases hnone : hostIdsFrom 0 page = []
  · rw [if_pos hnone,hnone]
    rfl
  · rw [if_neg hnone]

theorem regions_eq_listedRegions (url : String) (page : List Char) :
    regions .dreamhost url page =
      if listedRegions url page = [] then .error (.noRegions url) else .ok (listedRegions url page) := by
  have hnil : listedRegions url page = [] ↔ hostIdsFrom 0 page = [] := by
    rw [listedRegions_eq,distinct_eq_nil_iff,List.map_eq_nil_iff]
  rw [regions_dreamhost url (hosts_hostIdsFrom page)]
  by_cases hnone : hostIdsFrom 0 page = []
  · rw [if_pos hnone,if_pos (hnil.mpr hnone)]
  · rw [if_neg hnone,if_neg (hnone ∘ hnil.mp),listedRegions_eq]

/-- What a page lists are the regions of its hostnames, if there are any. A page that is joined of two by a separator
lists the regions of the first and then those of the second, without repeats, in whatever case its letters a to z are
written. -/
theorem listedRegions_joined (url : String) {page₁ page₂ page : List Char} {c : Char} (hc : IsSeparator c)
    (hcase : sameIgnoringBasicCase page (page₁++c :: page₂) = true) :
    (∀ p, regions .dreamhost url p =
      if listedRegions url p = [] then .error (.noRegions url) else .ok (listedRegions url p)) ∧
    listedRegions url page = distinct (listedRegions url page₁++listedRegions url page₂) := by
  have hparts : hostIdsFrom 0 (page₁++c :: page₂) = hostIdsFrom 0 page₁++hostIdsFrom 0 page₂ :=
    (hosts_hostIdsFrom _).unique ((hosts_hostIdsFrom page₁).join hc (hosts_hostIdsFrom page₂))
  refine ⟨regions_eq_listedRegions url,?_⟩
  rw [listedRegions_eq,listedRegions_eq,listedRegions_eq,distinct_append_distinct,map_regionOfHost_eq hcase,hparts,
    List.map_append]

/-- An end of a hostname before the separator and a beginning behind it make no hostname, and one region is on both
sides in different cases. -/
theorem listedRegions_joined_cases :
    IsSeparator '/' ∧
      listedRegions "u" "OBJECTS-b-2.dream.io objects-a-1/-3.dream.IO objects-B-2.dream.io objects-c.dream.io".toList =
        [⟨"b-2"⟩,⟨"c"⟩] := by
  have hc : IsSeparator '/' := by decide
  refine ⟨hc,?_⟩
  obtain ⟨-,hjoined⟩ := @listedRegions_joined "u" "objects-b-2.dream.io objects-a-1".toList
    "-3.dream.io objects-b-2.dream.io objects-c.dream.io".toList
    "OBJECTS-b-2.dream.io objects-a-1/-3.dream.IO objects-B-2.dream.io objects-c.dream.io".toList
    '/' hc (by decide)
  have hfirst : listedRegions "u" "objects-b-2.dream.io objects-a-1".toList = [⟨"b-2"⟩] := by decide +kernel
  have hsecond : listedRegions "u" "-3.dream.io objects-b-2.dream.io objects-c.dream.io".toList =
      [⟨"b-2"⟩,⟨"c"⟩] := by decide +kernel
  rw [hjoined,hfirst,hsecond]
  decide

end RegionAudit.Listing
