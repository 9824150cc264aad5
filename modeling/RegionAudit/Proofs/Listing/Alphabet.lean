import RegionAudit.Proofs.Listing.Hostnames
import RegionAudit.Proofs.Listing.NestedTables

/-! The characters of identifiers. Availability tables and hostnames give identifiers of small letters, digits
and hyphens, and of one letter more that has no other small form; clusters may be called anything. -/
namespace RegionAudit.Listing

open Text (lower lowerAfter)

/-- A character of the identifiers that tables and hostnames give: a small letter, a digit, a hyphen or the
long s. -/
def IsIdChar (c : Char) : Prop :=
  c.isLower = true ∨ c.isDigit = true ∨ c = '-' ∨ c = '\u017f'

instance : DecidablePred IsIdChar := fun _ => inferInstanceAs (Decidable (_ ∨ _))

def loweredChar (c : Char) : Char :=
  if c = '\u212a' then 'k' else c.toLower

theorem IsWordChar.basic {c : Char} (h : IsWordChar c) :
    c.toNat < 0x80 ∨ c = '\u017f' ∨ c = '\u212a' := by
  refine h.imp_left fun halnum => ?_
  have := Text.toNat_of_isAlphanum halnum
  omega

theorem lowerAfter_of_word {cs : List Char} (before : List Char)
    (h : ∀ c ∈ cs, c.toNat < 0x80 ∨ c = '\u017f' ∨ c = '\u212a') :
    lowerAfter before cs = cs.map loweredChar := by
  induction cs generalizing before with
  | nil => rfl
  | cons c cs ih =>
    have ih := ih (c :: before) fun d hd => h d (List.mem_cons_of_mem c hd)
    rw [lowerAfter,ih,List.map_cons]
    rcases h c (by simp) with hbasic | rfl | rfl
    · have hne : c ≠ '\u212a' := by
        rintro rfl
        exact absurd hbasic (by decide)
      simp only [hbasic,if_true,loweredChar,hne,if_false]
    · have hsmall : Text.smallForm '\u017f' = '\u017f' := by decide +kernel
      simp [hsmall,loweredChar]
    · have hsmall : Text.smallForm '\u212a' = 'k' := by decide +kernel
      simp [hsmall,loweredChar]

def IsPlainChar (c : Char) : Prop :=
  c.isLower = true ∨ c.isDigit = true

instance : DecidablePred IsPlainChar := fun _ => inferInstanceAs (Decidable (_ ∨ _))

/-- Every letter or digit has such a small form, but for the long s. -/
theorem isPlainChar_loweredChar {c : Char} (h : IsWordChar c) (hne : c ≠ '\u017f') :
    IsPlainChar (loweredChar c) := by
  rcases h with halnum | hs | rfl
  · have hk : c ≠ '\u212a' := by
      rintro rfl
      exact absurd halnum (by decide)
    rw [loweredChar,if_neg hk]
    rcases (Bool.or_eq_true _ _).mp halnum with halpha | hdigit
    · exact .inl ((Char.isLower_toLower_eq_isAlpha c).trans halpha)
    · have hupper : ¬ c.isUpper = true := by
        simp only [Char.isDigit,Char.isUpper,Bool.and_eq_true,decide_eq_true_eq,ge_iff_le,
          UInt32.le_iff_toNat_le] at hdigit ⊢
        have hA : 'A'.val.toNat = 65 := rfl
        have h9 : '9'.val.toNat = 57 := rfl
        omega
      rw [Char.toLower_eq_of_not_isUpper hupper]
      exact .inr hdigit
  · exact absurd hs hne
  · exact .inl (by decide)

theorem isIdChar_loweredChar {c : Char} (h : IsWordChar c ∨ c = '-') : IsIdChar (loweredChar c) := by
  rcases h with hword | rfl
  · by_cases hs : c = '\u017f'
    · rw [hs]
      exact .inr (.inr (.inr (by decide)))
    · exact (isPlainChar_loweredChar hword hs).imp_right .inl
  · exact .inr (.inr (.inl (by decide)))

/-! ### The identifiers of a page -/

theorem IsIdentifier.lower_eq {t : List Char} (h : IsIdentifier t) : lower t = t.map loweredChar := by
  have hbasic : ∀ d ∈ t, d.toNat < 0x80 ∨ d = '\u017f' ∨ d = '\u212a' := fun d hd =>
    (h.forall_mem d hd).elim IsWordChar.basic fun hyphen => .inl (by rw [hyphen]; decide)
  rw [lower,lowerAfter_of_word [] hbasic]

theorem isIdChar_of_mem_lower {t : List Char} (h : IsIdentifier t) {c : Char} (hc : c ∈ lower t) :
    IsIdChar c := by
  rw [h.lower_eq] at hc
  obtain ⟨d,hd,rfl⟩ := List.mem_map.mp hc
  exact isIdChar_loweredChar (h.forall_mem d hd)

theorem isIdChar_of_mem_hostIds {page : List Char} {id : String} (h : id ∈ hostIds page) {c : Char}
    (hc : c ∈ id.toList) : IsIdChar c := by
  obtain ⟨t,ht,rfl⟩ := List.mem_map.mp h
  obtain ⟨-,_,-,⟨-,-,-,hid,-⟩,-⟩ := (hosts_hostIdsFrom page).exists_host ht
  exact isIdChar_of_mem_lower hid (by simpa using hc)

theorem isIdChar_of_mem_availabilityIds {page : List Char} {id : String}
    (h : id ∈ availabilityIds page) {c : Char} (hc : c ∈ id.toList) : IsIdChar c := by
  obtain ⟨⟨-,hletters,hdigits⟩,-⟩ := mem_availabilityIds.mp h
  rw [← List.take_append_drop 3 id.toList] at hc
  rcases List.mem_append.mp hc with hc | hc
  · obtain ⟨hle,hge⟩ := hletters c hc
    exact .inl ((Bool.and_eq_true _ _).mpr ⟨decide_eq_true hle,decide_eq_true hge⟩)
  · obtain ⟨hle,hge⟩ := hdigits c hc
    exact .inr (.inl ((Bool.and_eq_true _ _).mpr ⟨decide_eq_true hle,decide_eq_true hge⟩))

theorem mem_regions {p : Provider} {url : String} {answer : List Char} {rs : List Region}
    (h : regions p url answer = .ok rs) {r : Region} (hr : r ∈ rs) :
    ∃ found, ids p url answer = .ok found ∧ r.id ∈ found := by
  unfold regions at h
  split at h
  · rename_i found hfound
    exact ⟨found,hfound,Region.mem_ofIds.mp ((regionsOf_ok h).2 ▸ hr)⟩
  · cases h

/-- All identifiers have these characters, unless clusters are listed. -/
theorem isIdChar_of_mem_regions {p : Provider} (hp : p ≠ .linode) {url : String} {answer : List Char}
    {rs : List Region} (h : regions p url answer = .ok rs) {r : Region} (hr : r ∈ rs) {c : Char}
    (hc : c ∈ r.id.toList) : IsIdChar c := by
  obtain ⟨found,hfound,hid⟩ := mem_regions h hr
  cases p with
  | digitalocean =>
    cases hfound
    exact isIdChar_of_mem_availabilityIds hid hc
  | linode => exact absurd rfl hp
  | dreamhost =>
    cases hfound
    exact isIdChar_of_mem_hostIds hid hc

end RegionAudit.Listing
