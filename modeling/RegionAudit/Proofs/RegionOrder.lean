import Mathlib.Tactic.Common
import RegionAudit.Region

/-! The order of regions. Code points and bytes in UTF-8 order texts in the same way, and the regions of a
list are put into this order without repeats, so that what comes out depends on nothing but which
regions there are. -/
namespace RegionAudit

namespace Text

/-! ### The bytes of a text -/

/-- The bytes of a text in UTF-8. -/
def bytes (cs : List Char) : List UInt8 :=
  cs.flatMap String.utf8EncodeChar

theorem bytes_toList (s : String) : bytes s.toList = s.toUTF8.data.toList := by
  rw [String.toUTF8_eq_toByteArray,← String.utf8Encode_toList,List.utf8Encode,
    List.toList_data_toByteArray]
  rfl

theorem ofNat_lt_ofNat {m n : Nat} (hm : m < 256) (hn : n < 256) :
    UInt8.ofNat m < UInt8.ofNat n ↔ m < n := by
  simp [UInt8.lt_iff_toNat_lt,Nat.mod_eq_of_lt hm,Nat.mod_eq_of_lt hn]

theorem ofNat_eq_ofNat {m n : Nat} (hm : m < 256) (hn : n < 256) :
    UInt8.ofNat m = UInt8.ofNat n ↔ m = n := by
  simp [← UInt8.toNat_inj,Nat.mod_eq_of_lt hm,Nat.mod_eq_of_lt hn]

theorem div_lt_or_mod_lt {m n : Nat} (k : Nat) (h : m < n) :
    m/k < n/k ∨ m/k = n/k ∧ m % k < n % k := by
  rcases Nat.lt_or_eq_of_le (Nat.div_le_div_right (c := k) (Nat.le_of_lt h)) with hdiv | hdiv
  · exact .inl hdiv
  · have hm := Nat.div_add_mod m k
    have hn := Nat.div_add_mod n k
    rw [hdiv] at hm
    exact .inr ⟨hdiv,by omega⟩

theorem digits_lt {m n : Nat} (h : m < n) :
    m/262144 < n/262144 ∨ m/262144 = n/262144 ∧
      (m/4096 % 64 < n/4096 % 64 ∨ m/4096 % 64 = n/4096 % 64 ∧
        (m/64 % 64 < n/64 % 64 ∨ m/64 % 64 = n/64 % 64 ∧ m % 64 < n % 64)) := by
  rcases div_lt_or_mod_lt 262144 h with h | ⟨h,hmod⟩
  · exact .inl h
  refine .inr ⟨h,?_⟩
  rcases div_lt_or_mod_lt 4096 hmod with h | ⟨h,hmod⟩
  · exact .inl (by omega)
  refine .inr ⟨by omega,?_⟩
  rcases div_lt_or_mod_lt 64 hmod with h | ⟨h,hmod⟩
  · exact .inl (by omega)
  · exact .inr ⟨by omega,by omega⟩

/-- Whatever follows, the bytes of a smaller character come first. -/
theorem encode_append_lt {c d : Char} (h : c < d) (xs ys : List UInt8) :
    String.utf8EncodeChar c ++ xs < String.utf8EncodeChar d ++ ys := by
  have hlt : c.val.toNat < d.val.toNat := h
  have hd : d.val.toNat < 1114112 := by
    have hvalid := d.valid
    simp only [UInt32.isValidChar,Nat.isValidChar] at hvalid
    omega
  unfold String.utf8EncodeChar
  generalize c.val.toNat = m at *
  generalize d.val.toNat = n at *
  have hdigits := digits_lt hlt
  have hfirst : ∀ k < 1114112, k/262144 % 8 = k/262144 := by omega
  simp only [hfirst n hd,hfirst m (Nat.lt_trans hlt hd)]
  -- the first byte tells how many there are, so only characters of the same length share any bytes
  split_ifs <;>
    simp (disch := omega) only [List.cons_append,List.nil_append,List.cons_lt_cons_iff,
      ofNat_lt_ofNat,ofNat_eq_ofNat] <;>
    omega

theorem append_lt_append {xs ys : List UInt8} (zs : List UInt8) (h : xs < ys) :
    zs ++ xs < zs ++ ys := by
  induction zs with
  | nil => exact h
  | cons z zs ih => exact List.cons_lt_cons_iff.mpr (.inr ⟨rfl,ih⟩)

theorem bytes_lt_of_lt {cs ds : List Char} (h : cs < ds) : bytes cs < bytes ds := by
  induction cs generalizing ds with
  | nil =>
    cases ds with
    | nil => exact absurd h (List.lt_irrefl _)
    | cons d ds =>
      obtain ⟨b,bs,hb⟩ := List.exists_cons_of_ne_nil (String.utf8EncodeChar_ne_nil (c := d))
      simp [bytes,hb]
  | cons c cs ih =>
    cases ds with
    | nil => exact absurd h (by simp)
    | cons d ds =>
      rcases List.cons_lt_cons_iff.mp h with hc | ⟨rfl,hcs⟩
      · exact encode_append_lt hc _ _
      · exact append_lt_append _ (ih hcs)

/-- Texts are ordered as their bytes are. -/
theorem lt_iff_bytes_lt (s t : String) : s < t ↔ s.toUTF8.data.toList < t.toUTF8.data.toList := by
  rw [← bytes_toList,← bytes_toList]
  refine ⟨bytes_lt_of_lt,fun h => ?_⟩
  by_contra hst
  by_cases hts : t < s
  · exact List.lt_asymm h (bytes_lt_of_lt hts)
  · have heq : s = t := String.le_antisymm (String.not_lt.mp hts) (String.not_lt.mp hst)
    exact List.lt_irrefl _ (heq ▸ h)

end Text

namespace Region

def bytes (r : Region) : List UInt8 :=
  r.id.toUTF8.data.toList

theorem before_iff_bytes_lt (a b : Region) : a.before b = true ↔ a.bytes < b.bytes := by
  rw [before,decide_eq_true_eq,Text.lt_iff_bytes_lt]
  rfl

theorem before_trans {a b c : Region} (hab : a.before b = true) (hbc : b.before c = true) :
    a.before c = true := by
  rw [before,decide_eq_true_eq] at *
  exact String.lt_trans hab hbc

theorem before_asymm {a b : Region} (h : a.before b = true) : b.before a = false := by
  rw [before,decide_eq_true_eq] at h
  rw [before,decide_eq_false_iff_not]
  exact String.lt_asymm h

theorem before_of_not_before {a b : Region} (h : ¬ a.before b = true) (hne : b ≠ a) :
    b.before a = true := by
  rw [before,decide_eq_true_eq] at *
  by_contra hba
  have hid : b.id = a.id := String.le_antisymm (String.not_lt.mp h) (String.not_lt.mp hba)
  exact hne (by cases a; cases b; cases hid; rfl)

/-! ### Regions in order -/

/-- A list in which every region comes before all that follow. -/
def Ordered (rs : List Region) : Prop :=
  rs.Pairwise fun a b => a.before b = true

theorem ordered_insertSorted {r : Region} {rs : List Region} (h : Ordered rs) (hr : r ∉ rs) :
    Ordered (insertSorted r rs) := by
  induction rs with
  | nil => exact List.pairwise_singleton _ r
  | cons s rest ih =>
    obtain ⟨hs,hrest⟩ := List.pairwise_cons.mp h
    have hne : r ≠ s := fun he => hr (he ▸ List.mem_cons_self)
    have hnot : r ∉ rest := fun hmem => hr (List.mem_cons_of_mem s hmem)
    simp only [insertSorted]
    split
    · rename_i hsr
      refine List.pairwise_cons.mpr ⟨fun t ht => ?_,ih hrest hnot⟩
      rcases mem_insertSorted.mp ht with rfl | ht
      · exact hsr
      · exact hs t ht
    · rename_i hsr
      have hrs : r.before s = true := before_of_not_before hsr hne
      refine List.pairwise_cons.mpr ⟨fun t ht => ?_,h⟩
      rcases List.mem_cons.mp ht with rfl | ht
      · exact hrs
      · exact before_trans hrs (hs t ht)

theorem mem_foldr_insertSorted {r : Region} {rs : List Region} :
    r ∈ rs.foldr insertSorted [] ↔ r ∈ rs := by
  induction rs with
  | nil => rfl
  | cons s rest ih => rw [List.foldr_cons,mem_insertSorted,ih,List.mem_cons]

theorem ordered_foldr_insertSorted {rs : List Region} (h : rs.Nodup) :
    Ordered (rs.foldr insertSorted []) := by
  induction rs with
  | nil => exact List.Pairwise.nil
  | cons s rest ih =>
    obtain ⟨hs,hrest⟩ := List.nodup_cons.mp h
    exact ordered_insertSorted (ih hrest) fun hmem => hs (mem_foldr_insertSorted.mp hmem)

theorem ordered_sorted (rs : List Region) : Ordered (sorted rs) :=
  ordered_foldr_insertSorted (nodup_distinct rs)

theorem Ordered.eq_of_mem_iff {rs ss : List Region} (hrs : Ordered rs) (hss : Ordered ss)
    (h : ∀ r, r ∈ rs ↔ r ∈ ss) : rs = ss := by
  have hnodup : ∀ ts, Ordered ts → ts.Nodup := fun ts hts =>
    hts.imp fun {a b} hab he => by
      have hba := before_asymm hab
      rw [he] at hab hba
      exact absurd (hab.symm.trans hba) (by decide)
  refine List.Perm.eq_of_pairwise (fun a b _ _ hab hba => ?_) hrs hss
    ((List.perm_ext_iff_of_nodup (hnodup rs hrs) (hnodup ss hss)).mpr h)
  exact absurd (hba.symm.trans (before_asymm hab)) (by decide)

end Region

end RegionAudit
