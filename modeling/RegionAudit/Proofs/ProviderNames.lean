import RegionAudit.Proofs.Text.LowerCase
import RegionAudit.Provider

/-! How people name a provider. Blanks around a name do not count, nor does the case of the letters a to z. A name is
compared in lower case of all letters there are, but that lets in nothing else, for none of the names has a `k`, the
one basic letter that is also the small form of another sign. -/
namespace RegionAudit.Provider

open Text (trim lower isBlank sameIgnoringBasicCase)

def writtenNames : Provider → List String
  | .digitalocean => ["digitalocean","do"]
  | .linode => ["linode"]
  | .dreamhost => ["dreamhost"]

/-- Whether a text names a provider: between its blanks it is one of the names, but for the case of the letters a
to z. -/
def NamedBy (p : Provider) (text : String) : Prop :=
  ∃ name ∈ p.writtenNames, sameIgnoringBasicCase (trim text.toList) name.toList = true

theorem ofName?_eq_some_iff {name : String} {p : Provider} : ofName? name = some p ↔ name ∈ p.writtenNames := by
  constructor
  · intro h
    unfold ofName? at h
    split_ifs at h <;> cases h <;> simp_all [writtenNames]
  · intro h
    cases p with
    | digitalocean =>
      obtain rfl | rfl : name = "digitalocean" ∨ name = "do" := by simpa [writtenNames] using h
      · rfl
      · rfl
    | linode =>
      obtain rfl : name = "linode" := by simpa [writtenNames] using h
      rfl
    | dreamhost =>
      obtain rfl : name = "dreamhost" := by simpa [writtenNames] using h
      rfl

/-- Every name is in small basic letters, and none has a `k`. -/
theorem small_of_mem_writtenNames {p : Provider} {name : String} (h : name ∈ p.writtenNames) :
    (∀ d ∈ name.toList, d.toNat < 0x80 ∧ d ≠ 'k') ∧ name.toList.map Char.toLower = name.toList := by
  have hall : (all.all fun p => p.writtenNames.all fun name =>
      name.toList.all (fun d => d.toNat < 0x80 ∧ d ≠ 'k') && name.toList.map Char.toLower == name.toList) = true := by
    decide
  simp only [List.all_eq_true,Bool.and_eq_true,decide_eq_true_eq,beq_iff_eq] at hall
  exact hall p p.mem_all name h

theorem isLower_of_mem_writtenNames {p : Provider} {name : String} (h : name ∈ p.writtenNames) :
    name ≠ "" ∧ ∀ d ∈ name.toList, d.isLower = true := by
  have hall : (all.all fun p => p.writtenNames.all fun name => name != "" && name.toList.all Char.isLower) = true := by
    decide
  simp only [List.all_eq_true,Bool.and_eq_true,bne_iff_ne] at hall
  exact hall p p.mem_all name h

theorem toList_canonical (text : String) : (canonical text).toList = lower (trim text.toList) :=
  String.toList_ofList

theorem canonical_eq_iff {p : Provider} {name : String} (h : name ∈ p.writtenNames) (text : String) :
    canonical text = name ↔ sameIgnoringBasicCase (trim text.toList) name.toList = true := by
  obtain ⟨hbasic,hsmall⟩ := small_of_mem_writtenNames h
  rw [← String.toList_inj,toList_canonical,Text.lower_eq_iff hbasic,sameIgnoringBasicCase,decide_eq_true_eq,hsmall]

theorem ofText_eq_ok_iff {text : String} {p : Provider} : ofText text = .ok p ↔ p.NamedBy text := by
  have hname : p.NamedBy text ↔ canonical text ∈ p.writtenNames := by
    constructor
    · rintro ⟨name,hname,hsame⟩
      rwa [(canonical_eq_iff hname text).mpr hsame]
    · exact fun hmem => ⟨_,hmem,(canonical_eq_iff hmem text).mp rfl⟩
  rw [hname,← ofName?_eq_some_iff,ofText]
  cases ofName? (canonical text) <;> simp

theorem ofText_eq_error_iff {text name : String} :
    ofText text = .error name ↔ (∀ p : Provider, ¬ p.NamedBy text) ∧ name = canonical text := by
  simp only [← ofText_eq_ok_iff]
  unfold ofText
  cases ofName? (canonical text) with
  | none => simp [eq_comm]
  | some p => simp

theorem canonical_canonical (text : String) : canonical (canonical text) = canonical text := by
  rw [← String.toList_inj,toList_canonical,toList_canonical,Text.trim_lower_trim,Text.lower_lower]

section NamedBy

variable {p : Provider} {text : String}

theorem NamedBy.exists_letters (h : p.NamedBy text) :
    ∃ name ∈ p.writtenNames, (trim text.toList).map Char.toLower = name.toList := by
  obtain ⟨name,hname,hsame⟩ := h
  obtain ⟨-,hsmall⟩ := small_of_mem_writtenNames hname
  rw [sameIgnoringBasicCase,decide_eq_true_eq,hsmall] at hsame
  exact ⟨name,hname,hsame⟩

theorem NamedBy.toLower_mem (h : p.NamedBy text) {c : Char} (hc : c ∈ text.toList) (hblank : isBlank c = false) :
    ∃ name ∈ p.writtenNames, c.toLower ∈ name.toList := by
  obtain ⟨name,hname,hletters⟩ := h.exists_letters
  exact ⟨name,hname,hletters ▸ List.mem_map_of_mem (Text.mem_trim hblank hc)⟩

/-- All letters of a text that names a provider are basic. -/
theorem NamedBy.basic (h : p.NamedBy text) {c : Char} (hc : c ∈ text.toList) (hblank : isBlank c = false) :
    c.toNat < 0x80 := by
  obtain ⟨name,hname,hmem⟩ := h.toLower_mem hc hblank
  exact Text.toLower_basic_iff.mp ((small_of_mem_writtenNames hname).1 _ hmem).1

theorem NamedBy.isLower_toLower (h : p.NamedBy text) {c : Char} (hc : c ∈ text.toList) (hblank : isBlank c = false) :
    c.toLower.isLower = true := by
  obtain ⟨name,hname,hmem⟩ := h.toLower_mem hc hblank
  exact (isLower_of_mem_writtenNames hname).2 _ hmem

theorem NamedBy.toList_ne_nil (h : p.NamedBy text) : text.toList ≠ [] := by
  obtain ⟨name,hname,hletters⟩ := h.exists_letters
  intro hnil
  rw [hnil] at hletters
  exact (isLower_of_mem_writtenNames hname).1 (String.toList_inj.mp hletters.symm)

end NamedBy

/-- A text is taken for a provider exactly if it names it, whatever other letters there are that have small forms. Any
other text is refused with its lower case between its blanks, and this is refused with itself; among them are all texts
with a letter beyond the basic ones. -/
theorem ofText_any_case (text : String) :
    (∀ p : Provider, ofText text = .ok p ↔ p.NamedBy text) ∧
    (∀ name, ofText text = .error name ↔
      (∀ p : Provider, ¬ p.NamedBy text) ∧ name = String.ofList (lower (trim text.toList))) ∧
    (∀ c ∈ text.toList, 0x80 ≤ c.toNat → isBlank c = false →
      ofText text = .error (String.ofList (lower (trim text.toList)))) ∧
    ∀ name, ofText text = .error name → ofText name = .error name := by
  refine ⟨fun p => ofText_eq_ok_iff,fun name => ofText_eq_error_iff,?_,?_⟩
  · intro c hc hlarge hblank
    exact ofText_eq_error_iff.mpr ⟨fun p h => absurd (h.basic hc hblank) (Nat.not_lt.mpr hlarge),rfl⟩
  · intro name hname
    obtain ⟨-,rfl⟩ := ofText_eq_error_iff.mp hname
    -- the same name is looked up
    rw [ofText,canonical_canonical]
    exact hname

end RegionAudit.Provider
