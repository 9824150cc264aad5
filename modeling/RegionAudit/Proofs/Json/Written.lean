import RegionAudit.Proofs.Json.Reading
import RegionAudit.Region

/-! Lists of regions as JSON. What is written is one of the texts that write the list, so reading gives the list
back; and of all the texts that read as a list, what is written for it depends on the list alone. -/
namespace RegionAudit

namespace Json

open Text (number? numberAfter? hexDigit hexValue?_hexDigit isHighHalf isLowHalf)

/-! ### Characters -/

theorem isUnit_of_lt {n : Nat} (h : n < 256) :
    IsUnit ['\\','u','0','0',hexDigit (n / 16),hexDigit (n % 16)] n := by
  have hhigh := hexValue?_hexDigit (show n / 16 < 16 by omega)
  have hlow := hexValue?_hexDigit (Nat.mod_lt n (show 0 < 16 by decide))
  have hvalue : ((0 * 16 + 0) * 16 + 0) * 16 + n / 16 = n / 16 := by omega
  have hnumber : number? 16 ['0','0',hexDigit (n / 16),hexDigit (n % 16)] = some n := by
    refine numberAfter?_cons_iff.mpr ⟨0,rfl,numberAfter?_cons_iff.mpr ⟨0,rfl,?_⟩⟩
    refine numberAfter?_cons_iff.mpr ⟨_,hhigh,numberAfter?_cons_iff.mpr ⟨_,hlow,?_⟩⟩
    rw [hvalue,Nat.div_add_mod']
    rfl
  exact ⟨_,rfl,hnumber,rfl⟩

theorem spells_control {c : Char} (h : c < ' ') :
    Spells ['\\','u','0','0',hexDigit (c.toNat / 16),hexDigit (c.toNat % 16)] c := by
  have hlt : c.toNat < 32 := Char.lt_def.mp h
  have hspells := Spells.unit (isUnit_of_lt (show c.toNat < 256 by omega))
    (by simp [isHighHalf]; omega) (by simp [isLowHalf]; omega)
  rwa [Char.ofNat_toNat] at hspells

/-- Whatever a character is written as spells it. -/
theorem spells_escape (c : Char) : Spells (escape c) c := by
  unfold escape
  -- The seven characters that have an escape of one letter.
  iterate 7
    split
    · rename_i h
      subst h
      exact .letter rfl
  split
  · rename_i h
    exact spells_control h
  · rename_i hquote hbackslash _ _ _ _ _ hcontrol
    exact .plain ⟨Char.not_lt.mp hcontrol,hquote,hbackslash⟩

/-! ### Texts and lists of texts -/

theorem spellsAll_escape (cs : List Char) : SpellsAll (cs.flatMap escape) cs := by
  induction cs with
  | nil => exact .nil
  | cons c cs ih => exact .cons (spells_escape c) ih

theorem quotes_writeText (cs : List Char) : Quotes (writeText cs) cs :=
  ⟨_,spellsAll_escape cs,rfl⟩

def Padded.bare (cs : List Char) : Padded :=
  ⟨[],cs,[],isGap_nil,isGap_nil⟩

@[simp] theorem Padded.text_bare (cs : List Char) : (bare cs).text = cs := by
  simp [bare,Padded.text]

theorem writeTexts_eq_listText (texts : List (List Char)) :
    writeTexts texts = listText [] (texts.map fun t => .bare (writeText t)) := by
  simp [writeTexts,listText,bracketed,List.map_map,Function.comp_def]

theorem writes_writeTexts (ids : List String) :
    (Shape.list .text).Writes ids (writeTexts (ids.map String.toList)) := by
  have hall : List.Forall₂ (fun (id : String) (i : Padded) => Quotes i.body id.toList) ids
      ((ids.map String.toList).map fun t => .bare (writeText t)) := by
    rw [List.map_map,List.forall₂_map_right_iff,List.forall₂_same]
    exact fun id _ => quotes_writeText id.toList
  exact ⟨[],_,isGap_nil,hall,writeTexts_eq_listText _⟩

end Json

namespace Region

open Json (Padded Shape)

/-- The texts that are a list of these identifiers as JSON, with any blanks and any escapes. -/
def IsListText (ids : List String) (text : List Char) : Prop :=
  ∃ p : Padded, (Shape.list .text).Writes ids p.body ∧ text = p.text

theorem map_mk_eq_iff {ids : List String} {regions : List Region} :
    ids.map Region.mk = regions ↔ ids = regions.map id := by
  constructor
  · rintro rfl
    simp [Function.comp_def]
  · rintro rfl
    simp [Function.comp_def]

theorem listOfJson_eq_ok_iff {text : List Char} {regions : List Region} :
    listOfJson text = .ok regions ↔ IsListText (regions.map id) text := by
  refine Iff.trans ?_ (Json.decode_ok_iff (.list .text) text (regions.map id))
  unfold listOfJson
  cases Json.decode (.list .text) text with
  | error f => simp
  | ok ids =>
    constructor
    · intro h
      exact congrArg Except.ok (map_mk_eq_iff.mp (Except.ok.inj h))
    · intro h
      exact congrArg Except.ok (map_mk_eq_iff.mpr (Except.ok.inj h))

theorem toList_listToJson (regions : List Region) :
    (listToJson regions).toList = Json.writeTexts ((regions.map id).map String.toList) := by
  rw [listToJson,String.toList_ofList,List.map_map]
  rfl

theorem isListText_listToJson (regions : List Region) :
    IsListText (regions.map id) (listToJson regions).toList := by
  rw [toList_listToJson]
  exact ⟨.bare _,Json.writes_writeTexts (regions.map id),(Padded.text_bare _).symm⟩

theorem listOfJson_listToJson (regions : List Region) :
    listOfJson (listToJson regions).toList = .ok regions :=
  listOfJson_eq_ok_iff.mpr (isListText_listToJson regions)

/-- Writing a list of regions and reading it gives the list back, so different lists are written differently.
A text reads as a list exactly when it writes the identifiers, with any blanks and any escapes; and whichever of
these texts a list was read from, what is written for it reads as the list and is written again as it is. -/
theorem listToJson_roundTrip :
    (∀ regions, listOfJson (listToJson regions).toList = .ok regions) ∧
    Function.Injective listToJson ∧
    (∀ text regions, listOfJson text = .ok regions ↔ IsListText (regions.map id) text) ∧
    ∀ text regions, listOfJson text = .ok regions →
      listOfJson (listToJson regions).toList = .ok regions ∧
        (listOfJson (listToJson regions).toList).map listToJson = .ok (listToJson regions) := by
  refine ⟨listOfJson_listToJson,fun regions regions' h => ?_,fun text regions => listOfJson_eq_ok_iff,
    fun text regions _ => ?_⟩
  · have hread := listOfJson_listToJson regions
    rw [h,listOfJson_listToJson regions'] at hread
    exact (Except.ok.inj hread).symm
  · rw [listOfJson_listToJson]
    exact ⟨rfl,rfl⟩

/-- A text that writes a character as two halves, a slash and a line feed with escapes, and blanks between the
parts: the list is written without the blanks and with one escape only. -/
theorem listToJson_roundTrip_halves :
    let text := "[ \"\\ud83d\\ude00\\/\\u000A\" , \"\" ]".toList
    let regions : List Region := [⟨"😀/\n"⟩,⟨""⟩]
    listOfJson text = .ok regions ∧ listToJson regions = "[\"😀/\\n\",\"\"]" ∧
      listOfJson "[\"😀/\\n\",\"\"]".toList = .ok regions := by
  intro text regions
  have hread : listOfJson text = .ok regions := by decide +kernel
  have hwritten : listToJson regions = "[\"😀/\\n\",\"\"]" := by decide +kernel
  exact ⟨hread,hwritten,hwritten ▸ (listToJson_roundTrip.2.2.2 text regions hread).1⟩

end Region

end RegionAudit
