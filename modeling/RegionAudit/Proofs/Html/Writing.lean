import Mathlib.Tactic.Common
import RegionAudit.Html.Lexer

/-! Writing markup, and what the lexer makes of it: a tag that is written out is handed on as that tag, and a
text whose special characters are escaped is handed on character by character. -/
namespace RegionAudit.Html

open Text (isMarkupBlank)

/-! ### Writing -/

/-- A character as it is written in a text. -/
def escapeChar (c : Char) : List Char :=
  if c = '&' then "&amp;".toList
  else if c = '<' then "&lt;".toList
  else if c = '>' then "&gt;".toList
  else [c]

def escape (cs : List Char) : List Char :=
  cs.flatMap escapeChar

def writtenTag (isEnd : Bool) (name : String) : List Char :=
  (if isEnd then ['<','/'] else ['<']) ++ (name.toList ++ ['>'])

def startTag (name : String) : List Char :=
  writtenTag false name

def endTag (name : String) : List Char :=
  writtenTag true name

def tagToken (isEnd : Bool) (name : String) : Token :=
  if isEnd then .endTag name else .startTag (.plain name)

def tagged (name : String) (inside : List Char) : List Char :=
  startTag name ++ inside ++ endTag name

/-! ### Names of tags -/

def isNameLetter (c : Char) : Bool :=
  c.isAlpha && c.toLower = c

/-- Whether a tag of this name is read under this name. -/
def IsTagName (name : String) : Prop :=
  name.toList.isEmpty = false ∧ name.toList.all isNameLetter = true

instance (name : String) : Decidable (IsTagName name) :=
  inferInstanceAs (Decidable (_ ∧ _))

theorem IsTagName.cons {name : String} (h : IsTagName name) :
    ∃ c cs, name.toList = c :: cs ∧ c.isAlpha = true ∧ c.toLower = c ∧
      ∀ d ∈ cs, isNameLetter d = true := by
  obtain ⟨hne,hall⟩ := h
  have hletters := List.all_eq_true.mp hall
  obtain ⟨c,cs,hcs⟩ := List.exists_cons_of_ne_nil (List.isEmpty_eq_false_iff.mp hne)
  rw [hcs] at hletters
  have hc : c.isAlpha = true ∧ c.toLower = c := by
    simpa [isNameLetter] using hletters c List.mem_cons_self
  exact ⟨c,cs,hcs,hc.1,hc.2,fun d hd => hletters d (List.mem_cons_of_mem c hd)⟩

theorem isNameLetter_ne {c d : Char} (h : isNameLetter c = true) (hd : isNameLetter d = false) :
    c ≠ d := by
  rintro rfl
  simp [h] at hd

theorem isMarkupBlank_of_isNameLetter {c : Char} (h : isNameLetter c = true) :
    isMarkupBlank c = false := by
  have hne : ∀ d, isNameLetter d = false → c ≠ d := fun d => isNameLetter_ne h
  simp [isMarkupBlank,hne '\t' (by decide),hne '\n' (by decide),hne '\x0c' (by decide),
    hne '\r' (by decide),hne ' ' (by decide)]

theorem shown_of_ne {c : Char} (h : c ≠ '\x00') : shown c = c := by
  simp [shown,h]

namespace Reader

theorem readTagName_letter (r : Reader) (t : PendingTag) {c : Char} (h : isNameLetter c = true) :
    r.readTagName t c = r.go (.tagName (t.push c)) := by
  have hne : ∀ d, isNameLetter d = false → c ≠ d := fun d => isNameLetter_ne h
  have hlower : c.toLower = c := by
    simp only [isNameLetter,Bool.and_eq_true,decide_eq_true_eq] at h
    exact h.2
  simp [readTagName,isMarkupBlank_of_isNameLetter h,hne '/' (by decide),hne '>' (by decide),
    shown_of_ne (hne '\x00' (by decide)),hlower]

theorem readAll_tagName (r : Reader) (t : PendingTag) {cs : List Char}
    (h : ∀ c ∈ cs, isNameLetter c = true) :
    (r.go (.tagName t)).readAll cs = r.go (.tagName { t with name := cs.reverse ++ t.name }) := by
  induction cs generalizing t with
  | nil => rfl
  | cons c cs ih =>
    have hread : (r.go (.tagName t)).read c = r.go (.tagName (t.push c)) :=
      readTagName_letter (r.go (.tagName t)) t (h c (by simp))
    rw [readAll_cons,hread,ih _ fun d hd => h d (List.mem_cons_of_mem c hd)]
    simp [PendingTag.push]

/-- The letters of a name and the bracket after them make a tag. -/
theorem readAll_name (r : Reader) (isEnd : Bool) {c : Char} {cs : List Char}
    (h : ∀ d ∈ cs, isNameLetter d = true) (hc : c.toLower = c) :
    (r.go (.tagName (.ofLetter isEnd c))).readAll (cs ++ ['>']) =
      r.addTag ⟨isEnd,(c :: cs).reverse,[],false⟩ := by
  rw [readAll_append,readAll_tagName r _ h]
  simp only [PendingTag.ofLetter,hc,List.reverse_cons]
  rfl

theorem readAll_writtenTag {r : Reader} (h : r.place = .text .markup) (isEnd : Bool) {name : String}
    (hname : IsTagName name) :
    r.readAll (writtenTag isEnd name) = r.addTag ⟨isEnd,name.toList.reverse,[],false⟩ := by
  obtain ⟨c,cs,hcs,halpha,hlower,hletters⟩ := hname.cons
  have hbang : c ≠ '!' := by rintro rfl; simp at halpha
  have hslash : c ≠ '/' := by rintro rfl; simp at halpha
  have hopen : (r.readAll (if isEnd then ['<','/'] else ['<'])).read c =
      r.go (.tagName (.ofLetter isEnd c)) := by
    cases isEnd
    · simp [read,h,readText,go,readTagOpen,isTagLetter,halpha,hbang,hslash]
    · simp [read,h,readText,go,readTagOpen,readEndTagOpen,isTagLetter,halpha]
  rw [writtenTag,readAll_append,hcs,List.cons_append,readAll_cons,hopen]
  exact readAll_name r isEnd hletters hlower

theorem readAll_escapeChar {r : Reader} (h : r.place = .text .markup) {c : Char} (hc : c ≠ '\x00') :
    r.readAll (escapeChar c) = r.add (.char c) := by
  obtain ⟨place,lastStart,page⟩ := r
  subst h
  by_cases hamp : c = '&'
  · subst hamp
    rfl
  by_cases hless : c = '<'
  · subst hless
    rfl
  by_cases hmore : c = '>'
  · subst hmore
    rfl
  · simp [escapeChar,read,readText,go,add,hamp,hless,hmore,hc]

theorem readAll_escape {r : Reader} (h : r.place = .text .markup) {cs : List Char}
    (hcs : ∀ c ∈ cs, c ≠ '\x00') : r.readAll (escape cs) = r.addText cs := by
  induction cs generalizing r with
  | nil => rfl
  | cons c cs ih =>
    rw [escape,List.flatMap_cons,readAll_append,readAll_escapeChar h (hcs c (by simp))]
    exact ih h fun d hd => hcs d (List.mem_cons_of_mem c hd)

theorem page_addText (r : Reader) (cs : List Char) :
    (r.addText cs).page = cs.foldl (fun b c => b.add (.char c)) r.page := by
  induction cs generalizing r with
  | nil => rfl
  | cons c cs ih => exact ih (r.add (.char c))

theorem place_addText (r : Reader) (cs : List Char) : (r.addText cs).place = r.place := by
  induction cs generalizing r with
  | nil => rfl
  | cons c cs ih => exact ih (r.add (.char c))

end Reader

/-! ### Reading what is written -/

/-- The reader stands in running text, and the page has come this far. -/
structure Stands (r : Reader) (b : Construction) : Prop where
  place : r.place = .text .markup
  page : r.page = b

namespace Stands

variable {r : Reader} {b : Construction}

theorem addTag (h : Stands r b) {t : PendingTag} (ht : (b.add t.token).reading = .markup) :
    Stands (r.addTag t) (b.add t.token) := by
  obtain ⟨-,rfl⟩ := h
  refine ⟨?_,rfl⟩
  rw [← ht]
  rfl

theorem writtenTag (h : Stands r b) {isEnd : Bool} {name : String} (hname : IsTagName name)
    (hreading : (b.add (tagToken isEnd name)).reading = .markup) :
    Stands (r.readAll (writtenTag isEnd name)) (b.add (tagToken isEnd name)) := by
  have htoken : PendingTag.token ⟨isEnd,name.toList.reverse,[],false⟩ = tagToken isEnd name := by
    cases isEnd <;> simp [PendingTag.token,PendingTag.fullName,Tag.plain,tagToken]
  rw [Reader.readAll_writtenTag h.place isEnd hname,← htoken]
  exact h.addTag (by rwa [htoken])

theorem escape (h : Stands r b) {cs : List Char} (hcs : ∀ c ∈ cs, c ≠ '\x00') :
    Stands (r.readAll (escape cs)) (cs.foldl (fun b c => b.add (.char c)) b) := by
  rw [Reader.readAll_escape h.place hcs]
  exact ⟨(r.place_addText cs).trans h.place,by rw [r.page_addText,h.page]⟩

end Stands

/-! ### Before reading -/

theorem uniformLines_eq_self {cs : List Char} (h : '\r' ∉ cs) : uniformLines cs = cs := by
  induction cs with
  | nil => rfl
  | cons c cs ih =>
    have hc : c ≠ '\r' := fun heq => h (heq ▸ List.mem_cons_self)
    have hcs : '\r' ∉ cs := fun hmem => h (List.mem_cons_of_mem c hmem)
    rw [uniformLines,ih hcs]
    · exact fun _ heq _ => hc heq
    · exact hc

theorem dropOrderMark_eq_self {cs : List Char} (h : ∀ c ∈ cs.head?, c ≠ '\ufeff') :
    dropOrderMark cs = cs := by
  cases cs with
  | nil => rfl
  | cons c cs =>
    unfold dropOrderMark
    split
    · next heq =>
      obtain ⟨rfl,-⟩ := List.cons.inj heq
      exact absurd rfl (h _ rfl)
    · rfl

theorem return_notMem_escape {cs : List Char} (h : '\r' ∉ cs) : '\r' ∉ escape cs := by
  intro hmem
  obtain ⟨c,hc,hcr⟩ := List.mem_flatMap.mp hmem
  have hne : c ≠ '\r' := fun heq => h (heq ▸ hc)
  unfold escapeChar at hcr
  split_ifs at hcr
  · revert hcr
    decide
  · revert hcr
    decide
  · revert hcr
    decide
  · exact hne (List.mem_singleton.mp hcr).symm

theorem return_notMem_tagged {name : String} (hname : IsTagName name) {inside : List Char}
    (h : '\r' ∉ inside) : '\r' ∉ tagged name inside := by
  have hletters : '\r' ∉ name.toList := fun hmem => by
    have := List.all_eq_true.mp hname.2 _ hmem
    revert this
    decide
  simp [tagged,startTag,endTag,writtenTag,hletters,h]

end RegionAudit.Html
