import Mathlib.Tactic.Common
import Mathlib.Data.List.Forall2
import RegionAudit.Json.Shape

/-! The texts that are JSON, and those that write a value of a shape. Blanks may stand around every value and
every key. Within quotation marks halves of characters may stand alone, as long as nobody asks which text
it is; a key or a text of a shape has to spell its characters out. -/
namespace RegionAudit.Json

open Text (number? isHighHalf isLowHalf)

/-! ### Blanks -/

def IsGap (g : List Char) : Prop :=
  ∀ c ∈ g, isGap c = true

theorem isGap_nil : IsGap [] := nofun

theorem IsGap.append {g h : List Char} (hg : IsGap g) (hh : IsGap h) : IsGap (g ++ h) := by
  intro c hc
  rcases List.mem_append.mp hc with hc | hc
  · exact hg c hc
  · exact hh c hc

structure Padded where
  before : List Char
  body : List Char
  after : List Char
  isGap_before : IsGap before
  isGap_after : IsGap after

def Padded.text (p : Padded) : List Char :=
  p.before ++ p.body ++ p.after

structure Member where
  name : Padded
  value : Padded

def Member.text (m : Member) : List Char :=
  m.name.text ++ ':' :: m.value.text

/-- Parts with commas between them, in brackets. There may be blanks even without parts. -/
def bracketed (opening closing : Char) (gap : List Char) (parts : List (List Char)) : List Char :=
  opening :: gap ++ List.intercalate [','] parts ++ [closing]

def listText (gap : List Char) (items : List Padded) : List Char :=
  bracketed '[' ']' gap (items.map Padded.text)

def objectText (gap : List Char) (members : List Member) : List Char :=
  bracketed '\x7b' '\x7d' gap (members.map Member.text)

/-! ### Texts -/

def IsPlain (c : Char) : Prop :=
  ' ' ≤ c ∧ c ≠ '"' ∧ c ≠ '\\'

def IsUnit (u : List Char) (n : Nat) : Prop :=
  ∃ ds, ds.length = 4 ∧ number? 16 ds = some n ∧ u = '\\' :: 'u' :: ds

/-- What may stand within quotation marks. -/
inductive IsPiece : List Char → Prop
  | plain {c : Char} (hc : IsPlain c) : IsPiece [c]
  | letter {l c : Char} (hl : escaped? l = some c) : IsPiece ['\\',l]
  | unit {u : List Char} {n : Nat} (hu : IsUnit u n) : IsPiece u

/-- The ways to write a character: itself, an escape of one letter, or its number; a character of more than
16 bits is written as two halves. -/
inductive Spells : List Char → Char → Prop
  | plain {c : Char} (hc : IsPlain c) : Spells [c] c
  | letter {l c : Char} (hl : escaped? l = some c) : Spells ['\\',l] c
  | unit {u : List Char} {n : Nat} (hu : IsUnit u n) (hhigh : isHighHalf n = false)
      (hlow : isLowHalf n = false) : Spells u (Char.ofNat n)
  | halves {u v : List Char} {h l : Nat} (hu : IsUnit u h) (hv : IsUnit v l)
      (hhigh : isHighHalf h = true) (hlow : isLowHalf l = true) : Spells (u ++ v) (joinHalves h l)

inductive IsInside : List Char → Prop
  | nil : IsInside []
  | cons {p ps : List Char} (hp : IsPiece p) (hps : IsInside ps) : IsInside (p ++ ps)

inductive SpellsAll : List Char → List Char → Prop
  | nil : SpellsAll [] []
  | cons {p ps cs : List Char} {c : Char} (hp : Spells p c) (hps : SpellsAll ps cs) :
      SpellsAll (p ++ ps) (c :: cs)

def IsQuoted (q : List Char) : Prop :=
  ∃ i, IsInside i ∧ q = '"' :: i ++ ['"']

def Quotes (q s : List Char) : Prop :=
  ∃ i, SpellsAll i s ∧ q = '"' :: i ++ ['"']

/-! ### Numbers -/

def IsDigits (ds : List Char) : Prop :=
  ds ≠ [] ∧ ∀ d ∈ ds, d.isDigit = true

/-- The whole part of a number has no leading zeros. -/
def IsWhole (w : List Char) : Prop :=
  w = ['0'] ∨ IsDigits w ∧ w.head? ≠ some '0'

def IsFraction (f : List Char) : Prop :=
  f = [] ∨ ∃ ds, IsDigits ds ∧ f = '.' :: ds

def IsExponent (x : List Char) : Prop :=
  x = [] ∨ ∃ e sign ds, (e = 'e' ∨ e = 'E') ∧ (sign = [] ∨ sign = ['+'] ∨ sign = ['-']) ∧
    IsDigits ds ∧ x = e :: sign ++ ds

def IsUnsigned (n : List Char) : Prop :=
  ∃ w f x, IsWhole w ∧ IsFraction f ∧ IsExponent x ∧ n = w ++ f ++ x

def IsNumber (n : List Char) : Prop :=
  IsUnsigned n ∨ ∃ m, IsUnsigned m ∧ n = '-' :: m

/-! ### Values -/

/-- The texts of values, without blanks around them. -/
inductive IsValue : List Char → Prop
  | word {w : List Char} (hw : w ∈ ["null".toList,"true".toList,"false".toList]) : IsValue w
  | number {n : List Char} (hn : IsNumber n) : IsValue n
  | text {q : List Char} (hq : IsQuoted q) : IsValue q
  | list {gap : List Char} (hgap : IsGap gap) {items : List Padded}
      (hitems : ∀ i ∈ items, IsValue i.body) : IsValue (listText gap items)
  | object {gap : List Char} (hgap : IsGap gap) {members : List Member}
      (hnames : ∀ m ∈ members, IsQuoted m.name.body)
      (hvalues : ∀ m ∈ members, IsValue m.value.body) : IsValue (objectText gap members)

def Member.IsOther (m : Member) (field : String) : Prop :=
  (∃ name, name ≠ field.toList ∧ Quotes m.name.body name) ∧ IsValue m.value.body

/-- The texts that write a value of a shape. A record is a list of its one value, or an object in which the
field stands once, with other members before and behind it. -/
def Shape.Writes : (s : Shape) → s.Value → List Char → Prop
  | .text, v, cs => Quotes cs (String.toList v)
  | .list item, vs, cs => ∃ gap items, IsGap gap ∧
      List.Forall₂ (fun v (i : Padded) => item.Writes v i.body) vs items ∧ cs = listText gap items
  | .record _ field value, v, cs =>
      (∃ gap item, IsGap gap ∧ value.Writes v item.body ∧ cs = listText gap [item]) ∨
      ∃ gap front m back, IsGap gap ∧ Quotes m.name.body field.toList ∧ value.Writes v m.value.body ∧
        (∀ o ∈ front ++ back, o.IsOther field) ∧ cs = objectText gap (front ++ m :: back)

/-! ### What is written is a value -/

theorem Spells.isInside_append {p ps : List Char} {c : Char} (hp : Spells p c) (hps : IsInside ps) :
    IsInside (p ++ ps) := by
  cases hp with
  | plain hc => exact .cons (.plain hc) hps
  | letter hl => exact .cons (.letter hl) hps
  | unit hu => exact .cons (.unit hu) hps
  | halves hu hv =>
    rw [List.append_assoc]
    exact .cons (.unit hu) (.cons (.unit hv) hps)

theorem SpellsAll.isInside {i s : List Char} (h : SpellsAll i s) : IsInside i := by
  induction h with
  | nil => exact .nil
  | cons hp _ ih => exact hp.isInside_append ih

theorem Quotes.isQuoted {q s : List Char} (h : Quotes q s) : IsQuoted q := by
  obtain ⟨i,hi,hq⟩ := h
  exact ⟨i,hi.isInside,hq⟩

theorem forall_body {α : Type} {W : α → List Char → Prop} {P : List Char → Prop}
    (h : ∀ v t, W v t → P t) {vs : List α} {items : List Padded}
    (hall : List.Forall₂ (fun v (i : Padded) => W v i.body) vs items) : ∀ i ∈ items, P i.body := by
  have hboth : List.Forall₂ (fun (i : Padded) v => P i.body ∧ W v i.body) items vs :=
    hall.flip.imp fun i v hv => ⟨h v _ hv,hv⟩
  exact ((List.forall₂_and_left items vs).mp hboth).1

theorem Shape.Writes.isValue {s : Shape} {v : s.Value} {cs : List Char} (h : s.Writes v cs) :
    IsValue cs := by
  induction s generalizing cs with
  | text => exact .text h.isQuoted
  | list item ih =>
    obtain ⟨gap,items,hgap,hitems,rfl⟩ := h
    exact .list hgap (forall_body (P := IsValue) (fun _ _ h => ih h) hitems)
  | record name field value ih =>
    rcases h with ⟨gap,item,hgap,hitem,rfl⟩ | ⟨gap,front,m,back,hgap,hname,hvalue,hothers,rfl⟩
    · exact .list hgap (by simpa using ih hitem)
    · have hall : ∀ o ∈ front ++ m :: back, IsQuoted o.name.body ∧ IsValue o.value.body := by
        intro o ho
        by_cases hm : o = m
        · subst hm
          exact ⟨hname.isQuoted,ih hvalue⟩
        · obtain ⟨⟨_,-,hn⟩,hv⟩ := hothers o (by simpa [hm] using ho)
          exact ⟨hn.isQuoted,hv⟩
      exact .object hgap (fun o ho => (hall o ho).1) fun o ho => (hall o ho).2

/-! ### Beginnings -/

def Begins (cs : List Char) : Prop :=
  ∃ x xs, cs = x :: xs ∧ isGap x = false ∧ x ≠ ']' ∧ x ≠ ','

theorem ne_of_isDigit {c d : Char} (hc : c.isDigit = true) (hd : d.isDigit = false) : c ≠ d := by
  rintro rfl
  rw [hc] at hd
  cases hd

theorem isGap_of_isDigit {d : Char} (hd : d.isDigit = true) : isGap d = false := by
  simp [isGap,ne_of_isDigit hd]

theorem IsUnsigned.exists_eq_cons {n : List Char} (h : IsUnsigned n) :
    ∃ d ds, n = d :: ds ∧ d.isDigit = true := by
  obtain ⟨w,f,x,hw,-,-,rfl⟩ := h
  rcases hw with rfl | ⟨⟨hne,hd⟩,-⟩
  · exact ⟨'0',_,rfl,rfl⟩
  · obtain ⟨d,ds,rfl⟩ := List.exists_cons_of_ne_nil hne
    exact ⟨d,_,rfl,hd d (by simp)⟩

theorem IsValue.begins {v : List Char} (h : IsValue v) : Begins v := by
  cases h with
  | word hw =>
    simp only [List.mem_cons,List.not_mem_nil,or_false] at hw
    rcases hw with rfl | rfl | rfl
    · exact ⟨'n',_,rfl,by decide,by decide,by decide⟩
    · exact ⟨'t',_,rfl,by decide,by decide,by decide⟩
    · exact ⟨'f',_,rfl,by decide,by decide,by decide⟩
  | number hn =>
    rcases hn with hn | ⟨m,-,rfl⟩
    · obtain ⟨d,ds,rfl,hd⟩ := hn.exists_eq_cons
      exact ⟨d,ds,rfl,isGap_of_isDigit hd,ne_of_isDigit hd (by decide),ne_of_isDigit hd (by decide)⟩
    · exact ⟨'-',m,rfl,by decide,by decide,by decide⟩
  | text hq =>
    obtain ⟨i,-,rfl⟩ := hq
    exact ⟨'"',_,rfl,by decide,by decide,by decide⟩
  | list => exact ⟨'[',_,rfl,by decide,by decide,by decide⟩
  | object => exact ⟨'\x7b',_,rfl,by decide,by decide,by decide⟩

/-! ### Parts between commas -/

/-- The parts from one on, each behind a comma unless it is the first of all. -/
def listed (first : Bool) : List (List Char) → List Char
  | [] => []
  | t :: ts => (if first then [] else [',']) ++ t ++ listed false ts

theorem intercalate_eq_listed (parts : List (List Char)) :
    List.intercalate [','] parts = listed true parts := by
  induction parts with
  | nil => rfl
  | cons t ts ih =>
    cases ts with
    | nil => simp [listed]
    | cons u us =>
      rw [List.intercalate_cons_cons,ih]
      simp [listed]

theorem length_le_listed (first : Bool) {parts : List (List Char)} (h : ∀ t ∈ parts, t ≠ []) :
    parts.length ≤ (listed first parts).length := by
  induction parts generalizing first with
  | nil => simp
  | cons t ts ih =>
    have ht := List.length_pos_iff.mpr (h t (by simp))
    have hts := ih false fun u hu => h u (List.mem_cons_of_mem _ hu)
    simp only [listed,List.length_append,List.length_cons]
    omega

end RegionAudit.Json
