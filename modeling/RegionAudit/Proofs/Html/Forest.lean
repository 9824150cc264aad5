import Mathlib.Tactic.Common
import RegionAudit.Html.Document

/-! Trees apart from documents, and what a document looks like once trees have grown in it. Elements get
their numbers in the order of the text, so everything below a grown element can be read off its tree. -/
namespace RegionAudit.Html

/-- Texts and elements side by side, first one first. -/
inductive Forest
  | nil
  | char (c : Char) (rest : Forest)
  | element (name : String) (inside rest : Forest)
  deriving DecidableEq, Repr

namespace Forest

def ofText : List Char → Forest
  | [] => .nil
  | c :: cs => .char c (ofText cs)

def append : Forest → Forest → Forest
  | .nil, g => g
  | .char c rest, g => .char c (append rest g)
  | .element name inside rest, g => .element name inside (append rest g)

def count : Forest → Nat
  | .nil => 0
  | .char _ rest => count rest
  | .element _ inside rest => count inside + 1 + count rest

def height : Forest → Nat
  | .nil => 0
  | .char _ rest => height rest
  | .element _ inside rest => max (height inside + 1) (height rest)

def text : Forest → List Char
  | .nil => []
  | .char c rest => c :: text rest
  | .element _ inside rest => text inside ++ text rest

/-- What is inside the elements with these names, in the order in which they begin. -/
def within (names : List String) : Forest → List Forest
  | .nil => []
  | .char _ rest => within names rest
  | .element name inside rest =>
    (if name ∈ names then [inside] else []) ++ within names inside ++ within names rest

/-- The contents of a node that holds the trees, when numbers begin with `n`. -/
def tops (n : Nat) : Forest → List Content
  | .nil => []
  | .char c rest => .char c :: tops n rest
  | .element _ inside rest => .node n :: tops (n+1+count inside) rest

/-- All that the trees consist of, in the order of the text, when numbers begin with `n`. -/
def items (n : Nat) : Forest → List Content
  | .nil => []
  | .char c rest => .char c :: items n rest
  | .element _ inside rest => .node n :: items (n+1) inside ++ items (n+1+count inside) rest

/-- Whether no element is a template, whose contents would stand apart from it. -/
def IsPlain : Forest → Prop
  | .nil => True
  | .char _ rest => IsPlain rest
  | .element name inside rest => name ≠ "template" ∧ IsPlain inside ∧ IsPlain rest

theorem isPlain_ofText (cs : List Char) : (ofText cs).IsPlain := by
  induction cs with
  | nil => trivial
  | cons c cs ih => exact ih

theorem IsPlain.append {f g : Forest} (hf : f.IsPlain) (hg : g.IsPlain) : (f.append g).IsPlain := by
  induction f with
  | nil => exact hg
  | char c rest ih => exact ih hf
  | element name inside rest _ ih => exact ⟨hf.1,hf.2.1,ih hf.2.2⟩

theorem height_le_count (f : Forest) : f.height ≤ f.count := by
  induction f with
  | nil => exact Nat.le_refl 0
  | char c rest ih => exact ih
  | element name inside rest hi hr => simp only [height,count]; omega

@[simp] theorem text_ofText (cs : List Char) : (ofText cs).text = cs := by
  induction cs <;> simp_all [ofText,text]

@[simp] theorem within_ofText (names : List String) (cs : List Char) :
    (ofText cs).within names = [] := by
  induction cs <;> simp_all [ofText,within]

@[simp] theorem within_append (names : List String) (f g : Forest) :
    (f.append g).within names = f.within names ++ g.within names := by
  induction f <;> simp_all [append,within]

end Forest

namespace Document

/-! ### Growing -/

def addElement (d : Document) (parent : Nat) (name : String) : Document :=
  let (d',id) := d.createElement ⟨.html,name⟩
  d'.append parent (.node id)

def grow (d : Document) (parent : Nat) : Forest → Document
  | .nil => d
  | .char c rest => grow (d.append parent (.char c)) parent rest
  | .element name inside rest =>
    grow (grow (d.addElement parent name) d.size inside) parent rest

@[simp] theorem grow_nil (d : Document) (parent : Nat) : d.grow parent .nil = d := rfl

theorem grow_single (d : Document) (parent : Nat) (name : String) (inside : Forest) :
    d.grow parent (.element name inside .nil) = (d.addElement parent name).grow d.size inside := by
  rw [grow,grow_nil]

theorem grow_cons (d : Document) (parent : Nat) (name : String) (inside rest : Forest) :
    d.grow parent (.element name inside rest) =
      (d.grow parent (.element name inside .nil)).grow parent rest := by
  rw [grow_single,grow]

theorem grow_append (d : Document) (parent : Nat) (f g : Forest) :
    d.grow parent (f.append g) = (d.grow parent f).grow parent g := by
  induction f generalizing d parent with
  | nil => rfl
  | char c rest ih => exact ih _ _
  | element name inside rest _ ih => exact ih _ _

/-! ### One step -/

@[simp] theorem size_mapContents (d : Document) (id : Nat) (f : List Content → List Content) :
    (d.mapContents id f).size = d.size := by
  simp [mapContents,size]

@[simp] theorem size_setParent (d : Document) (id : Nat) (parent : Option Nat) :
    (d.setParent id parent).size = d.size := by
  simp [setParent,size]

theorem node?_mapContents (d : Document) (id i : Nat) (f : List Content → List Content) :
    (d.mapContents id f).node? i =
      if i = id then (d.node? i).map (fun n => { n with contents := f n.contents })
      else d.node? i := by
  simp only [mapContents,node?,Array.getElem?_modify]
  by_cases h : id = i
  · simp [h]
  · simp [h,Ne.symm h]

theorem node?_setParent (d : Document) (id i : Nat) (parent : Option Nat) :
    (d.setParent id parent).node? i =
      if i = id then (d.node? i).map (fun n => { n with parent := parent }) else d.node? i := by
  simp only [setParent,node?,Array.getElem?_modify]
  by_cases h : id = i
  · simp [h]
  · simp [h,Ne.symm h]

theorem node?_create (d : Document) (kind : Kind) (i : Nat) :
    (d.create kind).1.node? i = if i = d.size then some ⟨kind,none,[]⟩ else d.node? i := by
  simp only [create,node?,size,Array.getElem?_push]
  rfl

@[simp] theorem size_create (d : Document) (kind : Kind) :
    (d.create kind).1.size = d.size + 1 := by
  simp [create,size]

theorem append_char (d : Document) (parent : Nat) (c : Char) :
    d.append parent (.char c) = d.mapContents parent (.char c :: ·) := rfl

theorem createElement_of_plain (d : Document) {name : String} (h : name ≠ "template") :
    d.createElement ⟨.html,name⟩ = ((d.create (.element ⟨.html,name⟩)).1,d.size) := by
  simp [createElement,create,size,h]

theorem addElement_eq (d : Document) (parent : Nat) {name : String} (h : name ≠ "template") :
    d.addElement parent name =
      (((d.create (.element ⟨.html,name⟩)).1.setParent d.size (some parent)).mapContents parent
        (.node d.size :: ·)) := by
  have hp : (d.create (.element ⟨.html,name⟩)).1.parent? d.size = none := by
    simp [parent?,node?_create]
  simp only [addElement,createElement_of_plain d h,append,adopt,detach,hp]

@[simp] theorem size_addElement (d : Document) (parent : Nat) {name : String}
    (h : name ≠ "template") : (d.addElement parent name).size = d.size + 1 := by
  simp [addElement_eq d parent h]

theorem node?_addElement_new (d : Document) {parent : Nat} {name : String}
    (h : name ≠ "template") (hp : parent < d.size) :
    (d.addElement parent name).node? d.size =
      some ⟨.element ⟨.html,name⟩,some parent,[]⟩ := by
  simp [addElement_eq d parent h,node?_mapContents,node?_setParent,node?_create,Nat.ne_of_gt hp]

theorem node?_addElement_parent (d : Document) {parent : Nat} {name : String}
    (h : name ≠ "template") (hp : parent < d.size) :
    (d.addElement parent name).node? parent =
      (d.node? parent).map fun n => { n with contents := .node d.size :: n.contents } := by
  simp [addElement_eq d parent h,node?_mapContents,node?_setParent,node?_create,Nat.ne_of_lt hp]

theorem node?_addElement_other (d : Document) {parent i : Nat} {name : String}
    (h : name ≠ "template") (hi : i < d.size) (hne : i ≠ parent) :
    (d.addElement parent name).node? i = d.node? i := by
  simp [addElement_eq d parent h,node?_mapContents,node?_setParent,node?_create,Nat.ne_of_lt hi,hne]

/-! ### Many steps -/

/-- Whether the elements from number `n` on are those of some trees, with their contents. -/
def Shows (d : Document) (n : Nat) : Forest → Prop
  | .nil => True
  | .char _ rest => Shows d n rest
  | .element name inside rest =>
    d.element? n = some ⟨.html,name⟩ ∧ d.contents n = (inside.tops (n+1)).reverse ∧
      Shows d (n+1) inside ∧ Shows d (n+1+inside.count) rest

theorem Shows.congr {d d' : Document} {n : Nat} {f : Forest}
    (h : ∀ i, n ≤ i → i < n + f.count → d'.node? i = d.node? i) (hd : d.Shows n f) :
    d'.Shows n f := by
  induction f generalizing n with
  | nil => trivial
  | char c rest ih => exact ih h hd
  | element name inside rest hi hr =>
    obtain ⟨he,hc,hin,hrest⟩ := hd
    simp only [Forest.count] at h
    have hn : d'.node? n = d.node? n := h n (Nat.le_refl n) (by omega)
    refine ⟨?_,?_,hi (fun i h₁ h₂ => h i (by omega) (by omega)) hin,
      hr (fun i h₁ h₂ => h i (by omega) (by omega)) hrest⟩
    · rw [← he,element?,element?,hn]
    · rw [← hc,contents,contents,hn]

/-- What growing does: the trees stand at the end of the parent under the next numbers, and no other node
changes. -/
structure Grown (d : Document) (parent : Nat) (f : Forest) (d' : Document) : Prop where
  size : d'.size = d.size + f.count
  other : ∀ i < d.size, i ≠ parent → d'.node? i = d.node? i
  parent : d'.node? parent =
    (d.node? parent).map fun n => { n with contents := (f.tops d.size).reverse ++ n.contents }
  shows : d'.Shows d.size f

theorem grown (d : Document) (parent : Nat) (f : Forest) (hf : f.IsPlain)
    (hp : parent < d.size) : Grown d parent f (d.grow parent f) := by
  induction f generalizing d parent with
  | nil => exact ⟨rfl,fun _ _ _ => rfl,by simp [grow,Forest.tops],trivial⟩
  | char c rest ih =>
    have hsize : (d.append parent (.char c)).size = d.size := size_mapContents d parent _
    obtain ⟨hs,ho,hpar,hsh⟩ := ih (d.append parent (.char c)) parent hf (by omega)
    rw [hsize] at hs ho hpar hsh
    refine ⟨hs,fun i hi hne => ?_,?_,hsh⟩
    · rw [grow,ho i hi hne,append_char,node?_mapContents,if_neg hne]
    · rw [grow,hpar,append_char,node?_mapContents,if_pos rfl,Option.map_map]
      simp [Forest.tops,Function.comp_def]
  | element name inside rest hi hr =>
    obtain ⟨hname,hinside,hrest⟩ := hf
    -- the new element comes first, then what is inside it, and then what stands beside it
    have hsize := size_addElement d parent hname
    obtain ⟨hs₁,ho₁,hp₁,hsh₁⟩ := hi (d.addElement parent name) d.size hinside (by omega)
    rw [hsize] at hs₁ ho₁ hp₁ hsh₁
    obtain ⟨hs₂,ho₂,hp₂,hsh₂⟩ := hr ((d.addElement parent name).grow d.size inside) parent hrest
      (by omega)
    rw [hs₁] at hs₂ ho₂ hp₂ hsh₂
    have hnew : (d.grow parent (.element name inside rest)).node? d.size =
        some ⟨.element ⟨.html,name⟩,some parent,(inside.tops (d.size+1)).reverse⟩ := by
      rw [grow,ho₂ d.size (by omega) (by omega),hp₁,node?_addElement_new d hname hp]
      simp
    refine ⟨by simp only [grow,Forest.count,hs₂]; omega,fun i hi hne => ?_,?_,?_,?_,?_,hsh₂⟩
    · rw [grow,ho₂ i (by omega) hne,ho₁ i (by omega) (by omega),
        node?_addElement_other d hname hi hne]
    · rw [grow,hp₂,ho₁ parent (by omega) (by omega),node?_addElement_parent d hname hp,
        Option.map_map]
      simp [Forest.tops,Function.comp_def]
    · simp [element?,hnew]
    · simp [contents,hnew]
    · exact hsh₁.congr fun i h₁ h₂ => ho₂ i (by omega) (by omega)

end Document

end RegionAudit.Html
