import RegionAudit.Proofs.Html.Selection
import RegionAudit.Proofs.Html.Writing

/-! The body of a page while it is built. Every piece of markup that is read makes trees grow in the element
that is open, and nothing but the mode and the open elements decides how reading goes on. -/
namespace RegionAudit.Html

namespace Document

/-! ### Nodes that hold what is put into them -/

/-- Whether what is put into a node becomes its own contents. -/
structure IsHolder (d : Document) (id : Nat) : Prop where
  lt : id < d.size
  plain : d.element? id ≠ some ⟨.html,"template"⟩

theorem IsHolder.holder_eq {d : Document} {id : Nat} (h : d.IsHolder id) : d.holder id = id := by
  unfold holder
  split
  · next he _ => exact absurd he h.plain
  · rfl

theorem element?_grow (d : Document) {parent i : Nat} {f : Forest} (hf : f.IsPlain)
    (hp : parent < d.size) (hi : i < d.size) : (d.grow parent f).element? i = d.element? i := by
  obtain ⟨-,hother,hparent,-⟩ := grown d parent f hf hp
  by_cases h : i = parent
  · subst h
    rw [element?,hparent,element?]
    cases d.node? i with
    | none => rfl
    | some n =>
      obtain ⟨kind,-,-⟩ := n
      cases kind <;> rfl
  · rw [element?,hother i hi h,element?]

theorem IsHolder.grow {d : Document} {id parent : Nat} (h : d.IsHolder id) {f : Forest}
    (hf : f.IsPlain) (hp : parent < d.size) : (d.grow parent f).IsHolder id := by
  have hsize := (grown d parent f hf hp).size
  refine ⟨by have := h.lt; omega,?_⟩
  rw [element?_grow d hf hp h.lt]
  exact h.plain

theorem isHolder_addElement (d : Document) {parent : Nat} {name : String}
    (hname : name ≠ "template") (hp : parent < d.size) :
    (d.addElement parent name).IsHolder d.size := by
  refine ⟨by simp [hname],?_⟩
  simp [element?,node?_addElement_new d hname hp,hname]

end Document

/-! ### The state within the body -/

def openedAs (id : Nat) (name : String) : Opened := ⟨id,⟨.html,name⟩⟩

def bodyOpened : List Opened := [openedAs 3 "body",openedAs 1 "html"]

/-- A page without document type whose head is behind us. -/
def inPage (d : Document) (framesetOk : Bool) (mode : Mode) (opened : List Opened)
    (styles : List Style) : Construction :=
  { Construction.start with
    document := d
    mode := mode
    opened := opened
    styles := styles
    head := some (openedAs 2 "head")
    framesetOk := framesetOk
    isOldPage := true }

theorem insert_inPage {d : Document} {o : Opened} (ho : d.IsHolder o.id) {name : String}
    (hname : name ≠ "template") (ok : Bool) (m : Mode) (os : List Opened) (st : List Style) :
    (inPage d ok m (o :: os) st).insert name =
      inPage (d.addElement o.id name) ok m (openedAs d.size name :: o :: os) st := by
  simp [inPage,openedAs,Construction.insert,Construction.openElement,Construction.addElement,
    Construction.place,Construction.placeIn,Construction.put,Construction.start,ho.holder_eq,
    Document.addElement,Document.createElement_of_plain d hname]

theorem addChar_inPage {d : Document} {o : Opened} (ho : d.IsHolder o.id) (c : Char) (ok : Bool)
    (m : Mode) (os : List Opened) (st : List Style) :
    (inPage d ok m (o :: os) st).addChar c =
      inPage (d.append o.id (.char c)) ok m (o :: os) st := by
  simp [inPage,Construction.addChar,Construction.place,Construction.placeIn,Construction.put,
    Construction.start,ho.holder_eq]

theorem noteText_inPage (d : Document) (ok : Bool) (m : Mode) (os : List Opened) (st : List Style)
    (c : Char) (blank : Char → Bool) :
    (inPage d ok m os st).noteText c blank = inPage d (ok && blank c) m os st := by
  unfold Construction.noteText
  cases blank c <;> cases ok <;> rfl

/-- The reader stands within the body. Whether a frameset could still follow does not matter there. -/
def InPage (r : Reader) (d : Document) (m : Mode) (os : List Opened) (st : List Style) : Prop :=
  ∃ ok, Stands r (inPage d ok m os st)

def TakesText (m : Mode) (os : List Opened) (st : List Style) : Prop :=
  ∀ d ok c, (inPage d ok m os st).add (.char c) =
    ((inPage d ok m os st).noteText c Text.isMarkupBlank).addChar c

namespace InPage

variable {r : Reader} {d d' : Document} {m m' : Mode} {os os' : List Opened} {st st' : List Style}

theorem writtenTag (h : InPage r d m os st) {isEnd : Bool} {name : String} (hname : IsTagName name)
    (hadd : ∀ ok, ∃ ok', (inPage d ok m os st).add (tagToken isEnd name) =
      inPage d' ok' m' os' st') :
    InPage (r.readAll (writtenTag isEnd name)) d' m' os' st' := by
  obtain ⟨ok,hr⟩ := h
  obtain ⟨ok',heq⟩ := hadd ok
  refine ⟨ok',?_⟩
  rw [← heq]
  exact hr.writtenTag hname (by rw [heq]; rfl)

theorem startTag (h : InPage r d m os st) {name : String} (hname : IsTagName name)
    (hadd : ∀ ok, ∃ ok', (inPage d ok m os st).add (.startTag (.plain name)) =
      inPage d' ok' m' os' st') :
    InPage (r.readAll (startTag name)) d' m' os' st' :=
  h.writtenTag hname hadd

theorem endTag (h : InPage r d m os st) {name : String} (hname : IsTagName name)
    (hadd : ∀ ok, ∃ ok', (inPage d ok m os st).add (.endTag name) = inPage d' ok' m' os' st') :
    InPage (r.readAll (endTag name)) d' m' os' st' :=
  h.writtenTag hname hadd

theorem foldl_add (o : Opened) (htakes : TakesText m (o :: os) st) (ho : d.IsHolder o.id)
    (cs : List Char) (ok : Bool) :
    ∃ ok', cs.foldl (fun b c => b.add (.char c)) (inPage d ok m (o :: os) st) =
      inPage (d.grow o.id (.ofText cs)) ok' m (o :: os) st := by
  induction cs generalizing d ok with
  | nil => exact ⟨ok,rfl⟩
  | cons c cs ih =>
    have hd : (d.append o.id (.char c)).IsHolder o.id :=
      ho.grow (f := .char c .nil) trivial ho.lt
    rw [List.foldl_cons,htakes,noteText_inPage,addChar_inPage ho]
    exact ih hd _

theorem text {o : Opened} (h : InPage r d m (o :: os) st) (htakes : TakesText m (o :: os) st)
    (ho : d.IsHolder o.id) {cs : List Char} (hcs : ∀ c ∈ cs, c ≠ '\x00') :
    InPage (r.readAll (escape cs)) (d.grow o.id (.ofText cs)) m (o :: os) st := by
  obtain ⟨ok,hr⟩ := h
  obtain ⟨ok',heq⟩ := foldl_add o htakes ho cs ok
  refine ⟨ok',?_⟩
  rw [← heq]
  exact hr.escape hcs

end InPage

end RegionAudit.Html
