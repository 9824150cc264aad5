import RegionAudit.Html.Element
import RegionAudit.Html.Token

/-!
A page under construction: the document so far, the elements that are still open, the text styles to
be taken up again, and the mode that says what the next token means. Here are the steps that every
mode is made of: opening and closing elements, and placing text.
-/
namespace RegionAudit.Html

inductive Mode
  | initial | beforeHtml | beforeHead | inHead | afterHead | inBody | inText
  | inTable | inTableText | inCaption | inColumnGroup | inTableBody | inRow | inCell
  | inTemplate | afterBody | inFrameset | afterFrameset | afterAfterBody | afterAfterFrameset
  deriving DecidableEq, Repr

structure Opened where
  id : NodeId
  element : Element
  deriving DecidableEq, Repr

/-- A text style to be taken up again when it is broken off, or the border of a part of the page
within which styles are taken up. -/
inductive Style
  | border
  | running (id : NodeId) (tag : Tag)
  deriving DecidableEq, Repr

/-- A page under construction. `opened` begins with the current element and `styles` with the latest
style. -/
structure Construction where
  document : Document
  mode : Mode
  /-- The mode to return to after a stretch of plain text or of text in a table. -/
  resume : Mode
  opened : List Opened
  styles : List Style
  templateModes : List Mode
  head : Option Opened
  form : Option NodeId
  framesetOk : Bool
  /-- Whether a line feed right after this is dropped. -/
  skipNewline : Bool
  /-- Whether what does not belong into a table is put before it. -/
  fostering : Bool
  /-- Text met in a table, last character first. -/
  tableText : List Char
  isOldPage : Bool
  /-- How the lexer is to read the text that follows. -/
  reading : TextKind
  deriving Repr

namespace Construction

def start : Construction where
  document := .empty
  mode := .initial
  resume := .initial
  opened := []
  styles := []
  templateModes := []
  head := none
  form := none
  framesetOk := true
  skipNewline := false
  fostering := false
  tableText := []
  isOldPage := false
  reading := .markup

def withMode (b : Construction) (mode : Mode) : Construction :=
  { b with mode }

def currentIs (b : Construction) (names : List String) : Bool :=
  match b.opened with
  | [] => false
  | o :: _ => o.element.isOneOf names

def hasOpen (b : Construction) (name : String) : Bool :=
  b.opened.any (·.element.isHtml name)

/-- Whether an open element satisfies `p` before the scope ends. -/
def findInScope (scope : Scope) (p : Opened → Bool) : List Opened → Bool
  | [] => false
  | o :: os => p o || (!scope.stops o.element && findInScope scope p os)

def inScope (b : Construction) (scope : Scope) (names : List String) : Bool :=
  findInScope scope (·.element.isOneOf names) b.opened

def popTo (b : Construction) (p : Element → Bool) : Construction :=
  { b with opened := b.opened.dropWhile fun o => !p o.element }

def pop (b : Construction) : Construction :=
  { b with opened := b.opened.tail }

def popThrough (b : Construction) (p : Element → Bool) : Construction :=
  (b.popTo p).pop

/-- Closes elements up to and including the nearest of the names. -/
def close (b : Construction) (names : List String) : Construction :=
  b.popThrough (·.isOneOf names)

/-- Closes the elements that end by implication. -/
def closeImplied (b : Construction) : Construction :=
  b.popTo fun e => !e.isOneOf Element.impliedEnds

def closeImpliedExcept (b : Construction) (name : String) : Construction :=
  b.popTo fun e => e.isHtml name || !e.isOneOf Element.impliedEnds

def backTo (b : Construction) (names : List String) : Construction :=
  b.popTo (·.isOneOf names)

def dropOpened (b : Construction) (id : NodeId) : Construction :=
  { b with opened := b.opened.eraseP (·.id = id) }

def closeParagraph (b : Construction) : Construction :=
  (b.closeImpliedExcept "p").close ["p"]

def closeParagraphInButton (b : Construction) : Construction :=
  if b.inScope .button ["p"] then b.closeParagraph else b

/-! ### Placing elements and text -/

/-- Where something new goes. -/
inductive Place
  | lastIn (parent : NodeId)
  /-- Before the table if it is in the tree, and else at the end of the element that was open when
  the table was met. -/
  | beside (table before : NodeId)
  deriving Repr

/-- The elements in which loose text is out of place. -/
def tableParts : List String :=
  ["table","tbody","tfoot","thead","tr"]

/-- Where things out of place in a table go: into the nearest template, or beside the nearest table. -/
def fosterPlace (d : Document) : List Opened → Place
  | [] => .lastIn Document.root
  | [o] => .lastIn o.id
  | o :: o' :: os =>
    if o.element.isHtml "template" then .lastIn (d.holder o.id)
    else if o.element.isHtml "table" then .beside o.id o'.id
    else fosterPlace d (o' :: os)

/-- Where a child of `target` goes. -/
def placeIn (b : Construction) (target : Opened) : Place :=
  if b.fostering && target.element.isOneOf tableParts then fosterPlace b.document b.opened
  else .lastIn (b.document.holder target.id)

def place (b : Construction) : Place :=
  match b.opened with
  | [] => .lastIn Document.root
  | o :: _ => b.placeIn o

def put (d : Document) (item : Content) : Place → Document
  | .lastIn parent => d.append parent item
  | .beside table before =>
    match d.parent? table with
    | some _ => d.insertBefore table item
    | none => d.append before item

def addChar (b : Construction) (c : Char) : Construction :=
  { b with document := put b.document (.char c) b.place }

def addElement (b : Construction) (e : Element) : Construction × Opened :=
  let place := b.place
  let (document,id) := b.document.createElement e
  ({ b with document := put document (.node id) place },⟨id,e⟩)

def openElement (b : Construction) (e : Element) : Construction × Opened :=
  let (b,o) := b.addElement e
  ({ b with opened := o :: b.opened },o)

def insert (b : Construction) (name : String) : Construction :=
  (b.openElement ⟨.html,name⟩).1

def insertEmpty (b : Construction) (name : String) : Construction :=
  (b.addElement ⟨.html,name⟩).1

def insertText (b : Construction) (name : String) (kind : TextKind) : Construction :=
  { b.insert name with reading := kind, resume := b.mode, mode := .inText }

def openRoot (b : Construction) : Construction :=
  let (document,id) := b.document.createElement ⟨.html,"html"⟩
  { b with document := document.append Document.root (.node id), opened := [⟨id,⟨.html,"html"⟩⟩] }

def noFrameset (b : Construction) : Construction :=
  { b with framesetOk := false }

/-- Text that is not blank rules a frameset out. -/
def noteText (b : Construction) (c : Char) (blank : Char → Bool) : Construction :=
  if blank c then b else b.noFrameset

/-- The mode that the open elements call for. -/
def modeFor (headSeen : Bool) (templateModes : List Mode) : List Opened → Mode
  | [] => .inBody
  | o :: os =>
    if o.element.vocabulary ≠ .html then modeFor headSeen templateModes os
    else
      match o.element.name with
      | "td" | "th" => if os.isEmpty then .inBody else .inCell
      | "tr" => .inRow
      | "tbody" | "thead" | "tfoot" => .inTableBody
      | "caption" => .inCaption
      | "colgroup" => .inColumnGroup
      | "table" => .inTable
      | "template" => templateModes.headD .inBody
      | "head" => if os.isEmpty then .inBody else .inHead
      | "body" => .inBody
      | "frameset" => .inFrameset
      | "html" => if headSeen then .afterHead else .beforeHead
      | _ => modeFor headSeen templateModes os

def resetMode (b : Construction) : Construction :=
  b.withMode (modeFor b.head.isSome b.templateModes b.opened)

end Construction

/-- What a mode makes of a token: it is dealt with, or it is to be looked at again. -/
inductive Verdict
  | done (b : Construction)
  | again (b : Construction)

namespace Verdict

def map (f : Construction → Construction) : Verdict → Verdict
  | .done b => .done (f b)
  | .again b => .again (f b)

end Verdict

end RegionAudit.Html
