import RegionAudit.Html.Construction

/-!
Where the lexer stands between two characters of a page, with what it has gathered of the tag, comment,
document type or character reference at hand. Names and values are gathered last character first.
-/
namespace RegionAudit.Html

/-- A tag that is not complete yet; its attributes are listed latest first. -/
structure PendingTag where
  isEnd : Bool
  name : List Char
  attributes : List (List Char × List Char)
  selfClosing : Bool
  deriving Repr

structure PendingDoctype where
  name : Option (List Char)
  publicId : Option (List Char)
  systemId : Option (List Char)
  isMalformed : Bool
  deriving Repr

/-- Texts in which a closing tag is looked for. An escaped script is one within a comment. -/
inductive RawKind
  | title | raw | script | escaped
  deriving DecidableEq, Repr

/-- Where a character reference stands. -/
inductive Around
  | text (k : TextKind)
  | value (tag : PendingTag) (name : List Char) (quote : Option Char) (value : List Char)
  deriving Repr

inductive ReferenceSoFar
  | ampersand
  | letters (word : List Char)
  | hash
  /-- A hash and the given letter x. -/
  | hexMark (x : Char)
  | digits (base : Nat) (n : Nat)
  deriving Repr

inductive DoctypePart
  | beforeName
  | name
  | afterName (keyword : List Char)
  | afterPublic
  | beforePublicId
  | publicId (quote : Char)
  | afterPublicId
  | beforeSystemOrEnd
  | afterSystem
  | beforeSystemId
  | systemId (quote : Char)
  | afterSystemId
  | rest
  deriving Repr

inductive CommentPart
  | start | startDash | inside | less | lessBang | lessBangDash | lessBangDashDash
  | endDash | close | endBang
  /-- A comment that only a closing bracket ends. -/
  | bogus
  deriving DecidableEq, Repr

inductive Dashes
  | none | one | two
  deriving DecidableEq, Repr

inductive Place
  | text (k : TextKind)
  | tagOpen
  | endTagOpen
  | tagName (t : PendingTag)
  | rawLess (k : RawKind)
  | rawEndOpen (k : RawKind)
  | rawEndName (k : RawKind) (name : List Char)
  /-- After the bracket and the exclamation mark that may begin a comment in a script. -/
  | scriptBang
  | scriptBangDash
  | escaped (d : Dashes)
  | doubleStart (name : List Char)
  | doubleEscaped (d : Dashes)
  | doubleLess
  | doubleEnd (name : List Char)
  | beforeAttribute (t : PendingTag)
  | attributeName (t : PendingTag) (name : List Char)
  | afterAttributeName (t : PendingTag) (name : List Char)
  | beforeValue (t : PendingTag) (name : List Char)
  | value (t : PendingTag) (name : List Char) (quote : Char) (value : List Char)
  | bareValue (t : PendingTag) (name : List Char) (value : List Char)
  | afterValue (t : PendingTag)
  | selfClosing (t : PendingTag)
  | declaration (word : List Char)
  | comment (part : CommentPart)
  | doctype (part : DoctypePart) (d : PendingDoctype)
  | verbatim
  | verbatimBracket
  | verbatimEnd
  | reference (around : Around) (soFar : ReferenceSoFar)
  deriving Repr

namespace PendingTag

def ofLetter (isEnd : Bool) (c : Char) : PendingTag :=
  ⟨isEnd,[c.toLower],[],false⟩

def push (t : PendingTag) (c : Char) : PendingTag :=
  { t with name := c :: t.name }

/-- Adds a complete attribute unless the tag has one of its name. -/
def addAttribute (t : PendingTag) (name value : List Char) : PendingTag :=
  if t.attributes.any (·.1 = name) then t
  else { t with attributes := (name,value) :: t.attributes }

def fullName (t : PendingTag) : String :=
  String.ofList t.name.reverse

def token (t : PendingTag) : Token :=
  if t.isEnd then .endTag t.fullName
  else
    .startTag
      ⟨t.fullName,
        t.attributes.reverse.map fun a => (String.ofList a.1.reverse,String.ofList a.2.reverse),
        t.selfClosing⟩

end PendingTag

namespace PendingDoctype

def empty : PendingDoctype :=
  ⟨none,none,none,false⟩

def malformed (d : PendingDoctype) : PendingDoctype :=
  { d with isMalformed := true }

def text (s : Option (List Char)) : Option String :=
  s.map fun cs => String.ofList cs.reverse

def token (d : PendingDoctype) : Token :=
  .doctype ⟨text d.name,text d.publicId,text d.systemId,d.isMalformed⟩

end PendingDoctype

/-- A page that is being read: the lexer's place, the last start tag, and the page so far. -/
structure Reader where
  place : Place
  lastStart : String
  page : Construction

namespace Reader

def start : Reader :=
  ⟨.text .markup,"",.start⟩

def go (r : Reader) (place : Place) : Reader :=
  { r with place }

def add (r : Reader) (t : Token) : Reader :=
  { r with page := r.page.add t }

def addText (r : Reader) (cs : List Char) : Reader :=
  cs.foldl (fun r c => r.add (.char c)) r

/-- Hands on a complete tag; the page then says how to go on. -/
def addTag (r : Reader) (t : PendingTag) : Reader :=
  let r := r.add t.token
  { r with
    place := .text r.page.reading
    lastStart := if t.isEnd then r.lastStart else t.fullName }

def addComment (r : Reader) : Reader :=
  (r.add .comment).go (.text r.page.reading)

def addDoctype (r : Reader) (d : PendingDoctype) : Reader :=
  (r.add d.token).go (.text .markup)

end Reader

end RegionAudit.Html
