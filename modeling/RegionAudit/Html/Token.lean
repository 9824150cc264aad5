/-!
What markup is made of, as the lexer hands it on: tags, document types, comments and characters.
-/
namespace RegionAudit.Html

/-- How the text after a tag is to be read. -/
inductive TextKind
  | markup
  /-- Only character references and the closing tag count. -/
  | title
  /-- Only the closing tag counts. -/
  | raw
  | script
  /-- Nothing counts until the end of the page. -/
  | plain
  deriving DecidableEq, Repr

/-- A start tag. Of several attributes of one name the first is kept. -/
structure Tag where
  name : String
  attributes : List (String × String)
  selfClosing : Bool
  deriving DecidableEq, Repr

namespace Tag

def plain (name : String) : Tag :=
  ⟨name,[],false⟩

def attribute? (t : Tag) (name : String) : Option String :=
  (t.attributes.find? (·.1 = name)).map (·.2)

def hasAttribute (t : Tag) (name : String) : Bool :=
  t.attributes.any (·.1 = name)

def sameAs (a b : Tag) : Bool :=
  a.name = b.name && a.attributes.length = b.attributes.length &&
    a.attributes.all (b.attributes.contains ·)

end Tag

/-- A document type. `isMalformed` is set when it is not written as it should be. -/
structure Doctype where
  name : Option String
  publicId : Option String
  systemId : Option String
  isMalformed : Bool
  deriving DecidableEq, Repr

/-- One token. What a comment says and which attributes an end tag has is of no use, so neither is
kept. -/
inductive Token
  | doctype (d : Doctype)
  | startTag (t : Tag)
  | endTag (name : String)
  | comment
  | char (c : Char)
  /-- The null character where it is not replaced. -/
  | null
  | eof
  deriving DecidableEq, Repr

end RegionAudit.Html
