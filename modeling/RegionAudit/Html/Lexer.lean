import RegionAudit.Html.Lexer.Declarations

/-!
Reading a page, one character at a time. Line ends are made uniform first and a mark for the byte order
at the very beginning is dropped. Since a page is read by a fold, reading two texts one after the other is
reading them together (`readAll_append`).
-/
namespace RegionAudit.Html

namespace Reader

def putAround (r : Reader) (a : Around) (cs : List Char) : Reader :=
  match a with
  | .text k => (r.addText cs).go (.text k)
  | .value t name (some q) v => r.go (.value t name q (cs.reverse ++ v))
  | .value t name none v => r.go (.bareValue t name (cs.reverse ++ v))

def readAround (r : Reader) (a : Around) (c : Char) : Reader :=
  match a, r.place with
  | .text k, _ => r.readText k c
  | _, .value t name q v => r.readValue t name q v c
  | _, .bareValue t name v => r.readBareValue t name v c
  | _, _ => r

/-- In an attribute a reference without semicolon does not count before a letter, a digit or an equals
sign. -/
def countsAround (a : Around) (found : Reference.Named) (next : Option Char) : Bool :=
  match a with
  | .text _ => true
  | .value _ _ _ _ =>
    found.closed ||
      match found.rest.head? <|> next with
      | some c => !(c.isAlphanum || c = '=')
      | none => true

/-- Puts the named reference that a word makes, or the word itself; the flag says whether a semicolon
that follows was used up. -/
def putNamed (r : Reader) (a : Around) (word : List Char) (next : Option Char) : Reader × Bool :=
  match Reference.named? word (next = some ';') with
  | some found =>
    if countsAround a found next then (r.putAround a (found.text ++ found.rest),found.closed)
    else (r.putAround a ('&' :: word),false)
  | none => (r.putAround a ('&' :: word),false)

def digitValue? (base : Nat) (c : Char) : Option Nat :=
  if c.isDigit then some (c.toNat - '0'.toNat)
  else if base = 16 && 'a' ≤ c.toLower && c.toLower ≤ 'f' then some (c.toLower.toNat - 'a'.toNat + 10)
  else none

def readReference (r : Reader) (a : Around) (soFar : ReferenceSoFar) (c : Char) : Reader :=
  match soFar with
  | .ampersand =>
    if c.isAlphanum then r.go (.reference a (.letters [c]))
    else if c = '#' then r.go (.reference a .hash)
    else (r.putAround a ['&']).readAround a c
  | .letters word =>
    if c.isAlphanum then r.go (.reference a (.letters (c :: word)))
    else
      match r.putNamed a word.reverse (some c) with
      | (r,true) => r
      | (r,false) => r.readAround a c
  | .hash =>
    if c = 'x' || c = 'X' then r.go (.reference a (.hexMark c))
    else
      match digitValue? 10 c with
      | some n => r.go (.reference a (.digits 10 n))
      | none => (r.putAround a ['&','#']).readAround a c
  | .hexMark x =>
    match digitValue? 16 c with
    | some n => r.go (.reference a (.digits 16 n))
    | none => (r.putAround a ['&','#',x]).readAround a c
  | .digits base n =>
    match digitValue? base c with
    | some d => r.go (.reference a (.digits base (Reference.addDigit base n d)))
    | none =>
      let r := r.putAround a [Reference.numbered n]
      if c = ';' then r else r.readAround a c

def endReference (r : Reader) (a : Around) (soFar : ReferenceSoFar) : Reader :=
  match soFar with
  | .ampersand => r.putAround a ['&']
  | .letters word => (r.putNamed a word.reverse none).1
  | .hash => r.putAround a ['&','#']
  | .hexMark x => r.putAround a ['&','#',x]
  | .digits _ n => r.putAround a [Reference.numbered n]

def read (r : Reader) (c : Char) : Reader :=
  match r.place with
  | .text k => r.readText k c
  | .tagOpen => r.readTagOpen c
  | .endTagOpen => r.readEndTagOpen c
  | .tagName t => r.readTagName t c
  | .rawLess k => r.readRawLess k c
  | .rawEndOpen k => r.readRawEndOpen k c
  | .rawEndName k name => r.readRawEndName k name c
  | .scriptBang => r.readScriptBang c
  | .scriptBangDash => r.readScriptBangDash c
  | .escaped d => r.readEscaped d c
  | .doubleStart name => r.readDoubleStart name c
  | .doubleEscaped d => r.readDoubleEscaped d c
  | .doubleLess => r.readDoubleLess c
  | .doubleEnd name => r.readDoubleEnd name c
  | .beforeAttribute t | .afterValue t => r.readBeforeAttribute t c
  | .attributeName t name => r.readAttributeName t name c
  | .afterAttributeName t name => r.readAfterAttributeName t name c
  | .beforeValue t name => r.readBeforeValue t name c
  | .value t name q v => r.readValue t name q v c
  | .bareValue t name v => r.readBareValue t name v c
  | .selfClosing t => r.readSelfClosing t c
  | .declaration word => r.readDeclaration word c
  | .comment part => r.readComment part c
  | .doctype part d => r.readDoctype part d c
  | .verbatim => r.readVerbatim c
  | .verbatimBracket => r.readVerbatimBracket c
  | .verbatimEnd => r.readVerbatimEnd c
  | .reference a soFar => r.readReference a soFar c

/-- What is left to hand on at the end of the page. A tag that is cut off is lost. -/
def flush (r : Reader) : Reader :=
  match r.place with
  | .tagOpen | .rawLess _ => r.add (.char '<')
  | .endTagOpen | .rawEndOpen _ => r.addText ['<','/']
  | .rawEndName _ name => r.addText ('<' :: '/' :: name.reverse)
  | .declaration _ | .comment _ => r.add .comment
  | .doctype part d => r.addDoctype (endDoctype part d)
  | .verbatimBracket => r.add (.char ']')
  | .verbatimEnd => r.addText [']',']']
  | .reference a soFar => r.endReference a soFar
  | _ => r

def readAll (r : Reader) (cs : List Char) : Reader :=
  cs.foldl read r

@[simp] theorem readAll_nil (r : Reader) : r.readAll [] = r := rfl

@[simp] theorem readAll_cons (r : Reader) (c : Char) (cs : List Char) :
    r.readAll (c :: cs) = (r.read c).readAll cs := rfl

theorem readAll_append (r : Reader) (cs ds : List Char) :
    r.readAll (cs ++ ds) = (r.readAll cs).readAll ds := by
  simp [readAll]

end Reader

def uniformLines : List Char → List Char
  | [] => []
  | '\r' :: '\n' :: cs => '\n' :: uniformLines cs
  | '\r' :: cs => '\n' :: uniformLines cs
  | c :: cs => c :: uniformLines cs

/-- Drops a mark for the byte order. -/
def dropOrderMark : List Char → List Char
  | '\ufeff' :: cs => cs
  | cs => cs

/-- The document that a page describes. -/
def Document.ofPage (page : List Char) : Document :=
  ((Reader.start.readAll (uniformLines (dropOrderMark page))).flush.page.add .eof).document

end RegionAudit.Html
