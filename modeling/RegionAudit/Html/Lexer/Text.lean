import RegionAudit.Html.Lexer.Place
import RegionAudit.Html.Reference
import RegionAudit.Text.Blank

/-!
Reading text: markup, titles, raw text and scripts. A script that opens a comment and a script within
it may contain its own closing tag.
-/
namespace RegionAudit.Html

open Text (isMarkupBlank)

/-- The null character cannot stand in a text. -/
def shown (c : Char) : Char :=
  if c = '\x00' then '\ufffd' else c

def isTagLetter (c : Char) : Bool :=
  c.isAlpha

namespace Reader

def readEscaped (r : Reader) (d : Dashes) (c : Char) : Reader :=
  if c = '-' then (r.add (.char '-')).go (.escaped (if d = .none then .one else .two))
  else if c = '<' then r.go (.rawLess .escaped)
  else if c = '>' && d = .two then (r.add (.char '>')).go (.text .script)
  else (r.add (.char (shown c))).go (.escaped .none)

def readDoubleEscaped (r : Reader) (d : Dashes) (c : Char) : Reader :=
  if c = '-' then (r.add (.char '-')).go (.doubleEscaped (if d = .none then .one else .two))
  else if c = '<' then (r.add (.char '<')).go .doubleLess
  else if c = '>' && d = .two then (r.add (.char '>')).go (.text .script)
  else (r.add (.char (shown c))).go (.doubleEscaped .none)

def readText (r : Reader) (k : TextKind) (c : Char) : Reader :=
  match k with
  | .markup =>
    if c = '&' then r.go (.reference (.text .markup) .ampersand)
    else if c = '<' then r.go .tagOpen
    else (r.add (if c = '\x00' then .null else .char c)).go (.text .markup)
  | .title =>
    if c = '&' then r.go (.reference (.text .title) .ampersand)
    else if c = '<' then r.go (.rawLess .title)
    else (r.add (.char (shown c))).go (.text .title)
  | .raw =>
    if c = '<' then r.go (.rawLess .raw) else (r.add (.char (shown c))).go (.text .raw)
  | .script =>
    if c = '<' then r.go (.rawLess .script) else (r.add (.char (shown c))).go (.text .script)
  | .plain => (r.add (.char (shown c))).go (.text .plain)

def readRaw (r : Reader) (k : RawKind) (c : Char) : Reader :=
  match k with
  | .title => r.readText .title c
  | .raw => r.readText .raw c
  | .script => r.readText .script c
  | .escaped => r.readEscaped .none c

def readDoubleStart (r : Reader) (name : List Char) (c : Char) : Reader :=
  if isMarkupBlank c || c = '/' || c = '>' then
    (r.add (.char c)).go
      (if name.reverse = "script".toList then .doubleEscaped .none else .escaped .none)
  else if isTagLetter c then (r.add (.char c)).go (.doubleStart (c.toLower :: name))
  else r.readEscaped .none c

def readDoubleEnd (r : Reader) (name : List Char) (c : Char) : Reader :=
  if isMarkupBlank c || c = '/' || c = '>' then
    (r.add (.char c)).go
      (if name.reverse = "script".toList then .escaped .none else .doubleEscaped .none)
  else if isTagLetter c then (r.add (.char c)).go (.doubleEnd (c.toLower :: name))
  else r.readDoubleEscaped .none c

/-- The character after an opening bracket in raw text. -/
def readRawLess (r : Reader) (k : RawKind) (c : Char) : Reader :=
  if c = '/' then r.go (.rawEndOpen k)
  else if k = .script && c = '!' then (r.addText ['<','!']).go .scriptBang
  else if k = .escaped && isTagLetter c then (r.add (.char '<')).readDoubleStart [] c
  else (r.add (.char '<')).readRaw k c

def readRawEndOpen (r : Reader) (k : RawKind) (c : Char) : Reader :=
  if isTagLetter c then r.go (.rawEndName k [c])
  else (r.addText ['<','/']).readRaw k c

/-- The end tag of a raw text counts only if it has the name of the start tag. -/
def readRawEndName (r : Reader) (k : RawKind) (name : List Char) (c : Char) : Reader :=
  let tag : PendingTag := ⟨true,name.map Char.toLower,[],false⟩
  let closing := tag.fullName = r.lastStart
  if closing && isMarkupBlank c then r.go (.beforeAttribute tag)
  else if closing && c = '/' then r.go (.selfClosing tag)
  else if closing && c = '>' then r.addTag tag
  else if isTagLetter c then r.go (.rawEndName k (c :: name))
  else (r.addText ('<' :: '/' :: name.reverse)).readRaw k c

def readScriptBang (r : Reader) (c : Char) : Reader :=
  if c = '-' then (r.add (.char '-')).go .scriptBangDash else r.readText .script c

def readScriptBangDash (r : Reader) (c : Char) : Reader :=
  if c = '-' then (r.add (.char '-')).go (.escaped .two) else r.readText .script c

def readDoubleLess (r : Reader) (c : Char) : Reader :=
  if c = '/' then (r.add (.char '/')).go (.doubleEnd []) else r.readDoubleEscaped .none c

def readVerbatim (r : Reader) (c : Char) : Reader :=
  if c = ']' then r.go .verbatimBracket
  else (r.add (if c = '\x00' then .null else .char c)).go .verbatim

def readVerbatimBracket (r : Reader) (c : Char) : Reader :=
  if c = ']' then r.go .verbatimEnd else (r.add (.char ']')).readVerbatim c

def readVerbatimEnd (r : Reader) (c : Char) : Reader :=
  if c = ']' then r.add (.char ']')
  else if c = '>' then r.go (.text .markup)
  else (r.addText [']',']']).readVerbatim c

end Reader

end RegionAudit.Html
