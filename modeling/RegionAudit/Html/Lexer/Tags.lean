import RegionAudit.Html.Lexer.Text

/-!
Reading tags and their attributes.
-/
namespace RegionAudit.Html.Reader

open Text (isMarkupBlank)

/-- Blanks within a tag; carriage returns are gone by then. -/
def readBeforeAttribute (r : Reader) (t : PendingTag) (c : Char) : Reader :=
  if isMarkupBlank c then r.go (.beforeAttribute t)
  else if c = '/' then r.go (.selfClosing t)
  else if c = '>' then r.addTag t
  else r.go (.attributeName t [(shown c).toLower])

def readTagName (r : Reader) (t : PendingTag) (c : Char) : Reader :=
  if isMarkupBlank c then r.go (.beforeAttribute t)
  else if c = '/' then r.go (.selfClosing t)
  else if c = '>' then r.addTag t
  else r.go (.tagName (t.push (shown c).toLower))

def readSelfClosing (r : Reader) (t : PendingTag) (c : Char) : Reader :=
  if c = '>' then r.addTag { t with selfClosing := true } else r.readBeforeAttribute t c

def readAttributeName (r : Reader) (t : PendingTag) (name : List Char) (c : Char) : Reader :=
  if isMarkupBlank c then r.go (.afterAttributeName t name)
  else if c = '/' then r.go (.selfClosing (t.addAttribute name []))
  else if c = '=' then r.go (.beforeValue t name)
  else if c = '>' then r.addTag (t.addAttribute name [])
  else r.go (.attributeName t ((shown c).toLower :: name))

def readAfterAttributeName (r : Reader) (t : PendingTag) (name : List Char) (c : Char) : Reader :=
  if isMarkupBlank c then r.go (.afterAttributeName t name)
  else if c = '=' then r.go (.beforeValue t name)
  else r.readBeforeAttribute (t.addAttribute name []) c

def readBareValue (r : Reader) (t : PendingTag) (name value : List Char) (c : Char) : Reader :=
  if isMarkupBlank c then r.go (.beforeAttribute (t.addAttribute name value))
  else if c = '&' then r.go (.reference (.value t name none value) .ampersand)
  else if c = '>' then r.addTag (t.addAttribute name value)
  else r.go (.bareValue t name (shown c :: value))

def readBeforeValue (r : Reader) (t : PendingTag) (name : List Char) (c : Char) : Reader :=
  if isMarkupBlank c then r.go (.beforeValue t name)
  else if c = '"' || c = '\'' then r.go (.value t name c [])
  else r.readBareValue t name [] c

def readValue (r : Reader) (t : PendingTag) (name : List Char) (quote : Char) (value : List Char)
    (c : Char) : Reader :=
  if c = quote then r.go (.afterValue (t.addAttribute name value))
  else if c = '&' then r.go (.reference (.value t name (some quote) value) .ampersand)
  else r.go (.value t name quote (shown c :: value))

def readTagOpen (r : Reader) (c : Char) : Reader :=
  if c = '!' then r.go (.declaration [])
  else if c = '/' then r.go .endTagOpen
  else if isTagLetter c then r.go (.tagName (.ofLetter false c))
  else if c = '?' then r.go (.comment .bogus)
  else (r.add (.char '<')).readText .markup c

def readEndTagOpen (r : Reader) (c : Char) : Reader :=
  if isTagLetter c then r.go (.tagName (.ofLetter true c))
  else if c = '>' then r.go (.text .markup)
  else r.go (.comment .bogus)

end RegionAudit.Html.Reader
