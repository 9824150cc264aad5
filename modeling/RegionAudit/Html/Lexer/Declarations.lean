import RegionAudit.Html.Lexer.Tags

/-!
Reading comments, document types and verbatim sections, which all begin with an exclamation mark.
-/
namespace RegionAudit.Html.Reader

open Text (isMarkupBlank)

/-- The part of a comment that follows a character, or `none` at its end. -/
def nextInside (c : Char) : Option CommentPart :=
  some (if c = '<' then .less else if c = '-' then .endDash else .inside)

def nextEndDash (c : Char) : Option CommentPart :=
  if c = '-' then some .close else nextInside c

def nextClose (c : Char) : Option CommentPart :=
  if c = '>' then none
  else if c = '!' then some .endBang
  else if c = '-' then some .close
  else nextInside c

def nextInComment (part : CommentPart) (c : Char) : Option CommentPart :=
  match part with
  | .start =>
    if c = '-' then some .startDash else if c = '>' then none else nextInside c
  | .startDash =>
    if c = '-' then some .close else if c = '>' then none else nextInside c
  | .inside => nextInside c
  | .less => if c = '!' then some .lessBang else nextInside c
  | .lessBang => if c = '-' then some .lessBangDash else nextInside c
  | .lessBangDash => if c = '-' then some .lessBangDashDash else nextEndDash c
  | .lessBangDashDash => nextClose c
  | .endDash => nextEndDash c
  | .close => nextClose c
  | .endBang =>
    if c = '-' then some .endDash else if c = '>' then none else nextInside c
  | .bogus => if c = '>' then none else some .bogus

def readComment (r : Reader) (part : CommentPart) (c : Char) : Reader :=
  match nextInComment part c with
  | none => r.addComment
  | some part => r.go (.comment part)

def spoilDoctype (r : Reader) (d : PendingDoctype) (c : Char) : Reader :=
  if c = '>' then r.addDoctype d.malformed else r.go (.doctype .rest d.malformed)

def readDoctypeQuote (r : Reader) (d : PendingDoctype) (c : Char)
    (isPublic : Bool) : Reader :=
  if c = '"' || c = '\'' then
    if isPublic then r.go (.doctype (.publicId c) { d with publicId := some [] })
    else r.go (.doctype (.systemId c) { d with systemId := some [] })
  else r.spoilDoctype d c

def pushChar (s : Option (List Char)) (c : Char) : Option (List Char) :=
  some (c :: s.getD [])

def readDoctypeKeyword (r : Reader) (d : PendingDoctype) (word : List Char) (c : Char) : Reader :=
  let word := word ++ [c.toLower]
  if word = "public".toList then r.go (.doctype .afterPublic d)
  else if word = "system".toList then r.go (.doctype .afterSystem d)
  else if word.isPrefixOf "public".toList || word.isPrefixOf "system".toList then
    r.go (.doctype (.afterName word) d)
  else r.spoilDoctype d c

def readDoctype (r : Reader) (part : DoctypePart) (d : PendingDoctype) (c : Char) : Reader :=
  match part with
  | .beforeName =>
    if isMarkupBlank c then r.go (.doctype .beforeName d)
    else if c = '>' then r.addDoctype d.malformed
    else r.go (.doctype .name { d with name := some [(shown c).toLower] })
  | .name =>
    if isMarkupBlank c then r.go (.doctype (.afterName []) d)
    else if c = '>' then r.addDoctype d
    else r.go (.doctype .name { d with name := pushChar d.name (shown c).toLower })
  | .afterName word =>
    if word.isEmpty && isMarkupBlank c then r.go (.doctype (.afterName []) d)
    else if word.isEmpty && c = '>' then r.addDoctype d
    else r.readDoctypeKeyword d word c
  | .afterPublic | .beforePublicId =>
    if isMarkupBlank c then r.go (.doctype .beforePublicId d) else r.readDoctypeQuote d c true
  | .publicId quote =>
    if c = quote then r.go (.doctype .afterPublicId d)
    else if c = '>' then r.addDoctype d.malformed
    else r.go (.doctype part { d with publicId := pushChar d.publicId (shown c) })
  | .afterPublicId | .beforeSystemOrEnd =>
    if isMarkupBlank c then r.go (.doctype .beforeSystemOrEnd d)
    else if c = '>' then r.addDoctype d
    else r.readDoctypeQuote d c false
  | .afterSystem | .beforeSystemId =>
    if isMarkupBlank c then r.go (.doctype .beforeSystemId d) else r.readDoctypeQuote d c false
  | .systemId quote =>
    if c = quote then r.go (.doctype .afterSystemId d)
    else if c = '>' then r.addDoctype d.malformed
    else r.go (.doctype part { d with systemId := pushChar d.systemId (shown c) })
  | .afterSystemId =>
    if isMarkupBlank c then r.go (.doctype .afterSystemId d)
    else if c = '>' then r.addDoctype d
    else r.go (.doctype .rest d)
  | .rest => if c = '>' then r.addDoctype d else r.go (.doctype .rest d)

def endDoctype (part : DoctypePart) (d : PendingDoctype) : PendingDoctype :=
  match part with
  | .rest => d
  | _ => d.malformed

/-- The word after an exclamation mark. A verbatim section may stand only in a picture or formula. -/
def readDeclaration (r : Reader) (word : List Char) (c : Char) : Reader :=
  let word := word ++ [c]
  let small := word.map Char.toLower
  if word = ['-','-'] then r.go (.comment .start)
  else if small = "doctype".toList then r.go (.doctype .beforeName .empty)
  else if word = "[CDATA[".toList && r.page.withinForeign then r.go .verbatim
  else if word = ['-'] || small.isPrefixOf "doctype".toList || word.isPrefixOf "[CDATA[".toList then
    r.go (.declaration word)
  else r.readComment .bogus c

end RegionAudit.Html.Reader
