import RegionAudit.Html.Construction.Styles
import RegionAudit.Text.Blank

/-!
The modes up to the body of a page, and templates, which begin and end by the same rules everywhere.
-/
namespace RegionAudit.Html.Construction

open Text (isMarkupBlank)

def beginTemplate (b : Construction) : Construction :=
  { (b.insert "template").addBorder.noFrameset with
    mode := .inTemplate
    templateModes := .inTemplate :: b.templateModes }

def leaveTemplate (b : Construction) : Construction :=
  let b := (b.close ["template"]).clearStyles
  { b with templateModes := b.templateModes.tail }.resetMode

def endTemplate (b : Construction) : Construction :=
  if b.hasOpen "template" then
    (b.popTo fun e => !e.isOneOf Element.templateImpliedEnds).leaveTemplate
  else b

def headEmpty : List String :=
  ["base","basefont","bgsound","link","meta"]

def headText : List String :=
  ["noframes","noscript","style"]

/-- Elements that go into the head, or are treated as if they did. -/
def headStarts : List String :=
  "script" :: "template" :: "title" :: headEmpty ++ headText

def startInHead (b : Construction) (t : Tag) : Construction :=
  if t.name = "title" then b.insertText t.name .title
  else if t.name = "script" then b.insertText t.name .script
  else if t.name = "template" then b.beginTemplate
  else if headText.contains t.name then b.insertText t.name .raw
  else b.insertEmpty t.name

/-- End tags that open the parts of the page that are still missing. -/
def pageEnds : List String :=
  ["body","html","br"]

def inInitial (b : Construction) : Token → Verdict
  | .char c =>
    if isMarkupBlank c then .done b else .again { b with isOldPage := true, mode := .beforeHtml }
  | .comment => .done b
  | _ => .again { b with isOldPage := true, mode := .beforeHtml }

def inBeforeHtml (b : Construction) : Token → Verdict
  | .comment => .done b
  | .char c => if isMarkupBlank c then .done b else .again (b.openRoot.withMode .beforeHead)
  | .startTag t =>
    if t.name = "html" then .done (b.openRoot.withMode .beforeHead)
    else .again (b.openRoot.withMode .beforeHead)
  | .endTag name =>
    if name = "head" || pageEnds.contains name then .again (b.openRoot.withMode .beforeHead)
    else .done b
  | _ => .again (b.openRoot.withMode .beforeHead)

def openHead (b : Construction) : Construction :=
  let (b,o) := b.openElement ⟨.html,"head"⟩
  { b with head := some o, mode := .inHead }

def inBeforeHead (b : Construction) : Token → Verdict
  | .comment => .done b
  | .char c => if isMarkupBlank c then .done b else .again b.openHead
  | .startTag t =>
    if t.name = "html" then .done b
    else if t.name = "head" then .done b.openHead
    else .again b.openHead
  | .endTag name =>
    if name = "head" || pageEnds.contains name then .again b.openHead else .done b
  | _ => .again b.openHead

def inHead (b : Construction) : Token → Verdict
  | .comment => .done b
  | .char c => if isMarkupBlank c then .done (b.addChar c) else .again (b.pop.withMode .afterHead)
  | .startTag t =>
    if t.name = "html" || t.name = "head" then .done b
    else if headStarts.contains t.name then .done (b.startInHead t)
    else .again (b.pop.withMode .afterHead)
  | .endTag name =>
    if name = "head" then .done (b.pop.withMode .afterHead)
    else if name = "template" then .done b.endTemplate
    else if pageEnds.contains name then .again (b.pop.withMode .afterHead)
    else .done b
  | _ => .again (b.pop.withMode .afterHead)

/-- Runs a start tag of the head within the head, although that is closed already. -/
def startInClosedHead (b : Construction) (t : Tag) : Construction :=
  match b.head with
  | none => b.startInHead t
  | some head => ({ b with opened := head :: b.opened }.startInHead t).dropOpened head.id

def openBody (b : Construction) : Construction :=
  (b.insert "body").withMode .inBody

def inAfterHead (b : Construction) : Token → Verdict
  | .comment => .done b
  | .char c => if isMarkupBlank c then .done (b.addChar c) else .again b.openBody
  | .startTag t =>
    if t.name = "html" || t.name = "head" then .done b
    else if t.name = "body" then .done b.openBody.noFrameset
    else if t.name = "frameset" then .done ((b.insert "frameset").withMode .inFrameset)
    else if t.name = "noscript" then .again b.openBody
    else if headStarts.contains t.name then .done (b.startInClosedHead t)
    else .again b.openBody
  | .endTag name =>
    if name = "template" then .done b.endTemplate
    else if pageEnds.contains name then .again b.openBody
    else .done b
  | _ => .again b.openBody

def inText (b : Construction) : Token → Verdict
  | .char c => .done (b.addChar c)
  | .eof => .again (b.pop.withMode b.resume)
  | .endTag _ => .done { b.pop with mode := b.resume, reading := .markup }
  | _ => .done b

end RegionAudit.Html.Construction
