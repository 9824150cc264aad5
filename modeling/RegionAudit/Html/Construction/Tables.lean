import RegionAudit.Html.Construction.Body

/-!
Tables. What belongs into a table opens the parts that are missing around it; what does not is put
before the table.
-/
namespace RegionAudit.Html.Construction

open Text (isBlank isMarkupBlank)

/-- Treats a token as in the body, but puts what it adds before the table. -/
def foster (b : Construction) (t : Token) : Verdict :=
  ({ b with fostering := true }.inBody t).map fun b => { b with fostering := false }

def fosterChar (b : Construction) (c : Char) : Construction :=
  match b.foster (.char c) with
  | .done b => b
  | .again b => b

/-- Places the text that was met in a table: blanks in the table, any other text before it. -/
def placeTableText (b : Construction) : Construction :=
  let text := b.tableText.reverse
  let b := { b with tableText := [] }
  if text.all isMarkupBlank then text.foldl addChar b else text.foldl fosterChar b

def inTableText (b : Construction) : Token → Verdict
  | .char c => .done { b with tableText := c :: b.tableText }
  | .null => .done b
  | _ => .again (b.placeTableText.withMode b.resume)

def tableContext : List String := ["table","template","html"]

def bodyContext : List String := ["tbody","tfoot","thead","template","html"]

def rowContext : List String := ["tr","template","html"]

def rowGroups : List String := ["tbody","tfoot","thead"]

def cells : List String := ["td","th"]

/-- Text in a table is gathered first; within another element it is out of place at once. -/
def gatherText (b : Construction) (t : Token) : Verdict :=
  if b.currentIs tableParts then .again { b with resume := b.mode, mode := .inTableText, tableText := [] }
  else b.foster t

def inTableStart (b : Construction) (t : Tag) : Verdict :=
  let inTable := b.backTo tableContext
  if t.name = "caption" then .done ((inTable.addBorder.insert t.name).withMode .inCaption)
  else if t.name = "colgroup" then .done ((inTable.insert t.name).withMode .inColumnGroup)
  else if t.name = "col" then .again ((inTable.insert "colgroup").withMode .inColumnGroup)
  else if rowGroups.contains t.name then .done ((inTable.insert t.name).withMode .inTableBody)
  else if t.name = "tr" || cells.contains t.name then
    .again ((inTable.insert "tbody").withMode .inTableBody)
  else if t.name = "table" then
    if b.inScope .table ["table"] then .again (b.close ["table"]).resetMode else .done b
  else if t.name = "style" || t.name = "script" || t.name = "template" then .done (b.startInHead t)
  else if t.name = "input" && isHiddenInput t then .done (b.insertEmpty t.name)
  else if t.name = "form" then
    if b.hasOpen "template" || b.form.isSome then .done b
    else
      let (b,o) := b.addElement ⟨.html,"form"⟩
      .done { b with form := some o.id }
  else b.foster (.startTag t)

def strayTableEnds : List String :=
  ["body","caption","col","colgroup","html","tbody","td","tfoot","th","thead","tr"]

def inTable (b : Construction) : Token → Verdict
  | .char c => b.gatherText (.char c)
  | .null => b.gatherText .null
  | .comment => .done b
  | .startTag t => b.inTableStart t
  | .endTag name =>
    if name = "table" then
      if b.inScope .table ["table"] then .done (b.close ["table"]).resetMode else .done b
    else if strayTableEnds.contains name then .done b
    else if name = "template" then .done b.endTemplate
    else b.foster (.endTag name)
  | .eof => b.inBody .eof
  | .doctype _ => .done b

/-- Tags that end a caption, a row or a cell because another part of the table begins. -/
def partStarts : List String :=
  ["caption","col","colgroup","tbody","td","tfoot","th","thead","tr"]

def closeCaption (b : Construction) : Construction :=
  (b.closeImplied.close ["caption"]).clearStyles.withMode .inTable

def inCaption (b : Construction) (t : Token) : Verdict :=
  match t with
  | .startTag tag =>
    if partStarts.contains tag.name then
      if b.inScope .table ["caption"] then .again b.closeCaption else .done b
    else b.inBody t
  | .endTag name =>
    if name = "caption" then
      if b.inScope .table ["caption"] then .done b.closeCaption else .done b
    else if name = "table" then
      if b.inScope .table ["caption"] then .again b.closeCaption else .done b
    else if strayTableEnds.contains name then .done b
    else b.inBody t
  | _ => b.inBody t

def leaveColumns (b : Construction) : Verdict :=
  if b.currentIs ["colgroup"] then .again (b.pop.withMode .inTable) else .done b

def inColumnGroup (b : Construction) : Token → Verdict
  | .comment => .done b
  | .char c => if isMarkupBlank c then .done (b.addChar c) else b.leaveColumns
  | .startTag t =>
    if t.name = "html" then .done b
    else if t.name = "col" then .done (b.insertEmpty t.name)
    else if t.name = "template" then .done (b.startInHead t)
    else b.leaveColumns
  | .endTag name =>
    if name = "colgroup" then
      if b.currentIs ["colgroup"] then .done (b.pop.withMode .inTable) else .done b
    else if name = "col" then .done b
    else if name = "template" then .done b.endTemplate
    else b.leaveColumns
  | .eof => b.inBody .eof
  | _ => b.leaveColumns

def leaveRows (b : Construction) : Construction :=
  (b.backTo bodyContext).pop.withMode .inTable

def inTableBody (b : Construction) (t : Token) : Verdict :=
  match t with
  | .startTag tag =>
    if tag.name = "tr" then .done (((b.backTo bodyContext).insert "tr").withMode .inRow)
    else if cells.contains tag.name then
      .again (((b.backTo bodyContext).insert "tr").withMode .inRow)
    else if partStarts.contains tag.name then
      if b.inScope .table rowGroups then .again b.leaveRows else .done b
    else b.inTable t
  | .endTag name =>
    if rowGroups.contains name then
      if b.inScope .table [name] then .done b.leaveRows else .done b
    else if name = "table" then
      if b.inScope .table rowGroups then .again b.leaveRows else .done b
    else if strayTableEnds.contains name then .done b
    else b.inTable t
  | _ => b.inTable t

def leaveRow (b : Construction) : Construction :=
  (b.backTo rowContext).pop.withMode .inTableBody

def inRow (b : Construction) (t : Token) : Verdict :=
  match t with
  | .startTag tag =>
    if cells.contains tag.name then
      .done (((b.backTo rowContext).insert tag.name).addBorder.withMode .inCell)
    else if partStarts.contains tag.name then
      if b.inScope .table ["tr"] then .again b.leaveRow else .done b
    else b.inTable t
  | .endTag name =>
    if name = "tr" then
      if b.inScope .table ["tr"] then .done b.leaveRow else .done b
    else if name = "table" then
      if b.inScope .table ["tr"] then .again b.leaveRow else .done b
    else if rowGroups.contains name then
      if b.inScope .table [name] && b.inScope .table ["tr"] then .again b.leaveRow else .done b
    else if strayTableEnds.contains name then .done b
    else b.inTable t
  | _ => b.inTable t

def closeCell (b : Construction) : Construction :=
  (b.closeImplied.close cells).clearStyles.withMode .inRow

def inCell (b : Construction) (t : Token) : Verdict :=
  match t with
  | .startTag tag =>
    if partStarts.contains tag.name then
      if b.inScope .table cells then .again b.closeCell else .done b
    else b.inBody t
  | .endTag name =>
    if cells.contains name then
      if b.inScope .table [name] then
        .done ((b.closeImplied.close [name]).clearStyles.withMode .inRow)
      else .done b
    else if name = "table" || name = "tr" || rowGroups.contains name then
      if b.inScope .table [name] then .again b.closeCell else .done b
    else if strayTableEnds.contains name then .done b
    else b.inBody t
  | _ => b.inBody t

/-- A template takes the mode that its first tag calls for. -/
def retemplate (b : Construction) (mode : Mode) : Verdict :=
  .again { b with mode, templateModes := mode :: b.templateModes.tail }

def inTemplate (b : Construction) (t : Token) : Verdict :=
  match t with
  | .startTag tag =>
    if tag.name = "noscript" then b.retemplate .inBody
    else if headStarts.contains tag.name then .done (b.startInHead tag)
    else if tag.name = "caption" || tag.name = "colgroup" || rowGroups.contains tag.name then
      b.retemplate .inTable
    else if tag.name = "col" then b.retemplate .inColumnGroup
    else if tag.name = "tr" then b.retemplate .inTableBody
    else if cells.contains tag.name then b.retemplate .inRow
    else b.retemplate .inBody
  | .endTag name => if name = "template" then .done b.endTemplate else .done b
  | .eof => b.endPageInTemplate
  | _ => b.inBody t

end RegionAudit.Html.Construction
