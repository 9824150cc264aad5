import RegionAudit.Html.Construction.Body

/-!
What may stand after the body of a page, and pages made of frames.
-/
namespace RegionAudit.Html.Construction

open Text (isMarkupBlank)

def inAfterBody (b : Construction) (t : Token) : Verdict :=
  match t with
  | .char c => if isMarkupBlank c then b.inBody t else .again (b.withMode .inBody)
  | .comment | .eof => .done b
  | .startTag tag => if tag.name = "html" then .done b else .again (b.withMode .inBody)
  | .endTag name =>
    if name = "html" then .done (b.withMode .afterAfterBody) else .again (b.withMode .inBody)
  | _ => .again (b.withMode .inBody)

def inAfterAfterBody (b : Construction) (t : Token) : Verdict :=
  match t with
  | .char c => if isMarkupBlank c then b.inBody t else .again (b.withMode .inBody)
  | .comment | .eof => .done b
  | .startTag tag => if tag.name = "html" then .done b else .again (b.withMode .inBody)
  | _ => .again (b.withMode .inBody)

def inFrameset (b : Construction) : Token → Verdict
  | .char c => if isMarkupBlank c then .done (b.addChar c) else .done b
  | .startTag t =>
    if t.name = "frameset" then .done (b.insert t.name)
    else if t.name = "frame" then .done (b.insertEmpty t.name)
    else if t.name = "noframes" then .done (b.startInHead t)
    else .done b
  | .endTag "frameset" =>
    if b.opened.length = 1 then .done b
    else
      let b := b.pop
      .done (if b.currentIs ["frameset"] then b else b.withMode .afterFrameset)
  | _ => .done b

def inAfterFrameset (b : Construction) : Token → Verdict
  | .char c => if isMarkupBlank c then .done (b.addChar c) else .done b
  | .startTag t => if t.name = "noframes" then .done (b.startInHead t) else .done b
  | .endTag "html" => .done (b.withMode .afterAfterFrameset)
  | _ => .done b

def inAfterAfterFrameset (b : Construction) (t : Token) : Verdict :=
  match t with
  | .char c => if isMarkupBlank c then b.inBody t else .done b
  | .startTag tag => if tag.name = "noframes" then .done (b.startInHead tag) else .done b
  | _ => .done b

end RegionAudit.Html.Construction
