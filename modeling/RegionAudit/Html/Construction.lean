import RegionAudit.Html.Construction.Foreign
import RegionAudit.Html.Construction.Frames
import RegionAudit.Html.Construction.OldPage
import RegionAudit.Html.Construction.Tables

/-!
One token added to a page under construction. The mode decides what the token means, and it may send
the token on to another mode; each time it does, a part of the page is closed or the page gets on, so
the number of open elements bounds how often that happens.
-/
namespace RegionAudit.Html.Construction

open Text (isMarkupBlank)

def inMode (b : Construction) (t : Token) : Verdict :=
  match b.mode with
  | .initial => b.inInitial t
  | .beforeHtml => b.inBeforeHtml t
  | .beforeHead => b.inBeforeHead t
  | .inHead => b.inHead t
  | .afterHead => b.inAfterHead t
  | .inBody => b.inBody t
  | .inText => b.inText t
  | .inTable => b.inTable t
  | .inTableText => b.inTableText t
  | .inCaption => b.inCaption t
  | .inColumnGroup => b.inColumnGroup t
  | .inTableBody => b.inTableBody t
  | .inRow => b.inRow t
  | .inCell => b.inCell t
  | .inTemplate => b.inTemplate t
  | .afterBody => b.inAfterBody t
  | .inFrameset => b.inFrameset t
  | .afterFrameset => b.inAfterFrameset t
  | .afterAfterBody => b.inAfterAfterBody t
  | .afterAfterFrameset => b.inAfterAfterFrameset t

def inForeign (b : Construction) (t : Token) : Verdict :=
  match t with
  | .null => .done (b.addChar '\ufffd')
  | .char c => .done ((b.noteText c isMarkupBlank).addChar c)
  | .startTag tag => if endsForeign tag then b.leaveForeign.inMode t else .done (b.startWithin tag)
  | .endTag name =>
    if name = "br" || name = "p" then b.leaveForeign.inMode t
    else
      match findForeign name b.opened with
      | .closes rest => .done { b with opened := rest }
      | .outside => b.inMode t
      | .nothing => .done b
  | _ => .done b

def step (b : Construction) (t : Token) : Verdict :=
  if b.isForeign t then b.inForeign t else b.inMode t

/-- Looks at a token up to `n` times, until it is dealt with. -/
def settle : Nat → Construction → Token → Construction
  | 0, b, _ => b
  | n + 1, b, t =>
    match b.step t with
    | .done b => b
    | .again b => settle n b t

/-- Adds a document type, which counts only at the very beginning. -/
def addDoctype (b : Construction) (d : Doctype) : Construction :=
  match b.mode with
  | .initial => { b with isOldPage := d.isOld, mode := .beforeHtml }
  | _ => b

def add (b : Construction) (t : Token) : Construction :=
  let skip := b.skipNewline && t = .char '\n'
  let b := { b with skipNewline := false }
  if skip then b
  else
    match t with
    | .doctype d => b.addDoctype d
    | t => settle (2 * b.opened.length + 16) b t

end RegionAudit.Html.Construction
