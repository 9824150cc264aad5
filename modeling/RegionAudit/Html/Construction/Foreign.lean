import RegionAudit.Html.Construction.Body

/-!
Pictures and formulas within a page. Their elements belong to vocabularies of their own, where most
tags open elements of the same vocabulary; a tag that is plainly meant for text ends them.
-/
namespace RegionAudit.Html

def pictureNames : List String :=
  [
    "altGlyph","altGlyphDef","altGlyphItem","animateColor","animateMotion",
    "animateTransform","clipPath","feBlend","feColorMatrix","feComponentTransfer",
    "feComposite","feConvolveMatrix","feDiffuseLighting","feDisplacementMap","feDistantLight",
    "feDropShadow","feFlood","feFuncA","feFuncB","feFuncG","feFuncR","feGaussianBlur",
    "feImage","feMerge","feMergeNode","feMorphology","feOffset","fePointLight",
    "feSpecularLighting","feSpotLight","feTile","feTurbulence","foreignObject","glyphRef",
    "linearGradient","radialGradient","textPath"
  ]

def smallLetters (name : String) : List Char :=
  name.toList.map Char.toLower

/-- The proper spelling of a picture element's name, which a tag gives in small letters. -/
def pictureName (name : String) : String :=
  (pictureNames.find? fun n => smallLetters n = name.toList).getD name

def textStarts : List String :=
  [
    "b","big","blockquote","body","br","center","code","dd","div","dl","dt","em",
    "embed","h1","h2","h3","h4","h5","h6","head","hr","i","img","li","listing","menu",
    "meta","nobr","ol","p","pre","ruby","s","small","span","strong","strike","sub",
    "sup","table","tt","u","ul","var"
  ]

/-- Whether a start tag ends a picture or formula. A font tag does if it says how text looks. -/
def endsForeign (t : Tag) : Bool :=
  textStarts.contains t.name ||
    (t.name = "font" && ["color","face","size"].any (t.hasAttribute ·))

namespace Construction

open Text (isMarkupBlank)

/-- Whether a token is treated as part of a picture or formula, when `e` is the current element. -/
def isForeignFor (e : Element) : Token → Bool
  | .eof => false
  | .char _ | .null =>
    e.vocabulary ≠ .html && !e.holdsFormulaText && !e.holdsMarkup
  | .startTag t =>
    e.vocabulary ≠ .html && !e.holdsMarkup &&
      !(e.holdsFormulaText && !(["mglyph","malignmark"].contains t.name)) &&
      !(e.vocabulary = .math && e.name = "annotation-xml" && t.name = "svg")
  | _ => e.vocabulary ≠ .html

def isForeign (b : Construction) (t : Token) : Bool :=
  match b.opened with
  | [] => false
  | o :: _ => isForeignFor o.element t

def withinForeign (b : Construction) : Bool :=
  match b.opened with
  | [] => false
  | o :: _ => o.element.vocabulary ≠ .html

def startWithin (b : Construction) (t : Tag) : Construction :=
  match b.opened with
  | [] => b
  | o :: _ =>
    let v := o.element.vocabulary
    b.startForeign v (if v = .svg then pictureName t.name else t.name) t.selfClosing

/-- Closes elements until text may follow. -/
def leaveForeign (b : Construction) : Construction :=
  b.popTo fun e => e.vocabulary = .html || e.holdsFormulaText || e.holdsMarkup

inductive ForeignEnd
  /-- It closes an element and leaves these open. -/
  | closes (rest : List Opened)
  /-- It means an element outside. -/
  | outside
  | nothing

/-- Looks for the element that an end tag closes, up to the first element of text. -/
def findForeign (name : String) : List Opened → ForeignEnd
  | [] => .nothing
  | [_] => .nothing
  | o :: os =>
    if o.element.vocabulary = .html then .outside
    else if smallLetters o.element.name = smallLetters name then .closes os
    else findForeign name os

end Construction

end RegionAudit.Html
