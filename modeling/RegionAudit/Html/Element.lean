import RegionAudit.Html.Document

/-!
The groups of elements that markup treats alike: which end a scope, which are closed by implication,
which are special, and where other vocabularies switch back to markup of text.
-/
namespace RegionAudit.Html

namespace Element

def isOneOf (e : Element) (names : List String) : Bool :=
  e.vocabulary = .html && names.contains e.name

def isHtml (e : Element) (name : String) : Bool :=
  e.vocabulary = .html && e.name = name

def holdsFormulaText (e : Element) : Bool :=
  e.vocabulary = .math && ["mi","mo","mn","ms","mtext"].contains e.name

/-- Picture elements whose contents are markup again. -/
def holdsMarkup (e : Element) : Bool :=
  e.vocabulary = .svg && ["foreignObject","desc","title"].contains e.name

def headings : List String :=
  ["h1","h2","h3","h4","h5","h6"]

/-- Elements that an enclosing end tag closes with it. -/
def impliedEnds : List String :=
  ["dd","dt","li","option","optgroup","p","rb","rp","rt","rtc"]

def templateImpliedEnds : List String :=
  impliedEnds ++ ["caption","colgroup","tbody","td","tfoot","th","thead","tr"]

def special : List String :=
  [
    "address","applet","area","article","aside","base","basefont","bgsound","blockquote",
    "body","br","button","caption","center","col","colgroup","dd","details","dir","div",
    "dl","dt","embed","fieldset","figcaption","figure","footer","form","frame","frameset",
    "h1","h2","h3","h4","h5","h6","head","header","hgroup","hr","html","iframe","img",
    "input","keygen","li","link","listing","main","marquee","menu","meta","nav","noembed",
    "noframes","noscript","object","ol","p","param","plaintext","pre","script","search",
    "section","select","source","style","summary","table","tbody","td","template",
    "textarea","tfoot","th","thead","title","tr","track","ul","wbr","xmp"
  ]

def isSpecial (e : Element) : Bool :=
  e.isOneOf special

end Element

/-- How far up the open elements a search goes. -/
inductive Scope
  | standard
  | listItem
  | button
  | table
  deriving DecidableEq, Repr

namespace Scope

def standardStops : List String :=
  ["applet","caption","html","table","td","th","marquee","object","select","template"]

/-- Whether a search in this scope goes no further than an element. -/
def stops (s : Scope) (e : Element) : Bool :=
  match s with
  | .table => e.isOneOf ["html","table","template"]
  | .standard => e.isOneOf standardStops || e.holdsFormulaText || e.holdsMarkup
  | .listItem =>
    e.isOneOf ("ol" :: "ul" :: standardStops) || e.holdsFormulaText || e.holdsMarkup
  | .button => e.isOneOf ("button" :: standardStops) || e.holdsFormulaText || e.holdsMarkup

end Scope

end RegionAudit.Html
