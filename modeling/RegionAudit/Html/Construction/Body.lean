import RegionAudit.Html.Construction.Head

/-!
The body of a page. Tags fall into groups that are treated alike; each group has one rule.
-/
namespace RegionAudit.Html

inductive BodyStart
  | page | headContent | body | frameset | block | heading | preformatted | form | listItem
  | definition | plaintext | button | link | style | unbreakable | boundary | table | empty | input
  | parameter | rule | textarea | example | inlineFrame | fallback | select | optionGroup | option
  | rubyBase | rubyText | math | svg | misplaced | ordinary
  deriving DecidableEq, Repr

inductive BodyEnd
  | template | body | page | block | form | paragraph | listItem | definition | heading | style
  | boundary | lineBreak | ordinary
  deriving DecidableEq, Repr

/-- Style elements other than links and unbreakable text. -/
def Element.styles : List String :=
  ["b","big","code","em","font","i","s","small","strike","strong","tt","u"]

def groupOf {α : Type} (groups : List (List String × α)) (other : α) (name : String) : α :=
  match groups.find? (·.1.contains name) with
  | some g => g.2
  | none => other

def BodyStart.groups : List (List String × BodyStart) :=
  [
    (["html"],.page),
    (["base","basefont","bgsound","link","meta","noframes","script","style","template",
      "title"],.headContent),
    (["body"],.body),
    (["frameset"],.frameset),
    (["address","article","aside","blockquote","center","details","dialog","dir","div",
      "dl","fieldset","figcaption","figure","footer","header","hgroup","main","menu","nav",
      "ol","p","search","section","summary","ul"],.block),
    (Element.headings,.heading),
    (["pre","listing"],.preformatted),
    (["form"],.form),
    (["li"],.listItem),
    (["dd","dt"],.definition),
    (["plaintext"],.plaintext),
    (["button"],.button),
    (["a"],.link),
    (Element.styles,.style),
    (["nobr"],.unbreakable),
    (["applet","marquee","object"],.boundary),
    (["table"],.table),
    (["area","br","embed","image","img","keygen","wbr"],.empty),
    (["input"],.input),
    (["param","source","track"],.parameter),
    (["hr"],.rule),
    (["textarea"],.textarea),
    (["xmp"],.example),
    (["iframe"],.inlineFrame),
    (["noembed","noscript"],.fallback),
    (["select"],.select),
    (["optgroup"],.optionGroup),
    (["option"],.option),
    (["rb","rtc"],.rubyBase),
    (["rp","rt"],.rubyText),
    (["math"],.math),
    (["svg"],.svg),
    (["caption","col","colgroup","frame","head","tbody","td","tfoot","th","thead","tr"],
      .misplaced)
  ]

def BodyEnd.groups : List (List String × BodyEnd) :=
  [
    (["template"],.template),
    (["body"],.body),
    (["html"],.page),
    (["address","article","aside","blockquote","button","center","details","dialog","dir",
      "div","dl","fieldset","figcaption","figure","footer","header","hgroup","listing",
      "main","menu","nav","ol","pre","search","section","select","summary","ul"],.block),
    (["form"],.form),
    (["p"],.paragraph),
    (["li"],.listItem),
    (["dd","dt"],.definition),
    (Element.headings,.heading),
    ("a" :: "nobr" :: Element.styles,.style),
    (["applet","marquee","object"],.boundary),
    (["br"],.lineBreak)
  ]

namespace Construction

open Text (isMarkupBlank)

/-- The open list item that a new item of one of the names ends. -/
def itemToClose (names : List String) : List Opened → Option String
  | [] => none
  | o :: os =>
    if o.element.isOneOf names then some o.element.name
    else if o.element.isSpecial && !o.element.isOneOf ["address","div","p"] then none
    else itemToClose names os

def startItem (b : Construction) (name : String) (names : List String) : Construction :=
  let b := b.noFrameset
  let b :=
    match itemToClose names b.opened with
    | some item => (b.closeImpliedExcept item).close [item]
    | none => b
  b.closeParagraphInButton.insert name

def startForm (b : Construction) : Construction :=
  if b.form.isSome && !b.hasOpen "template" then b
  else
    let (b,o) := b.closeParagraphInButton.openElement ⟨.html,"form"⟩
    if b.hasOpen "template" then b else { b with form := some o.id }

def startForeign (b : Construction) (vocabulary : Vocabulary) (name : String)
    (selfClosing : Bool) : Construction :=
  if selfClosing then (b.addElement ⟨vocabulary,name⟩).1
  else (b.openElement ⟨vocabulary,name⟩).1

def isHiddenInput (t : Tag) : Bool :=
  match t.attribute? "type" with
  | some v => v.toList.map Char.toLower = "hidden".toList
  | none => false

/-- A frameset takes the place of a body that holds nothing yet. -/
def startFrameset (b : Construction) : Construction :=
  match b.framesetOk, b.opened.reverse with
  | true, root :: body :: _ =>
    if body.element.isHtml "body" then
      ({ b with document := b.document.detach body.id, opened := [root] }.insert "frameset").withMode
        .inFrameset
    else b
  | _, _ => b

def startInBody (b : Construction) (t : Tag) : Construction :=
  match groupOf BodyStart.groups .ordinary t.name with
  | .page | .misplaced => b
  | .headContent => b.startInHead t
  | .body =>
    if b.opened.length = 1 || b.hasOpen "template" then b else b.noFrameset
  | .frameset => b.startFrameset
  | .block => b.closeParagraphInButton.insert t.name
  | .heading =>
    let b := b.closeParagraphInButton
    (if b.currentIs Element.headings then b.pop else b).insert t.name
  | .preformatted =>
    { (b.closeParagraphInButton.insert t.name).noFrameset with skipNewline := true }
  | .form => b.startForm
  | .listItem => b.startItem t.name ["li"]
  | .definition => b.startItem t.name ["dd","dt"]
  | .plaintext => { b.closeParagraphInButton.insert t.name with reading := .plain }
  | .button =>
    let b := if b.inScope .standard ["button"] then b.closeImplied.close ["button"] else b
    (b.takeUpStyles.insert t.name).noFrameset
  | .link => b.endOpenLink.takeUpStyles.beginStyle t
  | .style => b.takeUpStyles.beginStyle t
  | .unbreakable =>
    let b := b.takeUpStyles
    (if b.inScope .standard ["nobr"] then (b.endStyle "nobr").takeUpStyles else b).beginStyle t
  | .boundary => (b.takeUpStyles.insert t.name).addBorder.noFrameset
  | .table =>
    ((if b.isOldPage then b else b.closeParagraphInButton).insert t.name).noFrameset.withMode .inTable
  | .empty =>
    (b.takeUpStyles.insertEmpty (if t.name = "image" then "img" else t.name)).noFrameset
  | .input =>
    let b := if b.inScope .standard ["select"] then b.close ["select"] else b
    let b := b.takeUpStyles.insertEmpty t.name
    if isHiddenInput t then b else b.noFrameset
  | .parameter => b.insertEmpty t.name
  | .rule =>
    let b := b.closeParagraphInButton
    ((if b.inScope .standard ["select"] then b.closeImplied else b).insertEmpty t.name).noFrameset
  | .textarea => { b.noFrameset.insertText t.name .title with skipNewline := true }
  | .example => b.closeParagraphInButton.takeUpStyles.noFrameset.insertText t.name .raw
  | .inlineFrame => b.noFrameset.insertText t.name .raw
  | .fallback => b.insertText t.name .raw
  | .select =>
    if b.inScope .standard ["select"] then b.close ["select"]
    else (b.takeUpStyles.insert t.name).noFrameset
  | .optionGroup =>
    let b :=
      if b.inScope .standard ["select"] then b.closeImplied
      else if b.currentIs ["option"] then b.pop
      else b
    b.takeUpStyles.insert t.name
  | .option =>
    let b :=
      if b.inScope .standard ["select"] then b.closeImpliedExcept "optgroup"
      else if b.currentIs ["option"] then b.pop
      else b
    b.takeUpStyles.insert t.name
  | .rubyBase => (if b.inScope .standard ["ruby"] then b.closeImplied else b).insert t.name
  | .rubyText =>
    (if b.inScope .standard ["ruby"] then b.closeImpliedExcept "rtc" else b).insert t.name
  | .math => b.takeUpStyles.startForeign .math t.name t.selfClosing
  | .svg => b.takeUpStyles.startForeign .svg t.name t.selfClosing
  | .ordinary => b.takeUpStyles.insert t.name

/-- The end of a form: outside of templates the one form that is open, wherever it is. -/
def endForm (b : Construction) : Construction :=
  if b.hasOpen "template" then
    if b.inScope .standard ["form"] then b.closeImplied.close ["form"] else b
  else
    match b.form with
    | none => b
    | some id =>
      let b := { b with form := none }
      if findInScope .standard (·.id = id) b.opened then b.closeImplied.dropOpened id else b

def endInScope (b : Construction) (scope : Scope) (name : String) : Construction :=
  if b.inScope scope [name] then b.closeImplied.close [name] else b

def endInBody (b : Construction) (name : String) : Construction :=
  match groupOf BodyEnd.groups .ordinary name with
  | .template => b.endTemplate
  | .body | .page => b
  | .block => b.endInScope .standard name
  | .form => b.endForm
  | .paragraph =>
    (if b.inScope .button ["p"] then b else b.insert "p").closeParagraph
  | .listItem =>
    if b.inScope .listItem [name] then (b.closeImpliedExcept name).close [name] else b
  | .definition =>
    if b.inScope .standard [name] then (b.closeImpliedExcept name).close [name] else b
  | .heading =>
    if b.inScope .standard Element.headings then b.closeImplied.close Element.headings else b
  | .style => b.endStyle name
  | .boundary =>
    if b.inScope .standard [name] then (b.closeImplied.close [name]).clearStyles else b
  | .lineBreak => b.startInBody (.plain "br")
  | .ordinary => b.closeOrdinary name

/-- The end of the page within a template closes the template and goes on from there. -/
def endPageInTemplate (b : Construction) : Verdict :=
  if b.hasOpen "template" then .again b.leaveTemplate else .done b

def inBody (b : Construction) : Token → Verdict
  | .char c => .done ((b.takeUpStyles.noteText c isMarkupBlank).addChar c)
  | .startTag t => .done (b.startInBody t)
  | .endTag "body" =>
    if b.inScope .standard ["body"] then .done (b.withMode .afterBody) else .done b
  | .endTag "html" =>
    if b.inScope .standard ["body"] then .again (b.withMode .afterBody) else .done b
  | .endTag name => .done (b.endInBody name)
  | .eof => if b.templateModes.isEmpty then .done b else b.endPageInTemplate
  | _ => .done b

end Construction

end RegionAudit.Html
