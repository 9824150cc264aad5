import RegionAudit.Html.Construction.State

/-!
Text styles. A style that another element breaks off is taken up again where text follows, and an end
tag that crosses other elements is set right by splitting the style around them.
-/
namespace RegionAudit.Html

def Style.isOf (id : NodeId) : Style → Bool
  | .border => false
  | .running id' _ => id' = id

namespace Construction

def sinceBorder : List Style → List (NodeId × Tag)
  | [] => []
  | .border :: _ => []
  | .running id tag :: rest => (id,tag) :: sinceBorder rest

def dropThroughBorder : List Style → List Style
  | [] => []
  | .border :: rest => rest
  | .running _ _ :: rest => dropThroughBorder rest

def clearStyles (b : Construction) : Construction :=
  { b with styles := dropThroughBorder b.styles }

def addBorder (b : Construction) : Construction :=
  { b with styles := .border :: b.styles }

def dropStyle (b : Construction) (id : NodeId) : Construction :=
  { b with styles := b.styles.eraseP (Style.isOf id) }

def hasStyle (b : Construction) (id : NodeId) : Bool :=
  b.styles.any (Style.isOf id)

def isOpen (b : Construction) (id : NodeId) : Bool :=
  b.opened.any (·.id = id)

/-- Splits the styles into those to be taken up again, latest first, and the rest. -/
def splitBroken (b : Construction) : List Style → List Tag × List Style
  | [] => ([],[])
  | .border :: rest => ([],.border :: rest)
  | .running id tag :: rest =>
    if b.isOpen id then ([],.running id tag :: rest)
    else
      let (tags,kept) := splitBroken b rest
      (tag :: tags,kept)

def openStyle (b : Construction) (tag : Tag) : Construction :=
  let (b,o) := b.openElement ⟨.html,tag.name⟩
  { b with styles := .running o.id tag :: b.styles }

def takeUpStyles (b : Construction) : Construction :=
  let (tags,kept) := b.splitBroken b.styles
  tags.reverse.foldl openStyle { b with styles := kept }

/-- Forgets the earliest of three equal styles since the last border, so that a fourth makes three. -/
def limitEqualStyles (b : Construction) (tag : Tag) : Construction :=
  match (sinceBorder b.styles).filter fun s => tag.sameAs s.2 with
  | equal@(_ :: _ :: _ :: _) =>
    match equal.getLast? with
    | some s => b.dropStyle s.1
    | none => b
  | _ => b

def beginStyle (b : Construction) (tag : Tag) : Construction :=
  (b.limitEqualStyles tag).openStyle tag

/-- Closes the nearest open element of the name, unless a special element is nearer. -/
def closeOrdinary (b : Construction) (name : String) : Construction :=
  match b.opened.find? fun o => o.element.isHtml name || o.element.isSpecial with
  | some o =>
    if o.element.isHtml name then
      let b := b.closeImpliedExcept name
      { b with opened := (b.opened.dropWhile (·.id ≠ o.id)).tail }
    else b
  | none => b

/-! ### Splitting a style around the elements it crosses -/

/-- Where the new half of a split style goes among the styles: in the place of the old one, or right
after the style of an element. -/
inductive Slot
  | inPlace
  | after (id : NodeId)

/-- The state of the walk from the crossed element up to the style's own element. -/
structure Split where
  page : Construction
  /-- Elements that stay open between the style and the crossed element, nearest first. -/
  kept : List Opened
  /-- The top of the part that moves. -/
  top : NodeId
  slot : Slot
  count : Nat

def twin (b : Construction) (id : NodeId) (tag : Tag) : Construction × Opened :=
  let e : Element := ⟨.html,tag.name⟩
  let (document,id') := b.document.createElement e
  ({ b with
      document
      styles := b.styles.map fun s => if s.isOf id then .running id' tag else s },⟨id',e⟩)

def tagOf? (b : Construction) (id : NodeId) : Option Tag :=
  b.styles.findSome? fun
    | .border => none
    | .running id' tag => if id' = id then some tag else none

/-- One element of the walk. The first three styles on the way are kept through a twin, all else on the
way is closed. -/
def Split.step (crossed : NodeId) (s : Split) (o : Opened) : Split :=
  let count := s.count + 1
  match s.page.tagOf? o.id with
  | none => { s with count }
  | some tag =>
    if 3 < count then { s with page := s.page.dropStyle o.id, count }
    else
      let (page,o') := s.page.twin o.id tag
      { page := { page with document := page.document.append o'.id (.node s.top) }
        kept := s.kept ++ [o']
        top := o'.id
        slot := if s.top = crossed then .after o'.id else s.slot
        count }

/-- Puts a style right after the style of an element; the list begins with the latest. -/
def insertStyleAfter (id : NodeId) (new : Style) : List Style → List Style
  | [] => []
  | s :: rest => if s.isOf id then new :: s :: rest else s :: insertStyleAfter id new rest

def placeStyle (old : NodeId) (new : Style) (slot : Slot) (styles : List Style) : List Style :=
  match slot with
  | .inPlace => styles.map fun s => if s.isOf old then new else s
  | .after id => (insertStyleAfter id new styles).eraseP (Style.isOf old)

def splitAtLast (p : Opened → Bool) : List Opened → Option (List Opened × Opened × List Opened)
  | [] => none
  | o :: os =>
    match splitAtLast p os with
    | some (before,x,after) => some (o :: before,x,after)
    | none => if p o then some ([],o,os) else none

/-- Splits a style at an open element around the special element that it crosses furthest out. `inner`
are the elements above that one, `between` those from it up to the style, and `outer` those below the
style. -/
def splitStyle (b : Construction) (style : Opened) (tag : Tag)
    (inner : List Opened) (crossed : Opened) (between outer : List Opened) : Construction :=
  let s := between.foldl (Split.step crossed.id) ⟨b,[],crossed.id,.inPlace,0⟩
  let b := s.page
  let b :=
    match outer with
    | [] => b
    | ancestor :: _ =>
      { b with document := put (b.document.detach s.top) (.node s.top) (b.placeIn ancestor) }
  let (document,id) := b.document.createElement ⟨.html,tag.name⟩
  let document := (document.moveContents crossed.id id).append crossed.id (.node id)
  { b with
    document
    styles := placeStyle style.id (.running id tag) s.slot b.styles
    opened := inner ++ ⟨id,⟨.html,tag.name⟩⟩ :: crossed :: s.kept ++ outer }

def endStyleRound (b : Construction) (name : String) : Verdict :=
  match (sinceBorder b.styles).find? (·.2.name = name) with
  | none => .done (b.closeOrdinary name)
  | some (id,tag) =>
    match b.opened.find? (·.id = id) with
    | none => .done (b.dropStyle id)
    | some style =>
      if !findInScope .standard (·.id = id) b.opened then .done b
      else
        let above := b.opened.takeWhile (·.id ≠ id)
        let outer := (b.opened.dropWhile (·.id ≠ id)).tail
        match splitAtLast (·.element.isSpecial) above with
        | none => .done ({ b with opened := outer }.dropStyle id)
        | some (inner,crossed,between) =>
          .again (b.splitStyle style tag inner crossed between outer)

def endStyleRounds : Nat → Construction → String → Construction
  | 0, b, _ => b
  | n + 1, b, name =>
    match b.endStyleRound name with
    | .done b => b
    | .again b => endStyleRounds n b name

/-- The end tag of a style: it closes the style's element, and where that crosses others it splits the
style around them, eight times at most. -/
def endStyle (b : Construction) (name : String) : Construction :=
  match b.opened with
  | o :: _ =>
    if o.element.isHtml name && !b.hasStyle o.id then b.pop else endStyleRounds 8 b name
  | [] => b

def endOpenLink (b : Construction) : Construction :=
  match (sinceBorder b.styles).find? (·.2.name = "a") with
  | none => b
  | some (id,_) => ((b.endStyle "a").dropStyle id).dropOpened id

end Construction

end RegionAudit.Html
