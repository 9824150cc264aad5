/-!
A document under construction: its nodes in the order of their creation, each with its parent and its
contents. Elements are told apart by their number, so one element can be moved while others hold on to
it. Texts are kept character by character.
-/
namespace RegionAudit.Html

inductive Vocabulary
  | html | svg | math
  deriving DecidableEq, Repr

structure Element where
  vocabulary : Vocabulary
  name : String
  deriving DecidableEq, Repr

abbrev NodeId := Nat

/-- One item of a node's contents: a child node, or a character of text. -/
inductive Content
  | node (id : NodeId)
  | char (c : Char)
  deriving DecidableEq, Repr

/-- What a node is. A fragment holds the contents of a template element. -/
inductive Kind
  | document
  | fragment
  | element (e : Element)
  deriving DecidableEq, Repr

/-- A node. Its contents are listed last item first. -/
structure Node where
  kind : Kind
  parent : Option NodeId
  contents : List Content
  deriving Repr

structure Document where
  nodes : Array Node
  deriving Repr

namespace Document

def root : NodeId := 0

def empty : Document :=
  ⟨#[⟨.document,none,[]⟩]⟩

def size (d : Document) : Nat :=
  d.nodes.size

def node? (d : Document) (id : NodeId) : Option Node :=
  d.nodes[id]?

def element? (d : Document) (id : NodeId) : Option Element :=
  match d.node? id with
  | some ⟨.element e,_,_⟩ => some e
  | _ => none

def parent? (d : Document) (id : NodeId) : Option NodeId :=
  (d.node? id).bind (·.parent)

def contents (d : Document) (id : NodeId) : List Content :=
  match d.node? id with
  | some n => n.contents
  | none => []

def mapContents (d : Document) (id : NodeId) (f : List Content → List Content) : Document :=
  ⟨d.nodes.modify id fun n => { n with contents := f n.contents }⟩

def setParent (d : Document) (id : NodeId) (parent : Option NodeId) : Document :=
  ⟨d.nodes.modify id fun n => { n with parent := parent }⟩

def create (d : Document) (kind : Kind) : Document × NodeId :=
  (⟨d.nodes.push ⟨kind,none,[]⟩⟩,d.nodes.size)

def detach (d : Document) (id : NodeId) : Document :=
  match d.parent? id with
  | none => d
  | some p => (d.mapContents p (·.filter (· ≠ .node id))).setParent id none

/-- The document after an item has been made ready to go under `parent`. -/
def adopt (d : Document) (parent : NodeId) : Content → Document
  | .node id => (d.detach id).setParent id (some parent)
  | .char _ => d

def append (d : Document) (parent : NodeId) (item : Content) : Document :=
  (d.adopt parent item).mapContents parent (item :: ·)

/-- Puts `item` behind the first occurrence of `mark`, in contents listed last item first: it then
stands before `mark` in the text. -/
def placeBefore (mark item : Content) : List Content → List Content
  | [] => []
  | x :: xs => if x = mark then x :: item :: xs else x :: placeBefore mark item xs

def insertBefore (d : Document) (sibling : NodeId) (item : Content) : Document :=
  match d.parent? sibling with
  | none => d
  | some p => (d.adopt p item).mapContents p (placeBefore (.node sibling) item)

def moveContents (d : Document) (source target : NodeId) : Document :=
  let items := d.contents source
  items.foldl
    (fun d item =>
      match item with
      | .node id => d.setParent id (some target)
      | .char _ => d)
    ((d.mapContents source fun _ => []).mapContents target (items ++ ·))

/-- The node that holds what is put into an element: for a template its fragment. -/
def holder (d : Document) (id : NodeId) : NodeId :=
  match d.element? id, (d.contents id).getLast? with
  | some ⟨.html,"template"⟩, some (.node fragment) => fragment
  | _, _ => id

def createElement (d : Document) (e : Element) : Document × NodeId :=
  let (d,id) := d.create (.element e)
  if e = ⟨.html,"template"⟩ then
    let (d,fragment) := d.create .fragment
    (d.append id (.node fragment),id)
  else (d,id)

/-- All that stands below a node, in the order of the text, down to `depth` levels. -/
def below (d : Document) : Nat → NodeId → List Content
  | 0, _ => []
  | depth + 1, id =>
    (d.contents id).reverse.flatMap fun item =>
      match item with
      | .node child => item :: d.below depth child
      | .char _ => [item]

def descendants (d : Document) (id : NodeId) : List Content :=
  d.below d.size id

def descendantsNamed (d : Document) (names : List String) (id : NodeId) : List NodeId :=
  (d.descendants id).filterMap fun item =>
    match item with
    | .char _ => none
    | .node child =>
      match d.element? child with
      | some e => if e.name ∈ names then some child else none
      | none => none

/-- The text below a node. -/
def text (d : Document) (id : NodeId) : List Char :=
  (d.descendants id).filterMap fun item =>
    match item with
    | .char c => some c
    | .node _ => none

/-- All elements of a name, in the order of their creation, whether or not they are in the tree. -/
def elementsNamed (d : Document) (name : String) : List NodeId :=
  (List.range d.size).filter fun id =>
    match d.element? id with
    | some e => e.name = name
    | none => false

end Document

end RegionAudit.Html
