import RegionAudit.Proofs.Html.Building

/-! Pages that consist of paragraphs and tables: how they are written, the trees that they stand for, and
that reading what is written builds these trees. -/
namespace RegionAudit.Html

/-- A text that can be written down: no null character and no carriage return is in it. -/
structure PlainText where
  chars : List Char
  plain : ∀ c ∈ chars, c ≠ '\x00' ∧ c ≠ '\r'

structure Cell where
  isHeading : Bool
  label : PlainText

abbrev Row := List Cell

inductive Part
  | head | body
  deriving DecidableEq, Repr

/-- A part of a table with its rows, and the rows that are written behind it in no part. -/
structure RowGroup where
  part : Part
  inside : List Row
  behind : List Row

/-- A table: the rows that are written in no part, and then its parts. -/
structure Sheet where
  front : List Row
  groups : List RowGroup

inductive Block
  | prose (t : PlainText)
  | table (s : Sheet)

/-! ### How they are written -/

def Cell.name (c : Cell) : String :=
  if c.isHeading then "th" else "td"

def Part.name : Part → String
  | .head => "thead"
  | .body => "tbody"

def Cell.written (c : Cell) : List Char :=
  tagged c.name (escape c.label.chars)

def writtenRow (row : Row) : List Char :=
  tagged "tr" (row.flatMap Cell.written)

def writtenRows (rows : List Row) : List Char :=
  rows.flatMap writtenRow

def RowGroup.written (g : RowGroup) : List Char :=
  tagged g.part.name (writtenRows g.inside) ++ writtenRows g.behind

def Sheet.written (s : Sheet) : List Char :=
  tagged "table" (writtenRows s.front ++ s.groups.flatMap RowGroup.written)

def Block.written : Block → List Char
  | .prose t => tagged "p" (escape t.chars)
  | .table s => s.written

def writtenPage (page : List Block) : List Char :=
  page.flatMap Block.written

/-! ### What they stand for -/

def cellTrees : Row → Forest
  | [] => .nil
  | c :: cs => .element c.name (.ofText c.label.chars) (cellTrees cs)

def rowTrees : List Row → Forest
  | [] => .nil
  | row :: rows => .element "tr" (cellTrees row) (rowTrees rows)

def looseTrees : List Row → Forest
  | [] => .nil
  | row :: rows => .element "tbody" (rowTrees (row :: rows)) .nil

def groupTrees : List RowGroup → Forest
  | [] => .nil
  | g :: gs =>
    .element g.part.name (rowTrees g.inside) ((looseTrees g.behind).append (groupTrees gs))

def Sheet.trees (s : Sheet) : Forest :=
  (looseTrees s.front).append (groupTrees s.groups)

def pageTrees : List Block → Forest
  | [] => .nil
  | .prose t :: page => .element "p" (.ofText t.chars) (pageTrees page)
  | .table s :: page => .element "table" s.trees (pageTrees page)

/-! ### Names -/

theorem Cell.isTagName (c : Cell) : IsTagName c.name := by
  unfold Cell.name
  split <;> decide

theorem Part.isTagName (p : Part) : IsTagName p.name := by
  cases p <;> decide

theorem Cell.name_ne (c : Cell) : c.name ≠ "template" := by
  unfold Cell.name
  split <;> decide

theorem Part.name_ne (p : Part) : p.name ≠ "template" := by
  cases p <;> decide

theorem isPlain_cellTrees (row : Row) : (cellTrees row).IsPlain := by
  induction row with
  | nil => trivial
  | cons c cs ih => exact ⟨c.name_ne,Forest.isPlain_ofText _,ih⟩

theorem isPlain_rowTrees (rows : List Row) : (rowTrees rows).IsPlain := by
  induction rows with
  | nil => trivial
  | cons row rows ih => exact ⟨by decide,isPlain_cellTrees row,ih⟩

theorem isPlain_looseTrees (rows : List Row) : (looseTrees rows).IsPlain := by
  cases rows with
  | nil => trivial
  | cons row rows => exact ⟨by decide,isPlain_rowTrees _,trivial⟩

theorem isPlain_groupTrees (gs : List RowGroup) : (groupTrees gs).IsPlain := by
  induction gs with
  | nil => trivial
  | cons g gs ih =>
    exact ⟨g.part.name_ne,isPlain_rowTrees _,(isPlain_looseTrees _).append ih⟩

theorem isPlain_trees (s : Sheet) : s.trees.IsPlain :=
  (isPlain_looseTrees _).append (isPlain_groupTrees _)

theorem isPlain_pageTrees (page : List Block) : (pageTrees page).IsPlain := by
  induction page with
  | nil => trivial
  | cons b page ih =>
    cases b with
    | prose t => exact ⟨by decide,Forest.isPlain_ofText _,ih⟩
    | table s => exact ⟨by decide,isPlain_trees s,ih⟩

/-! ### One tag -/

section Tags

variable (d : Document) (ok : Bool) (os : List Opened) (st : List Style) (i t : Nat)

theorem add_startCell (c : Cell) :
    (inPage d ok .inRow (openedAs i "tr" :: os) st).add (.startTag (.plain c.name)) =
      ((inPage d ok .inRow (openedAs i "tr" :: os) st).insert c.name).addBorder.withMode
        .inCell := by
  obtain ⟨isHeading,-⟩ := c
  cases isHeading <;> rfl

theorem takesText_inCell (c : Cell) : TakesText .inCell (openedAs i c.name :: os) (.border :: st) := by
  obtain ⟨isHeading,-⟩ := c
  cases isHeading
  · exact fun _ _ _ => rfl
  · exact fun _ _ _ => rfl

theorem add_endCell (c : Cell) :
    (inPage d ok .inCell (openedAs i c.name :: os) (.border :: st)).add (.endTag c.name) =
      inPage d ok .inRow os st := by
  obtain ⟨isHeading,-⟩ := c
  cases isHeading <;> rfl

theorem add_startRow (p : Part) :
    (inPage d ok .inTableBody (openedAs i p.name :: os) st).add (.startTag (.plain "tr")) =
      ((inPage d ok .inTableBody (openedAs i p.name :: os) st).insert "tr").withMode .inRow := by
  cases p <;> rfl

theorem add_endRow :
    (inPage d ok .inRow (openedAs i "tr" :: os) st).add (.endTag "tr") =
      inPage d ok .inTableBody os st := rfl

theorem add_startLooseRow :
    (inPage d ok .inTable (openedAs t "table" :: os) st).add (.startTag (.plain "tr")) =
      (((inPage d ok .inTable (openedAs t "table" :: os) st).insert "tbody").insert "tr").withMode
        .inRow := rfl

theorem add_startPart (p : Part) :
    (inPage d ok .inTable (openedAs t "table" :: os) st).add (.startTag (.plain p.name)) =
      ((inPage d ok .inTable (openedAs t "table" :: os) st).insert p.name).withMode
        .inTableBody := by
  cases p <;> rfl

/-- A part ends the part before it that has no end tag. -/
theorem add_startPart_after (p : Part) :
    (inPage d ok .inTableBody (openedAs i "tbody" :: openedAs t "table" :: os) st).add
        (.startTag (.plain p.name)) =
      ((inPage d ok .inTable (openedAs t "table" :: os) st).insert p.name).withMode
        .inTableBody := by
  cases p <;> rfl

theorem add_endPart (p : Part) :
    (inPage d ok .inTableBody (openedAs i p.name :: os) st).add (.endTag p.name) =
      inPage d ok .inTable os st := by
  cases p <;> rfl

theorem add_startTable :
    (inPage d ok .inBody bodyOpened st).add (.startTag (.plain "table")) =
      ((inPage d ok .inBody bodyOpened st).insert "table").noFrameset.withMode .inTable := rfl

theorem add_endTable :
    (inPage d ok .inTable (openedAs t "table" :: bodyOpened) st).add (.endTag "table") =
      inPage d ok .inBody bodyOpened st := rfl

theorem add_endTable_after :
    (inPage d ok .inTableBody (openedAs i "tbody" :: openedAs t "table" :: bodyOpened) st).add
        (.endTag "table") =
      inPage d ok .inBody bodyOpened st := rfl

theorem add_startProse :
    (inPage d ok .inBody bodyOpened st).add (.startTag (.plain "p")) =
      (inPage d ok .inBody bodyOpened st).insert "p" := rfl

theorem takesText_inProse : TakesText .inBody (openedAs i "p" :: os) [] :=
  fun _ _ _ => rfl

theorem add_endProse :
    (inPage d ok .inBody (openedAs i "p" :: os) st).add (.endTag "p") =
      inPage d ok .inBody os st := rfl

end Tags

/-! ### Reading -/

theorem PlainText.ne_null (t : PlainText) : ∀ c ∈ t.chars, c ≠ '\x00' :=
  fun c hc => (t.plain c hc).1

section Reading

variable {r : Reader} {d : Document} {os : List Opened} {i t : Nat}

theorem read_cell (h : InPage r d .inRow (openedAs i "tr" :: os) []) (hi : d.IsHolder i)
    (c : Cell) :
    InPage (r.readAll c.written) (d.grow i (.element c.name (.ofText c.label.chars) .nil)) .inRow
      (openedAs i "tr" :: os) [] := by
  have hstart : InPage (r.readAll (startTag c.name)) (d.addElement i c.name) .inCell
      (openedAs d.size c.name :: openedAs i "tr" :: os) [.border] := by
    refine h.startTag c.isTagName fun ok => ⟨ok,?_⟩
    rw [add_startCell,insert_inPage hi c.name_ne]
    rfl
  have htext := hstart.text (takesText_inCell _ [] _ c)
    (Document.isHolder_addElement d c.name_ne hi.lt) c.label.ne_null
  rw [Cell.written,tagged,Reader.readAll_append,Reader.readAll_append,Document.grow_single]
  exact htext.endTag c.isTagName fun ok => ⟨ok,add_endCell _ ok _ [] _ c⟩

theorem read_cells (h : InPage r d .inRow (openedAs i "tr" :: os) []) (hi : d.IsHolder i)
    (row : Row) :
    InPage (r.readAll (row.flatMap Cell.written)) (d.grow i (cellTrees row)) .inRow
      (openedAs i "tr" :: os) [] := by
  induction row generalizing r d with
  | nil => exact h
  | cons c cs ih =>
    rw [List.flatMap_cons,Reader.readAll_append,cellTrees,Document.grow_cons]
    exact ih (read_cell h hi c)
      (hi.grow (f := .element c.name _ .nil) ⟨c.name_ne,Forest.isPlain_ofText _,trivial⟩ hi.lt)

theorem read_row_inside (h : InPage r (d.addElement i "tr") .inRow (openedAs d.size "tr" :: os) [])
    (hi : d.IsHolder i) (row : Row) :
    InPage ((r.readAll (row.flatMap Cell.written)).readAll (endTag "tr"))
      (d.grow i (.element "tr" (cellTrees row) .nil)) .inTableBody os [] := by
  have hcells := read_cells h (Document.isHolder_addElement d (by decide) hi.lt) row
  rw [Document.grow_single]
  exact hcells.endTag (by decide) fun ok => ⟨ok,add_endRow _ ok _ [] _⟩

theorem read_row {p : Part} (h : InPage r d .inTableBody (openedAs i p.name :: os) [])
    (hi : d.IsHolder i) (row : Row) :
    InPage (r.readAll (writtenRow row)) (d.grow i (.element "tr" (cellTrees row) .nil))
      .inTableBody (openedAs i p.name :: os) [] := by
  rw [writtenRow,tagged,Reader.readAll_append,Reader.readAll_append]
  refine read_row_inside (h.startTag (by decide) fun ok => ⟨ok,?_⟩) hi row
  rw [add_startRow,insert_inPage hi (by decide)]
  rfl

theorem Document.IsHolder.growRow (hi : d.IsHolder i) (row : Row) :
    (d.grow i (.element "tr" (cellTrees row) .nil)).IsHolder i :=
  hi.grow ⟨by decide,isPlain_cellTrees row,trivial⟩ hi.lt

theorem read_rows {p : Part} (h : InPage r d .inTableBody (openedAs i p.name :: os) [])
    (hi : d.IsHolder i) (rows : List Row) :
    InPage (r.readAll (writtenRows rows)) (d.grow i (rowTrees rows)) .inTableBody
      (openedAs i p.name :: os) [] := by
  induction rows generalizing r d with
  | nil => exact h
  | cons row rows ih =>
    rw [writtenRows,List.flatMap_cons,Reader.readAll_append,rowTrees,Document.grow_cons]
    exact ih (read_row h hi row) (hi.growRow row)

/-- The reader stands in a table behind a part of it, whose end tag may be missing. -/
def BetweenParts (r : Reader) (d : Document) (t : Nat) (os : List Opened) : Prop :=
  InPage r d .inTable (openedAs t "table" :: os) [] ∨
    ∃ i, InPage r d .inTableBody (openedAs i "tbody" :: openedAs t "table" :: os) []

theorem read_loose (h : InPage r d .inTable (openedAs t "table" :: os) []) (ht : d.IsHolder t)
    (rows : List Row) :
    BetweenParts (r.readAll (writtenRows rows)) (d.grow t (looseTrees rows)) t os := by
  cases rows with
  | nil => exact .inl h
  | cons row rows =>
    -- the first row opens the part in which the others then stand
    have hbody : (d.addElement t "tbody").IsHolder d.size :=
      Document.isHolder_addElement d (by decide) ht.lt
    have hstart : InPage (r.readAll (startTag "tr"))
        ((d.addElement t "tbody").addElement d.size "tr") .inRow
        (openedAs (d.addElement t "tbody").size "tr" :: openedAs d.size "tbody" ::
          openedAs t "table" :: os) [] := by
      refine h.startTag (by decide) fun ok => ⟨ok,?_⟩
      rw [add_startLooseRow,insert_inPage ht (by decide),insert_inPage hbody (by decide)]
      rfl
    have hrow := read_row_inside hstart hbody row
    have hrows := read_rows (p := .body) hrow (hbody.growRow row) rows
    refine .inr ⟨d.size,?_⟩
    rw [looseTrees,rowTrees,Document.grow_single,Document.grow_cons,writtenRows,List.flatMap_cons,
      writtenRow,tagged,Reader.readAll_append,Reader.readAll_append,Reader.readAll_append]
    exact hrows

theorem BetweenParts.startPart (h : BetweenParts r d t os) (ht : d.IsHolder t) (p : Part) :
    InPage (r.readAll (startTag p.name)) (d.addElement t p.name) .inTableBody
      (openedAs d.size p.name :: openedAs t "table" :: os) [] := by
  obtain h | ⟨i,h⟩ := h
  · refine h.startTag p.isTagName fun ok => ⟨ok,?_⟩
    rw [add_startPart,insert_inPage ht p.name_ne]
    rfl
  · refine h.startTag p.isTagName fun ok => ⟨ok,?_⟩
    rw [add_startPart_after,insert_inPage ht p.name_ne]
    rfl

theorem read_group (h : BetweenParts r d t os) (ht : d.IsHolder t) (g : RowGroup) :
    BetweenParts (r.readAll g.written)
      ((d.grow t (.element g.part.name (rowTrees g.inside) .nil)).grow t (looseTrees g.behind))
      t os := by
  have hrows := read_rows (h.startPart ht g.part)
    (Document.isHolder_addElement d g.part.name_ne ht.lt) g.inside
  have hend := hrows.endTag g.part.isTagName fun ok => ⟨ok,add_endPart _ ok _ [] _ g.part⟩
  rw [← Document.grow_single] at hend
  rw [RowGroup.written,tagged,Reader.readAll_append,Reader.readAll_append,Reader.readAll_append]
  exact read_loose hend (ht.grow ⟨g.part.name_ne,isPlain_rowTrees _,trivial⟩ ht.lt) g.behind

theorem read_groups (h : BetweenParts r d t os) (ht : d.IsHolder t) (gs : List RowGroup) :
    BetweenParts (r.readAll (gs.flatMap RowGroup.written)) (d.grow t (groupTrees gs)) t os := by
  induction gs generalizing r d with
  | nil => exact h
  | cons g gs ih =>
    have hpart : Forest.IsPlain (.element g.part.name (rowTrees g.inside) .nil) :=
      ⟨g.part.name_ne,isPlain_rowTrees _,trivial⟩
    -- the table stays a holder while the part and the rows behind it grow in it
    have ht₁ := ht.grow hpart ht.lt
    have ht₂ := ht₁.grow (isPlain_looseTrees g.behind) ht₁.lt
    rw [List.flatMap_cons,Reader.readAll_append,groupTrees,Document.grow_cons,Document.grow_append]
    exact ih (read_group h ht g) ht₂

theorem BetweenParts.endTable (h : BetweenParts r d t bodyOpened) :
    InPage (r.readAll (endTag "table")) d .inBody bodyOpened [] := by
  obtain h | ⟨i,h⟩ := h
  · exact h.endTag (by decide) fun ok => ⟨ok,add_endTable d ok [] t⟩
  · exact h.endTag (by decide) fun ok => ⟨ok,add_endTable_after d ok [] i t⟩

theorem read_sheet (h : InPage r d .inBody bodyOpened []) (hb : d.IsHolder 3) (s : Sheet) :
    InPage (r.readAll s.written) (d.grow 3 (.element "table" s.trees .nil)) .inBody bodyOpened
      [] := by
  have hstart : InPage (r.readAll (startTag "table")) (d.addElement 3 "table") .inTable
      (openedAs d.size "table" :: bodyOpened) [] := by
    refine h.startTag (by decide) fun ok => ⟨false,?_⟩
    rw [add_startTable,bodyOpened,insert_inPage hb (by decide)]
    rfl
  have ht : (d.addElement 3 "table").IsHolder d.size :=
    Document.isHolder_addElement d (by decide) hb.lt
  have hfront := read_loose hstart ht s.front
  have hgroups := read_groups hfront (ht.grow (isPlain_looseTrees _) ht.lt) s.groups
  rw [Sheet.written,tagged,Reader.readAll_append,Reader.readAll_append,Reader.readAll_append,
    Document.grow_single,Sheet.trees,Document.grow_append]
  exact hgroups.endTable

theorem read_prose (h : InPage r d .inBody bodyOpened []) (hb : d.IsHolder 3) (x : PlainText) :
    InPage (r.readAll (tagged "p" (escape x.chars)))
      (d.grow 3 (.element "p" (.ofText x.chars) .nil)) .inBody bodyOpened [] := by
  have hstart : InPage (r.readAll (startTag "p")) (d.addElement 3 "p") .inBody
      (openedAs d.size "p" :: bodyOpened) [] := by
    refine h.startTag (by decide) fun ok => ⟨ok,?_⟩
    rw [add_startProse,bodyOpened,insert_inPage hb (by decide)]
    rfl
  have htext := hstart.text (takesText_inProse _ _)
    (Document.isHolder_addElement d (by decide) hb.lt) x.ne_null
  rw [tagged,Reader.readAll_append,Reader.readAll_append,Document.grow_single]
  exact htext.endTag (by decide) fun ok => ⟨ok,add_endProse _ ok _ [] _⟩

theorem read_blocks (h : InPage r d .inBody bodyOpened []) (hb : d.IsHolder 3)
    (page : List Block) :
    InPage (r.readAll (writtenPage page)) (d.grow 3 (pageTrees page)) .inBody bodyOpened [] := by
  induction page generalizing r d with
  | nil => exact h
  | cons b page ih =>
    cases b with
    | prose x =>
      rw [writtenPage,List.flatMap_cons,Reader.readAll_append,pageTrees,Document.grow_cons]
      exact ih (read_prose h hb x)
        (hb.grow ⟨by decide,Forest.isPlain_ofText _,trivial⟩ hb.lt)
    | table s =>
      rw [writtenPage,List.flatMap_cons,Reader.readAll_append,pageTrees,Document.grow_cons]
      exact ih (read_sheet h hb s) (hb.grow ⟨by decide,isPlain_trees s,trivial⟩ hb.lt)

end Reading

/-! ### The whole page -/

def opening : Document :=
  Document.empty.grow Document.root
    (.element "html" (.element "head" .nil (.element "body" .nil .nil)) .nil)

def Reader.opening : Reader :=
  ⟨.text .markup,"",inPage Html.opening true .inBody bodyOpened []⟩

/-- The first tag of a page opens its body. -/
theorem readAll_start {name : String} (hname : name = "p" ∨ name = "table") (cs : List Char) :
    Reader.start.readAll (startTag name ++ cs) = Reader.opening.readAll (startTag name ++ cs) := by
  have htag : IsTagName name := by rcases hname with rfl | rfl <;> decide
  rw [Reader.readAll_append,Reader.readAll_append,startTag,Reader.readAll_writtenTag rfl false htag,
    Reader.readAll_writtenTag rfl false htag]
  -- the empty page opens head and body before it looks at the tag again
  congr 1
  rcases hname with rfl | rfl <;> rfl

theorem page_end {r : Reader} {d : Document} (h : InPage r d .inBody bodyOpened []) :
    (r.flush.page.add .eof).document = d := by
  obtain ⟨ok,hplace,hpage⟩ := h
  have hflush : r.flush = r := by rw [Reader.flush,hplace]
  rw [hflush,hpage]
  rfl

theorem isHolder_opening : opening.IsHolder 3 := by
  refine ⟨by decide,?_⟩
  decide

theorem document_of_writtenPage (page : List Block) :
    ((Reader.start.readAll (writtenPage page)).flush.page.add .eof).document =
      opening.grow 3 (pageTrees page) := by
  have hopening : InPage Reader.opening opening .inBody bodyOpened [] := ⟨true,rfl,rfl⟩
  cases page with
  | nil => rfl
  | cons b page =>
    have hread := read_blocks hopening isHolder_opening (b :: page)
    rw [← page_end hread]
    cases b with
    | prose x =>
      rw [writtenPage,List.flatMap_cons,Block.written,tagged,List.append_assoc,List.append_assoc,
        readAll_start (.inl rfl)]
    | table s =>
      rw [writtenPage,List.flatMap_cons,Block.written,Sheet.written,tagged,List.append_assoc,
        List.append_assoc,readAll_start (.inr rfl)]

theorem PlainText.return_notMem (t : PlainText) : '\r' ∉ t.chars :=
  fun h => (t.plain _ h).2 rfl

theorem return_notMem_flatMap {α : Type} {f : α → List Char} (h : ∀ x, '\r' ∉ f x) (xs : List α) :
    '\r' ∉ xs.flatMap f := by
  intro hmem
  obtain ⟨x,-,hx⟩ := List.mem_flatMap.mp hmem
  exact h x hx

theorem Cell.return_notMem (c : Cell) : '\r' ∉ c.written :=
  return_notMem_tagged c.isTagName (return_notMem_escape c.label.return_notMem)

theorem return_notMem_writtenRows (rows : List Row) : '\r' ∉ writtenRows rows :=
  return_notMem_flatMap
    (fun row => return_notMem_tagged (by decide) (return_notMem_flatMap Cell.return_notMem row)) rows

theorem RowGroup.return_notMem (g : RowGroup) : '\r' ∉ g.written :=
  List.not_mem_append (return_notMem_tagged g.part.isTagName (return_notMem_writtenRows _))
    (return_notMem_writtenRows _)

theorem Block.return_notMem (b : Block) : '\r' ∉ b.written := by
  cases b with
  | prose t => exact return_notMem_tagged (by decide) (return_notMem_escape t.return_notMem)
  | table s =>
    exact return_notMem_tagged (by decide)
      (List.not_mem_append (return_notMem_writtenRows _)
        (return_notMem_flatMap RowGroup.return_notMem _))

theorem head?_writtenPage (page : List Block) : ∀ c ∈ (writtenPage page).head?, c = '<' := by
  cases page with
  | nil => simp [writtenPage]
  | cons b page =>
    cases b <;> simp [writtenPage,Block.written,Sheet.written,tagged,startTag,writtenTag]

/-- Reading a page that was written builds the trees that it stands for. -/
theorem Document.ofPage_writtenPage (page : List Block) :
    Document.ofPage (writtenPage page) = opening.grow 3 (pageTrees page) := by
  have hmark : dropOrderMark (writtenPage page) = writtenPage page :=
    dropOrderMark_eq_self fun c hc => by
      rw [head?_writtenPage page c hc]
      decide
  have hlines : uniformLines (writtenPage page) = writtenPage page :=
    uniformLines_eq_self (return_notMem_flatMap Block.return_notMem page)
  rw [Document.ofPage,hmark,hlines,document_of_writtenPage]

end RegionAudit.Html
