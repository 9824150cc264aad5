import RegionAudit.Proofs.Html.TablePage
import RegionAudit.Proofs.Listing.Columns
import RegionAudit.Proofs.Lookup

/-! The regions of a page that was written from paragraphs and tables: reading it back finds the columns that
the tables mark. -/
namespace RegionAudit

namespace Html

/-! ### What a page says -/

/-- All rows of a table, whether they are written in a part of it or in none. -/
def Sheet.rows (s : Sheet) : List Row :=
  s.front ++ s.groups.flatMap fun g => g.inside ++ g.behind

def Sheet.texts (s : Sheet) : Listing.Texts :=
  s.rows.map fun row => row.map fun c => c.label.chars

def sheets (page : List Block) : List Sheet :=
  page.filterMap fun
    | .prose _ => none
    | .table s => some s

/-- The regions that the tables of a page mark, table by table. -/
def pageIds (page : List Block) : List String :=
  (sheets page).flatMap fun s => Listing.tableIds s.texts

/-! ### What stands in the trees -/

theorem within_cellTrees (names : List String) (row : Row) :
    (cellTrees row).within names =
      (row.filter fun c => c.name ∈ names).map fun c => .ofText c.label.chars := by
  induction row with
  | nil => rfl
  | cons c cs ih => by_cases h : c.name ∈ names <;> simp [cellTrees,Forest.within,ih,h]

theorem Cell.name_eq (c : Cell) : c.name = "th" ∨ c.name = "td" := by
  unfold name
  split <;> simp

theorem cells_within_cellTrees (row : Row) :
    (cellTrees row).within ["th","td"] = row.map fun c => .ofText c.label.chars := by
  rw [within_cellTrees,List.filter_eq_self.mpr]
  exact fun c _ => by simpa using c.name_eq

theorem within_cellTrees_eq_nil {names : List String} (h : "th" ∉ names ∧ "td" ∉ names) (row : Row) :
    (cellTrees row).within names = [] := by
  rw [within_cellTrees,List.filter_eq_nil_iff.mpr]
  · rfl
  · intro c _
    rcases c.name_eq with hc | hc
    · simpa [hc] using h.1
    · simpa [hc] using h.2

theorem within_rowTrees (names : List String) (rows : List Row) :
    (rowTrees rows).within names = rows.flatMap fun row =>
      (if "tr" ∈ names then [cellTrees row] else []) ++ (cellTrees row).within names := by
  induction rows with
  | nil => rfl
  | cons row rows ih => rw [rowTrees,Forest.within,ih,List.flatMap_cons]

/-- Parts make no difference to the rows of a table. -/
theorem within_looseTrees {names : List String} (h : "tbody" ∉ names) (rows : List Row) :
    (looseTrees rows).within names = (rowTrees rows).within names := by
  cases rows with
  | nil => rfl
  | cons row rows => simp [looseTrees,Forest.within,h]

theorem within_groupTrees {names : List String} (hhead : "thead" ∉ names) (hbody : "tbody" ∉ names)
    (gs : List RowGroup) :
    (groupTrees gs).within names =
      (rowTrees (gs.flatMap fun g => g.inside ++ g.behind)).within names := by
  induction gs with
  | nil => rfl
  | cons g gs ih =>
    have hpart : g.part.name ∉ names := by
      cases g.part
      · exact hhead
      · exact hbody
    rw [groupTrees,Forest.within,if_neg hpart,Forest.within_append,within_looseTrees hbody,ih,
      List.flatMap_cons]
    simp only [within_rowTrees,List.flatMap_append,List.nil_append,List.append_assoc]

theorem Sheet.within_trees {names : List String} (hhead : "thead" ∉ names) (hbody : "tbody" ∉ names)
    (s : Sheet) : s.trees.within names = (rowTrees s.rows).within names := by
  rw [trees,Forest.within_append,within_looseTrees hbody,within_groupTrees hhead hbody,rows]
  simp only [within_rowTrees,List.flatMap_append]

theorem Sheet.rows_within_trees (s : Sheet) : s.trees.within ["tr"] = s.rows.map cellTrees := by
  have hcells : ∀ row, (cellTrees row).within ["tr"] = [] := within_cellTrees_eq_nil (by decide)
  rw [s.within_trees (by decide) (by decide),within_rowTrees,List.map_eq_flatMap]
  simp [hcells]

theorem Sheet.tables_within_trees (s : Sheet) : s.trees.within ["table"] = [] := by
  have hcells : ∀ row, (cellTrees row).within ["table"] = [] := within_cellTrees_eq_nil (by decide)
  rw [s.within_trees (by decide) (by decide),within_rowTrees]
  simp [hcells]

theorem tables_within_pageTrees (page : List Block) :
    (pageTrees page).within ["table"] = (sheets page).map Sheet.trees := by
  induction page with
  | nil => rfl
  | cons b page ih =>
    cases b with
    | prose t => simpa [pageTrees,Forest.within,sheets] using ih
    | table s => simpa [pageTrees,Forest.within,sheets,s.tables_within_trees] using ih

/-! ### What is found in the document -/

def Forest.texts (f : Forest) : Listing.Texts :=
  (f.within ["tr"]).map fun row => (row.within ["th","td"]).map Forest.text

theorem Sheet.texts_trees (s : Sheet) : s.trees.texts = s.texts := by
  rw [Forest.texts,s.rows_within_trees,texts,List.map_map]
  refine List.map_congr_left fun row _ => ?_
  rw [Function.comp_apply,cells_within_cellTrees,List.map_map]
  exact List.map_congr_left fun c _ => Forest.text_ofText _

namespace Document

theorem Holds.gridOf_eq {d : Document} {id : Nat} {inside : Forest} (h : d.Holds id inside) :
    Listing.gridOf d id = inside.texts.map fun row => row.map Text.trim := by
  have hcells : ∀ row trees, d.Holds row trees →
      ((d.descendantsNamed ["th","td"] row).map fun cell => Text.trim (d.text cell)) =
        (trees.within ["th","td"]).map fun cell => Text.trim cell.text := fun row trees hrow =>
    hrow.map_descendantsNamed _ fun cell inside hcell => by rw [hcell.text_eq]
  rw [Listing.gridOf,h.map_descendantsNamed _ hcells,Forest.texts,List.map_map]
  refine List.map_congr_left fun row _ => ?_
  rw [Function.comp_apply,List.map_map]
  rfl

theorem map_tables {α : Type} {f : Forest} (hf : f.IsPlain) {a : Nat → α} {b : Forest → α}
    (hab : ∀ id inside, (opening.grow 3 f).Holds id inside → a id = b inside) :
    ((opening.grow 3 f).elementsNamed "table").map a = (f.within ["table"]).map b := by
  obtain ⟨hsize,-,-,hshows⟩ := grown opening 3 f hf isHolder_opening.lt
  have hfour : opening.size = 4 := by decide
  -- no table is among the four nodes of the empty page
  have hold : (List.range 4).filter ((opening.grow 3 f).isNamed "table") = [] := by
    have hnone : ∀ i < 4, opening.isNamed "table" i = false := by decide
    rw [List.filter_eq_nil_iff]
    intro i hi
    have hlt : i < opening.size := by rw [hfour]; exact List.mem_range.mp hi
    rw [isNamed,element?_grow opening hf isHolder_opening.lt hlt,← isNamed,
      hnone i (List.mem_range.mp hi)]
    exact Bool.false_ne_true
  rw [hfour] at hsize hshows
  have hsplit : List.range (4 + f.count) = List.range 4 ++ List.range' 4 f.count := by
    rw [List.range_eq_range',List.range_eq_range',← List.range'_append_1]
  have htables : (opening.grow 3 f).elementsNamed "table" =
      (List.range (opening.grow 3 f).size).filter ((opening.grow 3 f).isNamed "table") := rfl
  rw [← hshows.map_range' "table" hab,htables,hsize,hsplit,List.filter_append,hold,
    List.nil_append]

end Document

end Html

namespace Listing

open Html (Block writtenPage pageIds pageTrees)

theorem availabilityIds_writtenPage (page : List Block) :
    availabilityIds (writtenPage page) = pageIds page := by
  have hgrids : grids (writtenPage page) =
      (Html.sheets page).map fun s => s.texts.map fun row => row.map Text.trim := by
    rw [grids,Html.Document.ofPage_writtenPage,Html.Document.map_tables (Html.isPlain_pageTrees page)
      fun id inside h => h.gridOf_eq,Html.tables_within_pageTrees,List.map_map]
    exact List.map_congr_left fun s _ => by rw [Function.comp_apply,s.texts_trees]
  simp only [availabilityIds,hgrids,List.flatMap_map,gridIds_trim,pageIds]

/-- Reading a written page gives the regions that its tables mark, in the order in which they are first
marked. -/
theorem regions_writtenPage (url : String) (page : List Block) :
    regions .digitalocean url (writtenPage page) =
      if pageIds page = [] then .error (.noRegions url)
      else .ok ((pageIds page).eraseDups.map Region.mk) := by
  have hids : ids .digitalocean url (writtenPage page) = .ok (pageIds page) := by
    rw [ids,availabilityIds_writtenPage]
  rw [regions,hids]
  by_cases h : pageIds page = []
  · rw [if_pos h,h]
    rfl
  · rw [if_neg h,← Region.ofIds_eq_eraseDups]
    exact regionsOf_of_ne_nil url h

end Listing

end RegionAudit
