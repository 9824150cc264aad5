import Mathlib.Data.List.Basic
import Mathlib.Logic.Relation
import RegionAudit.Proofs.Html.Selection
import RegionAudit.Proofs.Html.Writing
import RegionAudit.Proofs.Listing.Columns
import RegionAudit.Proofs.Lookup

/-! Tables within tables. A table is read with all rows and cells at any depth, so the rows of a table that
stands in one of its cells count as its own, and the columns of the two get mixed up. -/
namespace RegionAudit

namespace Html.Document

def Contains (d : Document) : Nat → Nat → Prop :=
  Relation.TransGen fun a b => Content.node b ∈ d.contents a

def HasTableInside (d : Document) (id : Nat) : Prop :=
  ∃ t, d.Contains id t ∧ d.isNamed "table" t = true

/-- What stands below a node but not in a table below it. -/
def ownBelow (d : Document) : Nat → Nat → List Content
  | 0, _ => []
  | depth+1, id =>
    (d.contents id).reverse.flatMap fun
      | .node child =>
        .node child :: if d.isNamed "table" child then [] else d.ownBelow depth child
      | .char c => [.char c]

def ownNamed (d : Document) (names : List String) (id : Nat) : List Nat :=
  (d.ownBelow d.size id).filterMap (d.named? names)

theorem contains_of_mem_below {d : Document} {depth id child : Nat}
    (h : Content.node child ∈ d.below depth id) : d.Contains id child := by
  induction depth generalizing id with
  | zero => simp [below] at h
  | succ depth ih =>
    rw [below_succ,List.mem_flatMap] at h
    obtain ⟨item,hitem,h⟩ := h
    cases item with
    | char c => simp [expand] at h
    | node x =>
      have hx : Content.node x ∈ d.contents id := List.mem_reverse.mp hitem
      rcases List.mem_cons.mp h with heq | hbelow
      · cases heq
        exact .single hx
      · exact .head hx (ih hbelow)

theorem contains_of_mem_descendantsNamed {d : Document} {names : List String} {id child : Nat}
    (h : child ∈ d.descendantsNamed names id) : d.Contains id child := by
  rw [descendantsNamed_eq,List.mem_filterMap] at h
  obtain ⟨item,hitem,hname⟩ := h
  exact contains_of_mem_below (eq_node_of_named? hname ▸ hitem)

/-- Without tables inside, all that stands below a node belongs to it. -/
theorem ownBelow_eq_below {d : Document} {id : Nat} (h : ¬ d.HasTableInside id) (depth : Nat) :
    d.ownBelow depth id = d.below depth id := by
  induction depth generalizing id with
  | zero => rfl
  | succ depth ih =>
    rw [ownBelow,below_succ]
    refine List.flatMap_congr fun item hitem => ?_
    cases item with
    | char c => rfl
    | node child =>
      have hchild : d.Contains id child := .single (List.mem_reverse.mp hitem)
      have htable : d.isNamed "table" child = false :=
        Bool.not_eq_true _ ▸ fun ht => h ⟨child,hchild,ht⟩
      have hinside : ¬ d.HasTableInside child := fun ⟨t,hc,ht⟩ => h ⟨t,hchild.trans hc,ht⟩
      simp only [htable,expand,ih hinside]
      rfl

theorem ownNamed_eq_descendantsNamed {d : Document} {id : Nat} (h : ¬ d.HasTableInside id)
    (names : List String) : d.ownNamed names id = d.descendantsNamed names id := by
  rw [ownNamed,ownBelow_eq_below h,descendantsNamed_eq,descendants]

end Html.Document

namespace Listing

open Html (Document)

def allTexts (d : Document) (table : Nat) : Texts :=
  (d.descendantsNamed ["tr"] table).map fun row => (d.descendantsNamed ["th","td"] row).map d.text

/-- The texts of the cells that belong to a table itself. -/
def ownTexts (d : Document) (table : Nat) : Texts :=
  (d.ownNamed ["tr"] table).map fun row => (d.ownNamed ["th","td"] row).map d.text

def IsMarked (d : Document) (id : String) : Prop :=
  ∃ t, d.isNamed "table" t = true ∧ ∃ c, MarksColumn (ownTexts d t) c id

/-- Whether every region that is read from a page is marked in a table's own rows. -/
def ColumnsApart (page : List Char) : Prop :=
  ∀ url rs, regions .digitalocean url page = .ok rs →
    ∀ r ∈ rs, IsMarked (Document.ofPage page) r.id

theorem gridOf_eq (d : Document) (t : Nat) :
    gridOf d t = (allTexts d t).map fun row => row.map Text.trim := by
  simp [gridOf,allTexts,Function.comp_def]

theorem ownTexts_eq_allTexts {d : Document} {t : Nat} (h : ¬ d.HasTableInside t) :
    ownTexts d t = allTexts d t := by
  rw [ownTexts,allTexts,Document.ownNamed_eq_descendantsNamed h]
  refine List.map_congr_left fun row hrow => ?_
  have hinside : ¬ d.HasTableInside row := fun ⟨x,hc,hx⟩ =>
    h ⟨x,(Document.contains_of_mem_descendantsNamed hrow).trans hc,hx⟩
  rw [Document.ownNamed_eq_descendantsNamed hinside]

theorem mem_elementsNamed {d : Document} {name : String} {id : Nat} :
    id ∈ d.elementsNamed name ↔ d.isNamed name id = true := by
  have hnamed : d.elementsNamed name = (List.range d.size).filter (d.isNamed name) := rfl
  rw [hnamed,List.mem_filter,List.mem_range]
  exact ⟨And.right,fun h => ⟨Document.lt_size_of_isNamed h,h⟩⟩

theorem mem_availabilityIds {page : List Char} {id : String} :
    id ∈ availabilityIds page ↔ HasRegionForm id.toList ∧
      ∃ t, (Document.ofPage page).isNamed "table" t = true ∧
        ∃ c, MarksColumn (allTexts (Document.ofPage page) t) c id := by
  simp only [availabilityIds,grids,List.flatMap_map,List.mem_flatMap,mem_elementsNamed,gridOf_eq,
    gridIds_trim,mem_tableIds_iff]
  constructor
  · rintro ⟨t,ht,hform,c,hc⟩
    exact ⟨hform,t,ht,c,hc⟩
  · rintro ⟨hform,t,ht,c,hc⟩
    exact ⟨t,ht,hform,c,hc⟩

theorem columnsApart_iff_ids {page : List Char} :
    ColumnsApart page ↔ ∀ id ∈ availabilityIds page, IsMarked (Document.ofPage page) id := by
  have hregions : ∀ url, regions .digitalocean url page = regionsOf url (availabilityIds page) :=
    fun _ => rfl
  constructor
  · intro h id hid
    have hok := regionsOf_of_ne_nil "" (List.ne_nil_of_mem hid)
    exact h "" _ ((hregions "").trans hok) ⟨id⟩ (Region.mem_ofIds.mpr hid)
  · intro h url rs hrs r hr
    rw [hregions] at hrs
    obtain ⟨-,rfl⟩ := regionsOf_ok hrs
    exact h r.id (Region.mem_ofIds.mp hr)

/-- Columns are kept apart exactly if whatever the rows in reach of a table with a table inside mark
together is also marked in the own rows of some table. -/
theorem columnsApart_iff (page : List Char) :
    ColumnsApart page ↔
      ∀ t, (Document.ofPage page).isNamed "table" t = true →
        (Document.ofPage page).HasTableInside t →
        ∀ c id, HasRegionForm id.toList → MarksColumn (allTexts (Document.ofPage page) t) c id →
          IsMarked (Document.ofPage page) id := by
  rw [columnsApart_iff_ids]
  constructor
  · intro h t ht _ c id hform hc
    exact h id (mem_availabilityIds.mpr ⟨hform,t,ht,c,hc⟩)
  · intro h id hid
    obtain ⟨hform,t,ht,c,hc⟩ := mem_availabilityIds.mp hid
    by_cases hinside : (Document.ofPage page).HasTableInside t
    · exact h t ht hinside c id hform hc
    · exact ⟨t,ht,c,by rwa [ownTexts_eq_allTexts hinside]⟩

def writtenCells (texts : List String) : List Char :=
  Html.tagged "tr" (texts.flatMap fun t => Html.tagged "td" t.toList)

/-- A page on which a table stands in the only cell of another. It says that `nyc3` has object storage and
that `nyc1` has none. -/
def layoutPage : List Char :=
  Html.tagged "table" (Html.tagged "tr" (Html.tagged "td" (Html.tagged "table"
    (writtenCells ["Product","NYC1","NYC3"] ++ writtenCells ["Droplets","x","x"] ++
      writtenCells ["Spaces","","x"]))))

/-- The cell around the inner table shifts its heading by one column, and `nyc1` gets the mark of `nyc3`. No
cell spans several columns. -/
theorem layoutPage_mixes_columns :
    ¬ "span".toList <:+: layoutPage ∧ ¬ ColumnsApart layoutPage := by
  -- not even the last letter of the word is on the page
  have hspan : 'n' ∉ layoutPage := by decide +kernel
  have hread : "nyc1" ∈ availabilityIds layoutPage ∧
      ∀ t ∈ (Document.ofPage layoutPage).elementsNamed "table",
        "nyc1" ∉ tableIds (ownTexts (Document.ofPage layoutPage) t) := by
    decide +kernel
  refine ⟨fun h => hspan (h.subset (by decide)),fun h => ?_⟩
  obtain ⟨t,ht,c,hc⟩ := columnsApart_iff_ids.mp h "nyc1" hread.1
  exact hread.2 t (mem_elementsNamed.mpr ht) (mem_tableIds_iff.mpr ⟨by decide,c,hc⟩)

end Listing

end RegionAudit
