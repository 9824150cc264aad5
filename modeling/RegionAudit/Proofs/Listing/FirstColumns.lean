import RegionAudit.Proofs.Listing.NestedTables

/-! Where the regions of a page come from. A region is found in a column of a table, told by two numbers, and the
regions stand in the order of the first columns that yield them. So nothing else on a page counts: not the other rows
of a table, nor its other columns, nor tables without a row for object storage, nor what is in no table. -/
namespace RegionAudit

namespace Html.Document

def InTables (d : Document) (id : Nat) : Prop :=
  d.isNamed "table" id = true ∨ ∃ t, d.isNamed "table" t = true ∧ d.Contains t id

/-- Documents of the same elements that have the same contents wherever there is a table. What stands elsewhere may
differ, so long as it makes no elements. -/
structure AgreeInTables (d d' : Document) : Prop where
  size : d.size = d'.size
  elements : ∀ id, d.element? id = d'.element? id
  contents : ∀ id, d.InTables id → d.contents id = d'.contents id

theorem InTables.below {d : Document} {id child : Nat} (h : d.InTables id) (hchild : d.Contains id child) :
    d.InTables child := by
  rcases h with htable | ⟨t,htable,hid⟩
  · exact .inr ⟨id,htable,hchild⟩
  · exact .inr ⟨t,htable,hid.trans hchild⟩

section Agree
variable {d d' : Document} (h : d.AgreeInTables d')
include h

theorem AgreeInTables.below_eq {id : Nat} (hid : d.InTables id) (depth : Nat) :
    d.below depth id = d'.below depth id := by
  induction depth generalizing id with
  | zero => rfl
  | succ depth ih =>
    rw [below_succ,below_succ,← h.contents id hid]
    refine List.flatMap_congr fun item hitem => ?_
    cases item with
    | char c => rfl
    | node child => rw [expand,expand,ih (hid.below (.single (List.mem_reverse.mp hitem)))]

theorem AgreeInTables.descendants_eq {id : Nat} (hid : d.InTables id) : d.descendants id = d'.descendants id := by
  rw [descendants,descendants,← h.size,h.below_eq hid]

theorem AgreeInTables.descendantsNamed_eq {id : Nat} (hid : d.InTables id) (names : List String) :
    d.descendantsNamed names id = d'.descendantsNamed names id := by
  have hnamed : d.named? names = d'.named? names := by
    funext item
    cases item with
    | char c => rfl
    | node child => rw [named?,named?,h.elements]
  rw [Document.descendantsNamed_eq,Document.descendantsNamed_eq,h.descendants_eq hid,hnamed]

theorem AgreeInTables.text_eq {id : Nat} (hid : d.InTables id) : d.text id = d'.text id := by
  rw [text,text,h.descendants_eq hid]

theorem AgreeInTables.elementsNamed_eq (name : String) : d.elementsNamed name = d'.elementsNamed name := by
  simp only [elementsNamed,h.size,h.elements]

theorem AgreeInTables.gridOf_eq {t : Nat} (ht : d.InTables t) : Listing.gridOf d t = Listing.gridOf d' t := by
  rw [Listing.gridOf,Listing.gridOf,← h.descendantsNamed_eq ht]
  refine List.map_congr_left fun row hrow => ?_
  have hrow := ht.below (contains_of_mem_descendantsNamed hrow)
  rw [← h.descendantsNamed_eq hrow]
  refine List.map_congr_left fun cell hcell => ?_
  rw [h.text_eq (hrow.below (contains_of_mem_descendantsNamed hcell))]

end Agree

end Html.Document

namespace Listing

open Html (Document)
open Text (lower)

/-! ### Columns that yield a region -/

def IsStorage (row : List (List Char)) : Prop :=
  ∃ label, row[0]? = some label ∧ label.map Char.toLower = "spaces".toList

/-- A row is the first one for object storage below the heading of a table. -/
def FirstStorage (table : Grid) (marks : List (List Char)) : Prop :=
  ∃ i, 1 ≤ i ∧ table[i]? = some marks ∧ IsStorage marks ∧
    ∀ j row, 1 ≤ j → j < i → table[j]? = some row → ¬ IsStorage row

/-- A column of a table, by the number of the table and its own, yields an identifier: it is not the first, its
heading is the identifier but for its case, and its mark is not empty. -/
inductive Yields (tables : List Grid) (place : Nat × Nat) (id : String) : Prop
  | marked {table : Grid} {header marks : List (List Char)} {label mark : List Char}
      (table_at : tables[place.1]? = some table) (heading : table[0]? = some header)
      (first : FirstStorage table marks) (column : 1 ≤ place.2) (label_at : header[place.2]? = some label)
      (named : lower label = id.toList) (form : HasRegionForm id.toList) (mark_at : marks[place.2]? = some mark)
      (filled : mark ≠ [])

def Before (p q : Nat × Nat) : Prop :=
  p.1 < q.1 ∨ p.1 = q.1 ∧ p.2 < q.2

def YieldsFirst (tables : List Grid) (place : Nat × Nat) (id : String) : Prop :=
  Yields tables place id ∧ ∀ other, Yields tables other id → other = place ∨ Before place other

theorem isStorageRow_iff {row : List (List Char)} : isStorageRow row = true ↔ IsStorage row := by
  have hlower : "spaces".toList.map Char.toLower = "spaces".toList := by decide
  cases row with
  | nil => simp [isStorageRow,IsStorage]
  | cons label row =>
    rw [isStorageRow,Text.sameIgnoringBasicCase,hlower,decide_eq_true_eq]
    constructor
    · intro h
      exact ⟨label,rfl,h⟩
    · rintro ⟨found,hfound,h⟩
      exact Option.some.inj hfound ▸ h

theorem isStorageRow_eq_false_iff {row : List (List Char)} : isStorageRow row = false ↔ ¬ IsStorage row := by
  rw [← isStorageRow_iff,Bool.not_eq_true]

theorem firstStorage_cons_iff {header marks : List (List Char)} {body : Grid} :
    FirstStorage (header :: body) marks ↔ body.find? isStorageRow = some marks := by
  rw [List.find?_eq_some_iff_getElem,isStorageRow_iff]
  constructor
  · rintro ⟨i,hi,hrow,hstorage,hfirst⟩
    obtain ⟨k,rfl⟩ : ∃ k, i = k+1 := ⟨i-1,by omega⟩
    obtain ⟨hk,hget⟩ := List.getElem?_eq_some_iff.mp (List.getElem?_cons_succ ▸ hrow)
    refine ⟨hstorage,k,hk,hget,fun j hj => ?_⟩
    have hj' : (header :: body)[j+1]? = some body[j] := by simp
    simpa [isStorageRow_eq_false_iff] using hfirst (j+1) body[j] (by omega) (by omega) hj'
  · rintro ⟨hstorage,i,hi,hget,hfirst⟩
    refine ⟨i+1,by omega,by simp [hi,hget],hstorage,fun j row hj hji hrow => ?_⟩
    obtain ⟨k,rfl⟩ : ∃ k, j = k+1 := ⟨j-1,by omega⟩
    obtain ⟨hk,rfl⟩ := List.getElem?_eq_some_iff.mp (List.getElem?_cons_succ ▸ hrow)
    simpa [isStorageRow_eq_false_iff] using hfirst k (by omega)

theorem column?_eq_some_iff {label mark : List Char} {id : String} :
    column? label mark = some id ↔ lower label = id.toList ∧ HasRegionForm id.toList ∧ mark ≠ [] := by
  have hnamed : String.ofList (lower label) = id ↔ lower label = id.toList := by
    rw [← String.toList_inj,String.toList_ofList]
  simp only [column?,Bool.and_eq_true,isSlug_iff,Bool.not_eq_true',List.isEmpty_eq_false_iff,
    Option.ite_none_right_eq_some,Option.some.injEq,hnamed]
  constructor
  · rintro ⟨⟨hform,hfilled⟩,hsame⟩
    exact ⟨hsame,hsame ▸ hform,hfilled⟩
  · rintro ⟨hsame,hform,hfilled⟩
    exact ⟨⟨hsame ▸ hform,hfilled⟩,hsame⟩

theorem columnAt?_eq_some_iff {header marks : List (List Char)} {c : Nat} {id : String} :
    columnAt? header marks c = some id ↔ ∃ label mark, 1 ≤ c ∧ header[c]? = some label ∧ lower label = id.toList ∧
      HasRegionForm id.toList ∧ marks[c]? = some mark ∧ mark ≠ [] := by
  by_cases hzero : c = 0
  · simp [columnAt?,hzero]
  · simp only [columnAt?,if_neg hzero,Option.bind_eq_some_iff,column?_eq_some_iff]
    constructor
    · rintro ⟨label,hlabel,mark,hmark,hnamed,hform,hfilled⟩
      exact ⟨label,mark,by omega,hlabel,hnamed,hform,hmark,hfilled⟩
    · rintro ⟨label,mark,-,hlabel,hnamed,hform,hmark,hfilled⟩
      exact ⟨label,hlabel,mark,hmark,hnamed,hform,hfilled⟩

def yield? (table : Grid) (c : Nat) : Option String :=
  match table with
  | [] => none
  | header :: body => (body.find? isStorageRow).bind fun marks => columnAt? header marks c

theorem yield?_of_firstStorage {table : Grid} {header marks : List (List Char)} (hheader : table[0]? = some header)
    (hmarks : FirstStorage table marks) : yield? table = columnAt? header marks := by
  cases table with
  | nil => cases hheader
  | cons first body =>
    obtain rfl := Option.some.inj hheader
    funext c
    rw [yield?,firstStorage_cons_iff.mp hmarks,Option.bind_some]

theorem yield?_eq_some_iff {tables : List Grid} {table : Grid} {t c : Nat} {id : String}
    (h : tables[t]? = some table) : yield? table c = some id ↔ Yields tables (t,c) id := by
  cases table with
  | nil =>
    constructor
    · intro hyield
      cases hyield
    · rintro ⟨htable,hheading⟩
      obtain rfl := Option.some.inj (h.symm.trans htable)
      cases hheading
  | cons header body =>
    simp only [yield?,Option.bind_eq_some_iff,columnAt?_eq_some_iff]
    constructor
    · rintro ⟨marks,hfirst,label,mark,hc,hlabel,hnamed,hform,hmark,hfilled⟩
      exact .marked h rfl (firstStorage_cons_iff.mpr hfirst) hc hlabel hnamed hform hmark hfilled
    · intro hyields
      cases hyields with
      | marked htable hheading hfirst hc hlabel hnamed hform hmark hfilled =>
        obtain rfl := Option.some.inj (h.symm.trans htable)
        obtain rfl := Option.some.inj hheading
        exact ⟨_,firstStorage_cons_iff.mp hfirst,_,_,hc,hlabel,hnamed,hform,hmark,hfilled⟩

theorem gridIds_eq_range {table : Grid} {n : Nat} (h : (table.headD []).length ≤ n) :
    gridIds table = (List.range n).filterMap (yield? table) := by
  cases table with
  | nil =>
    exact (List.filterMap_eq_nil_iff.mpr fun c _ => rfl).symm
  | cons header body =>
    rw [gridIds]
    cases hfind : body.find? isStorageRow with
    | none => exact (List.filterMap_eq_nil_iff.mpr fun c _ => by rw [yield?,hfind]; rfl).symm
    | some marks =>
      rw [yield?_of_firstStorage rfl (firstStorage_cons_iff.mpr hfind)]
      exact markedColumns_eq_range header marks h

/-! ### All columns, table by table -/

def placed? (t : Nat) (table : Grid) (c : Nat) : Option ((Nat × Nat) × String) :=
  (yield? table c).map ((t,c),·)

def yields (tables : List Grid) : List ((Nat × Nat) × String) :=
  tables.zipIdx.flatMap fun (table,t) => (List.range (table.headD []).length).filterMap (placed? t table)

theorem placed?_eq_some_iff {table : Grid} {t c : Nat} {place : Nat × Nat} {id : String} :
    placed? t table c = some (place,id) ↔ place = (t,c) ∧ yield? table c = some id := by
  simp only [placed?,Option.map_eq_some_iff,Prod.mk.injEq]
  constructor
  · rintro ⟨_,hyield,rfl,rfl⟩
    exact ⟨rfl,hyield⟩
  · rintro ⟨rfl,hyield⟩
    exact ⟨id,hyield,rfl,rfl⟩

theorem mem_yields_iff {tables : List Grid} {place : Nat × Nat} {id : String} :
    (place,id) ∈ yields tables ↔ Yields tables place id := by
  simp only [yields,List.mem_flatMap,List.mem_filterMap,placed?_eq_some_iff]
  constructor
  · rintro ⟨⟨table,t⟩,htable,c,-,rfl,hyield⟩
    exact (yield?_eq_some_iff (List.mk_mem_zipIdx_iff_getElem?.mp htable)).mp hyield
  · intro h
    have hyields := h
    cases h with
    | @marked table header marks label mark htable hheading _ _ hlabel _ _ _ _ =>
      have hwidth : place.2 < (table.headD []).length := by
        rw [List.headD_eq_head?_getD,List.head?_eq_getElem?,hheading]
        exact (List.getElem?_eq_some_iff.mp hlabel).1
      exact ⟨(table,place.1),List.mk_mem_zipIdx_iff_getElem?.mpr htable,place.2,List.mem_range.mpr hwidth,rfl,
        (yield?_eq_some_iff htable).mpr hyields⟩

theorem map_snd_yields (tables : List Grid) : (yields tables).map Prod.snd = tables.flatMap gridIds := by
  have hsame : ∀ entry ∈ tables.zipIdx, ((List.range (entry.1.headD []).length).filterMap
      (placed? entry.2 entry.1)).map Prod.snd = gridIds entry.1 := fun entry _ => by
    rw [gridIds_eq_range (Nat.le_refl _),List.map_filterMap]
    congr 1
    funext c
    rw [placed?]
    cases yield? entry.1 c <;> rfl
  rw [yields,List.map_flatMap,List.flatMap_congr hsame,← List.flatMap_map,List.zipIdx_map_fst]

theorem pairwise_yields (tables : List Grid) : (yields tables).Pairwise fun a b => Before a.1 b.1 := by
  have hnumbers : (tables.zipIdx.map Prod.snd).Pairwise (· < ·) := by
    rw [List.zipIdx_map_snd]
    exact List.pairwise_lt_range'
  rw [yields,List.pairwise_flatMap]
  constructor
  · rintro ⟨table,t⟩ -
    refine List.pairwise_filterMap.mpr (List.pairwise_lt_range.imp fun {c c'} hlt a ha b hb => ?_)
    rw [(placed?_eq_some_iff.mp ha).1,(placed?_eq_some_iff.mp hb).1]
    exact .inr ⟨rfl,hlt⟩
  · refine (List.pairwise_map.mp hnumbers).imp fun {entry entry'} hlt a ha b hb => ?_
    obtain ⟨c,-,hc⟩ := List.mem_filterMap.mp ha
    obtain ⟨c',-,hc'⟩ := List.mem_filterMap.mp hb
    rw [(placed?_eq_some_iff.mp hc).1,(placed?_eq_some_iff.mp hc').1]
    exact .inl hlt

/-! ### First columns -/

theorem Before.asymm {p q : Nat × Nat} (h : Before p q) : ¬ Before q p := by
  unfold Before at *
  omega

def IsFirst (ys : List ((Nat × Nat) × String)) (place : Nat × Nat) (id : String) : Prop :=
  (place,id) ∈ ys ∧ ∀ other, (other,id) ∈ ys → other = place ∨ Before place other

section Ordered
variable {ys : List ((Nat × Nat) × String)} (h : ys.Pairwise fun a b => Before a.1 b.1)
include h

theorem exists_isFirst {id : String} (hid : id ∈ ys.map Prod.snd) : ∃ place, IsFirst ys place id := by
  induction h with
  | nil => cases hid
  | @cons y ys hy _ ih =>
    obtain ⟨place,found⟩ := y
    by_cases heq : id = found
    · refine ⟨place,List.mem_cons.mpr (.inl (by rw [heq])),fun other hother => ?_⟩
      rcases List.mem_cons.mp hother with hhead | htail
      · exact .inl (Prod.mk.inj hhead).1
      · exact .inr (hy _ htail)
    · obtain ⟨first,hfirst,hleast⟩ := ih ((List.mem_cons.mp hid).resolve_left heq)
      refine ⟨first,List.mem_cons_of_mem _ hfirst,fun other hother => ?_⟩
      rcases List.mem_cons.mp hother with hhead | htail
      · exact absurd (Prod.mk.inj hhead).2 heq
      · exact hleast other htail

/-- Without repeats, the identifiers stand in the order of their first places. -/
theorem pairwise_first :
    (distinct (ys.map Prod.snd)).Pairwise fun x y => ∀ p q, IsFirst ys p x → IsFirst ys q y → Before p q := by
  induction h with
  | nil => exact .nil
  | @cons y ys hy _ ih =>
    obtain ⟨place,found⟩ := y
    -- an identifier that is not in front has its places behind
    have hbehind : ∀ p x, x ≠ found → (p,x) ∈ (place,found) :: ys → (p,x) ∈ ys := fun p x hne hmem =>
      (List.mem_cons.mp hmem).resolve_left fun heq => hne (Prod.mk.inj heq).2
    have hfirst : ∀ p x, x ≠ found → IsFirst ((place,found) :: ys) p x → IsFirst ys p x := fun p x hne hp =>
      ⟨hbehind p x hne hp.1,fun other hother => hp.2 other (List.mem_cons_of_mem _ hother)⟩
    rw [List.map_cons,distinct_cons]
    refine List.pairwise_cons.mpr ⟨fun x hx p q hp hq => ?_,
      (ih.filter _).imp_of_mem fun {x y} hx hy hxy p q hp hq => ?_⟩
    · have hne : x ≠ found := by simpa using (List.mem_filter.mp hx).2
      have hq' : Before place q := hy _ (hbehind q x hne hq.1)
      rcases hp.2 place List.mem_cons_self with rfl | hbefore
      · exact hq'
      · rcases List.mem_cons.mp hp.1 with hhead | htail
        · exact (Prod.mk.inj hhead).1 ▸ hq'
        · exact absurd hbefore (hy _ htail).asymm
    · have hnx : x ≠ found := by simpa using (List.mem_filter.mp hx).2
      have hny : y ≠ found := by simpa using (List.mem_filter.mp hy).2
      exact hxy p q (hfirst p x hnx hp) (hfirst q y hny hq)

end Ordered

/-! ### What else is on a page -/

def IsRegionColumn (header : List (List Char)) (c : Nat) : Prop :=
  ∃ label, header[c]? = some label ∧ HasRegionForm (lower label)

/-- Two tables with a row for object storage whose headings and whose first such rows are the same in each column
after the first that is named like a region in either of them. -/
def SameMarks (table table' : Grid) : Prop :=
  ∃ header header' marks marks', table[0]? = some header ∧ table'[0]? = some header' ∧
    FirstStorage table marks ∧ FirstStorage table' marks' ∧
    ∀ c, 1 ≤ c → IsRegionColumn header c ∨ IsRegionColumn header' c →
      header[c]? = header'[c]? ∧ marks[c]? = marks'[c]?

/-- Tables that have the same marks one after another, when those without a row for object storage are left out. -/
inductive SameTables : List Grid → List Grid → Prop
  | nil : SameTables [] []
  | cons {table table' : Grid} {tables tables' : List Grid} (same : SameMarks table table')
      (rest : SameTables tables tables') : SameTables (table :: tables) (table' :: tables')
  | left {table : Grid} {tables tables' : List Grid} (none : ∀ marks, ¬ FirstStorage table marks)
      (rest : SameTables tables tables') : SameTables (table :: tables) tables'
  | right {table : Grid} {tables tables' : List Grid} (none : ∀ marks, ¬ FirstStorage table marks)
      (rest : SameTables tables tables') : SameTables tables (table :: tables')

theorem SameMarks.symm {table table' : Grid} (h : SameMarks table table') : SameMarks table' table := by
  obtain ⟨header,header',marks,marks',hheader,hheader',hmarks,hmarks',hsame⟩ := h
  refine ⟨header',header,marks',marks,hheader',hheader,hmarks',hmarks,fun c hc hform => ?_⟩
  obtain ⟨hlabel,hmark⟩ := hsame c hc hform.symm
  exact ⟨hlabel.symm,hmark.symm⟩

theorem SameMarks.yield?_of_yield? {table table' : Grid} (h : SameMarks table table') {c : Nat} {id : String}
    (hyield : yield? table c = some id) : yield? table' c = some id := by
  obtain ⟨header,header',marks,marks',hheader,hheader',hmarks,hmarks',hsame⟩ := h
  rw [yield?_of_firstStorage hheader hmarks,columnAt?_eq_some_iff] at hyield
  obtain ⟨label,mark,hc,hlabel,hnamed,hform,hmark,hfilled⟩ := hyield
  obtain ⟨hlabels,hmarks⟩ := hsame c hc (.inl ⟨label,hlabel,hnamed ▸ hform⟩)
  rw [yield?_of_firstStorage hheader' hmarks',columnAt?_eq_some_iff]
  exact ⟨label,mark,hc,hlabels ▸ hlabel,hnamed,hform,hmarks ▸ hmark,hfilled⟩

theorem SameMarks.gridIds_eq {table table' : Grid} (h : SameMarks table table') : gridIds table = gridIds table' := by
  have hyield : yield? table = yield? table' := by
    funext c
    exact Option.ext fun id => ⟨h.yield?_of_yield?,h.symm.yield?_of_yield?⟩
  rw [gridIds_eq_range (Nat.le_max_left _ (table'.headD []).length),hyield,← gridIds_eq_range (Nat.le_max_right _ _)]

theorem gridIds_eq_nil {table : Grid} (h : ∀ marks, ¬ FirstStorage table marks) : gridIds table = [] := by
  cases table with
  | nil => rfl
  | cons header body =>
    have hnone : body.find? isStorageRow = none := Option.eq_none_iff_forall_ne_some.mpr fun marks hmarks =>
      h marks (firstStorage_cons_iff.mpr hmarks)
    rw [gridIds,hnone]

theorem SameTables.flatMap_gridIds_eq {tables tables' : List Grid} (h : SameTables tables tables') :
    tables.flatMap gridIds = tables'.flatMap gridIds := by
  induction h with
  | nil => rfl
  | cons same rest ih => rw [List.flatMap_cons,List.flatMap_cons,same.gridIds_eq,ih]
  | left none rest ih => rw [List.flatMap_cons,gridIds_eq_nil none,List.nil_append,ih]
  | right none rest ih => rw [List.flatMap_cons,gridIds_eq_nil none,List.nil_append,ih]

theorem grids_eq_of_agreeInTables {page page' : List Char}
    (h : (Document.ofPage page).AgreeInTables (Document.ofPage page')) : grids page = grids page' := by
  simp only [grids,← h.elementsNamed_eq]
  exact List.map_congr_left fun t ht => h.gridOf_eq (.inl (mem_elementsNamed.mp ht))

/-! ### The regions of a page -/

theorem availabilityIds_eq_yields (page : List Char) : availabilityIds page = (yields (grids page)).map Prod.snd :=
  (map_snd_yields (grids page)).symm

theorem mem_availabilityIds_iff_yields {page : List Char} {id : String} :
    id ∈ availabilityIds page ↔ ∃ place, Yields (grids page) place id := by
  simp [availabilityIds_eq_yields,mem_yields_iff]

theorem yieldsFirst_iff {tables : List Grid} {place : Nat × Nat} {id : String} :
    YieldsFirst tables place id ↔ IsFirst (yields tables) place id := by
  simp only [YieldsFirst,IsFirst,mem_yields_iff]

/-- A page has a region exactly if some column of a table yields it: one after the first whose heading, in small
letters, is the region's three letters and a digit, and whose cell is not empty in the first row for object storage
below the heading. There are no regions if there is no such column; otherwise each is listed once, in the order of
the first columns that yield them. Other rows, other columns, tables without such a row and all that is in no table
can be changed without an effect. -/
theorem regions_first_columns (url : String) (page : List Char) :
    (∀ id, (∃ rs, regions .digitalocean url page = .ok rs ∧ ⟨id⟩ ∈ rs) ↔ ∃ place, Yields (grids page) place id) ∧
    ((∀ place id, ¬ Yields (grids page) place id) → regions .digitalocean url page = .error (.noRegions url)) ∧
    (∀ rs, regions .digitalocean url page = .ok rs → rs.Nodup ∧
      (∀ r ∈ rs, ∃ place, YieldsFirst (grids page) place r.id) ∧
      rs.Pairwise fun r s => ∀ p q, YieldsFirst (grids page) p r.id → YieldsFirst (grids page) q s.id → Before p q) ∧
    (∀ page', SameTables (grids page) (grids page') →
      regions .digitalocean url page' = regions .digitalocean url page) ∧
    ∀ page', (Document.ofPage page).AgreeInTables (Document.ofPage page') →
      regions .digitalocean url page' = regions .digitalocean url page := by
  have hregions : ∀ page, regions .digitalocean url page = regionsOf url (availabilityIds page) := fun _ => rfl
  simp only [hregions]
  refine ⟨fun id => ?_,fun hnone => ?_,fun rs hrs => ?_,fun page' hsame => ?_,fun page' hagree => ?_⟩
  · rw [← mem_availabilityIds_iff_yields]
    constructor
    · rintro ⟨rs,hrs,hid⟩
      obtain ⟨-,rfl⟩ := regionsOf_ok hrs
      exact Region.mem_ofIds.mp hid
    · intro hid
      exact ⟨_,regionsOf_of_ne_nil url (List.ne_nil_of_mem hid),Region.mem_ofIds.mpr hid⟩
  · have hnil : availabilityIds page = [] := List.eq_nil_iff_forall_not_mem.mpr fun id hid => by
      obtain ⟨place,hyields⟩ := mem_availabilityIds_iff_yields.mp hid
      exact hnone place id hyields
    rw [hnil,regionsOf_nil]
  · obtain ⟨-,rfl⟩ := regionsOf_ok hrs
    refine ⟨nodup_distinct _,fun r hr => ?_,?_⟩
    · have hid := availabilityIds_eq_yields page ▸ Region.mem_ofIds.mp hr
      obtain ⟨place,hfirst⟩ := exists_isFirst (pairwise_yields (grids page)) hid
      exact ⟨place,yieldsFirst_iff.mpr hfirst⟩
    · rw [Region.ofIds,distinct_map fun _ _ heq => Region.mk.inj heq,List.pairwise_map,availabilityIds_eq_yields]
      refine (pairwise_first (pairwise_yields (grids page))).imp fun {id id'} hbefore p q hp hq => ?_
      exact hbefore p q (yieldsFirst_iff.mp hp) (yieldsFirst_iff.mp hq)
  · rw [availabilityIds,availabilityIds,hsame.flatMap_gridIds_eq]
  · rw [availabilityIds,availabilityIds,grids_eq_of_agreeInTables hagree]

def shortPage : List Char :=
  Html.tagged "table" (writtenCells ["Product","NYC3","Notes"] ++ writtenCells ["Spaces","x","new"])

/-- The same marks between others: a row in front of the row for object storage and one behind it, another note, and
a table of something else. -/
def longPage : List Char :=
  "Where is it?".toList ++ Html.tagged "table" (writtenCells ["Droplets","AMS3"] ++ writtenCells ["Volumes","x"]) ++
    Html.tagged "table" (writtenCells ["Product","NYC3"] ++ writtenCells ["Volumes"] ++
      writtenCells ["SPACES","x","y"] ++ writtenCells ["Spaces"])

theorem regions_first_columns_long_page :
    regions .digitalocean "" longPage = regions .digitalocean "" shortPage ∧
      ∃ rs, regions .digitalocean "" shortPage = .ok rs ∧ ⟨"nyc3"⟩ ∈ rs := by
  have hshort : grids shortPage =
      [[["Product".toList,"NYC3".toList,"Notes".toList],["Spaces".toList,"x".toList,"new".toList]]] := by
    decide +kernel
  have hlong : grids longPage = [[["Droplets".toList,"AMS3".toList],["Volumes".toList,"x".toList]],
      [["Product".toList,"NYC3".toList],["Volumes".toList],["SPACES".toList,"x".toList,"y".toList],
        ["Spaces".toList]]] := by
    decide +kernel
  have hnamed : lower "NYC3".toList = "nyc3".toList := by decide +kernel
  have hnotes : ¬ HasRegionForm (lower "Notes".toList) := by decide +kernel
  have hmarks : SameTables (grids shortPage) (grids longPage) := by
    rw [hshort,hlong]
    refine .right (fun marks hmarks => ?_) (.cons ⟨_,_,_,_,rfl,rfl,firstStorage_cons_iff.mpr rfl,
      firstStorage_cons_iff.mpr rfl,fun c hc hform => ?_⟩ .nil)
    · cases firstStorage_cons_iff.mp hmarks
    · match c,hform with
      | 1,_ => simp only [List.getElem?_cons_succ,List.getElem?_cons_zero,and_self]
      | 2,.inl ⟨_,rfl,hform⟩ => exact absurd hform hnotes
  obtain ⟨hfound,-,-,hsame,-⟩ := regions_first_columns "" shortPage
  refine ⟨hsame longPage hmarks,(hfound "nyc3").mpr ⟨(0,1),?_⟩⟩
  rw [hshort]
  exact .marked rfl rfl (firstStorage_cons_iff.mpr rfl) (by decide) rfl hnamed (by decide) rfl (by decide)

end Listing

end RegionAudit
