import Mathlib.Tactic.Common
import RegionAudit.Listing.Availability

/-! What a table marks, told by the numbers of its columns. The listing walks through a heading and a row of
marks side by side; here a column is what stands under one number in both. -/
namespace RegionAudit.Listing

open Text (trim isBlank lower)

/-! ### Texts of a table -/

/-- The texts of a table's cells as they stand in it, row by row. -/
abbrev Texts := List (List (List Char))

def IsStorageLabel (t : List Char) : Prop :=
  (trim t).map Char.toLower = "spaces".toList

instance (t : List Char) : Decidable (IsStorageLabel t) :=
  inferInstanceAs (Decidable (_ = _))

def IsStorageTexts (row : List (List Char)) : Prop :=
  ∃ t ∈ row.head?, IsStorageLabel t

instance (row : List (List Char)) : Decidable (IsStorageTexts row) :=
  decidable_of_iff (row.head?.any fun t => decide (IsStorageLabel t)) (by
    cases row <;> simp [IsStorageTexts])

def HasRegionForm (t : List Char) : Prop :=
  t.length = 4 ∧ (∀ c ∈ t.take 3, 'a' ≤ c ∧ c ≤ 'z') ∧ ∀ c ∈ t.drop 3, '0' ≤ c ∧ c ≤ '9'

instance (t : List Char) : Decidable (HasRegionForm t) :=
  @instDecidableAnd _ _ _ (@instDecidableAnd _ _ (List.decidableBAll _ _) (List.decidableBAll _ _))

def HasMark (t : List Char) : Prop :=
  ∃ c ∈ t, isBlank c = false

instance (t : List Char) : Decidable (HasMark t) :=
  List.decidableBEx _ _

/-- The region of the column with a number: it is named in the heading and marked in the other row. The
first column names the rows. -/
def columnId? (header marks : List (List Char)) (c : Nat) : Option String :=
  match header[c]?, marks[c]? with
  | some label, some mark =>
    if 1 ≤ c ∧ HasRegionForm (lower (trim label)) ∧ HasMark mark then
      some (String.ofList (lower (trim label)))
    else none
  | _, _ => none

/-- The regions that a table marks, from left to right. Its first row is the heading, and of the rows for
object storage below it the first one counts. -/
def tableIds : Texts → List String
  | [] => []
  | header :: body =>
    match body.find? fun row => IsStorageTexts row with
    | some marks => (List.range header.length).filterMap (columnId? header marks)
    | none => []

def MarksColumn (rows : Texts) (c : Nat) (id : String) : Prop :=
  1 ≤ c ∧ ∃ header body marks label mark, rows = header :: body ∧
    (body.find? fun row => IsStorageTexts row) = some marks ∧
    header[c]? = some label ∧ id = String.ofList (lower (trim label)) ∧
    marks[c]? = some mark ∧ HasMark mark

theorem columnId?_eq_some_iff {header marks : List (List Char)} {c : Nat} {id : String} :
    columnId? header marks c = some id ↔
      ∃ label mark, header[c]? = some label ∧ marks[c]? = some mark ∧ 1 ≤ c ∧
        HasRegionForm (lower (trim label)) ∧ HasMark mark ∧
        id = String.ofList (lower (trim label)) := by
  unfold columnId?
  cases header[c]? with
  | none => simp
  | some label =>
    cases marks[c]? with
    | none => simp
    | some mark => simp [eq_comm,and_assoc]

theorem mem_tableIds_iff {rows : Texts} {id : String} :
    id ∈ tableIds rows ↔ HasRegionForm id.toList ∧ ∃ c, MarksColumn rows c id := by
  constructor
  · intro h
    cases rows with
    | nil => simp [tableIds] at h
    | cons header body =>
      cases hfind : body.find? fun row => IsStorageTexts row with
      | none => simp [tableIds,hfind] at h
      | some marks =>
        simp only [tableIds,hfind,List.mem_filterMap] at h
        obtain ⟨c,-,hc⟩ := h
        obtain ⟨label,mark,hlabel,hmark,hpos,hform,hhas,rfl⟩ := columnId?_eq_some_iff.mp hc
        exact ⟨by simpa using hform,c,hpos,header,body,marks,label,mark,rfl,hfind,hlabel,rfl,
          hmark,hhas⟩
  · rintro ⟨hform,c,hpos,header,body,marks,label,mark,rfl,hfind,hlabel,rfl,hmark,hhas⟩
    obtain ⟨hlt,-⟩ := List.getElem?_eq_some_iff.mp hlabel
    simp only [tableIds,hfind,List.mem_filterMap]
    refine ⟨c,List.mem_range.mpr hlt,columnId?_eq_some_iff.mpr ?_⟩
    exact ⟨label,mark,hlabel,hmark,hpos,by simpa using hform,hhas,rfl⟩

/-! ### Against the listing -/

theorem trim_eq_nil_iff_not_hasMark {t : List Char} : trim t = [] ↔ ¬ HasMark t := by
  simp [Text.trim_eq_nil_iff,HasMark]

theorem isSlug_iff {t : List Char} : isSlug t = true ↔ HasRegionForm t := by
  rcases t with _ | ⟨a,_ | ⟨b,_ | ⟨c,_ | ⟨d,_ | ⟨e,t⟩⟩⟩⟩⟩
  · simp [isSlug,HasRegionForm]
  · simp [isSlug,HasRegionForm]
  · simp [isSlug,HasRegionForm]
  · simp [isSlug,HasRegionForm]
  · simp only [isSlug,HasRegionForm,isSmallLetter,Char.isDigit,Bool.and_eq_true,decide_eq_true_eq]
    simp [and_assoc]
    -- what is left compares the digit's code point on both sides
    exact fun _ _ _ _ _ _ => Iff.rfl
  · simp [isSlug,HasRegionForm]

theorem isStorageRow_trim (row : List (List Char)) :
    isStorageRow (row.map trim) = decide (IsStorageTexts row) := by
  cases row with
  | nil => rfl
  | cons t row => simp [isStorageRow,IsStorageTexts,IsStorageLabel,Text.sameIgnoringBasicCase]

theorem filterMap_eq_range {α β : Type} (f : α → Option β) (xs : List α) {n : Nat}
    (h : xs.length ≤ n) : xs.filterMap f = (List.range n).filterMap fun i => xs[i]?.bind f := by
  induction xs generalizing n with
  | nil => simp
  | cons x xs ih =>
    obtain ⟨k,rfl⟩ : ∃ k, n = k + 1 := ⟨n - 1,by simp at h; omega⟩
    rw [List.range_succ_eq_map,List.filterMap_cons,List.filterMap_cons,List.filterMap_map,
      ih (by simpa using h)]
    rfl

def columnAt? (header marks : List (List Char)) (c : Nat) : Option String :=
  if c = 0 then none else header[c]?.bind fun label => marks[c]?.bind fun mark => column? label mark

/-- The columns of a heading are walked through by their numbers. -/
theorem markedColumns_eq_range (header marks : List (List Char)) {n : Nat} (h : header.length ≤ n) :
    markedColumns header marks = (List.range n).filterMap (columnAt? header marks) := by
  cases n with
  | zero =>
    obtain rfl : header = [] := List.length_eq_zero_iff.mp (Nat.le_zero.mp h)
    rfl
  | succ n =>
    have hlen : ((header.drop 1).zip (marks.drop 1)).length ≤ n := by
      rw [List.length_zip,List.length_drop]
      omega
    rw [List.range_succ_eq_map,List.filterMap_cons,columnAt?,if_pos rfl,List.filterMap_map,markedColumns,
      filterMap_eq_range _ _ hlen]
    congr 1
    funext i
    rw [Function.comp_apply,columnAt?,if_neg (Nat.succ_ne_zero i),List.zip,List.getElem?_zipWith,
      List.getElem?_drop,List.getElem?_drop,Nat.add_comm 1 i]
    cases header[i+1]? with
    | none => rfl
    | some label => cases marks[i+1]? <;> rfl

theorem markedColumns_trim (header marks : List (List Char)) :
    markedColumns (header.map trim) (marks.map trim) =
      (List.range header.length).filterMap (columnId? header marks) := by
  rw [markedColumns_eq_range _ _ (Nat.le_of_eq (List.length_map _))]
  congr 1
  funext c
  rw [columnAt?,columnId?,List.getElem?_map,List.getElem?_map]
  cases header[c]? with
  | none => simp
  | some label =>
    cases marks[c]? with
    | none => simp
    | some mark =>
      by_cases hc : c = 0
      · simp [hc]
      · simp [hc,Nat.one_le_iff_ne_zero,column?,isSlug_iff,trim_eq_nil_iff_not_hasMark]

/-- The listing finds the marked columns of a table. -/
theorem gridIds_trim (rows : Texts) : gridIds (rows.map fun row => row.map trim) = tableIds rows := by
  cases rows with
  | nil => rfl
  | cons header body =>
    have hfind : (body.map fun row => row.map trim).find? isStorageRow =
        (body.find? fun row => IsStorageTexts row).map fun row => row.map trim := by
      rw [List.find?_map]
      congr 2
      funext row
      exact isStorageRow_trim row
    rw [List.map_cons,gridIds,hfind,tableIds]
    cases body.find? fun row => IsStorageTexts row with
    | none => rfl
    | some marks => exact markedColumns_trim header marks

end RegionAudit.Listing
