import RegionAudit.Html.Lexer
import RegionAudit.Text.LowerCase

/-!
Pages with availability tables. The first row of such a table names a data center in every column but the
first, and the row for object storage marks the columns of those that offer it.
-/
namespace RegionAudit.Listing

open Text (trim lower sameIgnoringBasicCase)

/-- The texts of a table's cells, row by row. Rows may have different lengths. -/
abbrev Grid := List (List (List Char))

/-- A table read as a grid: its rows and their cells are all that stand below it, at any depth. -/
def gridOf (d : Html.Document) (table : Html.NodeId) : Grid :=
  (d.descendantsNamed ["tr"] table).map fun row =>
    (d.descendantsNamed ["th","td"] row).map fun cell => trim (d.text cell)

def grids (page : List Char) : List Grid :=
  let d := Html.Document.ofPage page
  (d.elementsNamed "table").map (gridOf d)

def isStorageRow : List (List Char) → Bool
  | [] => false
  | label :: _ => sameIgnoringBasicCase label "spaces".toList

def isSmallLetter (c : Char) : Bool :=
  'a' ≤ c && c ≤ 'z'

/-- Whether a text has the form of a region's identifier: three small letters and a digit. -/
def isSlug : List Char → Bool
  | [a,b,c,d] => isSmallLetter a && isSmallLetter b && isSmallLetter c && d.isDigit
  | _ => false

def column? (label mark : List Char) : Option String :=
  if isSlug (lower label) && !mark.isEmpty then some (String.ofList (lower label)) else none

def markedColumns (header marks : List (List Char)) : List String :=
  ((header.drop 1).zip (marks.drop 1)).filterMap fun (label,mark) => column? label mark

/-- The identifiers that a table marks. Only the first row for object storage below the heading counts. -/
def gridIds : Grid → List String
  | [] => []
  | header :: body =>
    match body.find? isStorageRow with
    | some marks => markedColumns header marks
    | none => []

def availabilityIds (page : List Char) : List String :=
  (grids page).flatMap gridIds

end RegionAudit.Listing
