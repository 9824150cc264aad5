import RegionAudit.Text.LowerCase

/-!
Pages that mention endpoints by hostname, `objects-` and a region's identifier and `.dream.io`. An
identifier is one or more runs of letters and digits with single hyphens between them. Letters count in
either case, and so do the long s and the sign for kelvin, which are other forms of s and k.
-/
namespace RegionAudit.Listing

open Text (lower)

/-- A letter in the form by which letters are compared. -/
def folded (c : Char) : Char :=
  if c = '\u017f' then 's' else if c = '\u212a' then 'k' else c.toLower

def isWordChar (c : Char) : Bool :=
  ('a' ≤ folded c && folded c ≤ 'z') || c.isDigit

/-- What is left after a word, whatever the case of its letters. -/
def after? (word : List Char) (cs : List Char) : Option (List Char) :=
  match word, cs with
  | [], cs => some cs
  | _ :: _, [] => none
  | w :: ws, c :: cs => if folded c = w then after? ws cs else none

/-- The longest identifier at the beginning of a text, and what is left. `hyphens` says whether a hyphen
may come next, which needs a run before it and a run after it. -/
def identifierAt (hyphens : Bool) : List Char → List Char × List Char
  | [] => ([],[])
  | c :: cs =>
    if isWordChar c then
      let (id,rest) := identifierAt true cs
      (c :: id,rest)
    else if hyphens && c = '-' then
      match identifierAt false cs with
      | ([],_) => ([],c :: cs)
      | (id,rest) => (c :: id,rest)
    else ([],c :: cs)

def hostStart : List Char := "objects-".toList

def hostEnd : List Char := ".dream.io".toList

def hostAt? (cs : List Char) : Option (List Char) :=
  match after? hostStart cs with
  | none => none
  | some cs =>
    match identifierAt false cs with
    | ([],_) => none
    | (id,rest) => (after? hostEnd rest).map fun _ => id

def hostLength (id : List Char) : Nat :=
  hostStart.length + id.length + hostEnd.length

/-- The identifiers of the hostnames in a text, from left to right, each after the end of the one before.
`busy` is how many characters still belong to the last hostname. -/
def hostIdsFrom : Nat → List Char → List (List Char)
  | _, [] => []
  | busy + 1, _ :: cs => hostIdsFrom busy cs
  | 0, c :: cs =>
    match hostAt? (c :: cs) with
    | some id => id :: hostIdsFrom (hostLength id - 1) cs
    | none => hostIdsFrom 0 cs

/-- The identifiers of the hostnames in a page, in small letters, with repeats. -/
def hostIds (page : List Char) : List String :=
  (hostIdsFrom 0 page).map fun id => String.ofList (lower id)

end RegionAudit.Listing
