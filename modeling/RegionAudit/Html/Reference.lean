import RegionAudit.Html.Reference.CapitalNames
import RegionAudit.Html.Reference.SmallNames

/-!
Character references: what a named or a numbered reference stands for. A name counts with its
closing semicolon, and some old names also without it; of several names that match, the longest counts.
-/
namespace RegionAudit.Html.Reference

def namesFrom : Char → List (String × String)
  | 'a' => smallA
  | 'b' => smallB
  | 'c' => smallC
  | 'd' => smallD
  | 'e' => smallE
  | 'f' => smallF
  | 'g' => smallG
  | 'h' => smallH
  | 'i' => smallI
  | 'j' => smallJ
  | 'k' => smallK
  | 'l' => smallL
  | 'm' => smallM
  | 'n' => smallN
  | 'o' => smallO
  | 'p' => smallP
  | 'q' => smallQ
  | 'r' => smallR
  | 's' => smallS
  | 't' => smallT
  | 'u' => smallU
  | 'v' => smallV
  | 'w' => smallW
  | 'x' => smallX
  | 'y' => smallY
  | 'z' => smallZ
  | 'A' => capitalA
  | 'B' => capitalB
  | 'C' => capitalC
  | 'D' => capitalD
  | 'E' => capitalE
  | 'F' => capitalF
  | 'G' => capitalG
  | 'H' => capitalH
  | 'I' => capitalI
  | 'J' => capitalJ
  | 'K' => capitalK
  | 'L' => capitalL
  | 'M' => capitalM
  | 'N' => capitalN
  | 'O' => capitalO
  | 'P' => capitalP
  | 'Q' => capitalQ
  | 'R' => capitalR
  | 'S' => capitalS
  | 'T' => capitalT
  | 'U' => capitalU
  | 'V' => capitalV
  | 'W' => capitalW
  | 'X' => capitalX
  | 'Y' => capitalY
  | 'Z' => capitalZ
  | _ => []

/-- Names that count without a semicolon. -/
def openNames : List String :=
  [
    "AElig","AMP","Aacute","Acirc","Agrave","Aring","Atilde","Auml","COPY","Ccedil",
    "ETH","Eacute","Ecirc","Egrave","Euml","GT","Iacute","Icirc","Igrave","Iuml","LT",
    "Ntilde","Oacute","Ocirc","Ograve","Oslash","Otilde","Ouml","QUOT","REG","THORN",
    "Uacute","Ucirc","Ugrave","Uuml","Yacute","aacute","acirc","acute","aelig",
    "agrave","amp","aring","atilde","auml","brvbar","ccedil","cedil","cent","copy",
    "curren","deg","divide","eacute","ecirc","egrave","eth","euml","frac12","frac14",
    "frac34","gt","iacute","icirc","iexcl","igrave","iquest","iuml","laquo","lt",
    "macr","micro","middot","nbsp","not","ntilde","oacute","ocirc","ograve","ordf",
    "ordm","oslash","otilde","ouml","para","plusmn","pound","quot","raquo","reg",
    "sect","shy","sup1","sup2","sup3","szlig","thorn","times","uacute","ucirc",
    "ugrave","uml","uuml","yacute","yen","yuml"
  ]

def closedText? (name : List Char) : Option String :=
  match name with
  | [] => none
  | c :: _ => ((namesFrom c).find? fun entry => entry.1 = String.ofList name).map (·.2)

def longer (best : Option String) (name : String) : Option String :=
  match best with
  | some b => if b.length < name.length then some name else best
  | none => some name

def openName? (letters : List Char) : Option String :=
  (openNames.filter fun name => name.toList.isPrefixOf letters).foldl longer none

/-- A named reference that was recognised: its text, the letters that follow its name, and whether
the semicolon belongs to it. -/
structure Named where
  text : List Char
  rest : List Char
  closed : Bool
  deriving Repr, DecidableEq

/-- The reference that a run of letters and digits after an ampersand makes. `semicolon` says whether
a semicolon follows the run. -/
def named? (letters : List Char) (semicolon : Bool) : Option Named :=
  match (if semicolon then closedText? letters else none) with
  | some text => some ⟨text.toList,[],true⟩
  | none =>
    match openName? letters with
    | none => none
    | some name =>
      match closedText? name.toList with
      | none => none
      | some text => some ⟨text.toList,letters.drop name.length,false⟩

def addDigit (base : Nat) (n digit : Nat) : Nat :=
  min (n * base + digit) 0x110000

/-- Numbers from 0x80 to 0x9f that stand for the characters of an old code page. -/
def controlTexts : List (Nat × Char) :=
  [
    (0x80,'\u20ac'),(0x82,'\u201a'),(0x83,'\u0192'),(0x84,'\u201e'),(0x85,'\u2026'),
    (0x86,'\u2020'),(0x87,'\u2021'),(0x88,'\u02c6'),(0x89,'\u2030'),(0x8a,'\u0160'),
    (0x8b,'\u2039'),(0x8c,'\u0152'),(0x8e,'\u017d'),(0x91,'\u2018'),(0x92,'\u2019'),
    (0x93,'\u201c'),(0x94,'\u201d'),(0x95,'\u2022'),(0x96,'\u2013'),(0x97,'\u2014'),
    (0x98,'\u02dc'),(0x99,'\u2122'),(0x9a,'\u0161'),(0x9b,'\u203a'),(0x9c,'\u0153'),
    (0x9e,'\u017e'),(0x9f,'\u0178')
  ]

/-- The character that a numbered reference stands for. Zero, surrogates and numbers past the last
code point stand for the replacement character. -/
def numbered (n : Nat) : Char :=
  if n = 0 ∨ 0x10ffff < n ∨ (0xd800 ≤ n ∧ n ≤ 0xdfff) then '\ufffd'
  else
    match controlTexts.find? fun entry => entry.1 = n with
    | some entry => entry.2
    | none => Char.ofNat n

end RegionAudit.Html.Reference
