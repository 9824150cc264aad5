import RegionAudit.Text.Digits
import RegionAudit.Text.LowerCase
import RegionAudit.Text.ShapeTable

/-!
Texts between quotation marks, as messages and log lines show them. A character that cannot be shown is
written by its number, so every text has a quoted form that is one printable line.
-/
namespace RegionAudit.Text

def isShapeless (c : Char) : Bool :=
  inRuns shapelessRuns c.toNat

def joinsPrevious (c : Char) : Bool :=
  inRuns joiningRuns c.toNat

/-- How one character is shown between two marks. -/
def shownChar (mark c : Char) : List Char :=
  if c = '\x00' then ['\\','0']
  else if c = '\t' then ['\\','t']
  else if c = '\r' then ['\\','r']
  else if c = '\n' then ['\\','n']
  else if c = mark then ['\\',mark]
  else if c = '\\' then ['\\','\\']
  else if ' ' ≤ c && c ≤ '~' then [c]
  else if joinsPrevious c || isShapeless c then
    ['\\','u','\x7b'] ++ hexDigits c.toNat ++ ['\x7d']
  else [c]

def quoted (s : String) : String :=
  String.ofList ('"' :: s.toList.flatMap (shownChar '"') ++ ['"'])

def quotedChar (c : Char) : String :=
  String.ofList ('\'' :: shownChar '\'' c ++ ['\''])

end RegionAudit.Text
