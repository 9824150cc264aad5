import RegionAudit.Text.Quoted

/-!
Why a text is not a settings file, and where. Places are counted in lines and in characters.
-/
namespace RegionAudit.Ini

/-- What may end a span of text: a character, or the end of the file. -/
abbrev End := Option Char

def End.description : End → String
  | some c => "Some(" ++ Text.quotedChar c ++ ")"
  | none => "None"

def End.descriptions (ends : List End) : String :=
  "[" ++ String.intercalate ", " (ends.map End.description) ++ "]"

inductive Cause
  /-- The file is over before any of the characters that may end a span of text. -/
  | unended (ends : List End)
  /-- A backslash among the digits of an escape is not at the end of a line. -/
  | brokenDigits (found : End)
  /-- The digits of an escape stand for no character. -/
  | unknownCharacter
  /-- A comment follows something else in its line. -/
  | inlineComment
  | missingKey
  deriving DecidableEq, Repr

def Cause.message : Cause → String
  | .unended ends => "expecting \"" ++ End.descriptions ends ++ "\" but found EOF."
  | .brokenDigits found => "expecting \"\\\\n\" but found \"" ++ found.description ++ "\"."
  | .unknownCharacter => "unknown character in \\xHH form"
  | .inlineComment => "doesn't support inline comment"
  | .missingKey => "missing key"

/-- A fault, where `left` characters of the file are left to read. -/
structure Fault where
  cause : Cause
  left : Nat
  deriving DecidableEq, Repr

/-- The line and column of a fault. The column is counted after the character that is to be read, or after
the last one when none is left; a line end belongs to the line that it begins. -/
def Fault.place (f : Fault) (text : List Char) : Nat × Nat :=
  let seen := (text.take (text.length - f.left + 1)).reverse
  (seen.count '\n' + 1,(seen.takeWhile (· ≠ '\n')).length + 1)

def Fault.message (f : Fault) (text : List Char) : String :=
  let (line,column) := f.place text
  toString line ++ ":" ++ toString column ++ " " ++ f.cause.message

end RegionAudit.Ini
