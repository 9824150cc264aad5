import RegionAudit.Text.Quoted

/-!
Why a text is not the JSON that was asked for, and where. Places are counted in lines from one and in
bytes from the last line end.
-/
namespace RegionAudit.Json

/-- A value that was found in place of another. -/
inductive Found
  | null
  | boolean (b : Bool)
  | natural (n : Nat)
  | negative (n : Nat)
  /-- A number with a fraction or an exponent, or one too large for a whole number. -/
  | fraction (digits : List Char)
  | text (s : String)
  | list
  | object
  deriving DecidableEq, Repr

def Found.description : Found → String
  | .null => "null"
  | .boolean b => "boolean \u0060" ++ (if b then "true" else "false") ++ "\u0060"
  | .natural n => "integer \u0060" ++ toString n ++ "\u0060"
  | .negative n => "integer \u0060-" ++ toString n ++ "\u0060"
  | .fraction cs => "floating point \u0060" ++ String.ofList cs ++ "\u0060"
  | .text s => "string " ++ Text.quoted s
  | .list => "sequence"
  | .object => "map"

inductive Cause
  | endInValue | endInText | endInList | endInObject
  | expectedValue | expectedWord | expectedColon | expectedListEnd | expectedObjectEnd
  | keyNotText | trailingComma | trailingText
  | invalidNumber | numberTooLarge
  | invalidEscape | loneSurrogate | brokenPair | controlCharacter
  | mismatch (found : Found) (expected : String)
  | missingField (name : String)
  | repeatedField (name : String)
  /-- A record was written as a list without items. -/
  | noItems (expected : String)
  deriving DecidableEq, Repr

def Cause.message : Cause → String
  | .endInValue => "EOF while parsing a value"
  | .endInText => "EOF while parsing a string"
  | .endInList => "EOF while parsing a list"
  | .endInObject => "EOF while parsing an object"
  | .expectedValue => "expected value"
  | .expectedWord => "expected ident"
  | .expectedColon => "expected \u0060:\u0060"
  | .expectedListEnd => "expected \u0060,\u0060 or \u0060]\u0060"
  | .expectedObjectEnd => "expected \u0060,\u0060 or \u0060\x7d\u0060"
  | .keyNotText => "key must be a string"
  | .trailingComma => "trailing comma"
  | .trailingText => "trailing characters"
  | .invalidNumber => "invalid number"
  | .numberTooLarge => "number out of range"
  | .invalidEscape => "invalid escape"
  | .loneSurrogate => "lone leading surrogate in hex escape"
  | .brokenPair => "unexpected end of hex escape"
  | .controlCharacter => "control character (\\u0000-\\u001F) found while parsing a string"
  | .mismatch found expected => "invalid type: " ++ found.description ++ ", expected " ++ expected
  | .missingField name => "missing field \u0060" ++ name ++ "\u0060"
  | .repeatedField name => "duplicate field \u0060" ++ name ++ "\u0060"
  | .noItems expected => "invalid length 0, expected " ++ expected ++ " with 1 element"

/-- A fault, after `offset` bytes of the text. -/
structure Fault where
  cause : Cause
  offset : Nat
  deriving DecidableEq, Repr

/-- The line and column after some bytes of a text, counted on from `line` and `column`. -/
def placeAfter (line column : Nat) : List Char → Nat → Nat × Nat
  | _, 0 => (line,column)
  | [], _ => (line,column)
  | c :: cs, n + 1 =>
    if c = '\n' then placeAfter (line + 1) 0 cs n
    else placeAfter line (column + min c.utf8Size (n + 1)) cs (n + 1 - c.utf8Size)

def Fault.message (f : Fault) (text : List Char) : String :=
  let (line,column) := placeAfter 1 0 text f.offset
  f.cause.message ++ " at line " ++ toString line ++ " column " ++ toString column

end RegionAudit.Json
