import RegionAudit.Text.Digits

/-!
Percent signs in addresses: a byte that may not stand in an address is written as a percent sign and two
digits.
-/
namespace RegionAudit.Url

def charBytes (c : Char) : List Nat :=
  (String.utf8EncodeChar c).map UInt8.toNat

def capitalDigit (n : Nat) : Char :=
  (Text.hexDigit n).toUpper

def percentByte (b : Nat) : List Char :=
  ['%',capitalDigit (b / 16),capitalDigit (b % 16)]

def percentEncode (bad : Char → Bool) (cs : List Char) : List Char :=
  cs.flatMap fun c => if bad c then (charBytes c).flatMap percentByte else [c]

def percentDecode : List Char → List Nat
  | [] => []
  | '%' :: a :: b :: rest =>
    match Text.hexValue? a, Text.hexValue? b with
    | some x, some y => (x * 16 + y) :: percentDecode rest
    | _, _ => 37 :: percentDecode (a :: b :: rest)
  | c :: rest => charBytes c ++ percentDecode rest

/-- Controls and all characters that are not basic. -/
def isOutside (c : Char) : Bool :=
  c < ' ' || '~' < c

def isBadInFragment (c : Char) : Bool :=
  isOutside c || c = ' ' || c = '"' || c = '<' || c = '>' || c = '\u0060'

def isBadInPath (c : Char) : Bool :=
  isBadInFragment c || c = '#' || c = '?' || c = '\x7b' || c = '\x7d'

/-- The characters that may not stand in a query. Where the scheme is a well-known one, that is also true of
the apostrophe. -/
def isBadInQuery (isSpecial : Bool) (c : Char) : Bool :=
  isOutside c || c = ' ' || c = '"' || c = '#' || c = '<' || c = '>' || (isSpecial && c = '\'')

end RegionAudit.Url
