import RegionAudit.Text.Bytes
import RegionAudit.Text.Digits
import RegionAudit.Text.LowerCase
import RegionAudit.Url.Percent
import RegionAudit.Url.Punycode

/-!
Hosts in addresses: names and numbers. Names are written in small letters; a name that ends in a number is a
number of 32 bits, and one in brackets a number of 128 bits.
-/
namespace RegionAudit.Url

inductive Host
  | name (labels : List Char)
  | number (n : Nat)
  | pieces (ps : List Nat)
  deriving DecidableEq, Repr

def splitAt (p : Char → Bool) : List Char → List (List Char)
  | [] => [[]]
  | c :: cs =>
    if p c then [] :: splitAt p cs
    else
      match splitAt p cs with
      | [] => [[c]]
      | part :: parts => (c :: part) :: parts

def cut (p : Char → Bool) (cs : List Char) : List Char × Option (List Char) :=
  match cs.dropWhile (!p ·) with
  | [] => (cs,none)
  | _ :: rest => (cs.takeWhile (!p ·),some rest)

/-- One part of a number of 32 bits: octal after a zero, hexadecimal after a zero and an x. -/
def partValue? : List Char → Option Nat
  | [] => none
  | '0' :: 'x' :: cs | '0' :: 'X' :: cs => Text.number? 16 cs
  | ['0'] => some 0
  | '0' :: cs => Text.number? 8 cs
  | cs => Text.number? 10 cs

/-- The parts of a name between dots; a last dot makes no part. -/
def nameParts (name : List Char) : List (List Char) :=
  let parts := splitAt (· = '.') name
  if 1 < parts.length && parts.getLast? = some [] then parts.dropLast else parts

def endsInNumber (name : List Char) : Bool :=
  match (nameParts name).getLast? with
  | none => false
  | some part => (!part.isEmpty && part.all Char.isDigit) || (partValue? part).isSome

/-- The number of 32 bits that some parts make; the last part fills the places that are left. -/
def shortNumber? (name : List Char) : Option Nat := do
  let values ← (nameParts name).mapM partValue?
  let last ← values.getLast?
  let first := values.dropLast
  if values.length ≤ 4 && first.all (· < 256) && last < Nat.pow 256 (5 - values.length) then
    some ((first.foldl (· * 256 + ·) 0) * Nat.pow 256 (5 - values.length) + last)
  else none

/-- Four decimal numbers between dots, as the last two pieces of a number of 128 bits. -/
def dottedPieces? (cs : List Char) : Option (List Nat) := do
  let values ← (splitAt (· = '.') cs).mapM fun part =>
    if part.isEmpty || 3 < part.length || (1 < part.length && part.head? = some '0') then none
    else Text.number? 10 part
  match values with
  | [a,b,c,d] => if values.all (· < 256) then some [a * 256 + b,c * 256 + d] else none
  | _ => none

def pieces? (mayBeDotted : Bool) : List (List Char) → Option (List Nat)
  | [] => some []
  | [last] =>
    if last.contains '.' then (if mayBeDotted then dottedPieces? last else none)
    else if last.isEmpty || 4 < last.length then none
    else (Text.number? 16 last).map ([·])
  | part :: parts => do
    if part.isEmpty || 4 < part.length then none
    else some ((← Text.number? 16 part) :: (← pieces? mayBeDotted parts))

def cutColons : List Char → Option (List Char × List Char)
  | ':' :: ':' :: rest => some ([],rest)
  | c :: rest => (cutColons rest).map fun (a,b) => (c :: a,b)
  | [] => none

def halfPieces? (mayBeDotted : Bool) (cs : List Char) : Option (List Nat) :=
  if cs.isEmpty then some [] else pieces? mayBeDotted (splitAt (· = ':') cs)

/-- The eight pieces of a number of 128 bits; two colons stand for one or more pieces that are zero. -/
def longNumber? (cs : List Char) : Option (List Nat) :=
  match cutColons cs with
  | none => (pieces? true (splitAt (· = ':') cs)).filter (·.length = 8)
  | some (front,back) => do
    let a ← halfPieces? false front
    let b ← halfPieces? true back
    if a.length + b.length < 8 then some (a ++ List.replicate (8 - a.length - b.length) 0 ++ b) else none

def isForbidden (c : Char) : Bool :=
  c ∈ ['\x00','\t','\n','\r',' ','#','/',':','<','>','?','@','[','\\',']','^','|']

/-- The characters that may not stand in a name that is looked up. -/
def isForbiddenInName (c : Char) : Bool :=
  isForbidden c || isOutside c || c = '%'

def basicLabel (label : List Char) : List Char :=
  if label.all (·.toNat < 0x80) then label else "xn--".toList ++ Punycode.encode label

def isDot (c : Char) : Bool :=
  c = '.' || c = '\u3002' || c = '\uff0e' || c = '\uff61'

/-- A name in small letters and basic characters. -/
def basicName (name : List Char) : List Char :=
  List.intercalate ['.'] ((splitAt isDot (Text.lower name)).map basicLabel)

namespace Host

/-- The host that a text names where the scheme is a well-known one. -/
def special? (cs : List Char) : Option Host :=
  match cs with
  | '[' :: rest =>
    if rest.getLast? = some ']' then (longNumber? rest.dropLast).map .pieces else none
  | _ => do
    let name := basicName (← Text.decode? (percentDecode cs))
    if name.isEmpty || name.any isForbiddenInName then none
    else if endsInNumber name then (shortNumber? name).map .number
    else some (.name name)

def other? (cs : List Char) : Option Host :=
  match cs with
  | '[' :: rest =>
    if rest.getLast? = some ']' then (longNumber? rest.dropLast).map .pieces else none
  | _ => if cs.any isForbidden then none else some (.name (percentEncode isOutside cs))

def zeros (ps : List Nat) : Nat :=
  (ps.takeWhile (· = 0)).length

/-- Where the first of the longest runs of zeros begins, and its length. -/
def longestZeros : List Nat → Nat × Nat
  | [] => (0,0)
  | p :: ps =>
    let (start,n) := longestZeros ps
    if n ≤ zeros (p :: ps) then (0,zeros (p :: ps)) else (start + 1,n)

def piecesText (ps : List Nat) : List Char :=
  List.intercalate [':'] (ps.map Text.hexDigits)

def text : Host → List Char
  | .name labels => labels
  | .number n =>
    List.intercalate ['.']
      ([n / 16777216,n / 65536 % 256,n / 256 % 256,n % 256].map (Nat.toDigits 10))
  | .pieces ps =>
    let (start,n) := longestZeros ps
    if n < 2 then '[' :: piecesText ps ++ [']']
    else '[' :: piecesText (ps.take start) ++ [':',':'] ++ piecesText (ps.drop (start + n)) ++ [']']

end Host

end RegionAudit.Url
