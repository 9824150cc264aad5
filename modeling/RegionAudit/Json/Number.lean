import RegionAudit.Decimal.Shortest
import RegionAudit.Json.Cursor

/-!
Numbers in JSON. Nothing here asks for a number, so numbers are either passed over or named in a fault:
as a whole number if it fits in 64 bits, and else as the binary number that its digits stand for.
-/
namespace RegionAudit.Json

open Decimal (Binary Format)

/-- Fractions have plain digits from five places after the point up to sixteen before it. -/
def fractionFormat : Format :=
  ⟨-5,15⟩

def largestWhole : Nat :=
  UInt64.size - 1

def digitOf (c : Char) : Nat :=
  c.toNat - '0'.toNat

/-- Digits taken into a whole number, as long as it fits in 64 bits: the number, and how many digits
were taken. -/
def takeDigits (n taken : Nat) : List Char → Nat × Nat
  | [] => (n,taken)
  | c :: cs =>
    if largestWhole < n * 10 + digitOf c then (n,taken)
    else takeDigits (n * 10 + digitOf c) (taken + 1) cs

def digitsAt (c : Cursor) : List Char :=
  c.rest.takeWhile Char.isDigit

/-- The binary number for `n * 10 ^ e`. The power is applied in steps of at most 308 places, with one
rounding a step; `none` if the number is too large. -/
def scaleBy (n : Nat) (e : Int) : Option Binary :=
  match Binary.ofNat n with
  | none => none
  | some b => go 16 b e
where
  power (k : Nat) : Option Binary := Binary.ofNat (Nat.pow 10 k)
  go : Nat → Binary → Int → Option Binary
    | 0, b, _ => some b
    | steps + 1, b, e =>
      if 0 ≤ e then
        if e ≤ 308 then (power e.toNat).bind b.mul
        else if b.isZero then some b
        else none
      else if -308 ≤ e then (power (-e).toNat).bind b.div
      else if b.isZero then some b
      else
        match (power 308).bind b.div with
        | some b => go steps b (e + 308)
        | none => none

/-- A fraction as a fault names it. -/
def fractionText (negative : Bool) (b : Binary) : List Char :=
  (if negative then ['-'] else []) ++
    (if b.isZero then "0.0".toList else fractionFormat.text b.shortest)

def foundFraction (negative : Bool) (n : Nat) (e : Int) (c : Cursor) : Reading Found :=
  match scaleBy n e with
  | some b => .ok (.fraction (fractionText negative b),c)
  | none => .error (c.fault .numberTooLarge)

def findExponent (negative : Bool) (n : Nat) (e : Int) (c : Cursor) : Reading Found :=
  let c := c.next
  let minus := c.rest.head? = some '-'
  let c := if minus || c.rest.head? = some '+' then c.next else c
  match c.rest with
  | [] => .error (c.fault .endInValue)
  | d :: _ =>
    if !d.isDigit then .error ⟨.invalidNumber,c.offset + 1⟩
    else
      let size := (digitsAt c).foldl (fun k d => k * 10 + digitOf d) 0
      if Nat.pow 2 31 ≤ size then
        if n ≠ 0 && !minus then .error (overflowPlace c)
        else .ok (.fraction (fractionText negative .zero),c.pastDigits)
      else
        foundFraction negative n (if minus then e - size else e + size) c.pastDigits
where
  /-- The digits up to the one that makes an exponent too large have been read. -/
  overflowPlace (c : Cursor) : Fault :=
    ⟨.numberTooLarge,c.offset + taken 0 0 (digitsAt c)⟩
  taken (k count : Nat) : List Char → Nat
    | [] => count
    | d :: ds =>
      if Nat.pow 2 31 ≤ k * 10 + digitOf d then count + 1 else taken (k * 10 + digitOf d) (count + 1) ds

def atExponent (c : Cursor) : Bool :=
  c.rest.head? = some 'e' || c.rest.head? = some 'E'

def findFraction (negative : Bool) (n : Nat) (e : Int) (c : Cursor) : Reading Found :=
  let c := c.next
  let digits := digitsAt c
  let (n',taken) := takeDigits n 0 digits
  if digits.isEmpty then .error (c.faultOrEnd .invalidNumber .endInValue)
  else
    let c := c.pastDigits
    let e := e - taken
    if atExponent c then findExponent negative n' e c else foundFraction negative n' e c

/-- The whole number that was read, or the fraction that goes on from it. -/
def findRest (negative : Bool) (n : Nat) (c : Cursor) : Reading Found :=
  if c.rest.head? = some '.' then findFraction negative n 0 c
  else if atExponent c then findExponent negative n 0 c
  else if !negative then .ok (.natural n,c)
  else if 0 < n && n ≤ Nat.pow 2 63 then .ok (.negative n,c)
  else foundFraction negative n 0 c

def findNumber (negative : Bool) (c : Cursor) : Reading Found :=
  match c.rest with
  | [] => .error (c.fault .endInValue)
  | d :: ds =>
    if d = '0' then
      if (ds.head?.map Char.isDigit).getD false then .error (c.next.faultAhead .invalidNumber)
      else findRest negative 0 c.next
    else if d.isDigit then
      let digits := digitsAt c
      let (n,taken) := takeDigits 0 0 digits
      let more : Int := (digits.length : Int) - taken
      let c := c.pastDigits
      if more = 0 then findRest negative n c
      else if c.rest.head? = some '.' then findFraction negative n more c
      else if atExponent c then findExponent negative n more c
      else foundFraction negative n more c
    else .error ⟨.invalidNumber,c.offset + 1⟩

def skipExponent (c : Cursor) : Except Fault Cursor :=
  let c := c.next
  let c := if c.rest.head? = some '-' || c.rest.head? = some '+' then c.next else c
  match c.rest with
  | [] => .error (c.fault .invalidNumber)
  | d :: _ => if d.isDigit then .ok c.pastDigits else .error ⟨.invalidNumber,c.offset + 1⟩

def skipFraction (c : Cursor) : Except Fault Cursor :=
  if c.rest.head? = some '.' then
    let c := c.next
    if (digitsAt c).isEmpty then .error (c.faultAhead .invalidNumber)
    else
      let c := c.pastDigits
      if atExponent c then skipExponent c else .ok c
  else if atExponent c then skipExponent c
  else .ok c

def skipNumber (c : Cursor) : Except Fault Cursor :=
  match c.rest with
  | [] => .error (c.fault .invalidNumber)
  | d :: ds =>
    if d = '0' then
      if (ds.head?.map Char.isDigit).getD false then .error (c.next.faultAhead .invalidNumber)
      else skipFraction c.next
    else if d.isDigit then skipFraction c.pastDigits
    else .error ⟨.invalidNumber,c.offset + 1⟩

end RegionAudit.Json
