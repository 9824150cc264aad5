import RegionAudit.Decimal.Binary

/-!
The shortest decimal number that reads back as a given binary number: of all decimals that round to it
the one with the fewest digits, and of those the nearest.
-/
namespace RegionAudit.Decimal

/-- The decimal number `digits * 10 ^ exponent`. -/
structure Shortest where
  digits : Nat
  exponent : Int
  deriving DecidableEq, Repr

/-- The bounds of the numbers that round to a binary number, in quarters of its last digit. Below a
power of two the lower bound is nearer. -/
def bounds (b : Binary) : Nat × Nat :=
  if b.mantissa = Nat.pow 2 52 && -1074 < b.exponent then (4 * b.mantissa - 1,4 * b.mantissa + 2)
  else (4 * b.mantissa - 2,4 * b.mantissa + 2)

def onGrid (n : Nat) (e k : Int) : Nat × Nat :=
  let (num,den) := Binary.scale n 1 (-e)
  if k < 0 then (num * Nat.pow 10 (-k).toNat,den) else (num,den * Nat.pow 10 k.toNat)

/-- The multiple of `10 ^ k` nearest to the number among those that round to it. -/
def onGrid? (b : Binary) (k : Int) : Option Nat :=
  let e := b.exponent - 2
  let closed := b.mantissa % 2 = 0
  let (lowNum,den) := onGrid (bounds b).1 e k
  let (highNum,_) := onGrid (bounds b).2 e k
  let (num,_) := onGrid (4 * b.mantissa) e k
  let low := if closed then (lowNum + den - 1) / den else lowNum / den + 1
  let high := if closed then highNum / den else (highNum + den - 1) / den - 1
  if high < low then none
  else
    let nearest := Binary.roundQuotient num den
    some (max low (min high nearest))

/-- Searches downwards for the coarsest grid that has a number to show. -/
def search (b : Binary) : Nat → Int → Shortest
  | 0, k => ⟨0,k⟩
  | n + 1, k =>
    match onGrid? b k with
    | some d => ⟨d,k⟩
    | none => search b n (k - 1)

def Binary.shortest (b : Binary) : Shortest :=
  let (num,den) := b.ratio
  let top : Int :=
    if den ≤ num then (Nat.toDigits 10 (num / den)).length
    else 1 - ((Nat.toDigits 10 (den / num)).length : Int) + 1
  search b 25 top

/-- How decimals are written: within these powers of ten as plain digits, and else with an exponent. -/
structure Format where
  least : Int
  greatest : Int

def pointed : List Char → List Char
  | [] => ['0']
  | [d] => [d]
  | d :: ds => d :: '.' :: ds

/-- A decimal written by a format; plain digits always have a point. -/
def Format.text (f : Format) (s : Shortest) : List Char :=
  let digits := Nat.toDigits 10 s.digits
  let power : Int := s.exponent + digits.length - 1
  if f.least ≤ power ∧ power ≤ f.greatest then
    if power < 0 then '0' :: '.' :: List.replicate (-power - 1).toNat '0' ++ digits
    else
      let whole := power.toNat + 1
      let padded := digits ++ List.replicate (whole - digits.length) '0'
      let fraction := padded.drop whole
      padded.take whole ++ '.' :: (if fraction.isEmpty then ['0'] else fraction)
  else
    pointed digits ++ 'e' :: (if power < 0 then '-' else '+') :: Nat.toDigits 10 power.natAbs

end RegionAudit.Decimal
