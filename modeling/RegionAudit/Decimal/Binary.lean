/-!
Binary numbers of 53 digits, kept as whole numbers: a number is `mantissa * 2 ^ exponent`. Every operation
rounds the exact result to the nearest such number, to the even one of two that are equally near.
-/
namespace RegionAudit.Decimal

/-- The number `mantissa * 2 ^ exponent`. -/
structure Binary where
  mantissa : Nat
  exponent : Int
  deriving DecidableEq, Repr

namespace Binary

def zero : Binary :=
  ⟨0,-1074⟩

def isZero (b : Binary) : Bool :=
  b.mantissa = 0

/-- The quotient rounded to the nearest whole number, to the even one of two. -/
def roundQuotient (num den : Nat) : Nat :=
  let q := num / den
  let r := num % den
  if 2 * r < den then q
  else if den < 2 * r then q + 1
  else if q % 2 = 0 then q
  else q + 1

def scale (num den : Nat) (e : Int) : Nat × Nat :=
  if e < 0 then (num * Nat.pow 2 (-e).toNat,den) else (num,den * Nat.pow 2 e.toNat)

/-- The exponent at which a quotient has 53 digits, or the least exponent there is. -/
def exponentFor (num den : Nat) : Int :=
  let guess : Int := (Nat.log2 num : Int) - Nat.log2 den - 52
  let (n,d) := scale num den guess
  max (if n / d < Nat.pow 2 52 then guess - 1 else guess) (-1074)

/-- The nearest number to a quotient; `none` if that is too large. -/
def ofRatio (num den : Nat) : Option Binary :=
  if num = 0 then some zero
  else
    let e := exponentFor num den
    let (n,d) := scale num den e
    let m := roundQuotient n d
    let b : Binary := if m = Nat.pow 2 53 then ⟨Nat.pow 2 52,e + 1⟩ else ⟨m,e⟩
    if 971 < b.exponent then none else some b

def ofNat (n : Nat) : Option Binary :=
  ofRatio n 1

def ratio (b : Binary) : Nat × Nat :=
  scale b.mantissa 1 (-b.exponent)

def mul (a b : Binary) : Option Binary :=
  ofRatio (a.ratio.1 * b.ratio.1) (a.ratio.2 * b.ratio.2)

def div (a b : Binary) : Option Binary :=
  if b.isZero then none else ofRatio (a.ratio.1 * b.ratio.2) (a.ratio.2 * b.ratio.1)

end Binary

end RegionAudit.Decimal
