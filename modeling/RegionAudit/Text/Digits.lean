/-!
Digits, and the numbers that they denote. A number of 16 bits may be half of a character.
-/
namespace RegionAudit.Text

def hexDigit (n : Nat) : Char :=
  if n < 10 then Char.ofNat ('0'.toNat + n) else Char.ofNat ('a'.toNat + (n - 10))

def hexDigits (n : Nat) : List Char :=
  Nat.toDigits 16 n

def hexValue? (c : Char) : Option Nat :=
  if c.isDigit then some (c.toNat - '0'.toNat)
  else if 'a' ≤ c && c ≤ 'f' then some (c.toNat - 'a'.toNat + 10)
  else if 'A' ≤ c && c ≤ 'F' then some (c.toNat - 'A'.toNat + 10)
  else none

/-- The number that digits of a base up to sixteen denote, after those that denote `n`. -/
def numberAfter? (base n : Nat) : List Char → Option Nat
  | [] => some n
  | c :: cs =>
    match hexValue? c with
    | some d => if d < base then numberAfter? base (n * base + d) cs else none
    | none => none

def number? (base : Nat) (cs : List Char) : Option Nat :=
  numberAfter? base 0 cs

def isHighHalf (n : Nat) : Bool :=
  0xd800 ≤ n && n ≤ 0xdbff

def isLowHalf (n : Nat) : Bool :=
  0xdc00 ≤ n && n ≤ 0xdfff

theorem hexValue?_hexDigit {n : Nat} (h : n < 16) : hexValue? (hexDigit n) = some n := by
  have every : ∀ m ∈ List.range 16, hexValue? (hexDigit m) = some m := by decide
  exact every n (List.mem_range.mpr h)

end RegionAudit.Text
