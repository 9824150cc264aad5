import RegionAudit.Text.Bytes

/-!
Names in other scripts, written with letters, digits and hyphens only. The basic characters come first; then
each other character is told, in the order of code points, by the distance from the one before, as a number
whose digits know where they end.
-/
namespace RegionAudit.Url.Punycode

def digit (n : Nat) : Char :=
  if n < 26 then Char.ofNat ('a'.toNat + n) else Char.ofNat ('0'.toNat + (n - 26))

/-- The least value that a digit has when another follows it. -/
def threshold (k bias : Nat) : Nat :=
  if k ≤ bias then 1 else if bias + 26 ≤ k then 26 else k - bias

def distance (bias k q : Nat) : List Char :=
  let t := threshold k bias
  if q < t then [digit q]
  else digit (t + (q - t) % (36 - t)) :: distance bias (k + 36) ((q - t) / (36 - t))
termination_by q
decreasing_by
  have : 1 ≤ threshold k bias := by
    unfold threshold
    split
    · exact Nat.le_refl 1
    · split <;> omega
  exact Nat.lt_of_le_of_lt (Nat.div_le_self _ _) (by omega)

def halvings (delta k : Nat) : Nat × Nat :=
  if 455 < delta then halvings (delta / 35) (k + 36) else (delta,k)
termination_by delta
decreasing_by exact Nat.div_lt_self (by omega) (by omega)

def adapt (delta written : Nat) (isFirst : Bool) : Nat :=
  let delta := if isFirst then delta / 700 else delta / 2
  let (delta,k) := halvings (delta + delta / written) 0
  k + 36 * delta / (delta + 38)

/-- What is known between two characters: what was written, the distance so far, the bias, how many
characters were told, and whether a distance was. -/
structure Progress where
  out : List Char
  delta : Nat
  bias : Nat
  told : Nat
  isFirst : Bool

def Progress.pass (n : Nat) (p : Progress) (c : Char) : Progress :=
  if c.toNat < n then { p with delta := p.delta + 1 }
  else if c.toNat = n then
    { out := p.out ++ distance p.bias 36 p.delta
      delta := 0
      bias := adapt p.delta (p.told + 1) p.isFirst
      told := p.told + 1
      isFirst := false }
  else p

/-- Tells the characters of a name that have one code point, after all lesser ones. -/
def Progress.tell (name : List Char) (p : Progress) (previous n : Nat) : Progress :=
  let p := { p with delta := p.delta + (n - previous) * (p.told + 1) }
  let p := name.foldl (Progress.pass n) p
  { p with delta := p.delta + 1 }

def tellAll (name : List Char) (p : Progress) (previous : Nat) : List Nat → Progress
  | [] => p
  | n :: rest => tellAll name (p.tell name previous n) (n + 1) rest

/-- A name without its marking letters. -/
def encode (name : List Char) : List Char :=
  let basic := name.filter (·.toNat < 0x80)
  let others := ((name.filter (0x80 ≤ ·.toNat)).map Char.toNat).mergeSort.eraseDups
  let start := if basic.isEmpty then [] else basic ++ ['-']
  (tellAll name ⟨start,0,72,basic.length,true⟩ 0x80 others).out

end RegionAudit.Url.Punycode
