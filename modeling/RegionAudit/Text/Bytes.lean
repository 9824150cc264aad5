/-!
Texts as bytes: how many bytes a text takes up, and the text that bytes stand for. Bytes that stand for
nothing are refused by `decode?` and shown as replacement characters by `decode`.
-/
namespace RegionAudit.Text

theorem toNat_ofNat {n : Nat} (h : n.isValidChar) : (Char.ofNat n).toNat = n := by
  rw [Char.ofNat,dif_pos h]
  rfl

def byteLength (cs : List Char) : Nat :=
  cs.foldr (fun c n => c.utf8Size + n) 0

/-- How a character may begin: how many bytes follow, the bits of the first byte, and the least and
the greatest value of the second byte. -/
structure Lead where
  tails : Nat
  bits : Nat
  least : Nat
  greatest : Nat
  deriving Repr

/-- What a first byte says. The limits on the second byte exclude overlong forms, surrogates and
numbers past the last code point. -/
def lead? (b : Nat) : Option Lead :=
  if b < 0x80 then some ⟨0,b,0,0⟩
  else if b < 0xc2 then none
  else if b < 0xe0 then some ⟨1,b - 0xc0,0x80,0xbf⟩
  else if b = 0xe0 then some ⟨2,0,0xa0,0xbf⟩
  else if b = 0xed then some ⟨2,0xd,0x80,0x9f⟩
  else if b < 0xf0 then some ⟨2,b - 0xe0,0x80,0xbf⟩
  else if b = 0xf0 then some ⟨3,0,0x90,0xbf⟩
  else if b < 0xf4 then some ⟨3,b - 0xf0,0x80,0xbf⟩
  else if b = 0xf4 then some ⟨3,4,0x80,0x8f⟩
  else none

/-- Where a reader stands between two bytes: at a border, or within a character with some bytes still to
come. -/
inductive Pending
  | border
  | within (tails bits least greatest : Nat)
  deriving DecidableEq, Repr

/-- The text that bytes stand for; `none` marks each longest run of bytes that begin a character and
break off. -/
def decodeFrom : Pending → List Nat → List (Option Char)
  | .border, [] => []
  | .within _ _ _ _, [] => [none]
  | .border, b :: bs =>
    match lead? b with
    | none => none :: decodeFrom .border bs
    | some ⟨0,bits,_,_⟩ => some (Char.ofNat bits) :: decodeFrom .border bs
    | some ⟨tails + 1,bits,least,greatest⟩ =>
      decodeFrom (.within (tails + 1) bits least greatest) bs
  | .within tails bits least greatest, b :: bs =>
    if least ≤ b ∧ b ≤ greatest then
      let bits := bits * 64 + (b - 0x80)
      if tails ≤ 1 then some (Char.ofNat bits) :: decodeFrom .border bs
      else decodeFrom (.within (tails - 1) bits 0x80 0xbf) bs
    else
      none ::
        match lead? b with
        | none => none :: decodeFrom .border bs
        | some ⟨0,bits,_,_⟩ => some (Char.ofNat bits) :: decodeFrom .border bs
        | some ⟨tails + 1,bits,least,greatest⟩ =>
          decodeFrom (.within (tails + 1) bits least greatest) bs

def decode? (bytes : List Nat) : Option (List Char) :=
  (decodeFrom .border bytes).mapM id

/-- The text that bytes stand for, with a replacement character for each part that breaks off. -/
def decode (bytes : List Nat) : List Char :=
  (decodeFrom .border bytes).map (·.getD '\ufffd')

end RegionAudit.Text
