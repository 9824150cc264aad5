import RegionAudit.Proofs.RegionOrder
import RegionAudit.Text.Bytes

/-! Bytes that stand for a text. Reading bytes and writing a text in UTF-8 undo each other, so bytes are refused
exactly if they are the bytes of no text (`decode?_eq_some_iff`). -/
namespace RegionAudit.Text

/-- The bytes of a text, as numbers. -/
def utf8 (cs : List Char) : List Nat :=
  (bytes cs).map UInt8.toNat

def IsTail (b : Nat) : Prop :=
  0x80 ≤ b ∧ b ≤ 0xbf

/-- The forms of characters, with the numbers that they stand for: no form is longer than it has to be, and none is
of a surrogate or past the last code point. -/
inductive Form : List Nat → Nat → Prop
  | one {b : Nat} (lead : b < 0x80) : Form [b] b
  | two {b b₁ : Nat} (lead : 0xc2 ≤ b ∧ b < 0xe0) (first : IsTail b₁) : Form [b,b₁] ((b-0xc0)*64+(b₁-0x80))
  | three {b b₁ b₂ : Nat} (lead : 0xe0 ≤ b ∧ b < 0xf0) (first : IsTail b₁) (second : IsTail b₂)
      (long : b = 0xe0 → 0xa0 ≤ b₁) (scalar : b = 0xed → b₁ < 0xa0) :
      Form [b,b₁,b₂] (((b-0xe0)*64+(b₁-0x80))*64+(b₂-0x80))
  | four {b b₁ b₂ b₃ : Nat} (lead : 0xf0 ≤ b ∧ b < 0xf5) (first : IsTail b₁) (second : IsTail b₂)
      (third : IsTail b₃) (long : b = 0xf0 → 0x90 ≤ b₁) (last : b = 0xf4 → b₁ < 0x90) :
      Form [b,b₁,b₂,b₃] ((((b-0xf0)*64+(b₁-0x80))*64+(b₂-0x80))*64+(b₃-0x80))

/-! ### Forms and characters -/

def codeBytes (n : Nat) : List Nat :=
  if n ≤ 0x7f then [n]
  else if n ≤ 0x7ff then [n/64+0xc0,n % 64+0x80]
  else if n ≤ 0xffff then [n/4096+0xe0,n/64 % 64+0x80,n % 64+0x80]
  else [n/262144+0xf0,n/4096 % 64+0x80,n/64 % 64+0x80,n % 64+0x80]

theorem utf8_single (c : Char) : utf8 [c] = codeBytes c.toNat := by
  have hvalid : c.toNat < 0x110000 := by
    have hc := c.valid
    simp only [UInt32.isValidChar,Nat.isValidChar] at hc
    have hcode : c.val.toNat = c.toNat := rfl
    omega
  have hbytes : bytes [c] = String.utf8EncodeChar c := List.flatMap_singleton _ _
  have hcode : c.val.toNat = c.toNat := rfl
  rw [utf8,hbytes,String.utf8EncodeChar,codeBytes,hcode]
  split_ifs <;> simp only [List.map_cons,List.map_nil,UInt8.toNat_ofNat'] <;> simp <;> omega

theorem Form.isValidChar {form : List Nat} {n : Nat} (h : Form form n) : n.isValidChar := by
  unfold Nat.isValidChar
  cases h with
  | one lead => omega
  | two lead first =>
    unfold IsTail at first
    omega
  | three lead first second long scalar =>
    unfold IsTail at first second
    omega
  | four lead first second third long last =>
    unfold IsTail at first second third
    omega

theorem Form.codeBytes_eq {form : List Nat} {n : Nat} (h : Form form n) : codeBytes n = form := by
  unfold codeBytes
  cases h with
  | one lead => rw [if_pos (by omega)]
  | two lead first =>
    unfold IsTail at first
    rw [if_neg (by omega),if_pos (by omega)]
    simp only [List.cons.injEq,and_true]
    omega
  | three lead first second long scalar =>
    unfold IsTail at first second
    rw [if_neg (by omega),if_neg (by omega),if_pos (by omega)]
    simp only [List.cons.injEq,and_true]
    omega
  | four lead first second third long last =>
    unfold IsTail at first second third
    rw [if_neg (by omega),if_neg (by omega),if_neg (by omega)]
    simp only [List.cons.injEq,and_true]
    omega

/-- A form is what its character is written as. -/
theorem Form.utf8_eq {form : List Nat} {n : Nat} (h : Form form n) : utf8 [Char.ofNat n] = form := by
  rw [utf8_single,toNat_ofNat h.isValidChar,h.codeBytes_eq]

theorem form_codeBytes {n : Nat} (h : n.isValidChar) : Form (codeBytes n) n := by
  have hle : n ≤ 0x10ffff := by
    unfold Nat.isValidChar at h
    omega
  have htail (m : Nat) : IsTail (m % 64+0x80) := by
    unfold IsTail
    omega
  unfold codeBytes
  split_ifs
  · exact .one (by omega)
  · have hform : Form _ _ := .two (b := n/64+0xc0) (by omega) (htail n)
    rwa [show (n/64+0xc0-0xc0)*64+(n % 64+0x80-0x80) = n by omega] at hform
  · have hform : Form _ _ := .three (b := n/4096+0xe0) (by omega) (htail (n/64)) (htail n) (by omega) (by
      unfold Nat.isValidChar at h
      omega)
    rwa [show ((n/4096+0xe0-0xe0)*64+(n/64 % 64+0x80-0x80))*64+(n % 64+0x80-0x80) = n by omega] at hform
  · have hform : Form _ _ := .four (b := n/262144+0xf0) (by omega) (htail (n/4096)) (htail (n/64)) (htail n)
      (by omega) (by omega)
    rwa [show (((n/262144+0xf0-0xf0)*64+(n/4096 % 64+0x80-0x80))*64+(n/64 % 64+0x80-0x80))*64+
      (n % 64+0x80-0x80) = n by omega] at hform

/-! ### First bytes -/

theorem lead?_two {b : Nat} (h : 0xc2 ≤ b ∧ b < 0xe0) : lead? b = some ⟨1,b-0xc0,0x80,0xbf⟩ := by
  rw [lead?,if_neg (by omega),if_neg (by omega),if_pos (by omega)]

theorem lead?_three {b : Nat} (h : 0xe0 ≤ b ∧ b < 0xf0) :
    ∃ least greatest, lead? b = some ⟨2,b-0xe0,least,greatest⟩ ∧
      ∀ b₁, least ≤ b₁ ∧ b₁ ≤ greatest ↔ IsTail b₁ ∧ (b = 0xe0 → 0xa0 ≤ b₁) ∧ (b = 0xed → b₁ < 0xa0) := by
  unfold lead? IsTail
  rw [if_neg (by omega),if_neg (by omega),if_neg (by omega)]
  by_cases hlong : b = 0xe0
  · exact ⟨0xa0,0xbf,by simp [hlong],fun b₁ => by omega⟩
  · by_cases hscalar : b = 0xed
    · exact ⟨0x80,0x9f,by simp [hscalar],fun b₁ => by omega⟩
    · exact ⟨0x80,0xbf,by rw [if_neg hlong,if_neg hscalar,if_pos h.2],fun b₁ => by omega⟩

theorem lead?_four {b : Nat} (h : 0xf0 ≤ b ∧ b < 0xf5) :
    ∃ least greatest, lead? b = some ⟨3,b-0xf0,least,greatest⟩ ∧
      ∀ b₁, least ≤ b₁ ∧ b₁ ≤ greatest ↔ IsTail b₁ ∧ (b = 0xf0 → 0x90 ≤ b₁) ∧ (b = 0xf4 → b₁ < 0x90) := by
  unfold lead? IsTail
  rw [if_neg (by omega),if_neg (by omega),if_neg (by omega),if_neg (by omega),if_neg (by omega),if_neg (by omega)]
  by_cases hlong : b = 0xf0
  · exact ⟨0x90,0xbf,by simp [hlong],fun b₁ => by omega⟩
  · by_cases hlast : b = 0xf4
    · exact ⟨0x80,0x8f,by simp [hlast],fun b₁ => by omega⟩
    · exact ⟨0x80,0xbf,by rw [if_neg hlong,if_pos (by omega)],fun b₁ => by omega⟩

theorem lead?_none {b : Nat} (h : 0x80 ≤ b ∧ b < 0xc2 ∨ 0xf5 ≤ b) : lead? b = none := by
  unfold lead?
  split_ifs <;> first | rfl | omega

/-! ### Reading -/

section Steps
variable {b tails bits least greatest : Nat} {rest : List Nat}

theorem decodeFrom_lead (h : lead? b = some ⟨tails+1,bits,least,greatest⟩) :
    decodeFrom .border (b :: rest) = decodeFrom (.within (tails+1) bits least greatest) rest := by
  rw [decodeFrom,h]

theorem decodeFrom_tail (h : least ≤ b ∧ b ≤ greatest) :
    decodeFrom (.within (tails+2) bits least greatest) (b :: rest) =
      decodeFrom (.within (tails+1) (bits*64+(b-0x80)) 0x80 0xbf) rest := by
  simp [decodeFrom,h]

theorem decodeFrom_last (h : least ≤ b ∧ b ≤ greatest) :
    decodeFrom (.within 1 bits least greatest) (b :: rest) =
      some (Char.ofNat (bits*64+(b-0x80))) :: decodeFrom .border rest := by
  simp [decodeFrom,h]

theorem exists_tail {bs : List Nat} (h : none ∉ decodeFrom (.within tails bits least greatest) bs) :
    ∃ b rest, bs = b :: rest ∧ least ≤ b ∧ b ≤ greatest := by
  cases bs with
  | nil => simp [decodeFrom] at h
  | cons b rest =>
    refine ⟨b,rest,rfl,?_⟩
    by_contra hout
    simp [decodeFrom,hout] at h

end Steps

/-- The form of a character is read as that character, whatever follows. -/
theorem decodeFrom_form {form : List Nat} {n : Nat} (h : Form form n) (rest : List Nat) :
    decodeFrom .border (form ++ rest) = some (Char.ofNat n) :: decodeFrom .border rest := by
  cases h with
  | one lead => simp [decodeFrom,lead?,lead]
  | two lead first =>
    simp only [List.cons_append,List.nil_append]
    rw [decodeFrom_lead (lead?_two lead),decodeFrom_last first]
  | @three b b₁ b₂ lead first second long scalar =>
    obtain ⟨least,greatest,hlead,hfirst⟩ := lead?_three lead
    simp only [List.cons_append,List.nil_append]
    rw [decodeFrom_lead hlead,decodeFrom_tail ((hfirst b₁).mpr ⟨first,long,scalar⟩),decodeFrom_last second]
  | @four b b₁ b₂ b₃ lead first second third long last =>
    obtain ⟨least,greatest,hlead,hfirst⟩ := lead?_four lead
    simp only [List.cons_append,List.nil_append]
    rw [decodeFrom_lead hlead,decodeFrom_tail ((hfirst b₁).mpr ⟨first,long,last⟩),decodeFrom_tail second,
      decodeFrom_last third]

/-- Bytes that are read without a break begin with the form of a character. -/
theorem exists_form {b : Nat} {bs : List Nat} (h : none ∉ decodeFrom .border (b :: bs)) :
    ∃ form n rest, b :: bs = form ++ rest ∧ Form form n := by
  by_cases hone : b < 0x80
  · exact ⟨[b],b,bs,rfl,.one hone⟩
  by_cases htwo : 0xc2 ≤ b ∧ b < 0xe0
  · rw [decodeFrom_lead (lead?_two htwo)] at h
    obtain ⟨b₁,rest,rfl,first⟩ := exists_tail h
    exact ⟨[b,b₁],_,rest,rfl,.two htwo first⟩
  by_cases hthree : 0xe0 ≤ b ∧ b < 0xf0
  · obtain ⟨least,greatest,hlead,hfirst⟩ := lead?_three hthree
    rw [decodeFrom_lead hlead] at h
    obtain ⟨b₁,rest,rfl,hb₁⟩ := exists_tail h
    rw [decodeFrom_tail hb₁] at h
    obtain ⟨b₂,rest,rfl,second⟩ := exists_tail h
    obtain ⟨first,long,scalar⟩ := (hfirst b₁).mp hb₁
    exact ⟨[b,b₁,b₂],_,rest,rfl,.three hthree first second long scalar⟩
  by_cases hfour : 0xf0 ≤ b ∧ b < 0xf5
  · obtain ⟨least,greatest,hlead,hfirst⟩ := lead?_four hfour
    rw [decodeFrom_lead hlead] at h
    obtain ⟨b₁,rest,rfl,hb₁⟩ := exists_tail h
    rw [decodeFrom_tail hb₁] at h
    obtain ⟨b₂,rest,rfl,second⟩ := exists_tail h
    rw [decodeFrom_tail second] at h
    obtain ⟨b₃,rest,rfl,third⟩ := exists_tail h
    obtain ⟨first,long,last⟩ := (hfirst b₁).mp hb₁
    exact ⟨[b,b₁,b₂,b₃],_,rest,rfl,.four hfour first second third long last⟩
  · -- no other byte begins a character
    rw [decodeFrom,lead?_none (by omega)] at h
    simp at h

theorem utf8_cons (c : Char) (cs : List Char) : utf8 (c :: cs) = utf8 [c] ++ utf8 cs := by
  simp [utf8,bytes]

theorem decodeFrom_utf8 (cs : List Char) : decodeFrom .border (utf8 cs) = cs.map some := by
  induction cs with
  | nil => rfl
  | cons c cs ih =>
    have hform := form_codeBytes (n := c.toNat) c.valid
    rw [utf8_cons,utf8_single,decodeFrom_form hform,Char.ofNat_toNat,ih,List.map_cons]

theorem eq_utf8_of_decodeFrom {bs : List Nat} {cs : List Char} (h : decodeFrom .border bs = cs.map some) :
    bs = utf8 cs := by
  induction cs generalizing bs with
  | nil =>
    cases bs with
    | nil => rfl
    | cons b bs =>
      have hnone : none ∉ decodeFrom .border (b :: bs) := by simp [h]
      obtain ⟨form,n,rest,heq,hform⟩ := exists_form hnone
      rw [heq,decodeFrom_form hform] at h
      cases h
  | cons c cs ih =>
    cases bs with
    | nil => cases h
    | cons b bs =>
      have hnone : none ∉ decodeFrom .border (b :: bs) := by simp [h]
      obtain ⟨form,n,rest,heq,hform⟩ := exists_form hnone
      rw [heq,decodeFrom_form hform,List.map_cons,List.cons.injEq,Option.some.injEq] at h
      obtain ⟨rfl,hrest⟩ := h
      rw [heq,utf8_cons,hform.utf8_eq,ih hrest]

theorem mapM_id_eq_some_iff {xs : List (Option Char)} {cs : List Char} :
    xs.mapM id = some cs ↔ xs = cs.map some := by
  induction xs generalizing cs with
  | nil => cases cs <;> simp
  | cons x xs ih =>
    simp only [List.mapM_cons,id,Option.bind_eq_bind,Option.bind_eq_some_iff,ih,Option.pure_def,Option.some.injEq]
    constructor
    · rintro ⟨c,rfl,cs,rfl,rfl⟩
      rfl
    · intro hmap
      cases cs with
      | nil => cases hmap
      | cons c cs =>
        obtain ⟨rfl,rfl⟩ := List.cons.inj hmap
        exact ⟨c,rfl,cs,rfl,rfl⟩

/-- Bytes are read as a text exactly if they are its bytes. -/
theorem decode?_eq_some_iff {bs : List Nat} {cs : List Char} : decode? bs = some cs ↔ bs = utf8 cs := by
  rw [decode?,mapM_id_eq_some_iff]
  constructor
  · exact eq_utf8_of_decodeFrom
  · rintro rfl
    exact decodeFrom_utf8 cs

theorem decode?_eq_none_iff {bs : List Nat} : decode? bs = none ↔ ∀ cs, bs ≠ utf8 cs := by
  simp only [Option.eq_none_iff_forall_ne_some,ne_eq,decode?_eq_some_iff]

end RegionAudit.Text
