import RegionAudit.Text.CaseTable

/-!
Lower case of a whole text. Each letter goes to its small form; a capital I with a dot becomes two
characters, and a capital sigma is written as a final sigma where it ends a word.
-/
namespace RegionAudit.Text

def inRuns (runs : List (Nat × Nat)) (n : Nat) : Bool :=
  runs.any fun r => r.1 ≤ n && n ≤ r.2

def CaseRun.contains (r : CaseRun) (n : Nat) : Bool :=
  r.first ≤ n && n ≤ r.last && (n - r.first) % r.stride = 0

def smallForm (c : Char) : Char :=
  match caseRuns.find? (·.contains c.toNat) with
  | some r => Char.ofNat (c.toNat + r.shift).toNat
  | none => c

def isCased (c : Char) : Bool :=
  inRuns casedRuns c.toNat

def isCaseIgnorable (c : Char) : Bool :=
  inRuns caseIgnorableRuns c.toNat

/-- Whether the first character that case does not ignore is a cased letter. -/
def meetsCased (cs : List Char) : Bool :=
  match cs.dropWhile isCaseIgnorable with
  | [] => false
  | c :: _ => isCased c

/-- A sigma ends a word when a cased letter stands before it and none after it. `before` is the
text before it, last character first. -/
def sigma (before after : List Char) : Char :=
  if meetsCased before && !meetsCased after then 'ς' else 'σ'

/-- Lower case of a text that follows `before`, which is given last character first. -/
def lowerAfter (before : List Char) : List Char → List Char
  | [] => []
  | c :: cs =>
    let rest := lowerAfter (c :: before) cs
    if c.toNat < 0x80 then c.toLower :: rest
    else if c = 'Σ' then sigma before cs :: rest
    else if c = 'İ' then 'i' :: '\u0307' :: rest
    else smallForm c :: rest

def lower (cs : List Char) : List Char :=
  lowerAfter [] cs

theorem lowerAfter_of_basic (before : List Char) {cs : List Char}
    (h : ∀ c ∈ cs, c.toNat < 0x80) : lowerAfter before cs = cs.map Char.toLower := by
  induction cs generalizing before with
  | nil => rfl
  | cons c cs ih =>
    have hc := h c (by simp)
    simp [lowerAfter,hc,ih (c :: before) fun d hd => h d (List.mem_cons_of_mem c hd)]

theorem lower_of_basic {cs : List Char} (h : ∀ c ∈ cs, c.toNat < 0x80) :
    lower cs = cs.map Char.toLower :=
  lowerAfter_of_basic [] h

theorem toNat_of_isAlphanum {c : Char} (h : c.isAlphanum = true) : 48 ≤ c.toNat ∧ c.toNat ≤ 122 := by
  change (decide ('A'.val ≤ c.val ∧ c.val ≤ 'Z'.val) ||
    (decide ('a'.val ≤ c.val) && decide (c.val ≤ 'z'.val)) ||
    (decide ('0'.val ≤ c.val) && decide (c.val ≤ '9'.val))) = true at h
  simp only [Bool.or_eq_true,Bool.and_eq_true,decide_eq_true_eq,UInt32.le_iff_toNat_le] at h
  change ((65 ≤ c.toNat ∧ c.toNat ≤ 90) ∨ 97 ≤ c.toNat ∧ c.toNat ≤ 122) ∨
    48 ≤ c.toNat ∧ c.toNat ≤ 57 at h
  omega

/-- Equality up to the case of the letters a to z. -/
def sameIgnoringBasicCase (a b : List Char) : Bool :=
  a.map Char.toLower = b.map Char.toLower

end RegionAudit.Text
