import RegionAudit.Ini.Fault
import RegionAudit.Text.Blank
import RegionAudit.Text.Digits

/-!
Spans of text in a settings file: keys, headers and values. A backslash takes the next character out of its
role, and some letters after it stand for characters that are hard to write.
-/
namespace RegionAudit.Ini

/-- What a character after a backslash stands for; the end of a line stands for nothing. -/
def escaped (c : Char) : List Char :=
  match c with
  | '0' => ['\x00']
  | 'a' => ['\x07']
  | 'b' => ['\x08']
  | 't' => ['\t']
  | 'r' => ['\r']
  | 'n' => ['\n']
  | '\n' => []
  | c => [c]

/-- The character whose number is written in the four places of an escape. The first place may hold a plus
sign. -/
def numbered? (places : List Char) : Option Char := do
  let n ← match places with
    | '+' :: digits => Text.number? 16 digits
    | digits => Text.number? 16 digits
  if Text.isHighHalf n || Text.isLowHalf n then none else some (Char.ofNat n)

/-- Where a reader stands within a span of text: between characters, after a backslash, within the four
places of a character's number, or after a backslash there. -/
inductive Within
  | plain
  | backslash
  | places (filled : List Char)
  | placesBackslash (filled : List Char)
  deriving DecidableEq, Repr

abbrev Reading (α : Type) := Except Fault (α × List Char)

def before (cs : List Char) (r : Reading (List Char)) : Reading (List Char) :=
  match r with
  | .ok (more,rest) => .ok (cs ++ more,rest)
  | .error f => .error f

def atEnd (ends : List End) (cs : List Char) : Reading (List Char) :=
  if none ∈ ends then .ok (cs,[]) else .error ⟨.unended ends,0⟩

def readUntil (ends : List End) : Within → List Char → Reading (List Char)
  | .plain, [] => atEnd ends []
  | .plain, c :: cs =>
    if some c ∈ ends then .ok ([],c :: cs)
    else if c = '\\' then readUntil ends .backslash cs
    else before [c] (readUntil ends .plain cs)
  | .backslash, [] => atEnd ends ['\\']
  | .backslash, c :: cs =>
    if c = 'x' then readUntil ends (.places []) cs
    else before (escaped c) (readUntil ends .plain cs)
  | .places _, [] => .error ⟨.unended ends,0⟩
  | .places filled, c :: cs =>
    if c = '\\' then readUntil ends (.placesBackslash filled) cs
    else if filled.length < 3 then readUntil ends (.places (filled ++ [c])) cs
    else
      match numbered? (filled ++ [c]) with
      | some d => before [d] (readUntil ends .plain cs)
      | none => .error ⟨.unknownCharacter,cs.length + 1⟩
  | .placesBackslash _, [] => .error ⟨.brokenDigits none,0⟩
  | .placesBackslash filled, c :: cs =>
    if c = '\n' then
      if filled.length < 3 then readUntil ends (.places (filled ++ ['\\'])) cs
      else .error ⟨.unknownCharacter,cs.length + 1⟩
    else .error ⟨.brokenDigits (some c),cs.length + 1⟩

theorem before_ok {cs span rest : List Char} {r : Reading (List Char)}
    (h : before cs r = .ok (span,rest)) : ∃ more, r = .ok (more,rest) ∧ span = cs ++ more := by
  unfold before at h
  split at h
  · next more rest =>
    cases h
    exact ⟨more,rfl,rfl⟩
  · cases h

theorem atEnd_ok {ends : List End} {cs span rest : List Char}
    (h : atEnd ends cs = .ok (span,rest)) : rest = [] := by
  unfold atEnd at h
  split at h
  · cases h
    rfl
  · cases h

theorem readUntil_length {ends : List End} {w : Within} {cs span rest : List Char}
    (h : readUntil ends w cs = .ok (span,rest)) : rest.length ≤ cs.length := by
  fun_induction readUntil ends w cs generalizing span with
  | case1 => simp [atEnd_ok h]
  | case2 => cases h; exact Nat.le_refl _
  | case3 _ _ ih => exact Nat.le_succ_of_le (ih h)
  | case4 _ _ _ _ ih =>
    obtain ⟨more,hr,-⟩ := before_ok h
    exact Nat.le_succ_of_le (ih hr)
  | case5 => simp [atEnd_ok h]
  | case6 _ ih => exact Nat.le_succ_of_le (ih h)
  | case7 _ _ _ ih =>
    obtain ⟨more,hr,-⟩ := before_ok h
    exact Nat.le_succ_of_le (ih hr)
  | case8 => cases h
  | case9 _ _ ih => exact Nat.le_succ_of_le (ih h)
  | case10 _ _ _ _ _ ih => exact Nat.le_succ_of_le (ih h)
  | case11 _ _ _ _ _ _ _ ih =>
    obtain ⟨more,hr,-⟩ := before_ok h
    exact Nat.le_succ_of_le (ih hr)
  | case12 => cases h
  | case13 => cases h
  | case14 _ _ _ ih => exact Nat.le_succ_of_le (ih h)
  | case15 => cases h
  | case16 => cases h

/-- A line goes on up to its end or to the end of the file. -/
def lineEnds : List End := [some '\n',some '\r',none]

def isLineBlank (c : Char) : Bool :=
  Text.isBlank c && c ≠ '\n' && c ≠ '\r'

/-- Reads the parts of a value up to the end of its line. A part in quotation marks is taken as it is and
may go over lines; the part after it loses its last blanks only. -/
def readParts (isFirst : Bool) (cs : List Char) : Reading (List Char) :=
  match cs with
  | [] => .ok ([],[])
  | c :: rest =>
    if c = '"' || c = '\'' then
      match h : readUntil [some c] .plain rest with
      | .ok (part,after) =>
        have : after.length ≤ rest.length := readUntil_length h
        before part (readParts false (after.drop 1))
      | .error f => .error f
    else
      match readUntil lineEnds .plain cs with
      | .ok (part,after) => .ok (if isFirst then Text.trim part else Text.trimEnd part,after)
      | .error f => .error f
termination_by cs.length
decreasing_by simp only [List.length_drop,List.length_cons]; omega

def readValue (cs : List Char) : Reading (List Char) :=
  readParts true (cs.dropWhile isLineBlank)

theorem readParts_length {isFirst : Bool} {cs value rest : List Char}
    (h : readParts isFirst cs = .ok (value,rest)) : rest.length ≤ cs.length := by
  fun_induction readParts isFirst cs generalizing value with
  | case1 => cases h; exact Nat.le_refl _
  | case2 _ _ _ _ _ _ _ hle ih =>
    obtain ⟨more,hr,-⟩ := before_ok h
    have := ih hr
    simp only [List.length_drop] at this
    simp only [List.length_cons]
    omega
  | case3 => cases h
  | case4 _ _ _ _ _ _ hu =>
    rw [hu] at h
    cases h
    exact readUntil_length hu
  | case5 _ _ _ _ _ hu =>
    rw [hu] at h
    cases h

theorem readValue_length {cs value rest : List Char} (h : readValue cs = .ok (value,rest)) :
    rest.length ≤ cs.length :=
  Nat.le_trans (readParts_length h) (List.dropWhile_sublist _).length_le

end RegionAudit.Ini
