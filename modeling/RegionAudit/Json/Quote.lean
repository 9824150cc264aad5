import RegionAudit.Json.Cursor
import RegionAudit.Text.Digits

/-!
Texts in JSON. Writing escapes quotation marks, backslashes and controls; reading takes every escape,
and two escapes for the halves of one character. Reading what was written gives the text back.
-/
namespace RegionAudit.Json

open Text (hexDigit hexValue? isHighHalf isLowHalf)

/-- One character as it is written within quotation marks. -/
def escape (c : Char) : List Char :=
  if c = '"' then ['\\','"']
  else if c = '\\' then ['\\','\\']
  else if c = '\x08' then ['\\','b']
  else if c = '\t' then ['\\','t']
  else if c = '\n' then ['\\','n']
  else if c = '\x0c' then ['\\','f']
  else if c = '\r' then ['\\','r']
  else if c < ' ' then
    ['\\','u','0','0',hexDigit (c.toNat / 16),hexDigit (c.toNat % 16)]
  else [c]

def writeText (cs : List Char) : List Char :=
  '"' :: cs.flatMap escape ++ ['"']

def writeTexts (texts : List (List Char)) : List Char :=
  '[' :: (List.intercalate [','] (texts.map writeText)) ++ [']']

/-- The character of an escape that is one letter. -/
def escaped? (c : Char) : Option Char :=
  match c with
  | '"' => some '"'
  | '\\' => some '\\'
  | '/' => some '/'
  | 'b' => some '\x08'
  | 'f' => some '\x0c'
  | 'n' => some '\n'
  | 'r' => some '\r'
  | 't' => some '\t'
  | _ => none

/-- Where a reader stands within a text: between characters, after a backslash, within the four digits of
a number, or before the second half of a character. `high` is the first half, if that has been read. -/
inductive Within
  | plain
  | backslash
  | digits (high : Option Nat) (count value : Nat)
  | half (high : Nat)
  | halfBackslash (high : Nat)
  deriving DecidableEq, Repr

def joinHalves (high low : Nat) : Char :=
  Char.ofNat ((high - 0xd800) * 1024 + (low - 0xdc00) + 0x10000)

/-- What four digits give: a character, the first half of one, or a fault. -/
inductive Unit16
  | char (c : Char)
  | half (high : Nat)
  | bad

def unit16 (high : Option Nat) (value : Nat) : Unit16 :=
  match high with
  | none =>
    if isLowHalf value then .bad
    else if isHighHalf value then .half value
    else .char (Char.ofNat value)
  | some h => if isLowHalf value then .char (joinHalves h value) else .bad

/-- A digit that is missing among four: the text may be over before the four bytes are. -/
def digitFault (count : Nat) (rest : List Char) (offset : Nat) : Fault :=
  if 4 ≤ count + Text.byteLength rest then ⟨.invalidEscape,offset - count + 4⟩
  else ⟨.endInText,offset + Text.byteLength rest⟩

def before (c : Char) (r : Reading (List Char)) : Reading (List Char) :=
  match r with
  | .ok (cs,after) => .ok (c :: cs,after)
  | .error f => .error f

def readQuoted : Within → List Char → Nat → Reading (List Char)
  | _, [], n => .error ⟨.endInText,n⟩
  | .plain, c :: cs, n =>
    if c = '"' then .ok ([],⟨cs,n + 1⟩)
    else if c = '\\' then readQuoted .backslash cs (n + 1)
    else if c < ' ' then .error ⟨.controlCharacter,n + 1⟩
    else before c (readQuoted .plain cs (n + c.utf8Size))
  | .backslash, c :: cs, n =>
    if c = 'u' then readQuoted (.digits none 0 0) cs (n + 1)
    else
      match escaped? c with
      | some e => before e (readQuoted .plain cs (n + 1))
      | none => .error ⟨.invalidEscape,n + 1⟩
  | .digits high count value, c :: cs, n =>
    match hexValue? c with
    | none => .error (digitFault count (c :: cs) n)
    | some d =>
      let value := value * 16 + d
      if count < 3 then readQuoted (.digits high (count + 1) value) cs (n + 1)
      else
        match unit16 high value with
        | .char e => before e (readQuoted .plain cs (n + 1))
        | .half h => readQuoted (.half h) cs (n + 1)
        | .bad => .error ⟨.loneSurrogate,n + 1⟩
  | .half h, c :: cs, n =>
    if c = '\\' then readQuoted (.halfBackslash h) cs (n + 1) else .error ⟨.brokenPair,n + 1⟩
  | .halfBackslash h, c :: cs, n =>
    if c = 'u' then readQuoted (.digits (some h) 0 0) cs (n + 1) else .error ⟨.brokenPair,n + 1⟩

inductive Skipping
  | plain
  | backslash
  | digits (count : Nat)
  deriving DecidableEq, Repr

/-- Passes over a text up to and including its closing quotation mark. Halves of characters may stand
alone in it. -/
def skipQuoted : Skipping → List Char → Nat → Except Fault Cursor
  | _, [], n => .error ⟨.endInText,n⟩
  | .plain, c :: cs, n =>
    if c = '"' then .ok ⟨cs,n + 1⟩
    else if c = '\\' then skipQuoted .backslash cs (n + 1)
    else if c < ' ' then .error ⟨.controlCharacter,n⟩
    else skipQuoted .plain cs (n + c.utf8Size)
  | .backslash, c :: cs, n =>
    if c = 'u' then skipQuoted (.digits 0) cs (n + 1)
    else
      match escaped? c with
      | some _ => skipQuoted .plain cs (n + 1)
      | none => .error ⟨.invalidEscape,n + 1⟩
  | .digits count, c :: cs, n =>
    match hexValue? c with
    | none => .error (digitFault count (c :: cs) n)
    | some _ => skipQuoted (if count < 3 then .digits (count + 1) else .plain) cs (n + 1)

end RegionAudit.Json
