import RegionAudit.Json.Fault
import RegionAudit.Text.Bytes

/-!
A place in a JSON text: what is left of it, and how many bytes came before.
-/
namespace RegionAudit.Json

structure Cursor where
  rest : List Char
  offset : Nat
  deriving DecidableEq, Repr

/-- The blanks that may stand between the parts of a JSON text. -/
def isGap (c : Char) : Bool :=
  c = ' ' || c = '\n' || c = '\t' || c = '\r'

namespace Cursor

def ofText (text : List Char) : Cursor :=
  ⟨text,0⟩

def next (c : Cursor) : Cursor :=
  match c.rest with
  | [] => c
  | x :: xs => ⟨xs,c.offset + x.utf8Size⟩

/-- The place after the blanks that come next; each blank is one byte. -/
def pastGap (c : Cursor) : Cursor :=
  ⟨c.rest.dropWhile isGap,c.offset + (c.rest.takeWhile isGap).length⟩

def pastDigits (c : Cursor) : Cursor :=
  ⟨c.rest.dropWhile Char.isDigit,c.offset + (c.rest.takeWhile Char.isDigit).length⟩

def fault (c : Cursor) (cause : Cause) : Fault :=
  ⟨cause,c.offset⟩

/-- A fault in the next byte, if there is one. -/
def faultAhead (c : Cursor) (cause : Cause) : Fault :=
  ⟨cause,if c.rest.isEmpty then c.offset else c.offset + 1⟩

def faultOrEnd (c : Cursor) (cause ended : Cause) : Fault :=
  if c.rest.isEmpty then c.fault ended else c.faultAhead cause

@[simp] theorem next_cons (x : Char) (xs : List Char) (n : Nat) :
    (⟨x :: xs,n⟩ : Cursor).next = ⟨xs,n + x.utf8Size⟩ := rfl

theorem pastGap_rest (c : Cursor) : c.pastGap.rest = c.rest.dropWhile isGap := rfl

end Cursor

/-- The outcome of reading from a place: what was read and the place after it, or a fault. -/
abbrev Reading (α : Type) := Except Fault (α × Cursor)

def readWord (word : List Char) (c : Cursor) : Except Fault Cursor :=
  match word, c.rest with
  | [], _ => .ok c
  | _ :: _, [] => .error (c.fault .endInValue)
  | w :: ws, x :: xs =>
    if x = w then readWord ws ⟨xs,c.offset + x.utf8Size⟩
    else .error ⟨.expectedWord,c.offset + 1⟩

end RegionAudit.Json
