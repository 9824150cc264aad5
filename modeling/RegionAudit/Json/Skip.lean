import RegionAudit.Json.Number
import RegionAudit.Json.Quote

/-!
Passing over a JSON value whose contents are of no use. The value has to be well formed, but halves of
characters may stand alone in its texts.
-/
namespace RegionAudit.Json

def skipKey (c : Cursor) : Except Fault Cursor :=
  let c := c.pastGap
  match c.rest with
  | '"' :: cs => do
    let c ← skipQuoted .plain cs (c.offset + 1)
    let c := c.pastGap
    match c.rest with
    | ':' :: cs => .ok ⟨cs,c.offset + 1⟩
    | _ => .error (c.faultOrEnd .expectedColon .endInObject)
  | _ => .error (c.faultOrEnd .keyNotText .endInObject)

mutual

def skipValue : Nat → Cursor → Except Fault Cursor
  | 0, c => .error (c.fault .expectedValue)
  | fuel + 1, c =>
    let c := c.pastGap
    match c.rest with
    | [] => .error (c.fault .endInValue)
    | 'n' :: cs => readWord "ull".toList ⟨cs,c.offset + 1⟩
    | 't' :: cs => readWord "rue".toList ⟨cs,c.offset + 1⟩
    | 'f' :: cs => readWord "alse".toList ⟨cs,c.offset + 1⟩
    | '-' :: cs => skipNumber ⟨cs,c.offset + 1⟩
    | '"' :: cs => skipQuoted .plain cs (c.offset + 1)
    | '[' :: cs => skipItems fuel false ⟨cs,c.offset + 1⟩
    | '\x7b' :: cs => skipMembers fuel false ⟨cs,c.offset + 1⟩
    | d :: _ => if d.isDigit then skipNumber c else .error (c.faultAhead .expectedValue)

/-- Passes over the items of a list and its end; `more` says whether an item has come before. -/
def skipItems : Nat → Bool → Cursor → Except Fault Cursor
  | 0, _, c => .error (c.fault .expectedValue)
  | fuel + 1, more, c =>
    let c := c.pastGap
    match c.rest with
    | ']' :: cs => .ok ⟨cs,c.offset + 1⟩
    | [] => .error (c.fault .endInList)
    | x :: cs =>
      if more then
        if x = ',' then skipItem fuel ⟨cs,c.offset + 1⟩
        else .error (c.faultAhead .expectedListEnd)
      else skipItem fuel c

def skipItem : Nat → Cursor → Except Fault Cursor
  | 0, c => .error (c.fault .expectedValue)
  | fuel + 1, c =>
    match skipValue fuel c with
    | .ok c => skipItems fuel true c
    | .error f => .error f

def skipMembers : Nat → Bool → Cursor → Except Fault Cursor
  | 0, _, c => .error (c.fault .expectedValue)
  | fuel + 1, more, c =>
    let c := c.pastGap
    match c.rest with
    | '\x7d' :: cs => .ok ⟨cs,c.offset + 1⟩
    | [] => .error (c.fault .endInObject)
    | x :: cs =>
      if more then
        if x = ',' then skipMember fuel ⟨cs,c.offset + 1⟩
        else .error (c.faultAhead .expectedObjectEnd)
      else skipMember fuel c

def skipMember : Nat → Cursor → Except Fault Cursor
  | 0, c => .error (c.fault .expectedValue)
  | fuel + 1, c =>
    match skipKey c with
    | .error f => .error f
    | .ok c =>
      match skipValue fuel c with
      | .ok c => skipMembers fuel true c
      | .error f => .error f

end

/-- Passes over the value that comes next. Of three steps in a row at least one uses up a character, so
three steps a character are enough. -/
def skip (c : Cursor) : Except Fault Cursor :=
  skipValue (3 * c.rest.length + 3) c

end RegionAudit.Json
