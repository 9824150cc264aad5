import RegionAudit.Json.Skip

/-!
Reading JSON by shape. A shape says what a text has to look like: a text, a list, or a record of one field.
A record may be an object, in which other members are passed over, or a list of its one value.
-/
namespace RegionAudit.Json

inductive Shape
  | text
  | list (item : Shape)
  | record (name field : String) (value : Shape)
  deriving Repr

namespace Shape

/-- What a shape holds; a record holds what its field does. -/
def Value : Shape → Type
  | .text => String
  | .list item => List item.Value
  | .record _ _ value => value.Value

def expected : Shape → String
  | .text => "a string"
  | .list _ => "a sequence"
  | .record name _ _ => "struct " ++ name

end Shape

/-- The value at a place that begins no value of the wanted kind, as a fault names it, and the place up
to which it was read. -/
def findOther (c : Cursor) : Reading Found :=
  match c.rest with
  | 'n' :: cs => (readWord "ull".toList ⟨cs,c.offset + 1⟩).map (Found.null,·)
  | 't' :: cs => (readWord "rue".toList ⟨cs,c.offset + 1⟩).map (Found.boolean true,·)
  | 'f' :: cs => (readWord "alse".toList ⟨cs,c.offset + 1⟩).map (Found.boolean false,·)
  | '-' :: cs => findNumber true ⟨cs,c.offset + 1⟩
  | '"' :: cs =>
    (readQuoted .plain cs (c.offset + 1)).map fun (s,c) => (Found.text (String.ofList s),c)
  | '[' :: _ => .ok (.list,c)
  | '\x7b' :: _ => .ok (.object,c)
  | d :: _ => if d.isDigit then findNumber false c else .error (c.faultAhead .expectedValue)
  | [] => .error (c.fault .endInValue)

def mismatch (expected : String) (c : Cursor) : Fault :=
  match findOther c with
  | .ok (found,after) => after.fault (.mismatch found expected)
  | .error f => f

/-- What comes next in a list or an object: another entry at a place, or the closing bracket there. -/
inductive Next
  | entry (c : Cursor)
  | close (c : Cursor)

def nextItem (first : Bool) (c : Cursor) : Except Fault Next :=
  let c := c.pastGap
  match c.rest with
  | [] => .error (c.fault .endInList)
  | x :: cs =>
    if x = ']' then .ok (.close c)
    else if first then .ok (.entry c)
    else if x = ',' then
      let c := (Cursor.mk cs (c.offset + 1)).pastGap
      match c.rest with
      | [] => .error (c.fault .endInValue)
      | ']' :: _ => .error (c.faultAhead .trailingComma)
      | _ => .ok (.entry c)
    else .error (c.faultAhead .expectedListEnd)

def nextMember (first : Bool) (c : Cursor) : Except Fault Next :=
  let c := c.pastGap
  match c.rest with
  | [] => .error (c.fault .endInObject)
  | x :: cs =>
    if x = '\x7d' then .ok (.close c)
    else if first then key c
    else if x = ',' then key (Cursor.mk cs (c.offset + 1)).pastGap
    else .error (c.faultAhead .expectedObjectEnd)
where
  key (c : Cursor) : Except Fault Next :=
    match c.rest with
    | [] => .error (c.fault .endInValue)
    | '"' :: _ => .ok (.entry c)
    | '\x7d' :: _ => .error (c.faultAhead .trailingComma)
    | _ => .error (c.faultAhead .keyNotText)

def closeList (c : Cursor) : Except Fault Cursor :=
  let c := c.pastGap
  match c.rest with
  | [] => .error (c.fault .endInList)
  | ']' :: cs => .ok ⟨cs,c.offset + 1⟩
  | ',' :: cs =>
    let c := (Cursor.mk cs (c.offset + 1)).pastGap
    match c.rest with
    | ']' :: _ => .error (c.faultAhead .trailingComma)
    | _ => .error (c.faultAhead .trailingText)
  | _ => .error (c.faultAhead .trailingText)

def readItems {α : Type} (item : Cursor → Reading α) : Nat → Bool → Cursor → Reading (List α)
  | 0, _, c => .error (c.fault .expectedValue)
  | fuel + 1, first, c =>
    match nextItem first c with
    | .error f => .error f
    | .ok (.close c) => .ok ([],c)
    | .ok (.entry c) =>
      match item c with
      | .error f => .error f
      | .ok (v,c) =>
        match readItems item fuel false c with
        | .error f => .error f
        | .ok (vs,c) => .ok (v :: vs,c)

/-- The end of reading a record: its value and the place where its bracket should close, a fault, or a
cause whose place is where the bracket should close. -/
inductive Ending (α : Type)
  | value (v : α) (c : Cursor)
  | fault (f : Fault)
  | cause (e : Cause) (c : Cursor)

def readColon (c : Cursor) : Except Fault Cursor :=
  let c := c.pastGap
  match c.rest with
  | ':' :: cs => .ok ⟨cs,c.offset + 1⟩
  | _ => .error (c.faultOrEnd .expectedColon .endInObject)

/-- Reads the members of an object up to its closing bracket. The field has to come once. -/
def readMembers {α : Type} (field : String) (value : Cursor → Reading α) :
    Nat → Bool → Option α → Cursor → Ending α
  | 0, _, _, c => .fault (c.fault .expectedValue)
  | fuel + 1, first, found, c =>
    match nextMember first c with
    | .error f => .fault f
    | .ok (.close c) =>
      match found with
      | some v => .value v c
      | none => .cause (.missingField field) c
    | .ok (.entry c) =>
      match readQuoted .plain c.next.rest c.next.offset with
      | .error f => .fault f
      | .ok (key,c) =>
        if key = field.toList then
          if found.isSome then .cause (.repeatedField field) c
          else
            match readColon c with
            | .error f => .fault f
            | .ok c =>
              match value c with
              | .error f => .fault f
              | .ok (v,c) => readMembers field value fuel false (some v) c
        else
          match readColon c with
          | .error f => .fault f
          | .ok c =>
            match skip c with
            | .error f => .fault f
            | .ok c => readMembers field value fuel false found c

/-- Reads the one value of a record that is written as a list. -/
def readOnly {α : Type} (expected : String) (value : Cursor → Reading α) (c : Cursor) : Ending α :=
  match nextItem true c with
  | .error f => .fault f
  | .ok (.close c) => .cause (.noItems expected) c
  | .ok (.entry c) =>
    match value c with
    | .error f => .fault f
    | .ok (v,c) => .value v c

def closeObject (c : Cursor) : Except Fault Cursor :=
  let c := c.pastGap
  match c.rest with
  | [] => .error (c.fault .endInObject)
  | '\x7d' :: cs => .ok ⟨cs,c.offset + 1⟩
  | ',' :: _ => .error (c.faultAhead .trailingComma)
  | _ => .error (c.faultAhead .trailingText)

def placeOfClosing (close : Cursor → Except Fault Cursor) (c : Cursor) : Nat :=
  match close c with
  | .ok after => after.offset
  | .error _ => c.pastGap.offset

/-- Closes the bracket of a record. A cause without a place gets the place that closing comes to. -/
def Ending.close {α : Type} (close : Cursor → Except Fault Cursor) : Ending α → Reading α
  | .value v c => (close c).map (v,·)
  | .fault f => .error f
  | .cause e c => .error ⟨e,placeOfClosing close c⟩

def read : (s : Shape) → Cursor → Reading s.Value
  | .text, c =>
    let c := c.pastGap
    match c.rest with
    | [] => .error (c.fault .endInValue)
    | '"' :: cs =>
      match readQuoted .plain cs (c.offset + 1) with
      | .ok (s,c) => .ok (String.ofList s,c)
      | .error f => .error f
    | _ => .error (mismatch Shape.text.expected c)
  | .list item, c =>
    let c := c.pastGap
    match c.rest with
    | [] => .error (c.fault .endInValue)
    | '[' :: cs =>
      match readItems (read item) (cs.length + 1) true ⟨cs,c.offset + 1⟩ with
      | .error f => .error f
      | .ok (vs,c) => (closeList c).map (vs,·)
    | _ => .error (mismatch (Shape.list item).expected c)
  | .record name field value, c =>
    let c := c.pastGap
    let expected := (Shape.record name field value).expected
    match c.rest with
    | [] => .error (c.fault .endInValue)
    | '[' :: cs => (readOnly expected (read value) ⟨cs,c.offset + 1⟩).close closeList
    | '\x7b' :: cs =>
      (readMembers field (read value) (cs.length + 1) true none ⟨cs,c.offset + 1⟩).close
        closeObject
    | _ => .error (mismatch expected c)

/-- Reads a whole text by a shape; only blanks may follow the value. -/
def decode (s : Shape) (text : List Char) : Except Fault s.Value :=
  match read s (.ofText text) with
  | .error f => .error f
  | .ok (v,c) =>
    let c := c.pastGap
    if c.rest.isEmpty then .ok v else .error (c.faultAhead .trailingText)

end RegionAudit.Json
