import RegionAudit.Ini.Span

/-!
What a settings file is made of, line by line: headers in brackets and properties with a key and a value.
Blank lines and comments mean nothing.
-/
namespace RegionAudit.Ini

structure Property where
  key : String
  value : String
  deriving DecidableEq, Repr

inductive Item
  | header (name : String)
  | property (p : Property)
  deriving DecidableEq, Repr

/-- What stands before a character in its line: nothing, blanks only, or something else. -/
inductive Margin
  | start
  | indented
  | inside
  deriving DecidableEq, Repr

def Margin.afterBlank : Margin → Margin
  | .inside => .inside
  | _ => .indented

def trimmed (cs : List Char) : String :=
  String.ofList (Text.trim cs)

def readHeader (cs : List Char) : Except Fault (Item × List Char) :=
  match readUntil [some ']'] .plain cs with
  | .ok (name,rest) => .ok (.header (trimmed name),rest.drop 1)
  | .error f => .error f

def keyEnds : List End := [some '=',some ':']

def readProperty (key rest : List Char) : Except Fault (Item × List Char) :=
  if (Text.trim key).isEmpty then .error ⟨.missingKey,rest.length⟩
  else
    match readValue (rest.drop 1) with
    | .ok (value,rest) => .ok (.property ⟨trimmed key,String.ofList value⟩,rest)
    | .error f => .error f

def marginAfter (last : Option Char) : Margin :=
  if last = some '\n' then .start else .inside

/-- Goes past blanks and line ends, after a line of blanks that ends with `c`. -/
def pastBlankLine (c : Char) (cs : List Char) : Margin × List Char :=
  (marginAfter (c :: cs.takeWhile Text.isBlank).getLast?,cs.dropWhile Text.isBlank)

/-- Where reading goes on after a fault in `cs`. -/
def resume (f : Fault) (cs : List Char) : Margin × List Char :=
  (marginAfter (cs.take (cs.length - f.left)).getLast?,cs.drop (cs.length - f.left))

theorem pastBlankLine_length (c : Char) (cs : List Char) :
    (pastBlankLine c cs).2.length ≤ cs.length :=
  (List.dropWhile_sublist _).length_le

theorem resume_length (f : Fault) (cs : List Char) : (resume f cs).2.length ≤ cs.length := by
  simp only [resume,List.length_drop]
  omega

theorem readHeader_length {cs rest : List Char} {item : Item}
    (h : readHeader cs = .ok (item,rest)) : rest.length ≤ cs.length := by
  unfold readHeader at h
  split at h
  · next hu =>
    cases h
    have := readUntil_length hu
    simp only [List.length_drop]
    omega
  · cases h

theorem readProperty_length {key mid rest : List Char} {item : Item}
    (h : readProperty key mid = .ok (item,rest)) : rest.length ≤ mid.length - 1 := by
  unfold readProperty at h
  split at h
  · cases h
  · split at h
    · next hv =>
      cases h
      simpa only [List.length_drop] using readValue_length hv
    · cases h

/-- Reads the items of a file, where something stands before in the line. A key that is indented and goes
wrong means nothing: reading goes on where it went wrong. -/
def readItems (margin : Margin) (cs : List Char) : Except Fault (List Item) :=
  match cs with
  | [] => .ok []
  | c :: rest =>
    if (c = '\n' || c = '\r') && margin = .indented then
      have : (pastBlankLine c rest).2.length ≤ rest.length := pastBlankLine_length c rest
      readItems (pastBlankLine c rest).1 (pastBlankLine c rest).2
    else if c = '\n' || c = '\r' then readItems (marginAfter (some c)) rest
    else if c = ' ' || c = '\t' then readItems margin.afterBlank rest
    else if (c = ';' || c = '#') && margin = .inside then .error ⟨.inlineComment,cs.length⟩
    else if (c = ';' || c = '#') && margin = .start then
      have : (rest.dropWhile (· ≠ '\n')).length ≤ rest.length :=
        (List.dropWhile_sublist _).length_le
      readItems .start ((rest.dropWhile (· ≠ '\n')).drop 1)
    else if c = '[' then
      match h : readHeader rest with
      | .ok (item,after) =>
        have : after.length ≤ rest.length := readHeader_length h
        (item :: ·) <$> readItems .inside after
      | .error f => .error f
    else
      match hk : readUntil keyEnds .plain (c :: rest) with
      | .ok (key,mid) =>
        match hp : readProperty key mid with
        | .ok (item,after) =>
          have : mid.length ≤ rest.length + 1 := readUntil_length hk
          have : after.length ≤ mid.length - 1 := readProperty_length hp
          (item :: ·) <$> readItems .inside after
        | .error f => .error f
      | .error f =>
        if margin = .indented then
          have : (resume f rest).2.length ≤ rest.length := resume_length f rest
          readItems (resume f rest).1 (resume f rest).2
        else .error f
termination_by cs.length
decreasing_by
  all_goals simp only [List.length_drop,List.length_cons] at *
  all_goals omega

end RegionAudit.Ini
