import RegionAudit.Event
import RegionAudit.Text.Blank

/-!
Which events are logged. Without further word, the verbosity decides on the least level; a filter may set
levels for parts of the program, and the longest name of a part counts.
-/
namespace RegionAudit.Log

/-- A level for the parts of the program whose names begin in some way, or `none` to log nothing. -/
structure Rule where
  part : List Char
  level : Option Level
  deriving DecidableEq, Repr

abbrev Filter := List Rule

def ofVerbosity : Nat → Filter
  | 0 => [⟨[],some .warn⟩]
  | 1 => [⟨[],some .info⟩]
  | _ => [⟨[],some .debug⟩]

/-- The rule that counts for a part of the program: the longest one that applies, and of those the last. -/
def Filter.rule? (f : Filter) (target : List Char) : Option Rule :=
  (f.filter (·.part.isPrefixOf target)).foldl
    (fun best r =>
      match best with
      | some b => if b.part.length ≤ r.part.length then some r else some b
      | none => some r)
    none

def Rule.admits (r : Rule) (l : Level) : Bool :=
  match r.level with
  | some least => l.rank ≤ least.rank
  | none => false

def Filter.admits (f : Filter) (e : Event) : Bool :=
  match f.rule? e.target.toList with
  | some r => r.admits e.level
  | none => false

/-- The level that a word names; `some none` is no level at all. -/
def level? (word : List Char) : Option (Option Level) :=
  match String.ofList (word.map Char.toLower) with
  | "off" | "0" => some none
  | "error" | "1" => some (some .error)
  | "warn" | "2" => some (some .warn)
  | "info" | "3" => some (some .info)
  | "debug" | "4" => some (some .debug)
  | "trace" | "5" => some (some .trace)
  | _ => none

def isPartStart (c : Char) : Bool :=
  c.isAlphanum || 0x80 ≤ c.toNat || c = '-' || c = ':' || c = '_'

/-- The rule that a directive states: a level, a part, or a part with its level after an equals sign.
`some none` is a directive about the fields of an event or the tasks around it, of which there are none. -/
def directive? (cs : List Char) : Option (Option Rule) :=
  match cs with
  | [] => none
  | c :: _ =>
    if c = '[' then if cs.contains ']' then some none else none
    else if !isPartStart c then none
    else
      let part := cs.takeWhile fun c => c ≠ '=' && c ≠ '['
      match cs.drop part.length with
      | [] =>
        match level? part with
        | some level => some (some ⟨[],level⟩)
        | none => some (some ⟨part,some .trace⟩)
      | '=' :: level =>
        if level.isEmpty then some (some ⟨part,some .trace⟩)
        else (level? level).map fun l => some ⟨part,l⟩
      | rest => if rest.contains ']' then some none else none

def pieces : List Char → List (List Char)
  | [] => [[]]
  | c :: cs =>
    if c = ',' then [] :: pieces cs
    else
      match pieces cs with
      | [] => [[c]]
      | piece :: rest => (c :: piece) :: rest

def Filter.ofText? (text : String) : Option Filter := do
  let directives := ((pieces text.toList).map Text.trim).filter (!·.isEmpty)
  let rules ← directives.mapM directive?
  return rules.filterMap id

/-- The filter of a run: the one that is stated, if it can be read, or else the one of the verbosity. -/
def Filter.chosen (stated : Option String) (verbosity : Nat) : Filter :=
  (stated.bind Filter.ofText?).getD (ofVerbosity verbosity)

def lines (f : Filter) (events : List Event) : List String :=
  (events.filter f.admits).map Event.text

end RegionAudit.Log
