import RegionAudit.CommandLine.Usage
import RegionAudit.Provider

/-!
What has been entered in one place of a command line. A value that stands by itself is checked only when the
next option begins or the place ends, so that a mistake in between is reported first.
-/
namespace RegionAudit.CommandLine

structure Entries where
  config : Option String
  verbosity : Nat
  selection : List Provider
  isStrict : Bool
  /-- The last option, when its value stands by itself, and its value once it was entered. -/
  pending : Option (ValueOption × Option String)
  deriving DecidableEq, Repr

namespace Entries

def empty : Entries :=
  ⟨none,0,[],false,none⟩

/-- The option whose value comes next. -/
def awaited? (e : Entries) : Option ValueOption :=
  match e.pending with
  | some (o,none) => some o
  | _ => none

def isEmpty (e : Entries) : Bool :=
  e.config.isNone && e.verbosity = 0

def accept (e : Entries) (o : ValueOption) (value : String) : Except Stop Entries :=
  match o with
  | .config =>
    if e.config.isSome then .error (.misuse (.repeatedOption .config))
    else if value.isEmpty then .error (.misuse (.missingValue .config))
    else .ok { e with config := some value }
  | .provider =>
    match Provider.ofText value with
    | .ok p => .ok { e with selection := e.selection ++ [p] }
    | .error name => .error (.misuse (.invalidValue value .provider (.unknownProvider name)))

/-- Takes the value that was left to check. -/
def settle (e : Entries) : Except Stop Entries :=
  match e.pending with
  | none => .ok e
  | some (o,none) => .error (.misuse (.missingValue o))
  | some (o,some value) => accept { e with pending := none } o value

def attach (e : Entries) (o : ValueOption) (value : String) : Except Stop Entries := do
  (← e.settle).accept o value

def await (e : Entries) (o : ValueOption) : Except Stop Entries := do
  return { ← e.settle with pending := some (o,none) }

/-- Takes the value that comes after its option. -/
def supply (e : Entries) (o : ValueOption) (value : String) : Entries :=
  { e with pending := some (o,some value) }

def verbosityLimit : Nat := 255

def raise (e : Entries) (place : Place) (f : Flag) : Except Stop Entries := do
  let e ← e.settle
  match f with
  | .verbose => return { e with verbosity := min (e.verbosity + 1) verbosityLimit }
  | .strict =>
    if e.isStrict then .error (.misuse (.repeatedFlag .strict))
    else return { e with isStrict := true }
  | .help => .error (.help place.topic)

def takeLong (e : Entries) (place : Place) (name : String) (value : Option String) :
    Except Stop Entries :=
  match place.long? name, value with
  | none, _ => .error (.misuse (.unexpectedArgument ("--" ++ name)))
  | some (.value o), some v => e.attach o v
  | some (.value o), none => e.await o
  | some (.flag f), some v => .error (.misuse (.unexpectedValue v f))
  | some (.flag f), none => e.raise place f

/-- The value in what follows the letter of an option, perhaps after an equals sign. -/
def attached : List Char → String
  | '=' :: cs => String.ofList cs
  | cs => String.ofList cs

/-- Takes options by their letters. -/
def takeShort (e : Entries) (place : Place) : List Char → Except Stop Entries
  | [] => .ok e
  | c :: cs =>
    match place.short? c with
    | none => .error (.misuse (.unexpectedArgument (String.ofList ['-',c])))
    | some (.flag f) => do takeShort (← e.raise place f) place cs
    | some (.value o) => if cs.isEmpty then e.await o else e.attach o (attached cs)

end Entries

end RegionAudit.CommandLine
