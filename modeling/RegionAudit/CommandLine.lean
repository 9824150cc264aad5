import RegionAudit.CommandLine.Entries

/-!
The command line: options that hold for every command, the command, and its options. Options may stand in any
order, and those that hold for every command on either side of it.
-/
namespace RegionAudit

inductive Command
  | list (selection : List Provider)
  | check (selection : List Provider) (isStrict : Bool)
  deriving DecidableEq, Repr

structure Invocation where
  config : Option String
  verbosity : Nat
  command : Command
  deriving DecidableEq, Repr

namespace CommandLine

/-- What an argument looks like. -/
inductive Shape
  | dashes
  | long (name : String) (value : Option String)
  | short (letters : List Char)
  | word
  deriving DecidableEq, Repr

/-- A long name, and the value after the first equals sign. -/
def longShape (cs : List Char) : Shape :=
  match cs.dropWhile (· ≠ '=') with
  | [] => .long (String.ofList cs) none
  | _ :: value => .long (String.ofList (cs.takeWhile (· ≠ '='))) (some (String.ofList value))

def shape (argument : String) : Shape :=
  match argument.toList with
  | ['-','-'] => .dashes
  | '-' :: '-' :: cs => longShape cs
  | ['-'] => .word
  | '-' :: cs => .short cs
  | _ => .word

/-- The words that stand for something before the command. -/
def commandWords : List String := ["list","check","help"]

def readOptions (place : Place) (e : Entries) : List String → Except Stop Entries
  | [] => e.settle
  | argument :: rest =>
    match shape argument with
    | .dashes =>
      match rest with
      | [] => e.settle
      | next :: _ => .error (.misuse (.unexpectedArgument next))
    | .long name value => do readOptions place (← e.takeLong place name value) rest
    | .short letters => do readOptions place (← e.takeShort place letters) rest
    | .word =>
      match e.awaited? with
      | some o => readOptions place (e.supply o argument) rest
      | none => .error (.misuse (.unexpectedArgument argument))

/-- Puts together what was entered before and after a command. What holds for every command counts where it
stands after the command. -/
def invocation (front back : Entries) (command : Command) : Invocation where
  config := back.config <|> front.config
  verbosity := if back.verbosity = 0 then front.verbosity else back.verbosity
  command := command

def helpOn : List String → Stop
  | [] => .help .program
  | word :: rest =>
    match word, rest with
    | "list", [] => .help .list
    | "check", [] => .help .check
    | "help", [] => .help .help
    | "list", next :: _ | "check", next :: _ | "help", next :: _ =>
      .misuse (.unknownCommand next)
    | other, _ => .misuse (.unknownCommand other)

def readCommand (front : Entries) (word : String) (rest : List String) : Except Stop Invocation :=
  match word with
  | "list" => do
    let back ← readOptions .list .empty rest
    return invocation (← front.settle) back (.list back.selection)
  | "check" => do
    let back ← readOptions .check .empty rest
    return invocation (← front.settle) back (.check back.selection back.isStrict)
  | "help" => .error (helpOn rest)
  | other => .error (.misuse (.unknownCommand other))

def withoutCommand (e : Entries) : Except Stop Invocation := do
  let e ← e.settle
  .error (.misuse (if e.isEmpty then .nothing else .missingCommand))

def readFront (e : Entries) : List String → Except Stop Invocation
  | [] => withoutCommand e
  | argument :: rest =>
    match shape argument with
    | .dashes =>
      match rest with
      | [] => withoutCommand e
      | next :: _ =>
        if next ∈ commandWords then .error (.misuse (.unexpectedArgument next))
        else .error (.misuse (.unknownCommand next))
    | .long name value => do readFront (← e.takeLong .front name value) rest
    | .short letters => do readFront (← e.takeShort .front letters) rest
    | .word =>
      match e.awaited? with
      | some o => readFront (e.supply o argument) rest
      | none => readCommand e argument rest

/-- What the arguments ask for. -/
def read (arguments : List String) : Except Stop Invocation :=
  readFront .empty arguments

end CommandLine

end RegionAudit
