import RegionAudit.Failure

/-!
How the program is used: its commands and options, and what is said to those who use it otherwise.
-/
namespace RegionAudit.CommandLine

/-- Where something is entered: before the command, or after one of the commands. -/
inductive Place
  | front
  | list
  | check
  deriving DecidableEq, Repr

inductive ValueOption
  | config
  | provider
  deriving DecidableEq, Repr

inductive Flag
  | verbose
  | strict
  | help
  deriving DecidableEq, Repr

inductive AnyOption
  | value (o : ValueOption)
  | flag (f : Flag)
  deriving DecidableEq, Repr

def ValueOption.label : ValueOption → String
  | .config => "--config <CONFIG>"
  | .provider => "--provider <PROVIDERS>"

def Flag.label : Flag → String
  | .verbose => "--verbose..."
  | .strict => "--strict"
  | .help => "--help"

/-- The option of a long name in a place. -/
def Place.long? (place : Place) (name : String) : Option AnyOption :=
  match name with
  | "config" => some (.value .config)
  | "verbose" => some (.flag .verbose)
  | "help" => some (.flag .help)
  | "provider" => if place = .front then none else some (.value .provider)
  | "strict" => if place = .check then some (.flag .strict) else none
  | _ => none

def Place.short? (place : Place) (letter : Char) : Option AnyOption :=
  match letter with
  | 'v' => some (.flag .verbose)
  | 'h' => some (.flag .help)
  | 'p' => if place = .front then none else some (.value .provider)
  | _ => none

/-- What help can be asked for. -/
inductive Topic
  | program
  | list
  | check
  | help
  deriving DecidableEq, Repr

def Place.topic : Place → Topic
  | .front => .program
  | .list => .list
  | .check => .check

def about : Topic → String
  | .program => "Check cloud provider regions against the scanner's known list"
  | .list => "Print the live region list of each provider"
  | .check => "Compare live regions with the known regions table"
  | .help => "Print this message or the help of the given subcommand(s)"

def synopsis : Topic → String
  | .program => "Usage: regioncheck [OPTIONS] <COMMAND>"
  | .list => "Usage: regioncheck list [OPTIONS]"
  | .check => "Usage: regioncheck check [OPTIONS]"
  | .help => "Usage: regioncheck help [COMMAND]..."

def explanation : Topic → List String
  | .program =>
    [
      "Commands:",
      "  list   Print the live region list of each provider",
      "  check  Compare live regions with the known regions table",
      "  help   Print this message or the help of the given subcommand(s)",
      "",
      "Options:",
      "      --config <CONFIG>  Settings file (default: ~/.regioncheck/config)",
      "  -v, --verbose...       Increase log verbosity",
      "  -h, --help             Print help"
    ]
  | .list =>
    [
      "Options:",
      "      --config <CONFIG>       Settings file (default: ~/.regioncheck/config)",
      "  -p, --provider <PROVIDERS>  digitalocean, linode or dreamhost (default: all)",
      "  -v, --verbose...            Increase log verbosity",
      "  -h, --help                  Print help"
    ]
  | .check =>
    [
      "Options:",
      "      --config <CONFIG>       Settings file (default: ~/.regioncheck/config)",
      "  -p, --provider <PROVIDERS>  digitalocean, linode or dreamhost (default: all)",
      "      --strict                Exit with an error when any drift is found",
      "  -v, --verbose...            Increase log verbosity",
      "  -h, --help                  Print help"
    ]
  | .help =>
    [
      "Arguments:",
      "  [COMMAND]...  Print help for the subcommand(s)"
    ]

def helpLines (topic : Topic) : List String :=
  [about topic,"",synopsis topic,""] ++ explanation topic

inductive Misuse
  | unexpectedArgument (argument : String)
  | unknownCommand (word : String)
  | missingValue (o : ValueOption)
  | invalidValue (value : String) (o : ValueOption) (f : Failure)
  | unexpectedValue (value : String) (f : Flag)
  | repeatedOption (o : ValueOption)
  | repeatedFlag (f : Flag)
  | missingCommand
  /-- Nothing was entered at all. -/
  | nothing
  deriving DecidableEq, Repr

def repeated (label : String) : String :=
  "error: the argument '" ++ label ++ "' cannot be used multiple times"

/-- What is said to one who used the program in a wrong way; of the help, only the first line. -/
def Misuse.message : Misuse → String
  | .unexpectedArgument argument => "error: unexpected argument '" ++ argument ++ "' found"
  | .unknownCommand word => "error: unrecognized subcommand '" ++ word ++ "'"
  | .missingValue o => "error: a value is required for '" ++ o.label ++ "' but none was supplied"
  | .invalidValue value o f =>
    "error: invalid value '" ++ value ++ "' for '" ++ o.label ++ "': " ++ f.message
  | .unexpectedValue value f =>
    "error: unexpected value '" ++ value ++ "' for '" ++ f.label ++
      "' found; no more were expected"
  | .repeatedOption o => repeated o.label
  | .repeatedFlag f => repeated f.label
  | .missingCommand => "error: 'regioncheck' requires a subcommand but one was not provided"
  | .nothing => about .program

/-- Why a command line starts no audit. -/
inductive Stop
  | help (topic : Topic)
  | misuse (m : Misuse)
  deriving DecidableEq, Repr

end RegionAudit.CommandLine
