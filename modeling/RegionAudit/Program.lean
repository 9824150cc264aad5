import RegionAudit.Audit

/-!
The program as a whole, apart from the system that it runs on: what becomes of its arguments. A command line that
starts no audit is answered from itself alone.
-/
namespace RegionAudit.Program

def answer : CommandLine.Stop → Report
  | .help topic => ⟨0,CommandLine.helpLines topic,[]⟩
  | .misuse .nothing => ⟨2,[],CommandLine.helpLines .program⟩
  | .misuse m => ⟨2,[],[m.message,"","For more information, try '--help'."]⟩

def run (around : Surroundings) (arguments : List String) : Run Report :=
  match CommandLine.read arguments with
  | .ok invocation => Audit.run around invocation
  | .error s => pure (answer s)

def verbosity (arguments : List String) : Nat :=
  match CommandLine.read arguments with
  | .ok invocation => invocation.verbosity
  | .error _ => 0

/-- What comes of some arguments: the report, what is logged beside it, and the requests that the remote side sees. -/
structure Outcome where
  report : Report
  log : List String
  requests : List Request
  deriving DecidableEq, Repr

/-- What comes of some arguments where a filter of events may be stated. -/
def outcome (around : Surroundings) (stated : Option String) (arguments : List String) : Outcome :=
  let done := run around arguments
  ⟨done.result,Log.lines (Log.Filter.chosen stated (verbosity arguments)) done.events,done.requests⟩

/-- The path of the settings file that counts. -/
def settingsPath (home config : Option String) : String :=
  (config <|> home.map Settings.defaultPath).getD ""

end RegionAudit.Program
