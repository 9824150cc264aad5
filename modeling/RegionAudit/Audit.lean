import RegionAudit.CommandLine
import RegionAudit.Distinct
import RegionAudit.Log
import RegionAudit.Lookup
import RegionAudit.Settings.Load
import RegionAudit.Survey

/-!
An audit from beginning to end: the settings are loaded, the selected providers are asked, and what they say
is printed. Nothing is asked before all of the settings are accepted.
-/
namespace RegionAudit

/-- What an audit has to do with: the home directory, if there is one, the files, and the remote side. -/
structure Surroundings where
  home : Option String
  files : Files
  remote : Remote

structure Report where
  exitCode : Nat
  /-- The lines that are printed. -/
  printed : List String
  /-- The lines that tell what went wrong. -/
  complaints : List String
  deriving DecidableEq, Repr

namespace Audit

/-- The providers to ask: all of them, unless some are selected; each once, where it is first named. -/
def selected (selection : List Provider) : List Provider :=
  if selection.isEmpty then Provider.all else distinct selection

def sources (s : Settings) (remote : Remote) (selection : List Provider) :
    Except Failure (List Source) := do
  let client ← Client.ofSettings s
  return (selected selection).map fun p => ⟨p,lookup remote client p (s.endpoint p)⟩

def listLines (e : Entry (List Region)) : List String :=
  match e.result with
  | .ok regions => [e.provider.name ++ ": " ++ Region.joined regions]
  | .error _ => []

def driftLines (e : Entry Drift) : List String :=
  match e.result with
  | .ok d =>
    if d.isEmpty then [e.provider.name ++ ": up to date"]
    else
      [e.provider.name ++ ": regions changed"] ++
        (if d.added.isEmpty then [] else ["  added:   " ++ Region.joined d.added]) ++
        (if d.removed.isEmpty then [] else ["  removed: " ++ Region.joined d.removed])
  | .error _ => []

def failureLines {α : Type} (e : Entry α) : List String :=
  match e.result with
  | .ok _ => []
  | .error f => [e.provider.name ++ ": " ++ f.message]

/-- Why an audit that was carried out ends badly. -/
inductive Shortfall
  | lookupsFailed (failed total : Nat)
  | outOfDate (count : Nat)
  deriving DecidableEq, Repr

def Shortfall.message : Shortfall → String
  | .lookupsFailed failed total =>
    toString failed ++ " of " ++ toString total ++ " region lookups failed"
  | .outOfDate count => toString count ++ " provider(s) out of date"

def listShortfall? {α : Type} (entries : List (Entry α)) : Option Shortfall :=
  let failed := entries.countP (·.isFailed)
  if 0 < failed then some (.lookupsFailed failed entries.length) else none

/-- How many lookups failed, and how many providers turned out to have changed. -/
structure Tally where
  failed : Nat
  drifted : Nat
  deriving DecidableEq, Repr

def Tally.count (t : Tally) (e : Entry Drift) : Tally :=
  match e.result with
  | .ok d => if d.isEmpty then t else { t with drifted := t.drifted + 1 }
  | .error _ => { t with failed := t.failed + 1 }

def tally (entries : List (Entry Drift)) : Tally :=
  entries.foldl Tally.count ⟨0,0⟩

/-- What is wrong with a list of comparisons; drift only counts where it is not to be, and a failed lookup
counts before it. -/
def checkShortfall? (isStrict : Bool) (entries : List (Entry Drift)) : Option Shortfall :=
  let t := tally entries
  if 0 < t.failed then some (.lookupsFailed t.failed entries.length)
  else if isStrict && 0 < t.drifted then some (.outOfDate t.drifted)
  else none

def errorLine (message : String) : String :=
  "error: " ++ message

def refusal (f : Failure) : Report :=
  ⟨1,[],[errorLine f.message]⟩

def reportOf {α : Type} (lines : Entry α → List String) (entries : List (Entry α))
    (shortfall : Option Shortfall) : Report :=
  let complaints := entries.flatMap failureLines
  match shortfall with
  | none => ⟨0,entries.flatMap lines,complaints⟩
  | some s => ⟨1,entries.flatMap lines,complaints ++ [errorLine s.message]⟩

def listReport (entries : List (Entry (List Region))) : Report :=
  reportOf listLines entries (listShortfall? entries)

def checkReport (isStrict : Bool) (entries : List (Entry Drift)) : Report :=
  reportOf driftLines entries (checkShortfall? isStrict entries)

/-- Carries out a command under settings. -/
def obey (s : Settings) (remote : Remote) : Command → Run Report
  | .list selection =>
    match sources s remote selection with
    | .ok asked => listReport <$> Survey.list asked
    | .error f => pure (refusal f)
  | .check selection isStrict =>
    match sources s remote selection with
    | .ok asked => checkReport isStrict <$> Survey.check asked
    | .error f => pure (refusal f)

def run (around : Surroundings) (invocation : Invocation) : Run Report := do
  match ← Settings.load around.files around.home invocation.config with
  | .ok s =>
    Run.tell (.settingsLoaded s)
    obey s around.remote invocation.command
  | .error f => return refusal f

end Audit

end RegionAudit
