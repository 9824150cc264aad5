import RegionAudit.Drift
import RegionAudit.Run

/-!
Surveys: asking several providers for their regions, and comparing what they say with what is known. Every
provider has its own entry, in the order of asking, and a failure stays in the entry where it happened.
-/
namespace RegionAudit

/-- Someone to be asked for the regions of a provider. -/
structure Source where
  provider : Provider
  lookup : Run (Except Failure (List Region))

/-- What became of asking about a provider. -/
structure Entry (α : Type) where
  provider : Provider
  result : Except Failure α

namespace Survey

def lookupEvent (p : Provider) : Except Failure (List Region) → Event
  | .ok regions => .regionsFound p regions.length
  | .error f => .lookupFailed p f

def ask (s : Source) : Run (Entry (List Region)) := do
  let result ← s.lookup
  Run.tell (lookupEvent s.provider result)
  return ⟨s.provider,result⟩

def list (sources : List Source) : Run (List (Entry (List Region))) :=
  Run.each ask sources

def drift (p : Provider) (live : List Region) : Drift :=
  Drift.between p.known live

def compare (e : Entry (List Region)) : Run (Entry Drift) :=
  match e.result with
  | .ok live => do
    let d := drift e.provider live
    Run.tell (.compared e.provider d.added.length d.removed.length)
    return ⟨e.provider,.ok d⟩
  | .error f => pure ⟨e.provider,.error f⟩

/-- Asks all sources, and compares what they say. -/
def check (sources : List Source) : Run (List (Entry Drift)) := do
  Run.each compare (← list sources)

end Survey

/-- Whether a provider's regions are known to have changed. -/
def Entry.hasDrift (e : Entry Drift) : Bool :=
  match e.result with
  | .ok d => !d.isEmpty
  | .error _ => false

def Entry.isFailed {α : Type} (e : Entry α) : Bool :=
  match e.result with
  | .ok _ => false
  | .error _ => true

end RegionAudit
