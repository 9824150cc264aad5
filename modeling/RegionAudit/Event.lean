import RegionAudit.Settings

/-!
What is told of an audit while it runs: each event has a level, a part of the program that tells it, and a
text.
-/
namespace RegionAudit

inductive Level
  | error
  | warn
  | info
  | debug
  | trace
  deriving DecidableEq, Repr

namespace Level

def rank : Level → Nat
  | .error => 1
  | .warn => 2
  | .info => 3
  | .debug => 4
  | .trace => 5

def name : Level → String
  | .error => "ERROR"
  | .warn => "WARN"
  | .info => "INFO"
  | .debug => "DEBUG"
  | .trace => "TRACE"

end Level

inductive Event
  | settingsFileRead (path : String)
  | settingsFileAbsent (path : String)
  | keyIgnored (key : String)
  | settingsLoaded (s : Settings)
  | fetching (url : String)
  | fetched (url : String) (bytes : Nat)
  /-- Availability tables were read, with so many marked columns. -/
  | columnsRead (count : Nat)
  | answerRead (p : Provider) (url : String) (count : Nat)
  | regionsFound (p : Provider) (count : Nat)
  | lookupFailed (p : Provider) (f : Failure)
  | compared (p : Provider) (added removed : Nat)
  deriving DecidableEq, Repr

namespace Event

def level : Event → Level
  | .keyIgnored _ | .lookupFailed _ _ => .warn
  | .regionsFound _ _ | .compared _ _ _ => .info
  | _ => .debug

def target : Event → String
  | .settingsFileRead _ | .settingsFileAbsent _ | .keyIgnored _ => "regioncheck_core::settings"
  | .settingsLoaded _ => "regioncheck"
  | .fetching _ | .fetched _ _ => "regioncheck_core::http"
  | .columnsRead _ => "regioncheck_digitalocean::parser"
  | .answerRead p _ _ => "regioncheck_" ++ p.name ++ "::provider"
  | .regionsFound _ _ | .lookupFailed _ _ => "regioncheck_core::commands::list"
  | .compared _ _ _ => "regioncheck_core::commands::check"

/-- What a provider's answer is a list of. -/
def answerKind : Provider → String
  | .digitalocean => "DigitalOcean regions"
  | .linode => "Linode clusters"
  | .dreamhost => "DreamObjects endpoints"

def message : Event → String
  | .settingsFileRead path => "loaded settings file path=" ++ path
  | .settingsFileAbsent path => "no settings file, using defaults path=" ++ path
  | .keyIgnored key => "ignoring unrecognized settings key key=" ++ key
  | .settingsLoaded s => "settings loaded settings=" ++ s.description
  | .fetching url => "fetching region listing url=" ++ Text.quoted url
  | .fetched url bytes =>
    "fetched region listing url=" ++ Text.quoted url ++ " bytes=" ++ toString bytes
  | .columnsRead count => "read Spaces availability columns=" ++ toString count
  | .answerRead p url count =>
    "parsed " ++ answerKind p ++ " url=" ++ url ++ " count=" ++ toString count
  | .regionsFound p count => "fetched regions provider=" ++ p.name ++ " count=" ++ toString count
  | .lookupFailed p f => "region lookup failed provider=" ++ p.name ++ " error=" ++ f.message
  | .compared p added removed =>
    "compared against known regions provider=" ++ p.name ++ " added=" ++ toString added ++
      " removed=" ++ toString removed

/-- An event as it is logged. -/
def text (e : Event) : String :=
  e.level.name ++ " " ++ e.target ++ ": " ++ e.message

end Event

end RegionAudit
