/-!
Everything that can go wrong in an audit, by cause, and how each cause is told.
-/
namespace RegionAudit

inductive Failure
  /-- A file could not be read. -/
  | unreadable (reason : String)
  | requestFailed (url reason : String)
  | unexpectedStatus (url : String) (status : Nat)
  | timedOut (url : String)
  /-- The settings allow no client to be made. -/
  | noClient (reason : String)
  | invalidJson (url reason : String)
  | noRegions (url : String)
  | invalidSelector (selector : String)
  | invalidPattern (pattern reason : String)
  | noHome
  | invalidFile (reason : String)
  | missingFile (path : String)
  | invalidValue (field reason : String)
  | unknownProvider (name : String)
  deriving DecidableEq, Repr

namespace Failure

def message : Failure → String
  | .unreadable reason => reason
  | .requestFailed url reason => "request to " ++ url ++ " failed: " ++ reason
  | .unexpectedStatus url status => "request to " ++ url ++ " returned status " ++ toString status
  | .timedOut url => "request to " ++ url ++ " timed out"
  | .noClient reason => "http client could not be built: " ++ reason
  | .invalidJson url reason => "invalid JSON from " ++ url ++ ": " ++ reason
  | .noRegions url => "no regions found in response from " ++ url
  | .invalidSelector selector => "invalid selector: " ++ selector
  | .invalidPattern pattern reason => "invalid pattern " ++ pattern ++ ": " ++ reason
  | .noHome => "home directory not available"
  | .invalidFile reason => "invalid configuration file: " ++ reason
  | .missingFile path => "configuration file not found: " ++ path
  | .invalidValue field reason => "invalid value for " ++ field ++ ": " ++ reason
  | .unknownProvider name => "invalid provider: " ++ name

/-- Whether the network is to blame. -/
def isNetwork : Failure → Bool
  | .requestFailed _ _ | .unexpectedStatus _ _ | .timedOut _ | .noClient _ => true
  | _ => false

/-- Whether what a provider answered is to blame. -/
def isAnswer : Failure → Bool
  | .invalidJson _ _ | .noRegions _ | .invalidSelector _ | .invalidPattern _ _ => true
  | _ => false

end Failure

end RegionAudit
