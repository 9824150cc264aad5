import RegionAudit.Failure
import RegionAudit.Ini
import RegionAudit.Provider

/-!
The settings of an audit: how long to wait, under which name to ask, and where each provider is asked. A
settings file overrides the defaults one by one; keys that mean nothing are named and have no effect.
-/
namespace RegionAudit

structure Settings where
  /-- How long a provider may take to answer, in seconds. -/
  timeout : Nat
  userAgent : String
  digitaloceanUrl : String
  linodeUrl : String
  dreamhostUrl : String
  deriving DecidableEq, Repr

namespace Settings

def defaults : Settings where
  timeout := 30
  userAgent := "regioncheck/0.1.0"
  digitaloceanUrl := "https://docs.digitalocean.com/platform/regional-availability/"
  linodeUrl := "https://api.linode.com/v4/object-storage/clusters"
  dreamhostUrl := "https://help.dreamhost.com/hc/en-us/articles/" ++
    "214432318-Does-DreamObjects-have-an-S3-compatible-API"

def endpoint (s : Settings) : Provider → String
  | .digitalocean => s.digitaloceanUrl
  | .linode => s.linodeUrl
  | .dreamhost => s.dreamhostUrl

def description (s : Settings) : String :=
  "Settings \x7b timeout: " ++ toString s.timeout ++ "s, user_agent: " ++ Text.quoted s.userAgent ++
    ", digitalocean_url: " ++ Text.quoted s.digitaloceanUrl ++
    ", linode_url: " ++ Text.quoted s.linodeUrl ++
    ", dreamhost_url: " ++ Text.quoted s.dreamhostUrl ++ " \x7d"

/-- The keys that have a meaning before the first header. -/
def generalKeys : List String := ["timeout_secs","user_agent"]

def sectionKeys (name : String) : List String :=
  if Provider.all.any (·.name = name) then ["url"] else []

/-- The keys of a file that have no meaning, in their order in the file. -/
def ignoredKeys (ini : Ini) : List String :=
  ((ini.general.map (·.key)).filter (· ∉ generalKeys)) ++
    ini.sections.flatMap fun s =>
      ((s.properties.map (·.key)).filter (· ∉ sectionKeys s.name)).map fun key =>
        s.name ++ "." ++ key

def decimal (digits : List Char) : Nat :=
  digits.foldl (fun n d => n * 10 + (d.toNat - '0'.toNat)) 0

def unsigned : List Char → List Char
  | '+' :: digits => digits
  | digits => digits

/-- The whole number that a text is, between blanks and in 64 bits. -/
def wholeNumber? (text : List Char) : Option Nat :=
  let digits := unsigned (Text.trim text)
  if !digits.isEmpty && digits.all Char.isDigit && decimal digits < UInt64.size then some (decimal digits)
  else none

/-- A timeout of some seconds; it has to be a whole number of seconds and more than none. -/
def timeoutOf (value : String) : Except Failure Nat :=
  match wholeNumber? value.toList with
  | none =>
    .error (.invalidValue "timeout_secs" ("\u0060" ++ value ++ "\u0060 is not a whole number of seconds"))
  | some 0 => .error (.invalidValue "timeout_secs" "must be greater than zero")
  | some seconds => .ok seconds

def isWebUrl (url : List Char) : Bool :=
  "https://".toList.isPrefixOf url || "http://".toList.isPrefixOf url

def endpointOf (p : Provider) (value : String) : Except Failure String :=
  let url := Text.trim value.toList
  if isWebUrl url then .ok (String.ofList url)
  else
    .error (.invalidValue (p.name ++ ".url")
      ("\u0060" ++ String.ofList url ++ "\u0060 is not an http(s) URL"))

/-- The value that a file gives for a provider's endpoint, in the first section of the provider's name. -/
def urlValue? (ini : Ini) (p : Provider) : Option String :=
  (ini.section? p.name).bind fun s => Ini.value? s.properties "url"

/-- What a file overrides, or else the default. -/
def override {α : Type} (value : Option String) (read : String → Except Failure α) (default : α) :
    Except Failure α :=
  match value with
  | some v => read v
  | none => .ok default

def endpointIn (ini : Ini) (p : Provider) : Except Failure String :=
  override (urlValue? ini p) (endpointOf p) (defaults.endpoint p)

/-- The settings that a file makes. The first wrong value counts: the timeout, then the endpoints in the
order of the providers. -/
def ofIni (ini : Ini) : Except Failure Settings := do
  let timeout ← override (Ini.value? ini.general "timeout_secs") timeoutOf defaults.timeout
  let userAgent ← override (Ini.value? ini.general "user_agent")
    (fun v => .ok (Ini.trimmed v.toList)) defaults.userAgent
  let digitaloceanUrl ← endpointIn ini .digitalocean
  let linodeUrl ← endpointIn ini .linode
  let dreamhostUrl ← endpointIn ini .dreamhost
  return { timeout, userAgent, digitaloceanUrl, linodeUrl, dreamhostUrl }

end Settings

end RegionAudit
