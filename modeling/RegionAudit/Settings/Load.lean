import RegionAudit.FileTree
import RegionAudit.Run
import RegionAudit.Text.Bytes

/-!
Loading the settings of an audit. A file that was asked for has to exist; otherwise the file in the home
directory counts if there is one.
-/
namespace RegionAudit.Settings

def defaultPath (home : String) : String :=
  (if home.toList.getLast? = some '/' then home else home ++ "/") ++ ".regioncheck/config"

/-- Reads the text of a settings file, and tells which keys mean nothing before it looks at the values. -/
def ofText (text : List Char) : Run (Except Failure Settings) :=
  match Ini.ofText text with
  | .error f => pure (.error (.invalidFile (f.message text)))
  | .ok ini => ⟨ofIni ini,(ignoredKeys ini).map .keyIgnored,[]⟩

def ofFile (path : String) (bytes : List Nat) : Run (Except Failure Settings) :=
  match Text.decode? bytes with
  | none => pure (.error (.unreadable "stream did not contain valid UTF-8"))
  | some text => do
    Run.tell (.settingsFileRead path)
    ofText text

def loadFrom (files : Files) (isRequired : Bool) (path : String) : Run (Except Failure Settings) :=
  match files path with
  | .missing =>
    if isRequired then pure (.error (.missingFile path))
    else do
      Run.tell (.settingsFileAbsent path)
      return .ok defaults
  | .belowFile => pure (.error (.unreadable "Not a directory (os error 20)"))
  | .folder => pure (.error (.unreadable "Is a directory (os error 21)"))
  | .file bytes => ofFile path bytes
  | .unreadable reason => pure (.error (.unreadable reason))

/-- Loads the file that was asked for, or else the one in the home directory. -/
def load (files : Files) (home : Option String) (config : Option String) :
    Run (Except Failure Settings) :=
  match config, home with
  | some path, _ => loadFrom files true path
  | none, some home => loadFrom files false (defaultPath home)
  | none, none => pure (.error .noHome)

end RegionAudit.Settings
