import RegionAudit.Program

/-!
The program: it takes its arguments, reads the settings file, carries out the audit and prints the report. It
opens no connections of its own, so every lookup fails as at a remote side that cannot be reached.
-/
namespace RegionAudit.Program

/-- Whether the system means a code, which some calls give with the opposite sign. -/
def isCode (given code : UInt32) : Bool :=
  given = code || given = 0 - code

def found (path : String) : IO Found := do
  try
    let bytes ← IO.FS.readBinFile path
    return .file (bytes.toList.map UInt8.toNat)
  catch
    | .noFileOrDirectory _ _ _ => return .missing
    | .inappropriateType _ code details =>
      if isCode code 20 then return .belowFile
      else if isCode code 21 then return .folder
      else return .unreadable details
    | e => return .unreadable (toString e)

def printAll (out : IO.FS.Stream) (lines : List String) : IO Unit :=
  lines.forM out.putStrLn

/-- What some arguments have to do with: of all files, only the one of the settings counts. -/
def surroundings (arguments : List String) : IO Surroundings := do
  let home ← IO.getEnv "HOME"
  match CommandLine.read arguments with
  | .ok invocation =>
    let settingsFile ← found (settingsPath home invocation.config)
    return ⟨home,fun _ => settingsFile,Remote.unreachable⟩
  | .error _ => return ⟨home,fun _ => .missing,Remote.unreachable⟩

def carryOut (arguments : List String) : IO UInt32 := do
  let done := outcome (← surroundings arguments) (← IO.getEnv "RUST_LOG") arguments
  let errors ← IO.getStderr
  printAll errors done.log
  printAll (← IO.getStdout) done.report.printed
  printAll errors done.report.complaints
  return done.report.exitCode.toUInt32

end RegionAudit.Program

def main (arguments : List String) : IO UInt32 :=
  RegionAudit.Program.carryOut arguments
