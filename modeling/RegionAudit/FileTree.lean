/-!
Files and folders, and what a path leads to.
-/
namespace RegionAudit

inductive Found
  | missing
  /-- The path goes on below a file. -/
  | belowFile
  | folder
  | file (bytes : List Nat)
  /-- Something that cannot be read, for a reason. -/
  | unreadable (reason : String)
  deriving DecidableEq, Repr

/-- What is at each path. -/
abbrev Files := String → Found

inductive FileTree
  | file (bytes : List Nat)
  | folder (entries : List (String × FileTree))

namespace FileTree

def empty : FileTree := .folder []

/-- What a path leads to from the last of some folders, each of which is in the next. The names of the path
may be empty or dots. -/
def walk : List FileTree → List String → Found
  | [], _ => .missing
  | .file bytes :: _, [] => .file bytes
  | .file _ :: _, _ :: _ => .belowFile
  | .folder _ :: _, [] => .folder
  | .folder entries :: above, name :: rest =>
    if name = "" || name = "." then walk (.folder entries :: above) rest
    else if name = ".." then walk (if above.isEmpty then [.folder entries] else above) rest
    else
      match entries.lookup name with
      | some tree => walk (tree :: .folder entries :: above) rest
      | none => .missing

/-- The names of a path, which stand between slashes. -/
def names (path : String) : List String :=
  (path.toList.splitOn '/').map String.ofList

def find (tree : FileTree) (path : String) : Found :=
  walk [tree] (names path)

def insert (tree : FileTree) (path : List String) (new : FileTree) : FileTree :=
  match path with
  | [] => new
  | name :: rest =>
    match tree with
    | .file _ => .folder [(name,insert empty rest new)]
    | .folder entries =>
      let below := insert ((entries.lookup name).getD empty) rest new
      .folder ((name,below) :: entries.filter (·.1 ≠ name))

end FileTree

end RegionAudit
