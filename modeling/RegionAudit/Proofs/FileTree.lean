import Mathlib.Data.List.Basic
import RegionAudit.FileTree

/-! What a path leads to in a tree of folders and files. The names of a path are taken one after another, and the
first of them that cannot be taken decides: it is not there, or it would be below a file. -/
namespace RegionAudit.FileTree

/-- A name that is looked for in a folder: not an empty one, and not dots. -/
def IsEntryName (name : String) : Prop :=
  name ≠ "" ∧ name ≠ "." ∧ name ≠ ".."

instance : DecidablePred IsEntryName := fun name =>
  inferInstanceAs (Decidable (name ≠ "" ∧ name ≠ "." ∧ name ≠ ".."))

theorem isEntryName_iff {name : String} :
    IsEntryName name ↔ ¬ (name = "" || name = ".") = true ∧ name ≠ ".." := by
  simp [IsEntryName,and_assoc]

/-- Names lead from the last of some folders, each of which is in the next, to the last of others. There is nothing
above the first folder. -/
inductive Leads : List FileTree → List String → List FileTree → Prop
  | here {stack : List FileTree} : Leads stack [] stack
  | stay {entries : List (String × FileTree)} {above dest : List FileTree} {name : String} {rest : List String}
      (dot : name = "" ∨ name = ".") (onward : Leads (.folder entries :: above) rest dest) :
      Leads (.folder entries :: above) (name :: rest) dest
  | up {entries : List (String × FileTree)} {parent : FileTree} {above dest : List FileTree} {rest : List String}
      (onward : Leads (parent :: above) rest dest) : Leads (.folder entries :: parent :: above) (".." :: rest) dest
  | top {entries : List (String × FileTree)} {dest : List FileTree} {rest : List String}
      (onward : Leads [.folder entries] rest dest) : Leads [.folder entries] (".." :: rest) dest
  | enter {entries : List (String × FileTree)} {tree : FileTree} {above dest : List FileTree} {name : String}
      {rest : List String} (proper : IsEntryName name) (entry : entries.lookup name = some tree)
      (onward : Leads (tree :: .folder entries :: above) rest dest) :
      Leads (.folder entries :: above) (name :: rest) dest

/-- What there is at the end of names, and how they end. -/
inductive Ends (stack : List FileTree) : List String → Found → Prop
  | folder {names : List String} {entries : List (String × FileTree)} {above : List FileTree}
      (leads : Leads stack names (.folder entries :: above)) : Ends stack names .folder
  | file {names : List String} {bytes : List Nat} {above : List FileTree}
      (leads : Leads stack names (.file bytes :: above)) : Ends stack names (.file bytes)
  | belowFile (before : List String) {after : List String} {name : String} {bytes : List Nat}
      {above : List FileTree} (leads : Leads stack before (.file bytes :: above)) :
      Ends stack (before ++ name :: after) .belowFile
  | missing (before : List String) {after : List String} {name : String} {entries : List (String × FileTree)}
      {above : List FileTree} (leads : Leads stack before (.folder entries :: above)) (proper : IsEntryName name)
      (absent : entries.lookup name = none) : Ends stack (before ++ name :: after) .missing

theorem Ends.of_step {stack stack' : List FileTree} {name : String} {names : List String} {found : Found}
    (hstep : ∀ {rest dest}, Leads stack' rest dest → Leads stack (name :: rest) dest)
    (h : Ends stack' names found) : Ends stack (name :: names) found := by
  cases h with
  | folder leads => exact .folder (hstep leads)
  | file leads => exact .file (hstep leads)
  | belowFile before leads => exact .belowFile (name :: before) (hstep leads)
  | missing before leads proper absent => exact .missing (name :: before) (hstep leads) proper absent

/-- Something is at the end of all names. -/
theorem ends_walk (stack : List FileTree) (names : List String) (h : stack ≠ []) :
    Ends stack names (walk stack names) := by
  fun_induction walk stack names with
  | case1 => exact absurd rfl h
  | case2 bytes above => exact .file .here
  | case3 bytes above name rest => exact .belowFile [] .here
  | case4 entries above => exact .folder .here
  | case5 entries above name rest hdot ih =>
    have hdot : name = "" ∨ name = "." := by simpa using hdot
    exact .of_step (.stay hdot) (ih h)
  | case6 entries above rest hdot ih =>
    -- what is above the first folder is that folder
    cases above with
    | nil => exact .of_step .top (ih (by simp))
    | cons parent above => exact .of_step .up (ih (by simp))
  | case7 entries above name rest hdot hup tree hentry ih =>
    exact .of_step (.enter (isEntryName_iff.mpr ⟨hdot,hup⟩) hentry) (ih (by simp))
  | case8 entries above name rest hdot hup hentry =>
    exact .missing [] .here (isEntryName_iff.mpr ⟨hdot,hup⟩) hentry

theorem walk_entry {entries : List (String × FileTree)} {above : List FileTree} {name : String}
    {rest : List String} (h : IsEntryName name) :
    walk (.folder entries :: above) (name :: rest) =
      (entries.lookup name).elim .missing fun tree => walk (tree :: .folder entries :: above) rest := by
  obtain ⟨hdot,hup⟩ := isEntryName_iff.mp h
  rw [walk,if_neg hdot,if_neg hup]
  cases entries.lookup name <;> rfl

theorem Leads.walk_append {stack dest : List FileTree} {names : List String} (h : Leads stack names dest)
    (rest : List String) : walk stack (names ++ rest) = walk dest rest := by
  induction h with
  | here => rfl
  | stay dot onward ih =>
    rw [List.cons_append,walk,if_pos (by simpa using dot),ih]
  | up onward ih => simpa [walk] using ih
  | top onward ih => simpa [walk] using ih
  | enter proper entry onward ih => rw [List.cons_append,walk_entry proper,entry,Option.elim_some,ih]

theorem Ends.walk_eq {stack : List FileTree} {names : List String} {found : Found} (h : Ends stack names found) :
    walk stack names = found := by
  cases h with
  | folder leads => simpa [walk] using leads.walk_append []
  | file leads => simpa [walk] using leads.walk_append []
  | belowFile before leads => rw [leads.walk_append,walk]
  | missing before leads proper absent => rw [leads.walk_append,walk_entry proper,absent,Option.elim_none]

/-- Each path ends in exactly one way. -/
theorem walk_eq_iff {stack : List FileTree} {names : List String} {found : Found} (h : stack ≠ []) :
    walk stack names = found ↔ Ends stack names found := by
  constructor
  · rintro rfl
    exact ends_walk stack names h
  · exact Ends.walk_eq

/-! ### Names of paths -/

theorem names_slash (path path' : String) : names (path ++ "/" ++ path') = names path ++ names path' := by
  have hslash : (path ++ "/" ++ path').toList = path.toList ++ '/' :: path'.toList := by simp
  rw [names,names,names,hslash,List.splitOn_append_cons_self,List.map_append]

theorem walk_slash (stack : List FileTree) (names : List String) (name : String) (rest : List String) :
    walk stack (names ++ "" :: name :: rest) = walk stack (names ++ name :: rest) := by
  induction names generalizing stack with
  | nil =>
    cases stack with
    | nil => rfl
    | cons tree above =>
      cases tree with
      | file bytes => rfl
      | folder entries => rw [List.nil_append,List.nil_append,walk,if_pos (by simp)]
  | cons first names ih =>
    cases stack with
    | nil => rfl
    | cons tree above =>
      cases tree with
      | file bytes => rfl
      | folder entries =>
        simp only [List.cons_append,walk,ih]

end RegionAudit.FileTree
