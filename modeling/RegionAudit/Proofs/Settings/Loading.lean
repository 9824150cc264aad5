import RegionAudit.Proofs.FileTree
import RegionAudit.Proofs.Settings.Faults
import RegionAudit.Proofs.Text.Bytes

/-! Loading a settings file that was asked for, and the one in the home directory. The two ways part only where there
is no file: all else that can be at a path, and all that can be in a file, has the same outcome in both. -/
namespace RegionAudit.Settings

def warnings {α : Type} (r : Run α) : List Event :=
  r.events.filter (·.level = .warn)

/-- The path of the file that is loaded: the one that was asked for, or else the one in the home directory. -/
def chosenPath (home config : Option String) : Option String :=
  config <|> home.map defaultPath

/-- What is at a path but holds no text. -/
inductive HasNoText : Found → Prop
  | bytes {bytes : List Nat} (none : ∀ text, bytes ≠ Text.utf8 text) : HasNoText (.file bytes)
  | folder : HasNoText .folder
  | belowFile : HasNoText .belowFile
  | unreadable (reason : String) : HasNoText (.unreadable reason)

/-! ### What does not depend on the way -/

theorem loadFrom_of_ne_missing {files : Files} {path : String} (h : files path ≠ .missing)
    (isRequired isRequired' : Bool) : loadFrom files isRequired path = loadFrom files isRequired' path := by
  unfold loadFrom
  cases hfound : files path with
  | missing => exact absurd hfound h
  | belowFile => rfl
  | folder => rfl
  | file bytes => rfl
  | unreadable reason => rfl

theorem load_of_chosenPath {home config : Option String} {path : String} (h : chosenPath home config = some path)
    (files : Files) : load files home config = loadFrom files config.isSome path := by
  cases config with
  | some asked =>
    obtain rfl : asked = path := Option.some.inj h
    rfl
  | none =>
    cases home with
    | none => cases h
    | some home =>
      obtain rfl : defaultPath home = path := Option.some.inj h
      rfl

/-! ### What is in a file -/

section File
variable {files : Files} {path : String} (isRequired : Bool)

theorem loadFrom_text {text : List Char} (h : files path = .file (Text.utf8 text)) :
    (loadFrom files isRequired path).result = (ofText text).result ∧
      (loadFrom files isRequired path).events = .settingsFileRead path :: (ofText text).events := by
  have hread : Text.decode? (Text.utf8 text) = some text := Text.decode?_eq_some_iff.mpr rfl
  simp only [loadFrom,h,ofFile,hread]
  exact ⟨rfl,rfl⟩

theorem loadFrom_noText {found : Found} (hfound : files path = found) (h : HasNoText found) :
    ∃ reason, loadFrom files isRequired path = pure (.error (.unreadable reason)) := by
  unfold loadFrom
  rw [hfound]
  cases h with
  | bytes none =>
    have hread : Text.decode? _ = Option.none := Text.decode?_eq_none_iff.mpr none
    simp only [ofFile,hread]
    exact ⟨_,rfl⟩
  | folder => exact ⟨_,rfl⟩
  | belowFile => exact ⟨_,rfl⟩
  | unreadable reason => exact ⟨_,rfl⟩

end File

/-! ### What no way makes -/

theorem ofText_ne_missingFile (text : List Char) (path : String) :
    (ofText text).result ≠ .error (.missingFile path) := by
  unfold ofText
  cases Ini.ofText text with
  | error f => simp
  | ok ini =>
    intro h
    have hini : ofIni ini = .error (.missingFile path) := h
    obtain ⟨_,_,_,_,⟨_,_,_,_,hvalue⟩,_⟩ := ofIni_eq_error_iff.mp hini
    cases hvalue

theorem loadFrom_ne_missingFile (files : Files) (path path' : String) :
    (loadFrom files false path).result ≠ .error (.missingFile path') := by
  unfold loadFrom
  cases files path with
  | missing => simp
  | belowFile => simp
  | folder => simp
  | unreadable reason => simp
  | file bytes =>
    simp only [ofFile]
    cases Text.decode? bytes with
    | none => simp
    | some text => exact ofText_ne_missingFile text path'

/-! ### The file in the home directory -/

/-- The default path has two names more than the home directory, whether that ends in a slash or not. -/
theorem find_defaultPath (tree : FileTree) (home : String) :
    tree.find (defaultPath home) = FileTree.walk [tree] (FileTree.names home ++ [".regioncheck","config"]) := by
  have hnames : FileTree.names ".regioncheck/config" = [".regioncheck","config"] := by decide
  by_cases hslash : home.toList.getLast? = some '/'
  · obtain ⟨cs,hcs⟩ := List.getLast?_eq_some_iff.mp hslash
    obtain rfl : home = String.ofList cs ++ "/" ++ "" := String.toList_inj.mp (by simp [hcs])
    have hpath : defaultPath (String.ofList cs ++ "/" ++ "") = String.ofList cs ++ "/" ++ ".regioncheck/config" := by
      rw [defaultPath,if_pos hslash]
      apply String.toList_inj.mp
      simp
    have hnone : FileTree.names "" = [""] := by decide
    rw [FileTree.find,hpath,FileTree.names_slash,FileTree.names_slash,hnames,hnone,List.append_assoc]
    exact (FileTree.walk_slash [tree] _ _ _).symm
  · have hpath : defaultPath home = home ++ "/" ++ ".regioncheck/config" := by
      rw [defaultPath,if_neg hslash]
    rw [FileTree.find,hpath,FileTree.names_slash,hnames]

/-! ### Both ways -/

/-- The settings that are loaded from what is at a path. Where something is at the default path, asking for it makes
no difference, whether it can be read or not; where nothing is there, the defaults are taken unless it was asked for.
A file that is there, whichever way it was chosen, has the result and the warnings of its text, and fails without a
warning if it is none; so does all else that is no file. Without a path, no file is ever said to be missing. In a
tree of folders and files, what is at a path is told by where its names lead, and the names of the default path are
those of the home directory and two more. -/
theorem load_either_way (files : Files) (home : Option String) :
    (∀ h, home = some h →
      (files (defaultPath h) ≠ .missing → load files home none = load files home (some (defaultPath h))) ∧
      (files (defaultPath h) = .missing → (load files home none).result = .ok defaults ∧
        (load files home (some (defaultPath h))).result = .error (.missingFile (defaultPath h)))) ∧
    (∀ config path, chosenPath home config = some path →
      (∀ text, files path = .file (Text.utf8 text) →
        (load files home config).result = (ofText text).result ∧
          warnings (load files home config) = warnings (ofText text)) ∧
      (HasNoText (files path) → warnings (load files home config) = [] ∧
        ∃ reason, (load files home config).result = .error (.unreadable reason))) ∧
    (∀ path, (load files home none).result ≠ .error (.missingFile path)) ∧
    ∀ tree : FileTree, files = tree.find →
      (∀ path found, files path = found ↔ FileTree.Ends [tree] (FileTree.names path) found) ∧
      ∀ h found, files (defaultPath h) = found ↔
        FileTree.Ends [tree] (FileTree.names h ++ [".regioncheck","config"]) found := by
  refine ⟨?_,fun config path hpath => ⟨fun text htext => ?_,fun hother => ?_⟩,fun path => ?_,?_⟩
  · rintro h rfl
    refine ⟨fun hsome => loadFrom_of_ne_missing hsome false true,fun hnone => ?_⟩
    simp only [load,loadFrom,hnone]
    exact ⟨rfl,rfl⟩
  · obtain ⟨hresult,hevents⟩ := loadFrom_text config.isSome htext
    rw [load_of_chosenPath hpath]
    refine ⟨hresult,?_⟩
    rw [warnings,hevents,List.filter_cons_of_neg (by simp [Event.level]),warnings]
  · obtain ⟨reason,hreason⟩ := loadFrom_noText config.isSome rfl hother
    rw [load_of_chosenPath hpath,hreason]
    exact ⟨rfl,reason,rfl⟩
  · cases home with
    | none => simp [load]
    | some h => exact loadFrom_ne_missingFile files (defaultPath h) path
  · rintro tree rfl
    have hone : [tree] ≠ [] := by simp
    exact ⟨fun path found => FileTree.walk_eq_iff hone,fun h found => by
      rw [find_defaultPath,FileTree.walk_eq_iff hone]⟩

/-- A home directory with a file where the folder of the settings should be. -/
def homeWithFile : FileTree :=
  .folder [("home",.folder [(".regioncheck",.file [])])]

/-- The defaults are not taken where the file could not even be looked for. -/
theorem load_either_way_below_file :
    load homeWithFile.find (some "home/") none =
        load homeWithFile.find (some "home/") (some "home/.regioncheck/config") ∧
      ∃ reason, (load homeWithFile.find (some "home/") none).result = .error (.unreadable reason) := by
  have hpath : defaultPath "home/" = "home/.regioncheck/config" := by decide
  obtain ⟨hdefault,hfound,-,htree⟩ := load_either_way homeWithFile.find (some "home/")
  have hbelow : homeWithFile.find (defaultPath "home/") = .belowFile := by
    rw [(htree homeWithFile rfl).2]
    exact .belowFile ["home","",".regioncheck"]
      (.enter (by decide) rfl (.stay (.inl rfl) (.enter (by decide) rfl .here)))
  refine ⟨?_,((hfound none _ rfl).2 (hbelow ▸ .belowFile)).2⟩
  rw [← hpath]
  exact (hdefault "home/" rfl).1 (by rw [hbelow]; decide)

end RegionAudit.Settings
