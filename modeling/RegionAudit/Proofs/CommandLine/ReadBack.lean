import RegionAudit.Proofs.Logging
import RegionAudit.Proofs.ProviderNames

/-! Command lines that are written for what they are to ask for. Options may be written in many ways and may stand in any
order. What those of one place come to is gathered from them, and one option more adds to it what it is written for. -/
namespace RegionAudit.CommandLine

open Entries

/-! ### What may be written -/

/-- A name under which a provider is found. -/
structure ProviderText where
  text : String
  provider : Provider
  named : Provider.ofText text = .ok provider

/-- A path that is not taken for an option. -/
structure PathText where
  text : String
  ne_empty : text ≠ ""
  plain : text.toList.head? ≠ some '-'

/-- How an option with a provider is written. Before its letter there may be letters that raise the verbosity. -/
inductive Form
  | apart
  | joined
  | letterApart (raises : Nat)
  | letterJoined (raises : Nat)
  | letterEqual (raises : Nat)

inductive Piece (place : Place)
  | path (isJoined : Bool) (t : PathText)
  | provider (isBack : place ≠ .front) (form : Form) (t : ProviderText)
  | raising (more : Nat)
  | verbose
  | strict (isCheck : place = .check)

def cluster (n : Nat) : String :=
  "-"++String.ofList (List.replicate n 'v')

def Form.arguments (name : String) : Form → List String
  | .apart => ["--provider",name]
  | .joined => ["--provider="++name]
  | .letterApart n => [cluster n++"p",name]
  | .letterJoined n => [cluster n++"p"++name]
  | .letterEqual n => [cluster n++"p="++name]

def Form.raises : Form → Nat
  | .apart | .joined => 0
  | .letterApart n | .letterJoined n | .letterEqual n => n

section Piece

variable {place : Place}

def Piece.arguments : Piece place → List String
  | .path true t => ["--config="++t.text]
  | .path false t => ["--config",t.text]
  | .provider _ form t => form.arguments t.text
  | .raising more => [cluster (more+1)]
  | .verbose => ["--verbose"]
  | .strict _ => ["--strict"]

@[simp] def Piece.paths : Piece place → List PathText
  | .path _ t => [t]
  | _ => []

@[simp] def Piece.names : Piece place → List ProviderText
  | .provider _ _ t => [t]
  | _ => []

@[simp] def Piece.raises : Piece place → Nat
  | .provider _ form _ => form.raises
  | .raising more => more+1
  | .verbose => 1
  | _ => 0

@[simp] def Piece.stricts : Piece place → Nat
  | .strict _ => 1
  | _ => 0

@[simp] def Piece.settled : Piece place → List Choice
  | .path _ t => [.value .config t.text]
  | .provider _ _ t => [.value .provider t.text]
  | .strict _ => [.flag .strict]
  | .raising _ | .verbose => []

def Piece.choices (p : Piece place) : List Choice :=
  List.replicate p.raises (.flag .verbose)++p.settled

end Piece

/-! ### What a command line is to ask for -/

inductive Task
  | list
  | check (isStrict : Bool)

def Task.place : Task → Place
  | .list => .list
  | .check _ => .check

def Task.word : Task → String
  | .list => "list"
  | .check _ => "check"

def Task.stricts : Task → Nat
  | .list => 0
  | .check isStrict => isStrict.toNat

def Task.command (selection : List Provider) : Task → Command
  | .list => .list selection
  | .check isStrict => .check selection isStrict

/-- What a command line is to ask for: a command for some providers, perhaps with a path, and how often the verbosity is
raised. -/
structure Intent where
  task : Task
  names : List ProviderText
  path : Option PathText
  raises : Nat

def Intent.invocation (i : Intent) : Invocation where
  config := i.path.map (·.text)
  verbosity := min i.raises 255
  command := i.task.command (i.names.map (·.provider))

section Written

variable {place : Place}

def pathsOf (ps : List (Piece place)) : List PathText := ps.flatMap Piece.paths

def namesOf (ps : List (Piece place)) : List ProviderText := ps.flatMap Piece.names

def raisesOf (ps : List (Piece place)) : Nat := ps.foldl (fun n p => n+p.raises) 0

def strictsOf (ps : List (Piece place)) : Nat := ps.foldl (fun n p => n+p.stricts) 0

/-- Whether arguments are written for an intent: some pieces, the command and again some pieces. The names stand after
the command in their order, the path stands anywhere, and the verbosity is raised on one side. -/
def Intent.WrittenAs (i : Intent) (args : List String) : Prop :=
  ∃ (front : List (Piece .front)) (back : List (Piece i.task.place)),
    args = front.flatMap Piece.arguments++i.task.word :: back.flatMap Piece.arguments ∧
    namesOf back = i.names ∧ pathsOf front++pathsOf back = i.path.toList ∧
    (raisesOf front = i.raises ∧ raisesOf back = 0 ∨ raisesOf front = 0 ∧ raisesOf back = i.raises) ∧
    strictsOf back = i.task.stricts

end Written

/-! ### Names -/

/-- A text that names a provider begins with a blank or a letter. It is therefore taken neither for an option nor, where
it is joined to a letter, for an equals sign and a value. -/
theorem ProviderText.exists_first (t : ProviderText) :
    ∃ c cs, t.text.toList = c :: cs ∧ c ≠ '-' ∧ c ≠ '=' := by
  have hnamed := Provider.ofText_eq_ok_iff.mp t.named
  obtain ⟨c,cs,hlist⟩ := List.exists_cons_of_ne_nil hnamed.toList_ne_nil
  have hmem : c ∈ t.text.toList := hlist ▸ List.mem_cons_self
  have hsign {d : Char} (hblank : Text.isBlank d = false) (hlower : d.toLower.isLower = false) : c ≠ d := by
    rintro rfl
    rw [hnamed.isLower_toLower hmem hblank] at hlower
    cases hlower
  exact ⟨c,cs,hlist,hsign (by decide) (by decide),hsign (by decide) (by decide)⟩

/-! ### Arguments -/

theorem shape_word {a : String} (h : a.toList.head? ≠ some '-') : shape a = .word := by
  unfold shape
  split <;> simp_all

theorem shape_letters {a : String} {c : Char} {cs : List Char} (h : a.toList = '-' :: c :: cs) (hc : c ≠ '-') :
    shape a = .short (c :: cs) := by
  unfold shape
  rw [h]
  split <;> simp_all

theorem shape_joined {name : List Char} (hname : '=' ∉ name) {a text : String}
    (h : a.toList = '-' :: '-' :: (name++ '=' :: text.toList)) :
    shape a = .long (String.ofList name) (some text) := by
  have hshape : shape a = longShape (name++ '=' :: text.toList) := by
    unfold shape
    rw [h]
    cases name <;> rfl
  have hplain : ∀ c ∈ name, decide (c ≠ '=') = true :=
    fun c hc => decide_eq_true fun heq => hname (heq ▸ hc)
  have hdrop : (name++ '=' :: text.toList).dropWhile (· ≠ '=') = '=' :: text.toList := by
    rw [List.dropWhile_append_of_pos hplain]
    rfl
  have htake : (name++ '=' :: text.toList).takeWhile (· ≠ '=') = name := by
    rw [List.takeWhile_append_of_pos hplain]
    simp
  rw [hshape,longShape,hdrop,htake]
  exact congrArg (fun t => Shape.long (String.ofList name) (some t)) String.ofList_toList

theorem ProviderText.shape_text (t : ProviderText) : shape t.text = .word := by
  obtain ⟨c,cs,hlist,hdash,-⟩ := t.exists_first
  refine shape_word ?_
  rw [hlist]
  exact fun h => hdash (Option.some.inj h)

theorem attached_equal (text : String) : attached ('=' :: text.toList) = text :=
  String.ofList_toList

theorem ProviderText.attached_text (t : ProviderText) : attached t.text.toList = t.text := by
  obtain ⟨c,cs,hlist,-,hequal⟩ := t.exists_first
  have hplain : attached t.text.toList = String.ofList t.text.toList := by
    rw [hlist,attached.eq_2]
    exact fun _ h => hequal (List.cons.inj h).1
  rw [hplain,String.ofList_toList]

theorem flagLetters_replicate (place : Place) (n : Nat) :
    FlagLetters place (List.replicate n 'v') (List.replicate n .verbose) := by
  induction n with
  | zero => exact .nil
  | succ n ih => exact .cons rfl ih

section Writes

variable {place : Place}

theorem long?_provider (isBack : place ≠ .front) : place.long? "provider" = some (.value .provider) :=
  if_neg isBack

theorem short?_provider (isBack : place ≠ .front) : place.short? 'p' = some (.value .provider) :=
  if_neg isBack

theorem shape_cluster {a : String} {n : Nat} {more : List Char}
    (h : a.toList = '-' :: (List.replicate n 'v'++ 'p' :: more)) :
    shape a = .short (List.replicate n 'v'++ 'p' :: more) := by
  cases n with
  | zero => exact shape_letters h (by decide)
  | succ n => exact shape_letters h (by decide)

theorem writes_form (isBack : place ≠ .front) (form : Form) (t : ProviderText) :
    Writes place (form.arguments t.text)
      (List.replicate form.raises (.flag .verbose)++[.value .provider t.text]) := by
  have flags := flagLetters_replicate place form.raises
  have hlong := long?_provider isBack
  have hshort := short?_provider isBack
  have hmap : (List.replicate form.raises Flag.verbose).map Choice.flag = List.replicate form.raises (.flag .verbose) :=
    List.map_replicate
  rw [← hmap]
  cases form with
  | apart => exact .apart rfl hlong t.shape_text .nothing
  | joined =>
    have hshape : shape ("--provider="++t.text) = .long "provider" (some t.text) :=
      @shape_joined "provider".toList (by decide) _ _ (by simp)
    exact .joined hshape hlong .nothing
  | letterApart n =>
    have hshape : shape (cluster n++"p") = .short (List.replicate n 'v'++['p']) :=
      shape_cluster (by simp [cluster])
    exact .lettersApart hshape flags hshort t.shape_text .nothing
  | letterJoined n =>
    have hshape : shape (cluster n++"p"++t.text) = .short (List.replicate n 'v'++ 'p' :: t.text.toList) :=
      shape_cluster (by simp [cluster])
    have hmore : t.text.toList ≠ [] := by
      obtain ⟨c,cs,hlist,-⟩ := t.exists_first
      rw [hlist]
      exact List.cons_ne_nil c cs
    have hwrites := Writes.lettersJoined hshape flags hshort hmore .nothing
    rwa [t.attached_text] at hwrites
  | letterEqual n =>
    have hshape : shape (cluster n++"p="++t.text) = .short (List.replicate n 'v'++ 'p' :: '=' :: t.text.toList) :=
      shape_cluster (by simp [cluster])
    have hwrites := Writes.lettersJoined hshape flags hshort (List.cons_ne_nil _ _) .nothing
    rwa [attached_equal] at hwrites

theorem writes_piece (p : Piece place) : Writes place p.arguments p.choices := by
  cases p with
  | path isJoined t =>
    cases isJoined with
    | false => exact .apart rfl rfl (shape_word t.plain) .nothing
    | true =>
      have hshape : shape ("--config="++t.text) = .long "config" (some t.text) :=
        @shape_joined "config".toList (by decide) _ _ (by simp)
      exact .joined hshape rfl .nothing
  | provider isBack form t => exact writes_form isBack form t
  | raising more =>
    have hshape : shape (cluster (more+1)) = .short (List.replicate (more+1) 'v') :=
      shape_letters (by simp [cluster,List.replicate_succ]) (by decide)
    have hwrites := Writes.letters hshape (flagLetters_replicate place (more+1)) .nothing
    rwa [List.map_replicate] at hwrites
  | verbose => exact .flag rfl rfl .nothing
  | strict isCheck => exact .flag rfl (if_pos isCheck) .nothing

theorem writes_pieces (ps : List (Piece place)) :
    Writes place (ps.flatMap Piece.arguments) (ps.flatMap Piece.choices) := by
  induction ps with
  | nil => exact .nothing
  | cons p ps ih => exact (writes_piece p).append ih

end Writes

/-! ### Entries -/

section Enter

variable {place : Place}

@[simps] def gathered (ps : List (Piece place)) : Entries where
  config := (pathsOf ps).head?.map (·.text)
  verbosity := min (raisesOf ps) verbosityLimit
  selection := (namesOf ps).map (·.provider)
  isStrict := strictsOf ps ≠ 0
  pending := none

/-- Whether what may be given once is not given more often. -/
structure Once (ps : List (Piece place)) : Prop where
  paths : (pathsOf ps).length ≤ 1
  stricts : strictsOf ps ≤ 1

section Concat

variable (ps : List (Piece place)) (p : Piece place)

@[simp] theorem pathsOf_concat : pathsOf (ps++[p]) = pathsOf ps++p.paths := by
  simp [pathsOf]

@[simp] theorem namesOf_concat : namesOf (ps++[p]) = namesOf ps++p.names := by
  simp [namesOf]

@[simp] theorem raisesOf_concat : raisesOf (ps++[p]) = raisesOf ps+p.raises := by
  simp [raisesOf]

@[simp] theorem strictsOf_concat : strictsOf (ps++[p]) = strictsOf ps+p.stricts := by
  simp [strictsOf]

end Concat

section Once

variable {ps : List (Piece place)}

theorem Once.of_concat {p : Piece place} (h : Once (ps++[p])) : Once ps where
  paths := by
    have hpaths := h.paths
    rw [pathsOf_concat,List.length_append] at hpaths
    omega
  stricts := by
    have hstricts := h.stricts
    rw [strictsOf_concat] at hstricts
    omega

theorem Once.pathsOf_eq_nil {isJoined : Bool} {t : PathText} (h : Once (ps++[.path isJoined t])) :
    pathsOf ps = [] := by
  have hpaths := h.paths
  rw [pathsOf_concat,List.length_append] at hpaths
  exact List.length_eq_zero_iff.mp (by simpa using hpaths)

theorem Once.strictsOf_eq_zero {isCheck : place = .check} (h : Once (ps++[.strict isCheck])) : strictsOf ps = 0 := by
  have hstricts := h.stricts
  rw [strictsOf_concat] at hstricts
  exact Nat.le_zero.mp (by simpa using hstricts)

end Once

theorem enter_replicate_verbose {e : Entries} (hv : e.verbosity ≤ verbosityLimit) (hp : e.pending = none) (n : Nat) :
    enter place e (List.replicate n (.flag .verbose)) =
      .ok (e.atVerbosity (min (e.verbosity+n) verbosityLimit)) := by
  have hquiet : quiet (List.replicate n (.flag .verbose)) = [] := by
    simp [quiet]
  have hraises : raises (List.replicate n (.flag .verbose)) = n := List.count_replicate_self
  have henter := @enter_atVerbosity place e e.verbosity (List.replicate n (.flag .verbose)) hv hp
  rw [hquiet,hraises] at henter
  exact henter

theorem enter_raises (ps : List (Piece place)) (p : Piece place) :
    enter place (gathered ps) (List.replicate p.raises (.flag .verbose)) =
      .ok ((gathered ps).atVerbosity (min (raisesOf (ps++[p])) verbosityLimit)) := by
  have hcount : min (min (raisesOf ps) verbosityLimit+p.raises) verbosityLimit =
      min (raisesOf (ps++[p])) verbosityLimit := by
    rw [raisesOf_concat]
    omega
  rw [enter_replicate_verbose (Nat.min_le_right _ _) rfl,gathered_verbosity,hcount]

/-- A piece more adds what it is written for. -/
theorem enter_piece {ps : List (Piece place)} {p : Piece place} (h : Once (ps++[p])) :
    enter place (gathered ps) p.choices = .ok (gathered (ps++[p])) := by
  rw [Piece.choices,enter_append,enter_raises]
  show enter place ((gathered ps).atVerbosity (min (raisesOf (ps++[p])) verbosityLimit)) p.settled = _
  cases p with
  | path isJoined t =>
    have hnone := h.pathsOf_eq_nil
    rw [Piece.settled,enter_one]
    simp [Choice.make,accept,gathered,atVerbosity,hnone,t.ne_empty]
  | provider isBack form t =>
    rw [Piece.settled,enter_one]
    simp [Choice.make,accept,gathered,atVerbosity,t.named]
  | raising more => simp [gathered,atVerbosity]
  | verbose => simp [gathered,atVerbosity]
  | strict isCheck =>
    have hnone := h.strictsOf_eq_zero
    rw [Piece.settled,enter_one]
    simp [Choice.make,raise,settle,gathered,atVerbosity,hnone]
    rfl

/-- Pieces come to what was gathered of them. -/
theorem enter_pieces {ps : List (Piece place)} (h : Once ps) :
    enter place .empty (ps.flatMap Piece.choices) = .ok (gathered ps) := by
  -- the last piece is added to what those before it come to
  induction ps using List.reverseRecOn with
  | nil => rfl
  | append_singleton ps p ih =>
    rw [List.flatMap_append,List.flatMap_singleton,enter_append,ih h.of_concat]
    exact enter_piece h

end Enter

/-! ### What is read -/

theorem Task.word?_place (t : Task) : t.place.word? = some t.word := by
  cases t <;> rfl

theorem strictsOf_front (ps : List (Piece .front)) : strictsOf ps = 0 := by
  induction ps using List.reverseRecOn with
  | nil => rfl
  | append_singleton ps p ih =>
    rw [strictsOf_concat,ih]
    cases p with
    | strict isCheck => cases isCheck
    | _ => rfl

theorem Task.stricts_le (t : Task) : t.stricts ≤ 1 := by
  cases t with
  | list => exact Nat.zero_le 1
  | check isStrict => exact Bool.toNat_le isStrict

theorem Task.command_place (t : Task) {e : Entries} (h : e.isStrict = decide (t.stricts ≠ 0)) :
    t.place.command e = t.command e.selection := by
  cases t with
  | list => rfl
  | check isStrict =>
    show Command.check e.selection e.isStrict = .check e.selection isStrict
    rw [h]
    cases isStrict <;> rfl

section Sides

variable {place : Place} {front : List (Piece .front)} {back : List (Piece place)}

theorem config_gathered {o : Option PathText} (h : pathsOf front++pathsOf back = o.toList) :
    ((gathered back).config <|> (gathered front).config) = o.map (·.text) := by
  rw [gathered_config,gathered_config]
  cases o with
  | none =>
    obtain ⟨hfront,hback⟩ := List.append_eq_nil_iff.mp h
    rw [hfront,hback]
    rfl
  | some t =>
    obtain ⟨hfront,hback⟩ | ⟨hfront,hback⟩ := List.append_eq_singleton_iff.mp h
    · rw [hfront,hback]
      rfl
    · rw [hfront,hback]
      rfl

/-- The verbosity counts on whichever side it is raised. -/
theorem verbosity_gathered {n : Nat}
    (h : raisesOf front = n ∧ raisesOf back = 0 ∨ raisesOf front = 0 ∧ raisesOf back = n) :
    (if (gathered back).verbosity = 0 then (gathered front).verbosity else (gathered back).verbosity) =
      min n verbosityLimit := by
  have hlimit : 0 < verbosityLimit := by decide
  rw [gathered_verbosity,gathered_verbosity]
  split <;> omega

end Sides

/-- However it is written, an intent is read back. -/
theorem read_written {i : Intent} {args : List String} (h : i.WrittenAs args) : read args = .ok i.invocation := by
  obtain ⟨front,back,rfl,hnames,hpaths,hraises,hstricts⟩ := h
  have hspells : Spells (front.flatMap Piece.arguments++i.task.word :: back.flatMap Piece.arguments)
      (front.flatMap Piece.choices) i.task.place (back.flatMap Piece.choices) :=
    ⟨_,_,_,rfl,i.task.word?_place,writes_pieces front,_,writes_pieces back,.inl rfl⟩
  have hcount : (pathsOf front).length+(pathsOf back).length ≤ 1 := by
    rw [← List.length_append,hpaths]
    exact Option.length_toList_le
  have hfront : Once front := ⟨by omega,(strictsOf_front front).trans_le (Nat.zero_le 1)⟩
  have hback : Once back := ⟨by omega,hstricts.trans_le i.task.stricts_le⟩
  refine hspells.read_eq_ok_iff.mpr ⟨gathered front,gathered back,enter_pieces hfront,enter_pieces hback,?_⟩
  have hisStrict : (gathered back).isStrict = decide (i.task.stricts ≠ 0) := by rw [gathered_isStrict,hstricts]
  have hselection : (gathered back).selection = i.names.map (·.provider) := by rw [gathered_selection,hnames]
  rw [invocation,config_gathered hpaths,verbosity_gathered hraises,i.task.command_place hisStrict,hselection]
  rfl

/-- Letters stand on one side, where some of them are written with the option of a provider, and the path on the
other. -/
theorem read_written_mixed :
    let i : Intent :=
      ⟨.check true,[⟨"Linode",.linode,rfl⟩,⟨" do ",.digitalocean,rfl⟩,⟨"linode",.linode,rfl⟩],
        some ⟨"a=b",by decide,by decide⟩,4⟩
    let args := ["--config=a=b","check","-vvpLinode","--strict","--provider"," do ","-v","--verbose","-p=linode"]
    i.WrittenAs args ∧ read args = .ok ⟨some "a=b",4,.check [.linode,.digitalocean,.linode] true⟩ := by
  intro i args
  have hwritten : i.WrittenAs args :=
    ⟨[.path true ⟨"a=b",by decide,by decide⟩],
      [.provider nofun (.letterJoined 2) ⟨"Linode",.linode,rfl⟩,.strict rfl,
        .provider nofun .apart ⟨" do ",.digitalocean,rfl⟩,.raising 0,.verbose,
        .provider nofun (.letterEqual 0) ⟨"linode",.linode,rfl⟩],
      by decide,rfl,rfl,.inr ⟨rfl,rfl⟩,rfl⟩
  exact ⟨hwritten,read_written hwritten⟩

end RegionAudit.CommandLine
