import RegionAudit.Proofs.Ini.Keys
import RegionAudit.Settings.Load

/-! What becomes of each property of a settings file. One that names no field is told as ignored. One that names a
field has its value taken, or gives way to another value of the file; but of the sections of a provider only the
first is looked at, so a file with several of them may lose an address without a word. -/
namespace RegionAudit.Settings

/-! ### Properties and fields -/

/-- A property under the header of its section; before the first header there is none. -/
structure Placed where
  header : Option String
  property : Ini.Property
  deriving DecidableEq

def placed (ini : Ini) : List Placed :=
  ini.general.map (⟨none,·⟩) ++ ini.sections.flatMap fun s => s.properties.map (⟨some s.name,·⟩)

/-- What a property can set. -/
inductive Field
  | timeout
  | userAgent
  | endpoint (p : Provider)
  deriving DecidableEq

namespace Field

def all : List Field :=
  [.timeout,.userAgent,.endpoint .digitalocean,.endpoint .linode,.endpoint .dreamhost]

theorem mem_all (f : Field) : f ∈ all := by
  cases f with
  | timeout => simp [all]
  | userAgent => simp [all]
  | endpoint p => cases p <;> simp [all]

/-- The header under which a field is set, and its key. -/
def place : Field → Option String × String
  | .timeout => (none,"timeout_secs")
  | .userAgent => (none,"user_agent")
  | .endpoint p => (some p.name,"url")

end Field

namespace Placed

def place (q : Placed) : Option String × String :=
  (q.header,q.property.key)

def field? (q : Placed) : Option Field :=
  Field.all.find? (·.place = q.place)

def label (q : Placed) : String :=
  match q.header with
  | none => q.property.key
  | some name => name ++ "." ++ q.property.key

theorem field?_eq_some_iff {q : Placed} {f : Field} : q.field? = some f ↔ q.place = f.place := by
  refine (Ini.find?_key_iff (by decide)).trans ⟨fun h => h.2.symm,fun h => ⟨f.mem_all,h.symm⟩⟩

theorem field?_eq_none_iff {q : Placed} : q.field? = none ↔ ∀ f : Field, q.place ≠ f.place := by
  simp only [Option.eq_none_iff_forall_ne_some,ne_eq,field?_eq_some_iff]

end Placed

def Has (s : Settings) (text : String) : Field → Prop
  | .timeout => timeoutOf text = .ok s.timeout
  | .userAgent => s.userAgent = Ini.trimmed text.toList
  | .endpoint p => s.endpoint p = Ini.trimmed text.toList

def Gives (ini : Ini) (f : Field) : Prop :=
  ∃ q ∈ placed ini, q.field? = some f

def TakenFrom (ini : Ini) (s : Settings) (f : Field) : Prop :=
  ∃ q ∈ placed ini, q.field? = some f ∧ s.Has q.property.value f

/-! ### What is ignored -/

theorem field?_general {p : Ini.Property} : (Placed.mk none p).field? = none ↔ p.key ∉ generalKeys := by
  simp only [Placed.field?_eq_none_iff,Placed.place,generalKeys]
  constructor
  · intro h
    have htimeout := h .timeout
    have hagent := h .userAgent
    simp_all [Field.place]
  · intro h f
    cases f <;> simp_all [Field.place]

theorem field?_section {name : String} {p : Ini.Property} :
    (Placed.mk (some name) p).field? = none ↔ p.key ∉ sectionKeys name := by
  have hany : Provider.all.any (·.name = name) = true ↔ ∃ p : Provider, p.name = name := by
    simp [Provider.mem_all]
  simp only [Placed.field?_eq_none_iff,Placed.place,sectionKeys]
  constructor
  · intro h hkey
    split at hkey
    · rename_i hname
      obtain ⟨q,rfl⟩ := hany.mp hname
      exact h (.endpoint q) (by simp_all [Field.place])
    · simp at hkey
  · intro h f hplace
    cases f with
    | timeout => simp [Field.place] at hplace
    | userAgent => simp [Field.place] at hplace
    | endpoint q =>
      simp only [Field.place,Prod.mk.injEq,Option.some.injEq] at hplace
      rw [if_pos (hany.mpr ⟨q,hplace.1.symm⟩)] at h
      exact h (by simp [hplace.2])

theorem ignoredKeys_eq (ini : Ini) :
    ignoredKeys ini = ((placed ini).filter (·.field? = none)).map Placed.label := by
  have hgeneral : ((ini.general.map fun p => Placed.mk none p).filter (·.field? = none)).map Placed.label =
      (ini.general.map (·.key)).filter (· ∉ generalKeys) := by
    simp only [List.filter_map,List.map_map,Function.comp_def,field?_general]
    rfl
  have hsection (s : Ini.Section) :
      ((s.properties.map fun p => Placed.mk (some s.name) p).filter (·.field? = none)).map Placed.label =
        ((s.properties.map (·.key)).filter (· ∉ sectionKeys s.name)).map fun key => s.name ++ "." ++ key := by
    simp only [List.filter_map,List.map_map,Function.comp_def,field?_section]
    rfl
  rw [ignoredKeys,placed,List.filter_append,List.map_append,hgeneral,List.filter_flatMap,List.map_flatMap]
  simp only [hsection]

/-! ### What is taken -/

theorem mem_placed_general {ini : Ini} {p : Ini.Property} : ⟨none,p⟩ ∈ placed ini ↔ p ∈ ini.general := by
  simp [placed]

theorem mem_placed_section {ini : Ini} {name : String} {p : Ini.Property} :
    ⟨some name,p⟩ ∈ placed ini ↔ ∃ s ∈ ini.sections, s.name = name ∧ p ∈ s.properties := by
  simp only [placed,List.mem_append,List.mem_map,List.mem_flatMap,Placed.mk.injEq,reduceCtorEq,false_and,
    and_false,exists_false,false_or,Option.some.injEq]
  constructor
  · rintro ⟨s,hs,q,hq,hname,rfl⟩
    exact ⟨s,hs,hname,hq⟩
  · rintro ⟨s,hs,hname,hp⟩
    exact ⟨s,hs,p,hp,hname,rfl⟩

/-- The value of a file that is looked at for a field. -/
def firstValue? (ini : Ini) : Field → Option String
  | .timeout => Ini.value? ini.general "timeout_secs"
  | .userAgent => Ini.value? ini.general "user_agent"
  | .endpoint p => urlValue? ini p

/-- What is looked at for a field is a value that the file has for it. -/
theorem exists_placed_of_firstValue? {ini : Ini} {f : Field} {value : String}
    (h : firstValue? ini f = some value) :
    ∃ q ∈ placed ini, q.field? = some f ∧ q.property.value = value := by
  cases f with
  | timeout =>
    exact ⟨⟨none,_⟩,mem_placed_general.mpr (Ini.mem_of_value? h),Placed.field?_eq_some_iff.mpr rfl,rfl⟩
  | userAgent =>
    exact ⟨⟨none,_⟩,mem_placed_general.mpr (Ini.mem_of_value? h),Placed.field?_eq_some_iff.mpr rfl,rfl⟩
  | endpoint p =>
    obtain ⟨s,hs,hvalue⟩ := Option.bind_eq_some_iff.mp h
    have hname : s.name = p.name := by simpa using List.find?_some hs
    exact ⟨⟨some p.name,_⟩,mem_placed_section.mpr
      ⟨s,List.mem_of_find?_eq_some hs,hname,Ini.mem_of_value? hvalue⟩,Placed.field?_eq_some_iff.mpr rfl,rfl⟩

theorem endpointOf_eq_ok {p : Provider} {value url : String} (h : endpointOf p value = .ok url) :
    url = Ini.trimmed value.toList := by
  unfold endpointOf at h
  dsimp only at h
  split at h
  · exact (Except.ok.inj h).symm
  · cases h

theorem exists_ok_of_bind {α β : Type} {x : Except Failure α} {f : α → Except Failure β} {b : β}
    (h : (x >>= f) = .ok b) : ∃ a, x = .ok a ∧ f a = .ok b := by
  cases x with
  | error e => cases h
  | ok a => exact ⟨a,rfl,h⟩

/-- Settings that a file makes have in each part what the file overrides, or else the default. -/
theorem ofIni_eq_ok {ini : Ini} {s : Settings} (h : ofIni ini = .ok s) :
    override (Ini.value? ini.general "timeout_secs") timeoutOf defaults.timeout = .ok s.timeout ∧
    override (Ini.value? ini.general "user_agent") (fun v => .ok (Ini.trimmed v.toList)) defaults.userAgent =
      .ok s.userAgent ∧
    ∀ p, endpointIn ini p = .ok (s.endpoint p) := by
  obtain ⟨timeout,htimeout,h⟩ := exists_ok_of_bind h
  obtain ⟨agent,hagent,h⟩ := exists_ok_of_bind h
  obtain ⟨digitalocean,hdigitalocean,h⟩ := exists_ok_of_bind h
  obtain ⟨linode,hlinode,h⟩ := exists_ok_of_bind h
  obtain ⟨dreamhost,hdreamhost,h⟩ := exists_ok_of_bind h
  cases h
  refine ⟨htimeout,hagent,fun p => ?_⟩
  cases p with
  | digitalocean => exact hdigitalocean
  | linode => exact hlinode
  | dreamhost => exact hdreamhost

theorem has_of_ofIni {ini : Ini} {s : Settings} (h : ofIni ini = .ok s) :
    (∀ f value, firstValue? ini f = some value → s.Has value f) ∧
    ∀ p, firstValue? ini (.endpoint p) = none → s.endpoint p = defaults.endpoint p := by
  obtain ⟨htimeout,hagent,hendpoint⟩ := ofIni_eq_ok h
  refine ⟨fun f value hvalue => ?_,fun p hnone => ?_⟩
  · cases f with
    | timeout =>
      rw [show Ini.value? ini.general "timeout_secs" = some value from hvalue] at htimeout
      exact htimeout
    | userAgent =>
      rw [show Ini.value? ini.general "user_agent" = some value from hvalue] at hagent
      exact (Except.ok.inj hagent).symm
    | endpoint p =>
      have hp := hendpoint p
      rw [endpointIn,show urlValue? ini p = some value from hvalue] at hp
      exact endpointOf_eq_ok hp
  · have hp := hendpoint p
    rw [endpointIn,show urlValue? ini p = none from hnone] at hp
    exact (Except.ok.inj hp).symm

def FirstSectionGives (ini : Ini) (p : Provider) : Prop :=
  ∃ s, ini.section? p.name = some s ∧ ∃ q ∈ s.properties, q.key = "url"

theorem firstValue?_endpoint_ne_none_iff {ini : Ini} {p : Provider} :
    firstValue? ini (.endpoint p) ≠ none ↔ FirstSectionGives ini p := by
  simp only [firstValue?,urlValue?,FirstSectionGives]
  cases hs : ini.section? p.name with
  | none => simp
  | some s => simp [Ini.value?_eq_none_iff]

/-- Before the first header every value is looked at, or another of its key is. -/
theorem firstValue?_ne_none_of_gives {ini : Ini} {f : Field} (hf : f.place.1 = none) (h : Gives ini f) :
    firstValue? ini f ≠ none := by
  obtain ⟨⟨header,q⟩,hq,hfield⟩ := h
  have hplace := Placed.field?_eq_some_iff.mp hfield
  cases f with
  | timeout =>
    obtain ⟨rfl,hkey⟩ := Prod.mk.inj hplace
    exact fun hnone => Ini.value?_eq_none_iff.mp hnone q (mem_placed_general.mp hq) hkey
  | userAgent =>
    obtain ⟨rfl,hkey⟩ := Prod.mk.inj hplace
    exact fun hnone => Ini.value?_eq_none_iff.mp hnone q (mem_placed_general.mp hq) hkey
  | endpoint p => cases hf

theorem takenFrom_of_firstValue? {ini : Ini} {s : Settings} (h : ofIni ini = .ok s) {f : Field}
    (hf : firstValue? ini f ≠ none) : TakenFrom ini s f := by
  obtain ⟨value,hvalue⟩ := Option.ne_none_iff_exists'.mp hf
  obtain ⟨q,hq,hfield,rfl⟩ := exists_placed_of_firstValue? hvalue
  exact ⟨q,hq,hfield,(has_of_ofIni h).1 f _ hvalue⟩

/-- An endpoint is taken from a file exactly if the first section of the provider has an address, or some section
has the address that is the default. -/
theorem takenFrom_endpoint_iff {ini : Ini} {s : Settings} (h : ofIni ini = .ok s) {p : Provider} :
    TakenFrom ini s (.endpoint p) ↔ FirstSectionGives ini p ∨ TakenFrom ini defaults (.endpoint p) := by
  by_cases hfirst : firstValue? ini (.endpoint p) = none
  · have hgives : ¬ FirstSectionGives ini p := fun hg => firstValue?_endpoint_ne_none_iff.mpr hg hfirst
    have hdefault := (has_of_ofIni h).2 p hfirst
    simp only [hgives,false_or,TakenFrom,Has,hdefault]
  · exact ⟨fun _ => .inl (firstValue?_endpoint_ne_none_iff.mp hfirst),fun _ => takenFrom_of_firstValue? h hfirst⟩

/-! ### Files that lose nothing -/

/-- The rule that no property of an accepted file is dropped without a word: those that name no field are told as
ignored, in their order, and every field that others name has a value that the file gives for it. -/
def DropsNothing (text : List Char) : Prop :=
  ∀ ini s, Ini.ofText text = .ok ini → (ofText text).result = .ok s →
    (ofText text).events = ((placed ini).filter (·.field? = none)).map (.keyIgnored ·.label) ∧
    ∀ f, Gives ini f → TakenFrom ini s f

theorem ofText_of_ini {text : List Char} {ini : Ini} (h : Ini.ofText text = .ok ini) :
    (ofText text).result = ofIni ini ∧
      (ofText text).events = ((placed ini).filter (·.field? = none)).map (.keyIgnored ·.label) := by
  have htold : (ignoredKeys ini).map Event.keyIgnored =
      ((placed ini).filter (·.field? = none)).map (.keyIgnored ·.label) := by
    rw [ignoredKeys_eq,List.map_map]
    rfl
  rw [ofText,h]
  exact ⟨rfl,htold⟩

/-- An accepted file tells of each property that names no field, and the timeout and the name under which to ask are
always among its values for them. So it drops nothing exactly if every provider with an address in any section of
its name has one in the first of these sections, unless one of the addresses is the default anyway. -/
theorem dropsNothing_iff (text : List Char) :
    (∀ ini s, Ini.ofText text = .ok ini → (ofText text).result = .ok s →
      (ofText text).events = ((placed ini).filter (·.field? = none)).map (.keyIgnored ·.label) ∧
      (Gives ini .timeout → TakenFrom ini s .timeout) ∧ (Gives ini .userAgent → TakenFrom ini s .userAgent)) ∧
    (DropsNothing text ↔ ∀ ini s, Ini.ofText text = .ok ini → (ofText text).result = .ok s →
      ∀ p, Gives ini (.endpoint p) →
        FirstSectionGives ini p ∨ TakenFrom ini defaults (.endpoint p)) := by
  have hgeneral : ∀ ini s f, Ini.ofText text = .ok ini → (ofText text).result = .ok s →
      f.place.1 = none → Gives ini f → TakenFrom ini s f := fun ini s f hini hs hf hgives =>
    takenFrom_of_firstValue? ((ofText_of_ini hini).1.symm.trans hs) (firstValue?_ne_none_of_gives hf hgives)
  refine ⟨fun ini s hini hs => ⟨(ofText_of_ini hini).2,hgeneral ini s _ hini hs rfl,hgeneral ini s _ hini hs rfl⟩,
    ?_,?_⟩
  · intro h ini s hini hs p hgives
    have hok : ofIni ini = .ok s := (ofText_of_ini hini).1.symm.trans hs
    exact (takenFrom_endpoint_iff hok).mp ((h ini s hini hs).2 _ hgives)
  · intro h ini s hini hs
    have hok : ofIni ini = .ok s := (ofText_of_ini hini).1.symm.trans hs
    refine ⟨(ofText_of_ini hini).2,fun f hgives => ?_⟩
    cases f with
    | timeout => exact hgeneral ini s _ hini hs rfl hgives
    | userAgent => exact hgeneral ini s _ hini hs rfl hgives
    | endpoint p => exact (takenFrom_endpoint_iff hok).mpr (h ini s hini hs p hgives)

def repeatedSection : List Char :=
  "[linode]\n[linode]\nurl=http://a/".toList

/-- The second of two sections of a provider has an address. The file is accepted and nothing is told, but the
provider is asked at the default address. -/
theorem repeatedSection_drops_address :
    ofText repeatedSection = ⟨.ok defaults,[],[]⟩ ∧ ¬ DropsNothing repeatedSection := by
  let ini : Ini := ⟨[],[⟨"linode",[]⟩,⟨"linode",[⟨"url","http://a/"⟩]⟩]⟩
  have hini : Ini.ofText repeatedSection = .ok ini := by decide +kernel
  have hread : ofText repeatedSection = ⟨.ok defaults,[],[]⟩ := by
    rw [ofText,hini]
    rfl
  refine ⟨hread,fun h => ?_⟩
  have hgives : Gives ini (.endpoint .linode) := ⟨⟨some "linode",⟨"url","http://a/"⟩⟩,by decide,by decide⟩
  obtain ⟨q,hq,-,hhas⟩ := (h ini defaults hini (hread ▸ rfl)).2 _ hgives
  obtain rfl : q = ⟨some "linode",⟨"url","http://a/"⟩⟩ := by simpa [placed,ini] using hq
  revert hhas
  simp only [Has]
  decide

end RegionAudit.Settings
