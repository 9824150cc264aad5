import Mathlib.Logic.Relation
import RegionAudit.Proofs.Settings.Fields

/-! Properties that are not read. They are told in the order of the file, and they do not count: files that differ
only in them make the same settings or fail alike, for both have the same properties that are read. -/
namespace RegionAudit.Settings

open Ini (Property Section)

/-! ### What is read -/

/-- A property that is read: one of two keys before the first header, and an address under the very name of a
provider. -/
def Placed.IsRead (q : Placed) : Prop :=
  (q.header = none ∧ (q.property.key = "timeout_secs" ∨ q.property.key = "user_agent")) ∨
    ∃ p : Provider, q.header = some p.name ∧ q.property.key = "url"

theorem Placed.isRead_iff {q : Placed} : q.IsRead ↔ q.field? ≠ none := by
  simp only [ne_eq,Option.ne_none_iff_exists',Placed.field?_eq_some_iff,Placed.place]
  constructor
  · rintro (⟨hheader,hkey | hkey⟩ | ⟨p,hheader,hkey⟩)
    · exact ⟨.timeout,by rw [hheader,hkey]; rfl⟩
    · exact ⟨.userAgent,by rw [hheader,hkey]; rfl⟩
    · exact ⟨.endpoint p,by rw [hheader,hkey]; rfl⟩
  · rintro ⟨f,hf⟩
    cases f with
    | timeout => exact .inl ⟨congrArg Prod.fst hf,.inl (congrArg Prod.snd hf)⟩
    | userAgent => exact .inl ⟨congrArg Prod.fst hf,.inr (congrArg Prod.snd hf)⟩
    | endpoint p => exact .inr ⟨p,congrArg Prod.fst hf,congrArg Prod.snd hf⟩

instance : DecidablePred Placed.IsRead := fun _ => decidable_of_iff _ Placed.isRead_iff.symm

theorem ignoredKeys_eq_labels (ini : Ini) :
    ignoredKeys ini = ((placed ini).filter (¬ ·.IsRead)).map Placed.label := by
  rw [ignoredKeys_eq]
  congr 1
  refine List.filter_congr fun q _ => decide_eq_decide.mpr ?_
  rw [Placed.isRead_iff,not_not]

/-! ### What is left of a file -/

def IsProviderName (name : String) : Prop :=
  ∃ p : Provider, p.name = name

instance : DecidablePred IsProviderName := fun name =>
  decidable_of_iff (∃ p ∈ Provider.all, p.name = name) (by simp [IsProviderName,Provider.mem_all])

def readUnder (header : Option String) (ps : List Property) : List Property :=
  ps.filter (Placed.mk header · |>.IsRead)

theorem readUnder_cons (header : Option String) (q : Property) (ps : List Property) :
    readUnder header (q :: ps) =
      if (Placed.mk header q).IsRead then q :: readUnder header ps else readUnder header ps := by
  simp only [readUnder,List.filter_cons,decide_eq_true_eq]

def keptSection (s : Section) : Section :=
  ⟨s.name,readUnder (some s.name) s.properties⟩

/-- What is left of a file without the properties that are not read and the sections of no provider. -/
def kept (ini : Ini) : Ini where
  general := readUnder none ini.general
  sections := (ini.sections.filter (IsProviderName ·.name)).map keptSection

theorem value?_readUnder {header : Option String} {key : String}
    (h : ∀ value, (Placed.mk header ⟨key,value⟩).IsRead) (ps : List Property) :
    Ini.value? (readUnder header ps) key = Ini.value? ps key := by
  rw [Ini.value?,Ini.value?,readUnder,List.find?_filter]
  congr 2
  funext q
  have hread : q.key = key → (Placed.mk header q).IsRead := by
    rintro rfl
    exact h q.value
  by_cases hkey : q.key = key
  · simp [hkey,hread hkey]
  · simp [hkey]

theorem section?_kept (ini : Ini) (p : Provider) :
    (kept ini).section? p.name = (ini.section? p.name).map keptSection := by
  rw [Ini.section?,kept,List.find?_map,List.find?_filter,Ini.section?]
  congr 2
  funext s
  have hnamed : IsProviderName p.name := ⟨p,rfl⟩
  by_cases h : s.name = p.name
  · simp [keptSection,h,hnamed]
  · simp [keptSection,h]

theorem firstValue?_kept (ini : Ini) (f : Field) : firstValue? (kept ini) f = firstValue? ini f := by
  cases f with
  | timeout => exact value?_readUnder (fun _ => .inl ⟨rfl,.inl rfl⟩) ini.general
  | userAgent => exact value?_readUnder (fun _ => .inl ⟨rfl,.inr rfl⟩) ini.general
  | endpoint p =>
    simp only [firstValue?,urlValue?,section?_kept]
    cases hs : ini.section? p.name with
    | none => rfl
    | some s =>
      have hname : s.name = p.name := by simpa using List.find?_some hs
      exact value?_readUnder (fun _ => .inr ⟨p,congrArg some hname,rfl⟩) s.properties

/-- The settings that a file makes depend on the values alone that are looked at for the fields. -/
theorem ofIni_congr {ini ini' : Ini} (h : ∀ f, firstValue? ini f = firstValue? ini' f) :
    ofIni ini = ofIni ini' := by
  have htimeout : Ini.value? ini.general "timeout_secs" = Ini.value? ini'.general "timeout_secs" := h .timeout
  have hagent : Ini.value? ini.general "user_agent" = Ini.value? ini'.general "user_agent" := h .userAgent
  have hurl (p : Provider) : urlValue? ini p = urlValue? ini' p := h (.endpoint p)
  simp only [ofIni,endpointIn,htimeout,hagent,hurl]

theorem ofIni_kept (ini : Ini) : ofIni (kept ini) = ofIni ini :=
  ofIni_congr (firstValue?_kept ini)

/-! ### Files that differ only in what is ignored -/

/-- One thing more in a file that is not read: a property, or the header of a section of no provider. -/
inductive Insertion : Ini → Ini → Prop
  | general {before after : List Property} {p : Property} {sections : List Section}
      (ignored : ¬ (Placed.mk none p).IsRead) :
      Insertion ⟨before++after,sections⟩ ⟨before++p :: after,sections⟩
  | under {general before after : List Property} {p : Property} {front back : List Section} {name : String}
      (ignored : ¬ (Placed.mk (some name) p).IsRead) :
      Insertion ⟨general,front++⟨name,before++after⟩ :: back⟩ ⟨general,front++⟨name,before++p :: after⟩ :: back⟩
  | header {general : List Property} {front back : List Section} {name : String}
      (unnamed : ¬ IsProviderName name) :
      Insertion ⟨general,front++back⟩ ⟨general,front++⟨name,[]⟩ :: back⟩

/-- Files that come from each other by any number of insertions and deletions. A value is changed when the property
is deleted and another one is inserted in its place. -/
def DifferInIgnored : Ini → Ini → Prop :=
  Relation.EqvGen Insertion

theorem Insertion.kept_eq {ini ini' : Ini} (h : Insertion ini ini') : kept ini = kept ini' := by
  cases h with
  | general ignored => simp [kept,readUnder,ignored]
  | @under _ _ _ _ _ _ name ignored =>
    have hsame (before after : List Property) (p : Property) (hp : ¬ (Placed.mk (some name) p).IsRead) :
        keptSection ⟨name,before++p :: after⟩ = keptSection ⟨name,before++after⟩ := by
      simp [keptSection,readUnder,hp]
    by_cases hname : IsProviderName name <;> simp [kept,hname,hsame _ _ _ ignored]
  | header unnamed => simp [kept,unnamed]

theorem DifferInIgnored.kept_eq {ini ini' : Ini} (h : DifferInIgnored ini ini') : kept ini = kept ini' := by
  induction h with
  | rel _ _ h => exact h.kept_eq
  | refl _ => rfl
  | symm _ _ _ ih => exact ih.symm
  | trans _ _ _ _ _ ih ih' => exact ih.trans ih'

theorem DifferInIgnored.trans {ini ini' ini'' : Ini} (h : DifferInIgnored ini ini')
    (h' : DifferInIgnored ini' ini'') : DifferInIgnored ini ini'' :=
  Relation.EqvGen.trans _ _ _ h h'

theorem Insertion.deleted {ini ini' : Ini} (h : Insertion ini ini') : DifferInIgnored ini' ini :=
  .symm _ _ (.rel _ _ h)

theorem differInIgnored_general (before ps : List Property) (sections : List Section) :
    DifferInIgnored ⟨before++ps,sections⟩ ⟨before++readUnder none ps,sections⟩ := by
  induction ps generalizing before with
  | nil => exact .refl _
  | cons p ps ih =>
    rw [readUnder_cons]
    split
    · have hrest := ih (before++[p])
      rwa [List.append_assoc,List.append_assoc] at hrest
    · rename_i hread
      exact (Insertion.general hread).deleted.trans (ih before)

theorem differInIgnored_under (general before ps : List Property) (front back : List Section) (name : String) :
    DifferInIgnored ⟨general,front++⟨name,before++ps⟩ :: back⟩
      ⟨general,front++⟨name,before++readUnder (some name) ps⟩ :: back⟩ := by
  induction ps generalizing before with
  | nil => exact .refl _
  | cons p ps ih =>
    rw [readUnder_cons]
    split
    · have hrest := ih (before++[p])
      rwa [List.append_assoc,List.append_assoc] at hrest
    · rename_i hread
      exact (Insertion.under hread).deleted.trans (ih before)

theorem readUnder_eq_nil {name : String} (h : ¬ IsProviderName name) (ps : List Property) :
    readUnder (some name) ps = [] := by
  refine List.filter_eq_nil_iff.mpr fun q _ => ?_
  rintro hread
  obtain ⟨hnone,-⟩ | ⟨p,hname,-⟩ := of_decide_eq_true hread
  · cases hnone
  · exact h ⟨p,(Option.some.inj hname).symm⟩

theorem differInIgnored_sections (general : List Property) (front ss : List Section) :
    DifferInIgnored ⟨general,front++ss⟩
      ⟨general,front++(ss.filter (IsProviderName ·.name)).map keptSection⟩ := by
  induction ss generalizing front with
  | nil => exact .refl _
  | cons s ss ih =>
    have hfirst : DifferInIgnored ⟨general,front++s :: ss⟩ ⟨general,front++keptSection s :: ss⟩ :=
      differInIgnored_under general [] s.properties front ss s.name
    rw [List.filter_cons]
    split
    · have hrest := ih (front++[keptSection s])
      rw [List.append_assoc,List.append_assoc] at hrest
      exact hfirst.trans hrest
    · rename_i hname
      have hnamed : ¬ IsProviderName s.name := by simpa using hname
      have hempty : keptSection s = ⟨s.name,[]⟩ := by rw [keptSection,readUnder_eq_nil hnamed]
      rw [hempty] at hfirst
      exact hfirst.trans ((Insertion.header hnamed).deleted.trans (ih front))

/-- Deletions lead from a file to what is left of it. -/
theorem differInIgnored_kept (ini : Ini) : DifferInIgnored ini (kept ini) :=
  (differInIgnored_general [] ini.general ini.sections).trans
    (differInIgnored_sections (readUnder none ini.general) [] ini.sections)

/-- Files differ only in what is ignored exactly if the same is left of them. -/
theorem differInIgnored_iff {ini ini' : Ini} : DifferInIgnored ini ini' ↔ kept ini = kept ini' := by
  refine ⟨DifferInIgnored.kept_eq,fun h => (differInIgnored_kept ini).trans ?_⟩
  rw [h]
  exact .symm _ _ (differInIgnored_kept ini')

/-- The ignored keys are those of all properties that are not read, in the order of the file and under their headers,
and they are what is told. Files that differ only in them, and in sections of no provider, make the same settings or
fail alike. -/
theorem ignored_without_effect (ini : Ini) :
    ignoredKeys ini = ((placed ini).filter (¬ ·.IsRead)).map Placed.label ∧
    (∀ text, Ini.ofText text = .ok ini → (ofText text).events = (ignoredKeys ini).map .keyIgnored) ∧
    ∀ ini', DifferInIgnored ini ini' → ofIni ini = ofIni ini' ∧
      ∀ text text', Ini.ofText text = .ok ini → Ini.ofText text' = .ok ini' →
        (ofText text).result = (ofText text').result := by
  refine ⟨ignoredKeys_eq_labels ini,fun text h => by rw [ofText,h],fun ini' hdiffer => ?_⟩
  have hsame : ofIni ini = ofIni ini' := by
    rw [← ofIni_kept ini,hdiffer.kept_eq,ofIni_kept]
  refine ⟨hsame,fun text text' h h' => ?_⟩
  rw [(ofText_of_ini h).1,(ofText_of_ini h').1,hsame]

/-- A file with a misspelled key, a provider's name in capitals and a key under the wrong header. -/
def misspelledFile : List Char :=
  "timeout=5\nuser_agent=a\n[DigitalOcean]\nurl=b\n[linode]\nurl=http://c/\nuser_agent=d".toList

def respelledFile : List Char :=
  "user_agent=a\ntimeout=6\n[linode]\nurl=http://c/".toList

theorem ignored_without_effect_misspelled :
    ∃ ini ini', Ini.ofText misspelledFile = .ok ini ∧ Ini.ofText respelledFile = .ok ini' ∧
      DifferInIgnored ini ini' ∧ ignoredKeys ini = ["timeout","DigitalOcean.url","linode.user_agent"] ∧
      (ofText misspelledFile).result = (ofText respelledFile).result := by
  let ini : Ini := ⟨[⟨"timeout","5"⟩,⟨"user_agent","a"⟩],[⟨"DigitalOcean",[⟨"url","b"⟩]⟩,
    ⟨"linode",[⟨"url","http://c/"⟩,⟨"user_agent","d"⟩]⟩]⟩
  let ini' : Ini := ⟨[⟨"user_agent","a"⟩,⟨"timeout","6"⟩],[⟨"linode",[⟨"url","http://c/"⟩]⟩]⟩
  have hini : Ini.ofText misspelledFile = .ok ini := by decide +kernel
  have hini' : Ini.ofText respelledFile = .ok ini' := by decide +kernel
  have hdiffer : DifferInIgnored ini ini' := differInIgnored_iff.mpr (by decide +kernel)
  obtain ⟨htold,-,hsame⟩ := ignored_without_effect ini
  refine ⟨ini,ini',hini,hini',hdiffer,htold.trans (by decide +kernel),?_⟩
  exact (hsame ini' hdiffer).2 misspelledFile respelledFile hini hini'

end RegionAudit.Settings
