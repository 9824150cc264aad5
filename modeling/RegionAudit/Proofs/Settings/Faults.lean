import RegionAudit.Proofs.Settings.Ignored
import RegionAudit.Proofs.Settings.Values

/-! The order of a settings file and the faults in it. Where no name of a section is repeated and no key within a
section, a file has at most one value for each field, wherever it stands. So the order of the file does not count,
and of several wrong values the one of the first field in a fixed order is reported. -/
namespace RegionAudit.Settings

open Ini (Property Section)
open Text (trim)

/-! ### Values of fields -/

def Field.label (f : Field) : String :=
  match f.place with
  | (none,key) => key
  | (some header,key) => header ++ "." ++ key

/-- Whether a field can have the value that a text gives. A timeout is a number of seconds, at least one and in 64
bits; a provider is asked at a web address. -/
def Field.Accepts : Field → String → Prop
  | .timeout, text => ∃ n, Denotes (trim text.toList) n ∧ 1 ≤ n ∧ n ≤ maxSeconds
  | .userAgent, _ => True
  | .endpoint _, text => BeginsAsWebAddress (trim text.toList)

/-- A field cannot have the value that a text gives, for a reason. -/
inductive Refuses : Field → String → String → Prop
  | noTime {text : String} (zero : Denotes (trim text.toList) 0) :
      Refuses .timeout text "must be greater than zero"
  | noNumber {text : String} (large : ∀ n, Denotes (trim text.toList) n → maxSeconds < n) :
      Refuses .timeout text ("\u0060" ++ text ++ "\u0060 is not a whole number of seconds")
  | noAddress {p : Provider} {text : String} (other : ¬ BeginsAsWebAddress (trim text.toList)) :
      Refuses (.endpoint p) text ("\u0060" ++ Ini.trimmed text.toList ++ "\u0060 is not an http(s) URL")

/-- The value of a field is what a text says between its blanks. -/
def Says (s : Settings) (text : String) : Field → Prop
  | .timeout => Denotes (trim text.toList) s.timeout
  | .userAgent => s.userAgent = Ini.trimmed text.toList
  | .endpoint p => s.endpoint p = Ini.trimmed text.toList

def AgreeOn (s s' : Settings) : Field → Prop
  | .timeout => s.timeout = s'.timeout
  | .userAgent => s.userAgent = s'.userAgent
  | .endpoint p => s.endpoint p = s'.endpoint p

theorem refused_iff {f : Field} {text : String} : (∃ reason, Refuses f text reason) ↔ ¬ f.Accepts text := by
  cases f with
  | timeout =>
    constructor
    · rintro ⟨reason,hzero | hlarge⟩ ⟨n,hn,hpos,hle⟩
      · exact absurd (hn.unique hzero) (Nat.ne_of_gt hpos)
      · exact absurd (hlarge n hn) (Nat.not_lt.mpr hle)
    · intro h
      by_cases hzero : Denotes (trim text.toList) 0
      · exact ⟨_,.noTime hzero⟩
      · refine ⟨_,.noNumber fun n hn => ?_⟩
        -- a number that has its place in 64 bits would be accepted
        by_contra hle
        have hne : n ≠ 0 := fun hn0 => hzero (hn0 ▸ hn)
        exact h ⟨n,hn,Nat.pos_of_ne_zero hne,Nat.not_lt.mp hle⟩
  | userAgent =>
    constructor
    · rintro ⟨reason,h⟩
      cases h
    · exact fun h => absurd trivial h
  | endpoint p =>
    constructor
    · rintro ⟨reason,h⟩
      cases h with
      | noAddress other => exact other
    · exact fun h => ⟨_,.noAddress h⟩

/-! ### Files without repeats -/

/-- No section has the name of another one, and no property the key of another one under the same header. -/
structure WithoutRepeats (ini : Ini) : Prop where
  names : (ini.sections.map (·.name)).Nodup
  general : (ini.general.map (·.key)).Nodup
  keys : ∀ s ∈ ini.sections, (s.properties.map (·.key)).Nodup

/-- A file has a text for a field, anywhere under the header of the field. -/
def GivesText (ini : Ini) (f : Field) (text : String) : Prop :=
  ⟨f.place.1,⟨f.place.2,text⟩⟩ ∈ placed ini

instance (ini : Ini) (f : Field) (text : String) : Decidable (GivesText ini f text) :=
  inferInstanceAs (Decidable (_ ∈ _))

theorem value?_eq_some_iff {ps : List Property} (h : (ps.map (·.key)).Nodup) {key value : String} :
    Ini.value? ps key = some value ↔ ⟨key,value⟩ ∈ ps := by
  refine ⟨Ini.mem_of_value?,fun hmem => ?_⟩
  rw [Ini.value?,(Ini.find?_key_iff h).mpr ⟨hmem,rfl⟩]
  rfl

/-- Without repeats the value that is looked at is the only one. -/
theorem WithoutRepeats.firstValue?_iff {ini : Ini} (h : WithoutRepeats ini) {f : Field} {text : String} :
    firstValue? ini f = some text ↔ GivesText ini f text := by
  cases f with
  | timeout => exact (value?_eq_some_iff h.general).trans mem_placed_general.symm
  | userAgent => exact (value?_eq_some_iff h.general).trans mem_placed_general.symm
  | endpoint p =>
    rw [firstValue?,urlValue?,Option.bind_eq_some_iff,GivesText,Field.place,mem_placed_section]
    constructor
    · rintro ⟨s,hs,hvalue⟩
      obtain ⟨hmem,hname⟩ := (Ini.section?_eq_some_iff h.names).mp hs
      exact ⟨s,hmem,hname,Ini.mem_of_value? hvalue⟩
    · rintro ⟨s,hmem,hname,hvalue⟩
      exact ⟨s,(Ini.section?_eq_some_iff h.names).mpr ⟨hmem,hname⟩,(value?_eq_some_iff (h.keys s hmem)).mpr hvalue⟩

/-! ### Files in another order -/

def SameSection (s s' : Section) : Prop :=
  s.name = s'.name ∧ s.properties.Perm s'.properties

/-- The same file with its sections in another order, and the properties under each header as well. -/
structure Rearranged (ini ini' : Ini) : Prop where
  general : ini.general.Perm ini'.general
  sections : ∃ moved, ini.sections.Perm moved ∧ List.Forall₂ SameSection moved ini'.sections

section SameSections
variable {ss ss' : List Section} (h : List.Forall₂ SameSection ss ss')
include h

theorem map_name_eq : ss.map (·.name) = ss'.map (·.name) := by
  induction h with
  | nil => rfl
  | cons hs _ ih => rw [List.map_cons,List.map_cons,hs.1,ih]

theorem exists_section_iff {name : String} {p : Property} :
    (∃ s ∈ ss, s.name = name ∧ p ∈ s.properties) ↔ ∃ s ∈ ss', s.name = name ∧ p ∈ s.properties := by
  induction h with
  | nil => simp
  | cons hs _ ih => simp only [List.mem_cons,exists_eq_or_imp,hs.1,hs.2.mem_iff,ih]

theorem forall_nodup_keys (hkeys : ∀ s ∈ ss, (s.properties.map (·.key)).Nodup) :
    ∀ s ∈ ss', (s.properties.map (·.key)).Nodup := by
  induction h with
  | nil => exact hkeys
  | cons hs _ ih =>
    rw [List.forall_mem_cons] at hkeys ⊢
    exact ⟨(hs.2.map _).nodup_iff.mp hkeys.1,ih hkeys.2⟩

end SameSections

theorem Rearranged.mem_placed_iff {ini ini' : Ini} (h : Rearranged ini ini') {q : Placed} :
    q ∈ placed ini ↔ q ∈ placed ini' := by
  obtain ⟨header,p⟩ := q
  cases header with
  | none => rw [mem_placed_general,mem_placed_general,h.general.mem_iff]
  | some name =>
    obtain ⟨moved,hmoved,hsame⟩ := h.sections
    rw [mem_placed_section,mem_placed_section,← exists_section_iff hsame]
    simp only [hmoved.mem_iff]

theorem Rearranged.withoutRepeats {ini ini' : Ini} (h : Rearranged ini ini') (hini : WithoutRepeats ini) :
    WithoutRepeats ini' := by
  obtain ⟨moved,hmoved,hsame⟩ := h.sections
  constructor
  · rw [← map_name_eq hsame]
    exact (hmoved.map _).nodup_iff.mp hini.names
  · exact (h.general.map _).nodup_iff.mp hini.general
  · exact forall_nodup_keys hsame fun s hs => hini.keys s (hmoved.mem_iff.mpr hs)

theorem Rearranged.ofIni_eq {ini ini' : Ini} (h : Rearranged ini ini') (hini : WithoutRepeats ini) :
    ofIni ini' = ofIni ini := by
  refine ofIni_congr fun f => Option.ext fun text => ?_
  rw [(h.withoutRepeats hini).firstValue?_iff,hini.firstValue?_iff,GivesText,GivesText,h.mem_placed_iff]

/-! ### What is reported -/

def failure? {α : Type} : Except Failure α → Option Failure
  | .ok _ => none
  | .error e => some e

/-- What is wrong with the value that is looked at for a field. -/
def faultIn (ini : Ini) : Field → Option Failure
  | .timeout => failure? (override (Ini.value? ini.general "timeout_secs") timeoutOf defaults.timeout)
  | .userAgent => none
  | .endpoint p => failure? (endpointIn ini p)

theorem failure?_eq_some_iff {α : Type} {x : Except Failure α} {e : Failure} :
    failure? x = some e ↔ x = .error e := by
  cases x <;> simp [failure?]

theorem failure?_ofIni (ini : Ini) : failure? (ofIni ini) = Field.all.findSome? (faultIn ini) := by
  obtain ⟨agent,hagent⟩ : ∃ agent, override (Ini.value? ini.general "user_agent")
      (fun v => .ok (Ini.trimmed v.toList)) defaults.userAgent = .ok agent := by
    cases Ini.value? ini.general "user_agent" with
    | none => exact ⟨_,rfl⟩
    | some v => exact ⟨_,rfl⟩
  simp only [ofIni,hagent,Field.all,List.findSome?_cons,List.findSome?_nil,faultIn]
  cases override (Ini.value? ini.general "timeout_secs") timeoutOf defaults.timeout with
  | error e => rfl
  | ok timeout =>
    cases endpointIn ini .digitalocean with
    | error e => rfl
    | ok digitalocean =>
      cases endpointIn ini .linode with
      | error e => rfl
      | ok linode =>
        cases endpointIn ini .dreamhost with
        | error e => rfl
        | ok dreamhost => rfl

theorem failure?_override {α : Type} {value : Option String} {read : String → Except Failure α} {default : α}
    {e : Failure} :
    failure? (override value read default) = some e ↔ ∃ text, value = some text ∧ read text = .error e := by
  cases value with
  | none => simp [override,failure?]
  | some text => simp [override,failure?_eq_some_iff]

theorem timeoutOf_eq_error_iff_refuses {text : String} {e : Failure} :
    timeoutOf text = .error e ↔
      ∃ reason, Refuses .timeout text reason ∧ e = .invalidValue Field.timeout.label reason := by
  rw [timeoutOf_eq_error_iff]
  constructor
  · rintro (⟨hzero,rfl⟩ | ⟨hlarge,rfl⟩)
    · exact ⟨_,.noTime hzero,rfl⟩
    · exact ⟨_,.noNumber hlarge,rfl⟩
  · rintro ⟨reason,hzero | hlarge,rfl⟩
    · exact .inl ⟨hzero,rfl⟩
    · exact .inr ⟨hlarge,rfl⟩

theorem label_endpoint (p : Provider) : (Field.endpoint p).label = p.name ++ ".url" := by
  cases p <;> decide

theorem endpointOf_eq_error_iff_refuses {p : Provider} {text : String} {e : Failure} :
    endpointOf p text = .error e ↔
      ∃ reason, Refuses (.endpoint p) text reason ∧ e = .invalidValue (Field.endpoint p).label reason := by
  rw [endpointOf_eq_error_iff,label_endpoint]
  constructor
  · rintro ⟨hother,rfl⟩
    exact ⟨_,.noAddress hother,rfl⟩
  · rintro ⟨reason,h,rfl⟩
    cases h with
    | noAddress other => exact ⟨other,rfl⟩

theorem faultIn_eq_some_iff {ini : Ini} {f : Field} {e : Failure} :
    faultIn ini f = some e ↔ ∃ text, firstValue? ini f = some text ∧
      ∃ reason, Refuses f text reason ∧ e = .invalidValue f.label reason := by
  cases f with
  | timeout => simp only [faultIn,failure?_override,timeoutOf_eq_error_iff_refuses,firstValue?]
  | userAgent =>
    constructor
    · intro h
      cases h
    · rintro ⟨text,-,reason,h,-⟩
      cases h
  | endpoint p => simp only [faultIn,endpointIn,failure?_override,endpointOf_eq_error_iff_refuses,firstValue?]

theorem faultIn_eq_none_iff {ini : Ini} {f : Field} :
    faultIn ini f = none ↔ ∀ text, firstValue? ini f = some text → f.Accepts text := by
  rw [Option.eq_none_iff_forall_ne_some]
  constructor
  · intro h text htext
    by_contra hnot
    obtain ⟨reason,hrefuses⟩ := refused_iff.mpr hnot
    exact h _ (faultIn_eq_some_iff.mpr ⟨text,htext,reason,hrefuses,rfl⟩)
  · intro h e he
    obtain ⟨text,htext,reason,hrefuses,-⟩ := faultIn_eq_some_iff.mp he
    exact refused_iff.mp ⟨reason,hrefuses⟩ (h text htext)

/-- A file fails with the fault of the first field in the order that has one. -/
theorem ofIni_eq_error_iff {ini : Ini} {e : Failure} :
    ofIni ini = .error e ↔ ∃ before f after, Field.all = before ++ f :: after ∧
      (∃ text, firstValue? ini f = some text ∧ ∃ reason, Refuses f text reason ∧ e = .invalidValue f.label reason) ∧
      ∀ g ∈ before, ∀ text, firstValue? ini g = some text → g.Accepts text := by
  simp only [← failure?_eq_some_iff,failure?_ofIni,List.findSome?_eq_some_iff,faultIn_eq_some_iff,
    faultIn_eq_none_iff]

theorem exists_ofIni_iff {ini : Ini} :
    (∃ s, ofIni ini = .ok s) ↔ ∀ f text, firstValue? ini f = some text → f.Accepts text := by
  have hnone : failure? (ofIni ini) = none ↔ ∀ f text, firstValue? ini f = some text → f.Accepts text := by
    rw [failure?_ofIni,List.findSome?_eq_none_iff]
    simp only [faultIn_eq_none_iff,Field.mem_all,true_implies]
  rw [← hnone]
  cases ofIni ini <;> simp [failure?]

theorem says_of_ofIni {ini : Ini} {s : Settings} (h : ofIni ini = .ok s) {f : Field} {text : String}
    (htext : firstValue? ini f = some text) : s.Says text f := by
  have hhas := (has_of_ofIni h).1 f text htext
  cases f with
  | timeout => exact (timeoutOf_eq_ok_iff.mp hhas).1
  | userAgent => exact hhas
  | endpoint p => exact hhas

theorem agreeOn_defaults {ini : Ini} {s : Settings} (h : ofIni ini = .ok s) {f : Field}
    (hnone : firstValue? ini f = none) : AgreeOn s defaults f := by
  obtain ⟨htimeout,hagent,-⟩ := ofIni_eq_ok h
  cases f with
  | timeout =>
    rw [show Ini.value? ini.general "timeout_secs" = none from hnone] at htimeout
    exact (Except.ok.inj htimeout).symm
  | userAgent =>
    rw [show Ini.value? ini.general "user_agent" = none from hnone] at hagent
    exact (Except.ok.inj hagent).symm
  | endpoint p => exact (has_of_ofIni h).2 p hnone

theorem Says.agreeOn {s s' : Settings} {text : String} {f : Field} (h : s.Says text f) (h' : s'.Says text f) :
    AgreeOn s s' f := by
  cases f with
  | timeout => exact Denotes.unique h h'
  | userAgent => exact Eq.trans h (Eq.symm h')
  | endpoint p => exact Eq.trans h (Eq.symm h')

theorem AgreeOn.of_defaults {s s' : Settings} {f : Field} (h : AgreeOn s defaults f)
    (h' : AgreeOn s' defaults f) : AgreeOn s s' f := by
  cases f with
  | timeout => exact Eq.trans h (Eq.symm h')
  | userAgent => exact Eq.trans h (Eq.symm h')
  | endpoint p => exact Eq.trans h (Eq.symm h')

theorem agreeOn_of_firstValue?_eq {ini ini' : Ini} {s s' : Settings} (h : ofIni ini = .ok s)
    (h' : ofIni ini' = .ok s') {f : Field} (heq : firstValue? ini f = firstValue? ini' f) : AgreeOn s s' f := by
  cases hvalue : firstValue? ini f with
  | none => exact (agreeOn_defaults h hvalue).of_defaults (agreeOn_defaults h' (heq ▸ hvalue))
  | some text => exact (says_of_ofIni h hvalue).agreeOn (says_of_ofIni h' (heq ▸ hvalue))

/-- A file without repeats makes the same settings, or fails alike, in whatever order it stands. It is accepted exactly
if each value that it has is one that its field accepts, and then every field has what the file says, or else its
default; so the value of one field changes no other. If a file fails, it is for the first field in the order
`timeout_secs`, `digitalocean.url`, `linode.url`, `dreamhost.url` whose value is refused. -/
theorem ofIni_any_order {ini : Ini} (h : WithoutRepeats ini) :
    (∀ text, Ini.ofText text = .ok ini → (ofText text).result = ofIni ini) ∧
    (∀ ini', Rearranged ini ini' → ofIni ini' = ofIni ini) ∧
    ((∃ s, ofIni ini = .ok s) ↔ ∀ f text, GivesText ini f text → f.Accepts text) ∧
    (∀ s, ofIni ini = .ok s → ∀ f, (∀ text, GivesText ini f text → s.Says text f) ∧
      ((∀ text, ¬ GivesText ini f text) → AgreeOn s defaults f)) ∧
    (∀ ini' s s', WithoutRepeats ini' → ofIni ini = .ok s → ofIni ini' = .ok s' →
      ∀ f, (∀ text, GivesText ini f text ↔ GivesText ini' f text) → AgreeOn s s' f) ∧
    ∀ e, ofIni ini = .error e ↔ ∃ before f after text reason, Field.all = before ++ f :: after ∧
      GivesText ini f text ∧ Refuses f text reason ∧ e = .invalidValue f.label reason ∧
      ∀ g ∈ before, ∀ text, GivesText ini g text → g.Accepts text := by
  simp only [← h.firstValue?_iff]
  refine ⟨fun text htext => (ofText_of_ini htext).1,fun ini' hmoved => hmoved.ofIni_eq h,exists_ofIni_iff,?_,?_,?_⟩
  · intro s hs f
    exact ⟨fun text htext => says_of_ofIni hs htext,fun hnone =>
      agreeOn_defaults hs (Option.eq_none_iff_forall_ne_some.mpr hnone)⟩
  · intro ini' s s' h' hs hs' f hgives
    refine agreeOn_of_firstValue?_eq hs hs' (Option.ext fun text => ?_)
    rw [hgives text,h'.firstValue?_iff]
  · intro e
    rw [ofIni_eq_error_iff]
    constructor
    · rintro ⟨before,f,after,hall,⟨text,htext,reason,hrefuses,he⟩,hbefore⟩
      exact ⟨before,f,after,text,reason,hall,htext,hrefuses,he,hbefore⟩
    · rintro ⟨before,f,after,text,reason,hall,htext,hrefuses,he,hbefore⟩
      exact ⟨before,f,after,hall,⟨text,htext,reason,hrefuses,he⟩,hbefore⟩

/-- Two wrong addresses, the later of the two first in the file, and a timeout with a sign and zeros. -/
def faultyFile : Ini where
  general := [⟨"user_agent"," audit "⟩,⟨"timeout_secs"," +007 "⟩]
  sections := [⟨"dreamhost",[⟨"url","h.test"⟩]⟩,⟨"notes",[]⟩,
    ⟨"digitalocean",[⟨"note","d"⟩,⟨"url"," ftp://d.test "⟩]⟩]

def faultyFileMoved : Ini where
  general := [⟨"timeout_secs"," +007 "⟩,⟨"user_agent"," audit "⟩]
  sections := [⟨"digitalocean",[⟨"url"," ftp://d.test "⟩,⟨"note","d"⟩]⟩,⟨"dreamhost",[⟨"url","h.test"⟩]⟩,
    ⟨"notes",[]⟩]

theorem faultyFile_withoutRepeats : WithoutRepeats faultyFile where
  names := by decide
  general := by decide
  keys := by decide

theorem faultyFile_rearranged : Rearranged faultyFile faultyFileMoved where
  general := .swap _ _ []
  sections :=
    ⟨[⟨"digitalocean",[⟨"note","d"⟩,⟨"url"," ftp://d.test "⟩]⟩,⟨"dreamhost",[⟨"url","h.test"⟩]⟩,⟨"notes",[]⟩],
      by decide,.cons ⟨rfl,.swap _ _ []⟩ (.cons ⟨rfl,.refl _⟩ (.cons ⟨rfl,.refl _⟩ .nil))⟩

theorem ofIni_any_order_two_faults :
    WithoutRepeats faultyFile ∧ Rearranged faultyFile faultyFileMoved ∧
      ofIni faultyFileMoved =
        .error (.invalidValue "digitalocean.url" "\u0060ftp://d.test\u0060 is not an http(s) URL") := by
  obtain ⟨-,hmoved,-,-,-,herror⟩ := ofIni_any_order faultyFile_withoutRepeats
  have haddress : GivesText faultyFile (.endpoint .digitalocean) " ftp://d.test " := by decide
  have htimeout : Field.timeout.Accepts " +007 " :=
    ⟨7,⟨"007".toList,by decide,by decide,List.all_eq_true.mp (by decide),by decide⟩,by decide,by decide⟩
  have honly : ∀ text, GivesText faultyFile .timeout text → text = " +007 " := fun text h =>
    (Option.some.inj (faultyFile_withoutRepeats.firstValue?_iff.mpr h)).symm
  refine ⟨faultyFile_withoutRepeats,faultyFile_rearranged,(hmoved _ faultyFile_rearranged).trans ?_⟩
  refine (herror _).mpr ⟨[.timeout,.userAgent],.endpoint .digitalocean,[.endpoint .linode,.endpoint .dreamhost],
    _,_,rfl,haddress,.noAddress (by decide),by decide,?_⟩
  refine List.forall_mem_cons.mpr ⟨fun text h => honly text h ▸ htimeout,?_⟩
  exact List.forall_mem_singleton.mpr fun _ _ => trivial

end RegionAudit.Settings
