import RegionAudit.Proofs.Ini.Keys
import RegionAudit.Proofs.Ini.Written
import RegionAudit.Settings.Load

/-! Settings files that give overrides, and nothing else but blank lines and comments. The settings that are
read from such a file are the defaults with these overrides. -/
namespace RegionAudit.Settings

open Ini (Line LineEnd NameText ValueText Property isNameChar)

/-! ### Overrides -/

structure Timeout where
  seconds : Nat
  pos : 1 ≤ seconds
  le_max : seconds ≤ 18446744073709551615

structure WebAddress where
  text : ValueText
  isWeb : "http://".toList <+: text.chars ∨ "https://".toList <+: text.chars

/-- What a settings file may override. -/
structure Overrides where
  timeout : Option Timeout
  userAgent : Option ValueText
  url : Provider → Option WebAddress

def Overrides.endpoint (o : Overrides) (p : Provider) : String :=
  (o.url p).elim (defaults.endpoint p) fun a => String.ofList a.text.chars

/-- The defaults with the overrides. -/
def Overrides.settings (o : Overrides) : Settings where
  timeout := o.timeout.elim defaults.timeout (·.seconds)
  userAgent := o.userAgent.elim defaults.userAgent fun t => String.ofList t.chars
  digitaloceanUrl := o.endpoint .digitalocean
  linodeUrl := o.endpoint .linode
  dreamhostUrl := o.endpoint .dreamhost

/-! ### How they are written -/

def timeoutKey : NameText where
  chars := "timeout_secs".toList
  ne_nil := by decide
  plain := List.all_eq_true.mp (by decide)

def userAgentKey : NameText where
  chars := "user_agent".toList
  ne_nil := by decide
  plain := List.all_eq_true.mp (by decide)

def urlKey : NameText where
  chars := "url".toList
  ne_nil := by decide
  plain := List.all_eq_true.mp (by decide)

def providerName (p : Provider) : NameText where
  chars := p.name.toList
  ne_nil := by cases p <;> decide
  plain := by cases p <;> exact List.all_eq_true.mp (by decide)

def ofName (t : NameText) : ValueText where
  chars := t.chars
  ne_nil := t.ne_nil
  first := Ini.isBlank_of_isNameChar (t.plain _ (List.head_mem t.ne_nil))
  last := Ini.isBlank_of_isNameChar (t.plain _ (List.getLast_mem t.ne_nil))
  plain := fun c hc => Ini.isValueChar_of_isNameChar (t.plain c hc)

def digitsText (n : Nat) : NameText where
  chars := Nat.toDigits 10 n
  ne_nil := Nat.toDigits_ne_nil
  plain := fun c hc => by
    have hdigit := Nat.isDigit_of_mem_toDigits (by decide) (by decide) hc
    simp [isNameChar,Char.isAlphanum,hdigit]

abbrev Entry := NameText × ValueText

def Entry.line (e : Entry) : Line := .property e.1 e.2

def Overrides.general (o : Overrides) : List Entry :=
  (o.timeout.map fun t => (timeoutKey,ofName (digitsText t.seconds))).toList ++
    (o.userAgent.map fun t => (userAgentKey,t)).toList

def Overrides.addresses (o : Overrides) : List (Provider × WebAddress) :=
  Provider.all.filterMap fun p => (o.url p).map (p,·)

def sectionLines (a : Provider × WebAddress) : List Line :=
  [.header (providerName a.1),.property urlKey a.2.text]

/-- Whether a file of lines gives some overrides: the general keys first and then a section for each
provider, in any order. Blank lines and comments may stand anywhere. -/
def Overrides.WrittenAs (o : Overrides) (lines : List (Line × LineEnd)) (last : Line) : Prop :=
  ∃ (general : List Entry) (addresses : List (Provider × WebAddress)),
    general.Perm o.general ∧ addresses.Perm o.addresses ∧
    (lines.map (·.1) ++ [last]).filter (·.isGap = false) =
      general.map Entry.line ++ addresses.flatMap sectionLines

/-! ### Values -/

theorem decimal_eq (ds : List Char) : decimal ds = Nat.ofDigitChars 10 ds 0 := by
  rw [decimal,Nat.ofDigitChars]
  simp only [Nat.mul_comm]

theorem unsigned_of_digit {ds : List Char} (h : ∀ c ∈ ds.head?, c.isDigit = true) :
    unsigned ds = ds := by
  unfold unsigned
  split
  · exact absurd (h '+' rfl) (by decide)
  · rfl

theorem wholeNumber?_digits {n : Nat} (h : n < UInt64.size) :
    wholeNumber? (digitsText n).chars = some n := by
  have hdigits : ∀ c ∈ Nat.toDigits 10 n, c.isDigit = true := fun c =>
    Nat.isDigit_of_mem_toDigits (by decide) (by decide)
  have hunsigned : unsigned (Nat.toDigits 10 n) = Nat.toDigits 10 n :=
    unsigned_of_digit fun c hc => hdigits c (List.mem_of_mem_head? hc)
  have hdecimal : decimal (Nat.toDigits 10 n) = n :=
    (decimal_eq _).trans Nat.ofDigitChars_ten_toDigits
  rw [wholeNumber?,(digitsText n).trim_eq]
  simp only [digitsText,hunsigned,hdecimal]
  simp [List.all_eq_true.mpr hdigits,h,Nat.toDigits_ne_nil]

theorem timeoutOf_digits (t : Timeout) :
    timeoutOf (String.ofList (digitsText t.seconds).chars) = .ok t.seconds := by
  have hsize : t.seconds < UInt64.size := by
    have := t.le_max
    simp only [UInt64.size]
    omega
  rw [timeoutOf,String.toList_ofList,wholeNumber?_digits hsize]
  cases h : t.seconds with
  | zero => exact absurd t.pos (by omega)
  | succ n => rfl

theorem endpointOf_address (p : Provider) (a : WebAddress) :
    endpointOf p (String.ofList a.text.chars) = .ok (String.ofList a.text.chars) := by
  have hweb : isWebUrl a.text.chars = true := by
    simp only [isWebUrl,Bool.or_eq_true,List.isPrefixOf_iff_prefix]
    exact a.isWeb.symm
  simp only [endpointOf,String.toList_ofList,a.text.trim_eq,hweb,if_true]

theorem override_map {α β : Type} {read : String → Except Failure α} {text : β → String} {f : β → α}
    (h : ∀ b, read (text b) = .ok (f b)) (given : Option β) (default : α) :
    override (given.map text) read default = .ok (given.elim default f) := by
  cases given with
  | none => rfl
  | some b => exact h b

/-! ### The file -/

def Entry.property (e : Entry) : Property := ⟨String.ofList e.1.chars,String.ofList e.2.chars⟩

def sectionOf (a : Provider × WebAddress) : Ini.Section :=
  ⟨a.1.name,[⟨"url",String.ofList a.2.text.chars⟩]⟩

def fileOf (general : List Entry) (addresses : List (Provider × WebAddress)) : Ini :=
  ⟨general.map Entry.property,addresses.map sectionOf⟩

theorem items_section (a : Provider × WebAddress) :
    (sectionLines a).filterMap Line.item? = (sectionOf a).items := by
  simp [sectionLines,sectionOf,Line.item?,Ini.Section.items,providerName,urlKey]

theorem items_lines (general : List Entry) (addresses : List (Provider × WebAddress)) :
    (general.map Entry.line ++ addresses.flatMap sectionLines).filterMap Line.item? =
      (fileOf general addresses).general.map .property ++
        (fileOf general addresses).sections.flatMap Ini.Section.items := by
  have hgeneral : (general.map Entry.line).filterMap Line.item? =
      (general.map Entry.property).map .property := by
    rw [List.filterMap_map,List.map_map,← List.filterMap_eq_map]
    rfl
  have hsections : (addresses.flatMap sectionLines).filterMap Line.item? =
      (addresses.map sectionOf).flatMap Ini.Section.items := by
    rw [List.filterMap_flatMap,List.flatMap_map]
    simp only [items_section]
  rw [List.filterMap_append,hgeneral,hsections]
  rfl

theorem ofText_fileOf {lines : List (Line × LineEnd)} {last : Line} {general : List Entry}
    {addresses : List (Provider × WebAddress)}
    (h : (lines.map (·.1) ++ [last]).filter (·.isGap = false) =
      general.map Entry.line ++ addresses.flatMap sectionLines) :
    Ini.ofText (Ini.writtenFile lines last) = .ok (fileOf general addresses) := by
  rw [Ini.ofText_written,Ini.writtenItems_eq,h,items_lines,Ini.ofItems_items]

/-! ### What the file gives -/

theorem Overrides.mem_addresses {o : Overrides} {p : Provider} {a : WebAddress} :
    (p,a) ∈ o.addresses ↔ o.url p = some a := by
  simp only [addresses,List.mem_filterMap,Option.map_eq_some_iff]
  constructor
  · rintro ⟨q,-,b,hb,heq⟩
    cases heq
    exact hb
  · intro h
    exact ⟨p,p.mem_all,a,h,rfl⟩

theorem Overrides.nodup_addresses (o : Overrides) : (o.addresses.map (·.1)).Nodup := by
  have hsub : o.addresses.map (·.1) = Provider.all.filter (o.url · |>.isSome) := by
    rw [addresses,List.map_filterMap,← List.filterMap_eq_filter]
    congr 1
    funext p
    cases h : o.url p <;> simp [h,Option.guard]
  rw [hsub]
  exact List.Nodup.filter _ (by decide)

def Overrides.properties (o : Overrides) : List Property :=
  (o.timeout.map fun t => ⟨"timeout_secs",String.ofList (digitsText t.seconds).chars⟩).toList ++
    (o.userAgent.map fun t => ⟨"user_agent",String.ofList t.chars⟩).toList

theorem Overrides.map_property_general (o : Overrides) :
    o.general.map Entry.property = o.properties := by
  have htimeout : String.ofList timeoutKey.chars = "timeout_secs" := String.ofList_toList
  have hagent : String.ofList userAgentKey.chars = "user_agent" := String.ofList_toList
  rw [general,List.map_append,properties]
  cases o.timeout <;> cases o.userAgent <;>
    simp only [Option.map_none,Option.map_some,Option.toList_none,Option.toList_some,List.map_nil,
      List.map_cons,Entry.property,htimeout,hagent,ofName]

section
variable {o : Overrides} {general : List Entry} {addresses : List (Provider × WebAddress)}

/-- A general key has the value that is written, wherever it stands. -/
theorem value?_general (h : general.Perm o.general) (key : String) :
    Ini.value? (fileOf general addresses).general key = Ini.value? o.properties key := by
  have hperm : (general.map Entry.property).Perm o.properties :=
    o.map_property_general ▸ h.map Entry.property
  refine Ini.value?_perm (((hperm.map (·.key)).nodup_iff).mpr ?_) hperm key
  cases ht : o.timeout <;> cases hu : o.userAgent <;> simp [Overrides.properties,ht,hu]

theorem value?_timeout (h : general.Perm o.general) :
    Ini.value? (fileOf general addresses).general "timeout_secs" =
      o.timeout.map fun t => String.ofList (digitsText t.seconds).chars := by
  rw [value?_general h]
  cases ht : o.timeout <;> cases hu : o.userAgent <;> simp [Overrides.properties,ht,hu,Ini.value?]

theorem value?_userAgent (h : general.Perm o.general) :
    Ini.value? (fileOf general addresses).general "user_agent" =
      o.userAgent.map fun t => String.ofList t.chars := by
  rw [value?_general h]
  cases ht : o.timeout <;> cases hu : o.userAgent <;> simp [Overrides.properties,ht,hu,Ini.value?]

theorem urlValue?_fileOf (h : addresses.Perm o.addresses) (p : Provider) :
    urlValue? (fileOf general addresses) p = (o.url p).map fun a => String.ofList a.text.chars := by
  have hnames : ((fileOf general addresses).sections.map (·.name)).Nodup := by
    have hproviders : (addresses.map (·.1)).Nodup := ((h.map (·.1)).nodup_iff).mpr o.nodup_addresses
    have hmap : (fileOf general addresses).sections.map (·.name) =
        (addresses.map (·.1)).map Provider.name := by
      simp [fileOf,sectionOf]
    rw [hmap]
    exact hproviders.map fun _ _ => Provider.name_injective
  cases hurl : o.url p with
  | none =>
    have hnone : (fileOf general addresses).section? p.name = none := by
      refine Ini.section?_eq_none_iff.mpr fun s hs hname => ?_
      obtain ⟨⟨q,a⟩,ha,rfl⟩ := List.mem_map.mp hs
      obtain rfl : q = p := Provider.name_injective hname
      rw [Overrides.mem_addresses.mp (h.mem_iff.mp ha)] at hurl
      cases hurl
    rw [urlValue?,hnone]
    rfl
  | some a =>
    have hmem : (p,a) ∈ addresses := h.mem_iff.mpr (Overrides.mem_addresses.mpr hurl)
    have hsome : (fileOf general addresses).section? p.name = some (sectionOf (p,a)) :=
      (Ini.section?_eq_some_iff hnames).mpr ⟨List.mem_map_of_mem hmem,rfl⟩
    rw [urlValue?,hsome]
    rfl

theorem endpointIn_fileOf (h : addresses.Perm o.addresses) (p : Provider) :
    endpointIn (fileOf general addresses) p = .ok (o.endpoint p) := by
  rw [endpointIn,urlValue?_fileOf h,override_map (endpointOf_address p)]
  rfl

theorem ofIni_fileOf (hgeneral : general.Perm o.general) (haddresses : addresses.Perm o.addresses) :
    ofIni (fileOf general addresses) = .ok o.settings := by
  have hagent (given : Option ValueText) :
      override (given.map fun t => String.ofList t.chars) (fun v => .ok (Ini.trimmed v.toList))
        defaults.userAgent = .ok (given.elim defaults.userAgent fun t => String.ofList t.chars) := by
    refine override_map (fun t => ?_) given defaults.userAgent
    rw [String.toList_ofList,Ini.trimmed,t.trim_eq]
  rw [ofIni,value?_timeout hgeneral,value?_userAgent hgeneral,override_map timeoutOf_digits,hagent]
  simp only [endpointIn_fileOf haddresses]
  rfl

end

/-- No key is without meaning exactly when each is one of those that have a meaning where they stand. -/
theorem ignoredKeys_eq_nil_iff (ini : Ini) :
    ignoredKeys ini = [] ↔ (∀ p ∈ ini.general, p.key ∈ generalKeys) ∧
      ∀ s ∈ ini.sections, ∀ p ∈ s.properties, p.key ∈ sectionKeys s.name := by
  simp [ignoredKeys,List.filter_eq_nil_iff,List.flatMap_eq_nil_iff]

theorem ignoredKeys_fileOf {o : Overrides} {general : List Entry} (h : general.Perm o.general)
    (addresses : List (Provider × WebAddress)) : ignoredKeys (fileOf general addresses) = [] := by
  refine (ignoredKeys_eq_nil_iff _).mpr ⟨fun p hp => ?_,fun s hs p hp => ?_⟩
  · have hmem : p ∈ o.properties := o.map_property_general ▸ (h.map Entry.property).mem_iff.mp hp
    simp only [Overrides.properties,List.mem_append,Option.mem_toList,Option.map_eq_some_iff] at hmem
    rcases hmem with ⟨t,-,rfl⟩ | ⟨t,-,rfl⟩ <;> simp [generalKeys]
  · obtain ⟨⟨q,a⟩,-,rfl⟩ := List.mem_map.mp hs
    obtain rfl := List.mem_singleton.mp hp
    have hkeys : sectionKeys q.name = ["url"] := by cases q <;> decide
    simp [sectionOf,hkeys]

/-- A file that gives some overrides makes the defaults with these overrides, and has no key without meaning. -/
theorem ofText_writtenFile (o : Overrides) (lines : List (Line × LineEnd)) (last : Line)
    (h : o.WrittenAs lines last) :
    ofText (Ini.writtenFile lines last) = ⟨.ok o.settings,[],[]⟩ := by
  obtain ⟨general,addresses,hgeneral,haddresses,hlines⟩ := h
  rw [ofText,ofText_fileOf hlines]
  simp only [ofIni_fileOf hgeneral haddresses,ignoredKeys_fileOf hgeneral,List.map_nil]

/-! ### A file with signs in its values -/

def signAgent : ValueText where
  chars := "audit = [a:b]; #1".toList
  ne_nil := by decide
  first := by decide
  last := by decide
  plain := List.all_eq_true.mp (by decide)

def signAddress : WebAddress where
  text :=
    { chars := "http://h.test:80/c?a=b#[x];".toList
      ne_nil := by decide
      first := by decide
      last := by decide
      plain := List.all_eq_true.mp (by decide) }
  isWeb := .inl ⟨"h.test:80/c?a=b#[x];".toList,by decide⟩

def shortAddress : WebAddress where
  text :=
    { chars := "https://".toList
      ne_nil := by decide
      first := by decide
      last := by decide
      plain := List.all_eq_true.mp (by decide) }
  isWeb := .inr ⟨[],by decide⟩

def longestTimeout : Timeout where
  seconds := 18446744073709551615
  pos := by decide
  le_max := Nat.le_refl _

def signOverrides : Overrides where
  timeout := some longestTimeout
  userAgent := some signAgent
  url
    | .digitalocean => some shortAddress
    | .linode => some signAddress
    | .dreamhost => none

def signLines : List (Line × LineEnd) :=
  [
    (.comment '#' " url = [linode]".toList (.inr rfl) (by decide),.feed),
    (.property userAgentKey signAgent,.returnFeed),
    (.blank [' ','\t'] (by simp),.returnFeed),
    (.blank [] (List.forall_mem_nil _),.feed),
    (.property timeoutKey (ofName (digitsText longestTimeout.seconds)),.feed),
    (.header (providerName .linode),.feed),
    (.comment ';' [] (.inl rfl) (by decide),.returnFeed),
    (.property urlKey signAddress.text,.feed),
    (.header (providerName .digitalocean),.feed)
  ]

/-- The sections and the general keys stand in another order than that of the settings. -/
theorem ofText_writtenFile_signs :
    signOverrides.WrittenAs signLines (.property urlKey shortAddress.text) ∧
      (ofText (Ini.writtenFile signLines (.property urlKey shortAddress.text))).result =
        .ok
          { defaults with
            timeout := 18446744073709551615
            userAgent := "audit = [a:b]; #1"
            digitaloceanUrl := "https://"
            linodeUrl := "http://h.test:80/c?a=b#[x];" } := by
  have hwritten : signOverrides.WrittenAs signLines (.property urlKey shortAddress.text) :=
    ⟨[(userAgentKey,signAgent),(timeoutKey,ofName (digitsText longestTimeout.seconds))],
      [(.linode,signAddress),(.digitalocean,shortAddress)],.swap _ _ _,.swap _ _ _,rfl⟩
  refine ⟨hwritten,?_⟩
  rw [ofText_writtenFile signOverrides signLines _ hwritten]
  rfl

end RegionAudit.Settings
