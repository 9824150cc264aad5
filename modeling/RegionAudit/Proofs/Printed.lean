import RegionAudit.Proofs.Agreement
import RegionAudit.Proofs.Listing.Alphabet
import RegionAudit.Proofs.Text.Pieces

/-! What a list prints, and what can be read from it. Every provider that was found has a line with its name
and its regions between commas. The lines tell who was found and which regions as long as the regions stay
whole, which only the names of clusters may prevent. -/
namespace RegionAudit

open Text (printedText linesOf items comma HasNoComma)

/-- Whether a region can be told from its neighbours in print: no line ends in it and no comma parts it. -/
def Region.StaysWhole (r : Region) : Prop :=
  '\n' ∉ r.id.toList ∧ HasNoComma r.id.toList

instance : DecidablePred Region.StaysWhole := fun _ => inferInstanceAs (Decidable (_ ∧ _))

theorem Listing.IsIdChar.ne {c : Char} (h : Listing.IsIdChar c) : c ≠ '\n' ∧ c ≠ ',' := by
  constructor
  · rintro rfl
    exact absurd h (by decide)
  · rintro rfl
    exact absurd h (by decide)

theorem Region.staysWhole_of_isIdChar {r : Region} (h : ∀ c ∈ r.id.toList, Listing.IsIdChar c) :
    r.StaysWhole := by
  refine ⟨fun hc => (h '\n' hc).ne.1 rfl,fun hc => ?_⟩
  exact (h ',' (hc.subset (by simp [comma]))).ne.2 rfl

namespace Audit

abbrev Find := Provider × List Region

def findLine (f : Find) : String :=
  f.1.name ++ ": " ++ Region.joined f.2

/-- Whether a line begins with the name of a provider and enumerates its regions. -/
def Reads (line : List Char) (f : Find) : Prop :=
  ∃ rest, line = f.1.name.toList ++ ": ".toList ++ rest ∧ items rest = f.2.map (·.id.toList)

/-- Whether a text has a line for each provider that was found, in their order, and nothing else, and the
regions can be read from it. -/
def ReadsBack (text : List Char) (found : List Find) : Prop :=
  List.Forall₂ Reads (linesOf text) found

/-! ### Lines -/

theorem colon_notMem_name (p : Provider) : ':' ∉ p.name.toList := by
  cases p <;> decide

theorem lineFeed_notMem_name (p : Provider) : '\n' ∉ p.name.toList := by
  cases p <;> decide

theorem toList_joined (rs : List Region) :
    (Region.joined rs).toList = comma.intercalate (rs.map (·.id.toList)) := by
  rw [Region.joined,String.toList_intercalate,List.map_map]
  rfl

theorem toList_findLine (f : Find) : (findLine f).toList =
    f.1.name.toList ++ ": ".toList ++ comma.intercalate (f.2.map (·.id.toList)) := by
  rw [findLine,String.toList_append,String.toList_append,toList_joined]

theorem Reads.unique {line : List Char} {f g : Find} (hf : Reads line f) (hg : Reads line g) : f = g := by
  obtain ⟨p,rs⟩ := f
  obtain ⟨q,ss⟩ := g
  obtain ⟨rest,rfl,hrs⟩ := hf
  obtain ⟨rest',heq,hss⟩ := hg
  have hname : ∀ (p : Provider) (cs : List Char),
      (p.name.toList ++ ": ".toList ++ cs).takeWhile (· ≠ ':') = p.name.toList := by
    intro p cs
    rw [List.append_assoc,List.takeWhile_append_of_pos]
    · simp
    · intro c hc
      exact decide_eq_true fun e => colon_notMem_name p (e ▸ hc)
  obtain rfl : p = q := by
    refine Provider.name_injective (String.toList_injective ?_)
    rw [← hname p rest,heq,hname q rest']
  obtain rfl : rest = rest' := List.append_cancel_left heq
  have hids : rs.map (·.id.toList) = ss.map (·.id.toList) := hrs.symm.trans hss
  have hinj : Function.Injective fun r : Region => r.id.toList := fun a b h => by
    cases a
    cases b
    exact congrArg Region.mk (String.toList_injective h)
  rw [hinj.list_map hids]

theorem ReadsBack.unique {text : List Char} {found found' : List Find} (h : ReadsBack text found)
    (h' : ReadsBack text found') : found = found' := by
  have hreads : Relator.RightUnique Reads := fun _ _ _ => Reads.unique
  exact List.right_unique_forall₂' hreads h h'

theorem lineFeed_notMem_intercalate {xs : List (List Char)} :
    '\n' ∉ comma.intercalate xs ↔ ∀ x ∈ xs, '\n' ∉ x := by
  induction xs with
  | nil => simp
  | cons x xs ih =>
    cases xs with
    | nil => simp
    | cons y ys =>
      rw [List.intercalate_cons_cons,List.forall_mem_cons,← ih]
      simp [comma]

/-- What is read from a line without line feeds has stayed whole. -/
theorem Reads.staysWhole {line : List Char} {f : Find} (h : Reads line f) (hline : '\n' ∉ line)
    {r : Region} (hr : r ∈ f.2) : r.StaysWhole := by
  obtain ⟨rest,rfl,hitems⟩ := h
  have hid : r.id.toList ∈ items rest := hitems ▸ List.mem_map_of_mem hr
  refine ⟨?_,Text.hasNoComma_of_mem_items hid⟩
  have hrest : '\n' ∉ comma.intercalate (items rest) := by
    rw [Text.intercalate_items]
    exact fun hc => hline (List.mem_append_right _ hc)
  exact lineFeed_notMem_intercalate.mp hrest _ hid

theorem ReadsBack.staysWhole {text : List Char} {found : List Find} (h : ReadsBack text found) :
    ∀ f ∈ found, ∀ r ∈ f.2, r.StaysWhole := by
  have hlines : List.Forall₂ (fun line f => '\n' ∉ line ∧ Reads line f) (linesOf text) found :=
    (List.forall₂_and_left _ _).mpr ⟨fun _ => Text.notMem_of_mem_linesOf,h⟩
  intro f hf r hr
  obtain ⟨i,hi,rfl⟩ := List.getElem_of_mem hf
  obtain ⟨hline,hreads⟩ := hlines.get (hlines.length_eq ▸ hi) hi
  exact hreads.staysWhole hline hr

/-- Lines can be read back exactly when all regions in them stay whole. -/
theorem readsBack_iff {found : List Find} (hne : ∀ f ∈ found, f.2 ≠ []) :
    ReadsBack (printedText (found.map findLine)) found ↔
      ∀ f ∈ found, ∀ r ∈ f.2, r.StaysWhole := by
  constructor
  · exact ReadsBack.staysWhole
  · intro h
    have hfeed : ∀ line ∈ found.map findLine, '\n' ∉ line.toList := by
      intro line hline
      obtain ⟨f,hf,rfl⟩ := List.mem_map.mp hline
      rw [toList_findLine,List.mem_append,List.mem_append,not_or,not_or,lineFeed_notMem_intercalate]
      refine ⟨⟨lineFeed_notMem_name f.1,by decide⟩,?_⟩
      intro x hx
      obtain ⟨r,hr,rfl⟩ := List.mem_map.mp hx
      exact (h f hf r hr).1
    rw [ReadsBack,Text.linesOf_printedText hfeed,List.map_map,List.forall₂_map_left_iff,
      List.forall₂_same]
    intro f hf
    refine ⟨_,toList_findLine f,Text.items_intercalate (by simpa using hne f hf) ?_⟩
    intro x hx
    obtain ⟨r,hr,rfl⟩ := List.mem_map.mp hx
    exact (h f hf r hr).2

/-! ### Who was found -/

def foundBy (remote : Remote) (client : Client) (s : Settings) (selection : List Provider) : List Find :=
  (selected selection).filterMap fun p =>
    match answer remote client s p with
    | .ok rs => some (p,rs)
    | .error _ => none

/-- The providers that an audit finds; it finds none if it cannot begin. -/
def found (around : Surroundings) (config : Option String) (selection : List Provider) : List Find :=
  match (Settings.load around.files around.home config).result with
  | .error _ => []
  | .ok s =>
    match Client.ofSettings s with
    | .error _ => []
    | .ok client => foundBy around.remote client s selection

theorem flatMap_listLines (remote : Remote) (client : Client) (s : Settings)
    (selection : List Provider) :
    ((selected selection).map (listingOf remote client s)).flatMap listLines =
      (foundBy remote client s selection).map findLine := by
  rw [foundBy,List.map_filterMap,List.flatMap_map]
  induction selected selection with
  | nil => rfl
  | cons p ps ih =>
    rw [List.flatMap_cons,ih,List.filterMap_cons,listLines,result_listingOf]
    cases answer remote client s p <;> rfl

theorem printed_list (around : Surroundings) (config : Option String) (verbosity : Nat)
    (selection : List Provider) :
    (run around ⟨config,verbosity,.list selection⟩).result.printed =
      (found around config selection).map findLine := by
  unfold found
  cases hs : (Settings.load around.files around.home config).result with
  | error f =>
    rw [run_without_settings around config verbosity _ hs]
    rfl
  | ok s =>
    rw [run_with_settings around config verbosity _ hs]
    cases hc : Client.ofSettings s with
    | error f =>
      simp only [hc,list_without_client around.remote selection hc]
      rfl
    | ok client =>
      simp only [hc,list_with_client around.remote selection hc,listReport,printed_reportOf,
        flatMap_listLines]

/-- What is found of a provider is listed in some answer to it. -/
theorem exists_regions_of_mem_found {around : Surroundings} {config : Option String}
    {selection : List Provider} {f : Find} (h : f ∈ found around config selection) :
    ∃ url text, Listing.regions f.1 url text = .ok f.2 := by
  unfold found at h
  split at h
  · cases h
  · split at h
    · cases h
    · rename_i s _ _ client _
      obtain ⟨p,-,hp⟩ := List.mem_filterMap.mp h
      split at hp
      · rename_i rs hrs
        cases hp
        rw [answer,lookup_result] at hrs
        cases hf : (Network.fetch around.remote client (s.endpoint p)).result with
        | error e =>
          rw [hf] at hrs
          cases hrs
        | ok text =>
          rw [hf] at hrs
          exact ⟨s.endpoint p,text,hrs⟩
      · cases hp

theorem ne_nil_of_mem_found {around : Surroundings} {config : Option String}
    {selection : List Provider} {f : Find} (h : f ∈ found around config selection) : f.2 ≠ [] := by
  obtain ⟨url,text,hregions⟩ := exists_regions_of_mem_found h
  intro hnil
  exact Listing.regions_ne_nil f.1 url text (hnil ▸ hregions)

/-- The regions of every provider but one stay whole, whatever was answered. -/
theorem staysWhole_of_mem_found {around : Surroundings} {config : Option String}
    {selection : List Provider} {f : Find} (h : f ∈ found around config selection)
    (hp : f.1 ≠ .linode) {r : Region} (hr : r ∈ f.2) : r.StaysWhole := by
  obtain ⟨url,text,hregions⟩ := exists_regions_of_mem_found h
  exact Region.staysWhole_of_isIdChar fun _ hc => Listing.isIdChar_of_mem_regions hp hregions hr hc

/-! ### What a list says -/

def ClustersStayWhole (found : List Find) : Prop :=
  ∀ f ∈ found, f.1 = .linode → ∀ r ∈ f.2, r.StaysWhole

instance : DecidablePred ClustersStayWhole := fun _ => inferInstanceAs (Decidable (∀ _ ∈ _, _))

section Listed

variable (around : Surroundings) (config : Option String) (verbosity : Nat) (selection : List Provider)

def listText : List Char :=
  printedText (run around ⟨config,verbosity,.list selection⟩).result.printed

theorem readsBack_listText_iff :
    ReadsBack (listText around config verbosity selection) (found around config selection) ↔
      ClustersStayWhole (found around config selection) := by
  rw [listText,printed_list,readsBack_iff fun _ => ne_nil_of_mem_found]
  constructor
  · intro h f hf _
    exact h f hf
  · intro h f hf r hr
    by_cases hp : f.1 = .linode
    · exact h f hf hp r hr
    · exact staysWhole_of_mem_found hf hp hr

/-- A list prints a line for each provider that was found, in the order of asking, and nothing else, and the
regions of each can be read from its line, exactly when the names of clusters stay whole: no line ends in them
and no comma parts them. Two lists with such names print the same only if they found the same. -/
theorem list_readsBack_iff :
    (ReadsBack (listText around config verbosity selection) (found around config selection) ↔
      ClustersStayWhole (found around config selection)) ∧
    ∀ around' config' verbosity' selection',
      ClustersStayWhole (found around config selection) →
      ClustersStayWhole (found around' config' selection') →
      listText around config verbosity selection = listText around' config' verbosity' selection' →
      found around config selection = found around' config' selection' := by
  refine ⟨readsBack_listText_iff around config verbosity selection,?_⟩
  intro around' config' verbosity' selection' h h' htext
  have hread := (readsBack_listText_iff around config verbosity selection).mpr h
  have hread' := (readsBack_listText_iff around' config' verbosity' selection').mpr h'
  exact ReadsBack.unique hread (htext ▸ hread')

end Listed

def clusterAnswer (ids : List String) : String :=
  "\x7b\"data\":[" ++
    String.intercalate "," (ids.map fun id => "\x7b\"id\":" ++ Region.toJson ⟨id⟩ ++ "\x7d") ++ "]\x7d"

/-- An endpoint for clusters is set, and every request is answered with these clusters. -/
def answering (ids : List String) : Surroundings where
  home := some "/home"
  files := fun _ => .file ("[linode]\nurl = http://h.test/l\n".toList.map Char.toNat)
  remote := fun _ _ => .response ⟨200,none,(clusterAnswer ids).toList.map Char.toNat,true⟩

/-- One cluster and two clusters print differently. -/
theorem list_readsBack_comma_alone :
    listText (answering ["a,b"]) none 0 [.linode] ≠ listText (answering ["a","b"]) none 0 [.linode] := by
  intro htext
  have hone : found (answering ["a,b"]) none [.linode] = [(.linode,[⟨"a,b"⟩])] := by decide +kernel
  have htwo : found (answering ["a","b"]) none [.linode] = [(.linode,[⟨"a"⟩,⟨"b"⟩])] := by
    decide +kernel
  have hfound := (list_readsBack_iff (answering ["a,b"]) none 0 [.linode]).2 (answering ["a","b"]) none 0
    [.linode] (by rw [hone]; decide) (by rw [htwo]; decide) htext
  rw [hone,htwo] at hfound
  exact absurd hfound (by decide)

/-- A cluster whose name goes on in a new line forges a line of another provider, and one whose name holds a
comma prints as two. -/
theorem list_prints_forged_lines :
    linesOf (listText (answering ["us-east-1\ndreamhost: us-east-1"]) none 0 [.linode]) =
        ["linode: us-east-1".toList,"dreamhost: us-east-1".toList] ∧
      ¬ ReadsBack (listText (answering ["us-east-1\ndreamhost: us-east-1"]) none 0 [.linode])
        (found (answering ["us-east-1\ndreamhost: us-east-1"]) none [.linode]) ∧
      listText (answering ["a, b"]) none 0 [.linode] = listText (answering ["a","b"]) none 0 [.linode] ∧
      found (answering ["a, b"]) none [.linode] ≠ found (answering ["a","b"]) none [.linode] := by
  have hlines : linesOf (listText (answering ["us-east-1\ndreamhost: us-east-1"]) none 0 [.linode]) =
      ["linode: us-east-1".toList,"dreamhost: us-east-1".toList] := by decide +kernel
  have htext : listText (answering ["a, b"]) none 0 [.linode] =
      listText (answering ["a","b"]) none 0 [.linode] := by decide +kernel
  have hdiffer : found (answering ["a, b"]) none [.linode] ≠ found (answering ["a","b"]) none [.linode] := by
    decide +kernel
  refine ⟨hlines,fun h => ?_,htext,hdiffer⟩
  have hfound : (found (answering ["us-east-1\ndreamhost: us-east-1"]) none [.linode]).length = 1 := by
    decide +kernel
  have hlength := h.length_eq
  rw [hlines,hfound] at hlength
  cases hlength

end Audit

end RegionAudit
