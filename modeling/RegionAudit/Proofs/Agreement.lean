import Mathlib.Data.List.Forall2
import RegionAudit.Proofs.Verdict

/-! Listing and checking the same providers. Both make the same requests, complain of the same failures in the
same order and exit with the same code, for a check is a survey whose entries are then compared. What a check
prints on a provider is told by a relation between the regions that were found and the lines. -/
namespace RegionAudit

open Run

namespace Survey

@[simp] theorem requests_compare (e : Entry (List Region)) : (compare e).requests = [] := by
  unfold compare
  cases e.result <;> rfl

theorem requests_check (sources : List Source) :
    (check sources).requests = (list sources).requests := by
  simp [check]

end Survey

namespace Audit

section Entries

variable (remote : Remote) (client : Client) (s : Settings)

def listingOf (p : Provider) : Entry (List Region) :=
  Survey.listing ⟨p,lookup remote client p (s.endpoint p)⟩

theorem result_listingOf (p : Provider) :
    (listingOf remote client s p).result = answer remote client s p := by
  rw [listingOf,Survey.listing,answer]

theorem result_comparisonOf (p : Provider) : (comparisonOf remote client s p).result =
    (answer remote client s p).map (Survey.drift p) := by
  rw [comparisonOf,Survey.comparison,answer]

theorem isFailed_listingOf (p : Provider) :
    (listingOf remote client s p).isFailed = fails remote client s p := by
  rw [Entry.isFailed,result_listingOf,fails]
  cases answer remote client s p <;> rfl

theorem countP_isFailed_listingOf (selection : List Provider) :
    ((selected selection).map (listingOf remote client s)).countP (·.isFailed) =
      ((asked selection).filter fun p => fails remote client s p = true).card := by
  rw [List.countP_map,← countP_selected]
  exact List.countP_congr fun p _ => by
    rw [Function.comp_apply,isFailed_listingOf]

/-- The lines on the lookups that failed, in the order of asking. -/
def lookupComplaints (selection : List Provider) : List String :=
  (selected selection).flatMap fun p =>
    match answer remote client s p with
    | .ok _ => []
    | .error f => [p.name ++ ": " ++ f.message]

/-- The failures are told alike, whatever is made of the regions that were found. -/
theorem failureLines_of_result {α : Type} {entry : Provider → Entry α} {f : Provider → List Region → α}
    (hprovider : ∀ p, (entry p).provider = p)
    (hresult : ∀ p, (entry p).result = (answer remote client s p).map (f p))
    (selection : List Provider) :
    ((selected selection).map entry).flatMap failureLines =
      lookupComplaints remote client s selection := by
  rw [List.flatMap_map,lookupComplaints]
  congr 1
  funext p
  rw [failureLines,hresult,hprovider]
  cases answer remote client s p <;> rfl

theorem failureLines_listingOf (selection : List Provider) :
    ((selected selection).map (listingOf remote client s)).flatMap failureLines =
      lookupComplaints remote client s selection := by
  have hresult (p : Provider) : (listingOf remote client s p).result =
      (answer remote client s p).map id := by
    rw [result_listingOf]
    cases answer remote client s p <;> rfl
  exact failureLines_of_result remote client s (fun _ => rfl) hresult selection

theorem failureLines_comparisonOf (selection : List Provider) :
    ((selected selection).map (comparisonOf remote client s)).flatMap failureLines =
      lookupComplaints remote client s selection :=
  failureLines_of_result remote client s (fun _ => rfl) (result_comparisonOf remote client s) selection

end Entries

/-! ### Reports -/

theorem checkShortfall?_false (entries : List (Entry Drift)) :
    checkShortfall? false entries = listShortfall? entries := by
  rw [checkShortfall?_eq,listShortfall?]
  simp

theorem complaints_reportOf {α : Type} (lines : Entry α → List String) (entries : List (Entry α)) :
    (reportOf lines entries (listShortfall? entries)).complaints =
      entries.flatMap failureLines ++
        if entries.countP (·.isFailed) = 0 then []
        else ["error: " ++ (toString (entries.countP (·.isFailed)) ++ " of " ++ toString entries.length ++
          " region lookups failed")] := by
  unfold reportOf listShortfall?
  by_cases h : entries.countP (·.isFailed) = 0
  · simp [h]
  · simp [h,Nat.pos_of_ne_zero h,errorLine,Shortfall.message]

theorem exitCode_reportOf {α : Type} (lines : Entry α → List String) (entries : List (Entry α)) :
    (reportOf lines entries (listShortfall? entries)).exitCode =
      if entries.countP (·.isFailed) = 0 then 0 else 1 := by
  unfold reportOf listShortfall?
  by_cases h : entries.countP (·.isFailed) = 0
  · simp [h]
  · simp [h,Nat.pos_of_ne_zero h]

theorem printed_reportOf {α : Type} (lines : Entry α → List String) (entries : List (Entry α))
    (shortfall : Option Shortfall) :
    (reportOf lines entries shortfall).printed = entries.flatMap lines := by
  cases shortfall <;> rfl

/-! ### What a check prints -/

/-- A line with regions under a heading; without regions there is no line. -/
def regionsLine (heading : String) (regions : List Region) : List String :=
  if regions = [] then [] else [heading ++ String.intercalate ", " (regions.map (·.id))]

/-- The lines that a check prints on a provider, by what its lookup gave. -/
inductive ComparisonLines (p : Provider) : Except Failure (List Region) → List String → Prop
  | failed (f : Failure) : ComparisonLines p (.error f) []
  | upToDate {live : List Region} (same : live.toFinset = p.known.toFinset) :
      ComparisonLines p (.ok live) [p.name ++ ": up to date"]
  | changed {live added removed : List Region} (differ : live.toFinset ≠ p.known.toFinset)
      (ordered_added : Region.Ordered added)
      (added_eq : added.toFinset = live.toFinset \ p.known.toFinset)
      (ordered_removed : Region.Ordered removed)
      (removed_eq : removed.toFinset = p.known.toFinset \ live.toFinset) :
      ComparisonLines p (.ok live)
        ([p.name ++ ": regions changed"] ++ regionsLine "  added:   " added ++
          regionsLine "  removed: " removed)

theorem comparisonLines_driftLines (remote : Remote) (client : Client) (s : Settings) (p : Provider) :
    ComparisonLines p (answer remote client s p) (driftLines (comparisonOf remote client s p)) := by
  rw [driftLines,result_comparisonOf]
  cases answer remote client s p with
  | error f => exact .failed f
  | ok live =>
    have hempty : (Survey.drift p live).isEmpty = true ↔ live.toFinset = p.known.toFinset := by
      rw [Survey.drift,Drift.isEmpty_between_iff,Finset.ext_iff]
      simp only [List.mem_toFinset]
    have hadded : Region.Ordered (Survey.drift p live).added := Region.ordered_sorted _
    have hremoved : Region.Ordered (Survey.drift p live).removed := Region.ordered_sorted _
    dsimp only [Except.map]
    split
    · rename_i h
      exact .upToDate (hempty.mp h)
    · rename_i h
      simp only [List.isEmpty_iff]
      exact .changed (fun same => h (hempty.mpr same)) hadded (Drift.toFinset_added p.known live)
        hremoved (Drift.toFinset_removed p.known live)

/-! ### The two runs -/

section Obey

variable (remote : Remote) (selection : List Provider)

theorem requests_obey (s : Settings) (isStrict : Bool) :
    (obey s remote (.check selection isStrict)).requests =
      (obey s remote (.list selection)).requests := by
  cases h : sources s remote selection with
  | error f => simp only [obey,h,requests_pure]
  | ok asked => simp only [obey,h,requests_map,Survey.requests_check]

theorem list_with_client {s : Settings} {client : Client} (h : Client.ofSettings s = .ok client) :
    (obey s remote (.list selection)).result =
      listReport ((selected selection).map (listingOf remote client s)) := by
  simp only [obey,sources_of_client remote selection h,result_map,Survey.list_result,List.map_map]
  rfl

theorem list_without_client {s : Settings} {f : Failure} (h : Client.ofSettings s = .error f) :
    (obey s remote (.list selection)).result = refusal f := by
  simp only [obey,sources_of_no_client remote selection h,result_pure]

theorem list_complaints {s : Settings} {client : Client} (h : Client.ofSettings s = .ok client) :
    let failed := ((asked selection).filter fun p => fails remote client s p = true).card
    (obey s remote (.list selection)).result.complaints =
      lookupComplaints remote client s selection ++
        if failed = 0 then []
        else ["error: " ++ (toString failed ++ " of " ++ toString (asked selection).card ++
          " region lookups failed")] := by
  rw [list_with_client remote selection h,listReport,complaints_reportOf,failureLines_listingOf,
    countP_isFailed_listingOf,List.length_map,length_selected]

theorem check_complaints {s : Settings} {client : Client} (h : Client.ofSettings s = .ok client) :
    (obey s remote (.check selection false)).result.complaints =
      (obey s remote (.list selection)).result.complaints := by
  rw [check_with_client selection false remote h,checkReport,checkShortfall?_false,
    complaints_reportOf,failureLines_comparisonOf,countP_isFailed,List.length_map,length_selected,
    list_complaints remote selection h]

theorem check_exitCode {s : Settings} {client : Client} (h : Client.ofSettings s = .ok client) :
    (obey s remote (.check selection false)).result.exitCode =
      (obey s remote (.list selection)).result.exitCode := by
  rw [check_with_client selection false remote h,list_with_client remote selection h,checkReport,
    listReport,checkShortfall?_false,exitCode_reportOf,exitCode_reportOf,countP_isFailed,
    countP_isFailed_listingOf]

theorem check_printed {s : Settings} {client : Client} (h : Client.ofSettings s = .ok client) :
    ∃ blocks, (obey s remote (.check selection false)).result.printed = blocks.flatten ∧
      List.Forall₂ (fun p lines => ComparisonLines p (answer remote client s p) lines)
        (selected selection) blocks := by
  refine ⟨(selected selection).map fun p => driftLines (comparisonOf remote client s p),?_,?_⟩
  · rw [check_with_client selection false remote h,checkReport,printed_reportOf,List.flatMap_map]
    rfl
  · rw [List.forall₂_map_right_iff,List.forall₂_same]
    exact fun p _ => comparisonLines_driftLines remote client s p

end Obey

theorem requests_run (around : Surroundings) (config : Option String) (verbosity : Nat)
    (command : Command) :
    (run around ⟨config,verbosity,command⟩).requests =
      (Settings.load around.files around.home config).requests ++
        match (Settings.load around.files around.home config).result with
        | .ok s => (obey s around.remote command).requests
        | .error _ => [] := by
  unfold run
  rw [requests_bind]
  cases (Settings.load around.files around.home config).result <;> rfl

/-- A list and a check without regard to drift, of the same providers, make the same requests, exit with the
same code and complain of the same things: of every lookup that failed, in the order of asking, and at last of
how many of the lookups failed, if any did. For each provider that was found, a check says that it is up to
date if its regions are those that are known, and otherwise in order what was added and what was removed. -/
theorem list_check_agree (around : Surroundings) (config : Option String) (verbosity verbosity' : Nat)
    (selection : List Provider) :
    let listed := run around ⟨config,verbosity,.list selection⟩
    let checked := run around ⟨config,verbosity',.check selection false⟩
    checked.requests = listed.requests ∧
    checked.result.exitCode = listed.result.exitCode ∧
    checked.result.complaints = listed.result.complaints ∧
    ((∃ f, ((Settings.load around.files around.home config).result = .error f ∨
          ∃ s, (Settings.load around.files around.home config).result = .ok s ∧
            Client.ofSettings s = .error f) ∧
        listed.result = ⟨1,[],["error: " ++ f.message]⟩ ∧ checked.result = ⟨1,[],["error: " ++ f.message]⟩) ∨
      ∃ s client, (Settings.load around.files around.home config).result = .ok s ∧
        Client.ofSettings s = .ok client ∧
        let failed := ((asked selection).filter fun p => fails around.remote client s p = true).card
        listed.result.complaints = lookupComplaints around.remote client s selection ++
          (if failed = 0 then []
          else ["error: " ++ (toString failed ++ " of " ++ toString (asked selection).card ++
            " region lookups failed")]) ∧
        ∃ blocks, checked.result.printed = blocks.flatten ∧
          List.Forall₂ (fun p lines => ComparisonLines p (answer around.remote client s p) lines)
            (selected selection) blocks) := by
  intro listed checked
  have hrequests : checked.requests = listed.requests := by
    rw [requests_run,requests_run]
    cases (Settings.load around.files around.home config).result with
    | error f => rfl
    | ok s => simp only [requests_obey]
  refine ⟨hrequests,?_⟩
  cases hs : (Settings.load around.files around.home config).result with
  | error f =>
    have hlisted : listed.result = refusal f := run_without_settings around config verbosity _ hs
    have hchecked : checked.result = refusal f := run_without_settings around config verbosity' _ hs
    rw [hlisted,hchecked]
    exact ⟨rfl,rfl,.inl ⟨f,.inl rfl,rfl,rfl⟩⟩
  | ok s =>
    have hlisted : listed.result = _ := run_with_settings around config verbosity _ hs
    have hchecked : checked.result = _ := run_with_settings around config verbosity' _ hs
    rw [hlisted,hchecked]
    cases hc : Client.ofSettings s with
    | error f =>
      rw [check_without_client selection false around.remote hc,
        list_without_client around.remote selection hc]
      exact ⟨rfl,rfl,.inl ⟨f,.inr ⟨s,rfl,hc⟩,rfl,rfl⟩⟩
    | ok client =>
      exact ⟨check_exitCode around.remote selection hc,check_complaints around.remote selection hc,
        .inr ⟨s,client,rfl,hc,list_complaints around.remote selection hc,
          check_printed around.remote selection hc⟩⟩

end Audit

end RegionAudit
