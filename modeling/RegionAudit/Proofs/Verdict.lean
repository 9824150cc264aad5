import Mathlib.Data.Finset.Card
import RegionAudit.Audit
import RegionAudit.Proofs.Survey

/-! The verdict of a check. It is good exactly when nothing stopped the run, no lookup failed and, where
drift counts, every provider that was asked has just the regions that are known of it; otherwise the last
line says how many lookups failed or, if none did, how many providers have changed. -/
namespace RegionAudit.Audit

open Run

/-! ### Who is asked -/

/-- The providers that a selection means; no selection means them all. -/
def asked (selection : List Provider) : Finset Provider :=
  if selection = [] then {.digitalocean,.linode,.dreamhost} else selection.toFinset

theorem selected_nodup (selection : List Provider) : (selected selection).Nodup := by
  unfold selected
  split
  · decide
  · exact nodup_distinct selection

theorem toFinset_selected (selection : List Provider) :
    (selected selection).toFinset = asked selection := by
  unfold selected asked
  cases selection with
  | nil => rfl
  | cons p ps =>
    ext q
    simp only [List.isEmpty_cons,Bool.false_eq_true,if_false,reduceCtorEq,List.mem_toFinset,
      mem_distinct]

theorem mem_selected {selection : List Provider} {p : Provider} :
    p ∈ selected selection ↔ p ∈ asked selection := by
  rw [← toFinset_selected,List.mem_toFinset]

theorem length_selected (selection : List Provider) :
    (selected selection).length = (asked selection).card := by
  rw [← toFinset_selected,List.toFinset_card_of_nodup (selected_nodup selection)]

theorem countP_selected (selection : List Provider) (q : Provider → Bool) :
    (selected selection).countP q = ((asked selection).filter fun p => q p = true).card := by
  rw [← toFinset_selected,List.filter_toFinset]
  simp only [Bool.decide_eq_true]
  rw [List.toFinset_card_of_nodup ((selected_nodup selection).filter q),
    List.countP_eq_length_filter]

/-- What asking a provider under settings gives. -/
def answer (remote : Remote) (client : Client) (s : Settings) (p : Provider) :
    Except Failure (List Region) :=
  (lookup remote client p (s.endpoint p)).result

def fails (remote : Remote) (client : Client) (s : Settings) (p : Provider) : Bool :=
  match answer remote client s p with
  | .ok _ => false
  | .error _ => true

def comparisonOf (remote : Remote) (client : Client) (s : Settings) (p : Provider) : Entry Drift :=
  Survey.comparison ⟨p,lookup remote client p (s.endpoint p)⟩

theorem sources_of_client {s : Settings} {client : Client} (remote : Remote)
    (selection : List Provider) (h : Client.ofSettings s = .ok client) :
    sources s remote selection = .ok
      ((selected selection).map fun p => ⟨p,lookup remote client p (s.endpoint p)⟩) := by
  unfold sources
  rw [h]
  rfl

theorem sources_of_no_client {s : Settings} {f : Failure} (remote : Remote)
    (selection : List Provider) (h : Client.ofSettings s = .error f) :
    sources s remote selection = .error f := by
  unfold sources
  rw [h]
  rfl

/-! ### Counting -/

theorem tally_from (t : Tally) (entries : List (Entry Drift)) :
    entries.foldl Tally.count t =
      ⟨t.failed + entries.countP (·.isFailed),t.drifted + entries.countP (·.hasDrift)⟩ := by
  induction entries generalizing t with
  | nil => rfl
  | cons e entries ih =>
    rw [List.foldl_cons,ih]
    cases h : e.result with
    | error f =>
      simp [Tally.count,h,Entry.isFailed,Entry.hasDrift,Nat.add_assoc,Nat.add_comm]
    | ok d =>
      cases hd : d.isEmpty <;>
        simp [Tally.count,h,hd,Entry.isFailed,Entry.hasDrift,Nat.add_assoc,Nat.add_comm]

theorem tally_eq (entries : List (Entry Drift)) :
    tally entries = ⟨entries.countP (·.isFailed),entries.countP (·.hasDrift)⟩ := by
  simp [tally,tally_from]

section Counts

variable (remote : Remote) (client : Client) (s : Settings) (selection : List Provider)

theorem isFailed_comparisonOf (p : Provider) :
    (comparisonOf remote client s p).isFailed = fails remote client s p := by
  unfold comparisonOf Survey.comparison fails answer
  cases (lookup remote client p (s.endpoint p)).result <;> rfl

theorem countP_isFailed :
    ((selected selection).map (comparisonOf remote client s)).countP (·.isFailed) =
      ((asked selection).filter fun p => fails remote client s p = true).card := by
  rw [List.countP_map,← countP_selected]
  exact List.countP_congr fun p _ => by
    rw [Function.comp_apply,isFailed_comparisonOf]

theorem comparisonOf_in_order (p : Provider) (isStrict : Bool) :
    ((comparisonOf remote client s p).isFailed = false ∧
        (isStrict = true → (comparisonOf remote client s p).hasDrift = false)) ↔
      ∃ live, answer remote client s p = .ok live ∧
        (isStrict = true → ∀ r, r ∈ live ↔ r ∈ p.known) := by
  have hd := Survey.hasDrift_comparison ⟨p,lookup remote client p (s.endpoint p)⟩
  rw [isFailed_comparisonOf,← Bool.not_eq_true (Entry.hasDrift _),comparisonOf,hd]
  unfold fails answer
  cases (lookup remote client p (s.endpoint p)).result with
  | error f => simp
  | ok live => simp

end Counts

/-! ### The report -/

/-- Failed lookups come before drift. -/
theorem checkShortfall?_eq (isStrict : Bool) (entries : List (Entry Drift)) :
    checkShortfall? isStrict entries =
      if 0 < entries.countP (·.isFailed) then
        some (.lookupsFailed (entries.countP (·.isFailed)) entries.length)
      else if isStrict = true ∧ 0 < entries.countP (·.hasDrift) then
        some (.outOfDate (entries.countP (·.hasDrift)))
      else none := by
  simp only [checkShortfall?,tally_eq,Bool.and_eq_true,decide_eq_true_eq]

theorem exitCode_checkReport (isStrict : Bool) (entries : List (Entry Drift)) :
    (checkReport isStrict entries).exitCode =
      if (checkShortfall? isStrict entries).isSome then 1 else 0 := by
  unfold checkReport reportOf
  cases checkShortfall? isStrict entries <;> rfl

theorem getLast?_checkReport {isStrict : Bool} {entries : List (Entry Drift)} {s : Shortfall}
    (h : checkShortfall? isStrict entries = some s) :
    (checkReport isStrict entries).complaints.getLast? = some (errorLine s.message) := by
  simp [checkReport,reportOf,h]

theorem checkShortfall?_eq_none_iff {isStrict : Bool} {entries : List (Entry Drift)} :
    checkShortfall? isStrict entries = none ↔
      ∀ e ∈ entries, e.isFailed = false ∧ (isStrict = true → e.hasDrift = false) := by
  rw [checkShortfall?_eq]
  constructor
  · intro h e he
    split at h
    · cases h
    · rename_i hf
      split at h
      · cases h
      · rename_i hd
        refine ⟨?_,fun hs => ?_⟩
        · by_contra hne
          exact hf (List.countP_pos_iff.mpr ⟨e,he,by simpa using hne⟩)
        · by_contra hne
          exact hd ⟨hs,List.countP_pos_iff.mpr ⟨e,he,by simpa using hne⟩⟩
  · intro h
    have hf : ¬ 0 < entries.countP (·.isFailed) := fun hpos => by
      obtain ⟨e,he,hfe⟩ := List.countP_pos_iff.mp hpos
      simp [(h e he).1] at hfe
    have hd : ¬ (isStrict = true ∧ 0 < entries.countP (·.hasDrift)) := fun ⟨hs,hpos⟩ => by
      obtain ⟨e,he,hde⟩ := List.countP_pos_iff.mp hpos
      simp [(h e he).2 hs] at hde
    rw [if_neg hf,if_neg hd]

/-! ### The run -/

section Run

variable (around : Surroundings) (config : Option String) (verbosity : Nat)
variable (selection : List Provider) (isStrict : Bool)

theorem run_without_settings {f : Failure} (command : Command)
    (h : (Settings.load around.files around.home config).result = .error f) :
    (run around ⟨config,verbosity,command⟩).result = refusal f := by
  simp only [run,result_bind,h,result_pure]

theorem run_with_settings {s : Settings} (command : Command)
    (h : (Settings.load around.files around.home config).result = .ok s) :
    (run around ⟨config,verbosity,command⟩).result = (obey s around.remote command).result := by
  simp only [run,result_bind,h]

theorem check_without_client {s : Settings} {f : Failure} (remote : Remote)
    (h : Client.ofSettings s = .error f) :
    (obey s remote (.check selection isStrict)).result = refusal f := by
  simp only [obey,sources_of_no_client remote selection h,result_pure]

theorem check_with_client {s : Settings} {client : Client} (remote : Remote)
    (h : Client.ofSettings s = .ok client) :
    (obey s remote (.check selection isStrict)).result =
      checkReport isStrict ((selected selection).map (comparisonOf remote client s)) := by
  simp only [obey,sources_of_client remote selection h,result_map,Survey.check_result,List.map_map]
  rfl

/-- A check that asks its providers exits with 0 exactly when all their answers are in order. -/
theorem exitCode_with_client {s : Settings} {client : Client} (remote : Remote)
    (h : Client.ofSettings s = .ok client) :
    (obey s remote (.check selection isStrict)).result.exitCode = 0 ↔
      ∀ p ∈ asked selection, ∃ live, answer remote client s p = .ok live ∧
        (isStrict = true → ∀ r, r ∈ live ↔ r ∈ p.known) := by
  have hexit : ∀ entries, (checkReport isStrict entries).exitCode = 0 ↔
      checkShortfall? isStrict entries = none := by
    intro entries
    rw [exitCode_checkReport]
    cases checkShortfall? isStrict entries <;> simp
  rw [check_with_client selection isStrict remote h,hexit,checkShortfall?_eq_none_iff]
  simp only [List.forall_mem_map,comparisonOf_in_order,mem_selected]

theorem exitCode_eq_zero_iff :
    (run around ⟨config,verbosity,.check selection isStrict⟩).result.exitCode = 0 ↔
      ∃ s client, (Settings.load around.files around.home config).result = .ok s ∧
        Client.ofSettings s = .ok client ∧
        ∀ p ∈ asked selection, ∃ live, answer around.remote client s p = .ok live ∧
          (isStrict = true → ∀ r, r ∈ live ↔ r ∈ p.known) := by
  cases hs : (Settings.load around.files around.home config).result with
  | error f =>
    rw [run_without_settings around config verbosity _ hs]
    simp [refusal]
  | ok s =>
    rw [run_with_settings around config verbosity _ hs]
    cases hc : Client.ofSettings s with
    | error f =>
      rw [check_without_client selection isStrict around.remote hc]
      simp [refusal,hc]
    | ok client =>
      rw [exitCode_with_client selection isStrict around.remote hc]
      simp [hc]

/-- The last line of a check that asked its providers and does not exit with 0. -/
theorem last_line_with_client {s : Settings} {client : Client} (remote : Remote)
    (h : Client.ofSettings s = .ok client)
    (hexit : (obey s remote (.check selection isStrict)).result.exitCode ≠ 0) :
    let report := (obey s remote (.check selection isStrict)).result
    let failed := ((asked selection).filter fun p => fails remote client s p = true).card
    let drifted :=
      ((selected selection).map (comparisonOf remote client s)).countP (·.hasDrift)
    report.exitCode = 1 ∧
      (0 < failed ∧ report.complaints.getLast? =
          some ("error: " ++ (toString failed ++ " of " ++ toString (asked selection).card ++
            " region lookups failed")) ∨
        failed = 0 ∧ isStrict = true ∧ 0 < drifted ∧ report.complaints.getLast? =
          some ("error: " ++ (toString drifted ++ " provider(s) out of date"))) := by
  intro report failed drifted
  have hreport : report =
      checkReport isStrict ((selected selection).map (comparisonOf remote client s)) :=
    check_with_client selection isStrict remote h
  have hshort := checkShortfall?_eq isStrict
    ((selected selection).map (comparisonOf remote client s))
  rw [countP_isFailed,List.length_map,length_selected] at hshort
  change report.exitCode ≠ 0 at hexit
  rw [hreport] at hexit ⊢
  rw [exitCode_checkReport] at hexit ⊢
  split at hshort
  · rename_i hf
    refine ⟨by rw [hshort]; rfl,.inl ⟨hf,getLast?_checkReport hshort⟩⟩
  · rename_i hf
    split at hshort
    · rename_i hd
      exact ⟨by rw [hshort]; rfl,
        .inr ⟨Nat.eq_zero_of_not_pos hf,hd.1,hd.2,getLast?_checkReport hshort⟩⟩
    · rw [hshort] at hexit
      exact absurd rfl hexit

end Run

/-- A check exits with 0 exactly when nothing stopped it, no lookup failed and, where drift counts, what
every asked provider lists is what is known of it. If it came as far as the lookups and does not, its last
line gives the number of failed lookups among those of the distinct providers asked, whatever the drift, and
only where none failed and drift counts the number of providers with drift. -/
theorem check_verdict (around : Surroundings) (config : Option String) (verbosity : Nat)
    (selection : List Provider) (isStrict : Bool) :
    let report := (run around ⟨config,verbosity,.check selection isStrict⟩).result
    (report.exitCode = 0 ↔
      ∃ s client, (Settings.load around.files around.home config).result = .ok s ∧
        Client.ofSettings s = .ok client ∧
        ∀ p ∈ asked selection, ∃ live, answer around.remote client s p = .ok live ∧
          (isStrict = true → ∀ r, r ∈ live ↔ r ∈ p.known)) ∧
    ∀ s client sources, (Settings.load around.files around.home config).result = .ok s →
      Client.ofSettings s = .ok client →
      Audit.sources s around.remote selection = .ok sources → report.exitCode ≠ 0 →
      let failed := ((asked selection).filter fun p => fails around.remote client s p = true).card
      let drifted := (Survey.check sources).result.countP (·.hasDrift)
      report.exitCode = 1 ∧
        (0 < failed ∧ report.complaints.getLast? =
            some ("error: " ++ (toString failed ++ " of " ++ toString (asked selection).card ++
              " region lookups failed")) ∨
          failed = 0 ∧ isStrict = true ∧ 0 < drifted ∧ report.complaints.getLast? =
            some ("error: " ++ (toString drifted ++ " provider(s) out of date"))) := by
  refine ⟨exitCode_eq_zero_iff around config verbosity selection isStrict,?_⟩
  intro s client sources hs hc hsources hexit
  rw [run_with_settings around config verbosity _ hs] at hexit ⊢
  rw [sources_of_client around.remote selection hc] at hsources
  cases hsources
  rw [Survey.check_result,List.map_map]
  exact last_line_with_client selection isStrict around.remote hc hexit

/-- Every page mentions one hostname of Dreamhost that is known and one that is not. -/
def changing : Surroundings where
  home := some "/home"
  files := fun _ => .file ("[dreamhost]\nurl = http://h.test/d\n".toList.map Char.toNat)
  remote := fun _ _ =>
    .response ⟨200,none,"objects-us-east-1.dream.io objects-eu-9.dream.io".toList.map Char.toNat,true⟩

/-- Of two mentions of one provider one lookup is made, which fails where no connection can be made. Where it succeeds
and finds a new region, this is told only if drift counts. -/
theorem check_verdict_failed_and_changed :
    let around : Surroundings := ⟨some "/home",fun _ => .missing,.unreachable⟩
    let failed := (run around ⟨none,0,.check [.linode,.linode] true⟩).result
    let changed := (run changing ⟨none,0,.check [.dreamhost,.dreamhost] true⟩).result
    (failed.exitCode = 1 ∧ failed.complaints.getLast? = some "error: 1 of 1 region lookups failed") ∧
    (changed.exitCode = 1 ∧ changed.complaints.getLast? = some "error: 1 provider(s) out of date") ∧
    (run changing ⟨none,0,.check [.dreamhost,.dreamhost] false⟩).result.exitCode = 0 := by
  intro around failed changed
  let client : Client := ⟨30,"regioncheck/0.1.0"⟩
  let s : Settings := { Settings.defaults with dreamhostUrl := "http://h.test/d" }
  have hclient : Client.ofSettings .defaults = .ok client := by decide +kernel
  have hchanging : (Settings.load changing.files changing.home none).result = .ok s := by decide +kernel
  have hlive : answer changing.remote client s .dreamhost = .ok [⟨"us-east-1"⟩,⟨"eu-9"⟩] := by decide +kernel
  refine ⟨?_,?_,?_⟩
  · have hcount : ((asked [.linode,.linode]).filter fun p =>
        fails around.remote client .defaults p = true).card = 1 := by decide +kernel
    obtain ⟨hexit,⟨-,hlast⟩ | ⟨hnone,-⟩⟩ := (check_verdict around none 0 [.linode,.linode] true).2
      .defaults client _ rfl hclient (sources_of_client around.remote _ hclient) (by decide +kernel)
    · rw [hcount] at hlast
      exact ⟨hexit,hlast⟩
    · simp [hcount] at hnone
  · have hcount : ((asked [.dreamhost,.dreamhost]).filter fun p =>
        fails changing.remote client s p = true).card = 0 := by decide +kernel
    obtain ⟨hexit,⟨hsome,-⟩ | ⟨-,-,-,hlast⟩⟩ := (check_verdict changing none 0 [.dreamhost,.dreamhost] true).2
      s client _ hchanging hclient (sources_of_client changing.remote _ hclient) (by decide +kernel)
    · simp [hcount] at hsome
    · refine ⟨hexit,hlast.trans ?_⟩
      decide +kernel
  · refine (check_verdict changing none 0 [.dreamhost,.dreamhost] false).1.mpr
      ⟨s,client,hchanging,hclient,fun p hp => ?_⟩
    obtain rfl : p = .dreamhost := by simpa [asked] using hp
    exact ⟨_,hlive,nofun⟩

end RegionAudit.Audit
