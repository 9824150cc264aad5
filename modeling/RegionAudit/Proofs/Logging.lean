import RegionAudit.Proofs.Acceptance
import RegionAudit.Proofs.CommandLine.Reading

/-! What logging changes. A higher verbosity only adds to what is logged, and beside the verbosity nothing that is read
from a command line depends on how often the flag for it is written. -/
namespace RegionAudit

/-! ### Levels -/

namespace Log

theorem admits_ofVerbosity (v : Nat) (e : Event) :
    (ofVerbosity v).admits e = true ↔ e.level.rank ≤ min v 2+2 := by
  match v with
  | 0 => exact decide_eq_true_iff
  | 1 => exact decide_eq_true_iff
  | v+2 =>
    rw [show min (v+2) 2 = 2 by omega]
    exact decide_eq_true_iff

theorem lines_sublist {f g : Filter} (h : ∀ e, f.admits e = true → g.admits e = true) (events : List Event) :
    (lines f events).Sublist (lines g events) :=
  (List.monotone_filter_right events h).map Event.text

/-- A higher verbosity only adds to what is logged. -/
theorem lines_chosen_mono (stated : Option String) {v w : Nat} (h : v ≤ w) (events : List Event) :
    (lines (Filter.chosen stated v) events).Sublist (lines (Filter.chosen stated w) events) := by
  unfold Filter.chosen
  cases stated.bind Filter.ofText? with
  | some f => exact List.Sublist.refl _
  | none =>
    refine lines_sublist (fun e he => ?_) events
    have hrank := (admits_ofVerbosity v e).mp he
    exact (admits_ofVerbosity w e).mpr (by omega)

end Log

/-! ### Choices without the flag -/

namespace CommandLine

open Entries

def raises (cs : List Choice) : Nat :=
  cs.count (.flag .verbose)

/-- Choices without those that raise the verbosity. -/
def quiet (cs : List Choice) : List Choice :=
  cs.filter (· ≠ .flag .verbose)

def Entries.atVerbosity (e : Entries) (v : Nat) : Entries :=
  { e with verbosity := v }

section Enter

variable {place : Place} {e : Entries} {c : Choice}

theorem accept_atVerbosity (e : Entries) (v : Nat) (o : ValueOption) (text : String) :
    (e.atVerbosity v).accept o text = (·.atVerbosity v) <$> e.accept o text := by
  obtain ⟨config,_,_,_,_⟩ := e
  cases o with
  | config =>
    cases config with
    | some path => rfl
    | none => cases hvalue : text.isEmpty <;> simp [accept,atVerbosity,hvalue]
  | provider => cases hvalue : Provider.ofText text <;> simp [accept,atVerbosity,hvalue]

theorem make_atVerbosity (v : Nat) (hp : e.pending = none) (hc : c ≠ .flag .verbose) :
    c.make place (e.atVerbosity v) = (·.atVerbosity v) <$> c.make place e := by
  have hp' : (e.atVerbosity v).pending = none := hp
  cases c with
  | value o text => exact accept_atVerbosity e v o text
  | flag f =>
    simp only [Choice.make,raise,settle_of_pending hp,settle_of_pending hp']
    cases f with
    | verbose => exact absurd rfl hc
    | strict =>
      obtain ⟨_,_,_,isStrict,_⟩ := e
      cases isStrict <;> rfl
    | help => rfl

theorem make_verbose (v : Nat) (hp : e.pending = none) :
    (Choice.flag .verbose).make place (e.atVerbosity v) = .ok (e.atVerbosity (min (v+1) verbosityLimit)) := by
  have hp' : (e.atVerbosity v).pending = none := hp
  simp only [Choice.make,raise,settle_of_pending hp']
  rfl

/-- What choices make is what they make without those that raise the verbosity, and the verbosity counts these. -/
theorem enter_atVerbosity {v : Nat} (cs : List Choice) (hv : v ≤ verbosityLimit) (hp : e.pending = none) :
    enter place (e.atVerbosity v) cs =
      (·.atVerbosity (min (v+raises cs) verbosityLimit)) <$> enter place e (quiet cs) := by
  induction cs generalizing e v with
  | nil =>
    show Except.ok (e.atVerbosity v) = .ok (e.atVerbosity (min v verbosityLimit))
    rw [Nat.min_eq_left hv]
  | cons c cs ih =>
    by_cases hc : c = .flag .verbose
    · subst hc
      have hquiet : quiet (.flag .verbose :: cs) = quiet cs := by simp [quiet]
      have hraises : raises (.flag .verbose :: cs) = raises cs+1 := by simp [raises]
      -- to stop at the limit now or later comes to the same
      have hcount : min (min (v+1) verbosityLimit+raises cs) verbosityLimit =
          min (v+(raises cs+1)) verbosityLimit := by omega
      rw [enter_cons,make_verbose v hp,hquiet,hraises,← hcount]
      exact ih (Nat.min_le_right _ _) hp
    · have hquiet : quiet (c :: cs) = c :: quiet cs := by simp [quiet,hc]
      have hraises : raises (c :: cs) = raises cs := by simp [raises,hc]
      rw [enter_cons,make_atVerbosity v hp hc,hquiet,hraises,enter_cons]
      cases hd : c.make place e with
      | error s => rfl
      | ok d => exact ih hv (pending_make hp hd)

theorem enter_empty_eq_ok_iff {cs : List Choice} :
    enter place .empty cs = .ok e ↔
      ∃ q, enter place .empty (quiet cs) = .ok q ∧ q.atVerbosity (min (raises cs) verbosityLimit) = e := by
  have hempty : Entries.empty.atVerbosity 0 = .empty := rfl
  have hsplit : enter place (Entries.empty.atVerbosity 0) cs =
      (·.atVerbosity (min (0+raises cs) verbosityLimit)) <$> enter place .empty (quiet cs) :=
    enter_atVerbosity cs (Nat.zero_le _) rfl
  rw [hempty,Nat.zero_add] at hsplit
  rw [hsplit]
  cases enter place .empty (quiet cs) with
  | error s => exact ⟨nofun,nofun⟩
  | ok q => exact ⟨fun h => ⟨q,rfl,Except.ok.inj h⟩,fun ⟨_,hq,he⟩ => by cases hq; exact congrArg _ he⟩

end Enter

/-! ### Command lines -/

section Spells

variable {args args' : List String} {front front' back back' : List Choice} {place : Place} {i i' : Invocation}

theorem Place.command_atVerbosity (place : Place) (e : Entries) (v : Nat) :
    place.command (e.atVerbosity v) = place.command e := by
  cases place <;> rfl

theorem Spells.read_quiet (h : Spells args front place back) :
    read args = .ok i ↔
      ∃ f b, enter .front .empty (quiet front) = .ok f ∧ enter place .empty (quiet back) = .ok b ∧
        i = invocation (f.atVerbosity (min (raises front) verbosityLimit))
          (b.atVerbosity (min (raises back) verbosityLimit)) (place.command b) := by
  rw [h.read_eq_ok_iff]
  constructor
  · rintro ⟨f,b,hf,hb,rfl⟩
    obtain ⟨f,hquietf,rfl⟩ := enter_empty_eq_ok_iff.mp hf
    obtain ⟨b,hquietb,rfl⟩ := enter_empty_eq_ok_iff.mp hb
    exact ⟨f,b,hquietf,hquietb,by rw [Place.command_atVerbosity]⟩
  · rintro ⟨f,b,hf,hb,rfl⟩
    exact ⟨_,_,enter_empty_eq_ok_iff.mpr ⟨f,hf,rfl⟩,enter_empty_eq_ok_iff.mpr ⟨b,hb,rfl⟩,
      by rw [Place.command_atVerbosity]⟩

theorem Spells.verbosity (h : Spells args front place back) (hi : read args = .ok i) :
    i.verbosity = min (if raises back = 0 then raises front else raises back) verbosityLimit := by
  obtain ⟨f,b,-,-,rfl⟩ := h.read_quiet.mp hi
  show (if min (raises back) verbosityLimit = 0 then min (raises front) verbosityLimit
    else min (raises back) verbosityLimit) = _
  have hlimit : 0 < verbosityLimit := by decide
  split <;> split <;> omega

/-- Apart from the verbosity, command lines that spell the same other choices ask for the same. -/
theorem Spells.alike (h : Spells args front place back) (h' : Spells args' front' place back')
    (hfront : quiet front = quiet front') (hback : quiet back = quiet back') (hi : read args = .ok i) :
    ∃ i', read args' = .ok i' ∧ i'.config = i.config ∧ i'.command = i.command := by
  obtain ⟨f,b,hf,hb,rfl⟩ := h.read_quiet.mp hi
  exact ⟨_,h'.read_quiet.mpr ⟨f,b,hfront ▸ hf,hback ▸ hb,rfl⟩,rfl,rfl⟩

end Spells

end CommandLine

/-! ### Runs -/

namespace Program

open CommandLine

theorem verbosity_of_invocation {arguments : List String} {invocation : Invocation}
    (h : read arguments = .ok invocation) : verbosity arguments = invocation.verbosity := by
  simp only [verbosity,h]

/-- Logging has no effect on a run. An accepted command line spells choices, and one that spells the same apart from
those that raise the verbosity is accepted as well. Whatever filters are stated, the two have the same report and make
the same requests. If the second raises the verbosity at least as often, and only on one side of the command, then it
logs all that the first does, in the same order. -/
theorem logging_without_effect (around : Surroundings) :
    (∀ arguments invocation, read arguments = .ok invocation →
      ∃ front place back, Spells arguments front place back) ∧
    (∀ arguments arguments' front front' place back back' invocation,
      Spells arguments front place back → Spells arguments' front' place back' →
      quiet front = quiet front' → quiet back = quiet back' → read arguments = .ok invocation →
      (∃ invocation', read arguments' = .ok invocation') ∧
      (∀ stated stated', (outcome around stated' arguments').report = (outcome around stated arguments).report ∧
        (outcome around stated' arguments').requests = (outcome around stated arguments).requests) ∧
      (raises front' = 0 ∨ raises back' = 0 →
        raises front+raises back ≤ raises front'+raises back' →
        ∀ stated, (outcome around stated arguments).log.Sublist (outcome around stated arguments').log)) := by
  refine ⟨fun _ _ h => exists_spells h,fun arguments arguments' front front' place back back' i h h' hfront hback hi => ?_⟩
  obtain ⟨i',hi',hconfig,hcommand⟩ := h.alike h' hfront hback hi
  have hrun : run around arguments' = run around arguments := by
    rw [run_of_invocation hi,run_of_invocation hi']
    simp only [Audit.run,hconfig,hcommand]
  refine ⟨⟨i',hi'⟩,fun stated stated' => ?_,fun hside hmore stated => ?_⟩
  · simp only [outcome,hrun,and_self]
  · simp only [outcome,hrun,verbosity_of_invocation hi,verbosity_of_invocation hi']
    refine Log.lines_chosen_mono stated ?_ _
    rw [h.verbosity hi,h'.verbosity hi']
    split <;> split <;> omega

/-- One flag before the command has the same effect as three after it, of which two are written with an option. -/
theorem logging_without_effect_clustered :
    let around : Surroundings := ⟨some "/home",fun _ => .missing,Remote.unreachable⟩
    let once := ["-v","check","-p","linode","--strict"]
    let thrice := ["check","--verbose","-vvplinode","--strict","--"]
    (∃ invocation, read thrice = .ok invocation) ∧
      (outcome around (some "off") thrice).report = (outcome around none once).report ∧
      (outcome around (some "off") thrice).requests = (outcome around none once).requests ∧
      (outcome around none once).log.Sublist (outcome around none thrice).log := by
  intro around once thrice
  have hread : read once = .ok ⟨none,1,.check [.linode] true⟩ := by decide +kernel
  have honce : Spells once [.flag .verbose] .check [.value .provider "linode",.flag .strict] := by
    have hflag : FlagLetters .front ['v'] [.verbose] := .cons rfl .nil
    have hnone : FlagLetters .check [] [] := .nil
    exact ⟨["-v"],"check",_,rfl,rfl,.letters rfl hflag .nothing,_,
      .lettersApart rfl hnone rfl rfl (.flag rfl rfl .nothing),.inl rfl⟩
  have hthrice : Spells thrice [] .check
      [.flag .verbose,.flag .verbose,.flag .verbose,.value .provider "linode",.flag .strict] := by
    have hflags : FlagLetters .check ['v','v'] [.verbose,.verbose] := .cons rfl (.cons rfl .nil)
    have hcluster : Writes .check ["-vvplinode","--strict"]
        ([Flag.verbose,.verbose].map .flag++.value .provider (Entries.attached "linode".toList) :: [.flag .strict]) :=
      .lettersJoined rfl hflags rfl (by decide) (.flag rfl rfl .nothing)
    exact ⟨[],"check",_,rfl,rfl,.nothing,_,.flag rfl rfl hcluster,.inr rfl⟩
  obtain ⟨haccepted,hsame,hlog⟩ := (logging_without_effect around).2 _ _ _ _ _ _ _ _ honce hthrice rfl rfl hread
  exact ⟨haccepted,(hsame none (some "off")).1,(hsame none (some "off")).2,hlog (.inl rfl) (by decide) none⟩

end Program

end RegionAudit
