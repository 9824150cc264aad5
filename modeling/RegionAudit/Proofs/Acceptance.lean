import RegionAudit.Program
import RegionAudit.Proofs.Requests

/-! What has to be accepted before anything is asked: the arguments, then the settings, then the client that they
ask for. Each of the three can fail, and the first one that does decides how the run ends, before any request. -/
namespace RegionAudit

open Run

/-! ### Loading settings -/

namespace Settings

/-- Whatever fails, the network is not to blame. -/
def Local {α : Type} (x : Except Failure α) : Prop :=
  ∀ f, x = .error f → f.isNetwork = false

section Local

variable {α β : Type}

theorem local_ok (a : α) : Local (.ok a : Except Failure α) :=
  fun _ h => nomatch h

theorem local_error {f : Failure} (h : f.isNetwork = false) : Local (.error f : Except Failure α) :=
  fun _ hf => by cases hf; exact h

theorem local_bind {x : Except Failure α} {f : α → Except Failure β} (hx : Local x)
    (hf : ∀ a, Local (f a)) : Local (x >>= f) := by
  cases x with
  | error e => exact local_error (hx e rfl)
  | ok a => exact hf a

theorem local_override {value : Option String} {read : String → Except Failure α} {default : α}
    (h : ∀ v, Local (read v)) : Local (override value read default) := by
  cases value with
  | none => exact local_ok default
  | some v => exact h v

end Local

theorem local_timeoutOf (value : String) : Local (timeoutOf value) := by
  unfold timeoutOf
  split
  · exact local_error rfl
  · exact local_error rfl
  · exact local_ok _

theorem local_endpointOf (p : Provider) (value : String) : Local (endpointOf p value) := by
  simp only [endpointOf]
  split
  · exact local_ok _
  · exact local_error rfl

theorem local_ofIni (ini : Ini) : Local (ofIni ini) := by
  have hendpoint : ∀ p, Local (endpointIn ini p) := fun p => local_override (local_endpointOf p)
  refine local_bind (local_override local_timeoutOf) fun _ => ?_
  refine local_bind (local_override fun _ => local_ok _) fun _ => ?_
  refine local_bind (hendpoint .digitalocean) fun _ => ?_
  refine local_bind (hendpoint .linode) fun _ => ?_
  exact local_bind (hendpoint .dreamhost) fun _ => local_ok _

theorem ofText_quiet (text : List Char) : (ofText text).requests = [] ∧ Local (ofText text).result := by
  unfold ofText
  cases Ini.ofText text with
  | error f => exact ⟨rfl,local_error rfl⟩
  | ok ini => exact ⟨rfl,local_ofIni ini⟩

theorem loadFrom_quiet (files : Files) (isRequired : Bool) (path : String) :
    (loadFrom files isRequired path).requests = [] ∧ Local (loadFrom files isRequired path).result := by
  unfold loadFrom
  cases files path with
  | missing =>
    cases isRequired with
    | true => exact ⟨rfl,local_error rfl⟩
    | false => exact ⟨rfl,local_ok defaults⟩
  | belowFile => exact ⟨rfl,local_error rfl⟩
  | folder => exact ⟨rfl,local_error rfl⟩
  | unreadable reason => exact ⟨rfl,local_error rfl⟩
  | file bytes =>
    simp only [ofFile]
    cases Text.decode? bytes with
    | none => exact ⟨rfl,local_error rfl⟩
    | some text => exact ofText_quiet text

theorem load_quiet (files : Files) (home config : Option String) :
    (load files home config).requests = [] ∧ Local (load files home config).result := by
  unfold load
  cases config with
  | some path => exact loadFrom_quiet files true path
  | none =>
    cases home with
    | some home => exact loadFrom_quiet files false (defaultPath home)
    | none => exact ⟨rfl,local_error rfl⟩

end Settings

namespace Audit

section Run

variable {around : Surroundings} {invocation : Invocation}

theorem run_settings_refused {f : Failure}
    (h : (Settings.load around.files around.home invocation.config).result = .error f) :
    (run around invocation).requests = [] ∧ (run around invocation).result = refusal f := by
  refine ⟨?_,run_without_settings around _ invocation.verbosity invocation.command h⟩
  have hquiet := (Settings.load_quiet around.files around.home invocation.config).1
  simp only [run,requests_bind,hquiet,h,requests_pure,List.append_nil]

theorem run_sources_refused {s : Settings} {f : Failure}
    (hs : (Settings.load around.files around.home invocation.config).result = .ok s)
    (h : sources s around.remote invocation.command.selection = .error f) :
    (run around invocation).requests = [] ∧ (run around invocation).result = refusal f := by
  have hobey := obey_without_sources invocation.command h
  have hquiet := (Settings.load_quiet around.files around.home invocation.config).1
  constructor
  · simp only [run,requests_bind,hquiet,hs,requests_tell,hobey,requests_pure,List.append_nil]
  · rw [show (run around invocation).result = (obey s around.remote invocation.command).result from
      run_with_settings around _ invocation.verbosity invocation.command hs,hobey]
    rfl

theorem sources_error {s : Settings} {remote : Remote} {selection : List Provider} {f : Failure}
    (h : sources s remote selection = .error f) : f = .noClient "builder error" := by
  obtain ⟨-,hclient⟩ | ⟨-,hclient⟩ := Client.ofSettings_cases s
  · rw [sources_of_no_client remote selection hclient] at h
    cases h
    rfl
  · rw [sources_of_client remote selection hclient] at h
    cases h

end Run

end Audit

namespace Program

variable {around : Surroundings} {arguments : List String} {invocation : Invocation}

theorem run_of_invocation (h : CommandLine.read arguments = .ok invocation) :
    run around arguments = Audit.run around invocation := by
  simp only [run,h]

theorem run_of_stop {s : CommandLine.Stop} (h : CommandLine.read arguments = .error s) :
    run around arguments = pure (answer s) := by
  simp only [run,h]

theorem answer_misuse (m : CommandLine.Misuse) : ∃ more, answer (.misuse m) = ⟨2,[],m.message :: more⟩ := by
  cases m <;> exact ⟨_,rfl⟩

/-- Nobody is asked before all is accepted: the arguments, the settings and the client. The first of them that is
not decides the run, whatever is wrong with those after it: the run makes no request and prints nothing, and either
the arguments are what it complains of and it exits with 2, or it has one complaint and exits with 1. -/
theorem nothing_asked_before_acceptance (around : Surroundings) (arguments : List String) :
    let done := run around arguments
    (∀ m, CommandLine.read arguments = .error (.misuse m) →
      done.requests = [] ∧ ∃ more, done.result = ⟨2,[],m.message :: more⟩) ∧
    (∀ invocation f, CommandLine.read arguments = .ok invocation →
      (Settings.load around.files around.home invocation.config).result = .error f →
      done.requests = [] ∧ done.result = ⟨1,[],["error: " ++ f.message]⟩ ∧ f.isNetwork = false) ∧
    (∀ invocation s f, CommandLine.read arguments = .ok invocation →
      (Settings.load around.files around.home invocation.config).result = .ok s →
      Audit.sources s around.remote invocation.command.selection = .error f →
      done.requests = [] ∧ done.result = ⟨1,[],["error: " ++ f.message]⟩ ∧ f = .noClient "builder error") ∧
    (done.requests ≠ [] → ∃ invocation s asked, CommandLine.read arguments = .ok invocation ∧
      (Settings.load around.files around.home invocation.config).result = .ok s ∧
      Audit.sources s around.remote invocation.command.selection = .ok asked) := by
  intro done
  refine ⟨fun m h => ?_,fun invocation f h hf => ?_,fun invocation s f h hs hf => ?_,fun hrequests => ?_⟩
  · have hdone : done = pure (answer (.misuse m)) := run_of_stop h
    rw [hdone]
    exact ⟨rfl,answer_misuse m⟩
  · have hdone : done = Audit.run around invocation := run_of_invocation h
    obtain ⟨hnone,hresult⟩ := Audit.run_settings_refused hf
    rw [hdone]
    exact ⟨hnone,hresult,(Settings.load_quiet _ _ _).2 f hf⟩
  · have hdone : done = Audit.run around invocation := run_of_invocation h
    obtain ⟨hnone,hresult⟩ := Audit.run_sources_refused hs hf
    rw [hdone]
    exact ⟨hnone,hresult,Audit.sources_error hf⟩
  · cases h : CommandLine.read arguments with
    | error stop =>
      have hdone : done = pure (answer stop) := run_of_stop h
      exact absurd (hdone ▸ rfl) hrequests
    | ok invocation =>
      have hdone : done = Audit.run around invocation := run_of_invocation h
      rw [hdone] at hrequests
      cases hs : (Settings.load around.files around.home invocation.config).result with
      | error f => exact absurd (Audit.run_settings_refused hs).1 hrequests
      | ok s =>
        cases hasked : Audit.sources s around.remote invocation.command.selection with
        | error f => exact absurd (Audit.run_sources_refused hs hasked).1 hrequests
        | ok asked => exact ⟨invocation,s,asked,rfl,hs,hasked⟩

/-- A settings file with a name that holds a control character, and with an address of a provider. -/
def illNamedFile (address : String) : List Nat :=
  ("user_agent=a\x01b\n[dreamhost]\nurl=" ++ address).toList.map Char.toNat

/-- With such a name and an address that is none, wrong arguments come first; then the address, though another
provider is selected; and only where the address is right, the name. -/
theorem nothing_asked_before_acceptance_ill_named :
    let around (address : String) : Surroundings :=
      ⟨some "/home",fun _ => .file (illNamedFile address),fun _ _ => .silent⟩
    (run (around "ftp://d/") ["list","--strict"]).result.exitCode = 2 ∧
      (run (around "ftp://d/") ["list","-p","linode"]).result =
        ⟨1,[],["error: invalid value for dreamhost.url: \u0060ftp://d/\u0060 is not an http(s) URL"]⟩ ∧
      (run (around "http://d/") ["list","-p","linode"]).result =
        ⟨1,[],["error: http client could not be built: builder error"]⟩ := by
  intro around
  have hwrong : CommandLine.read ["list","--strict"] =
    .error (.misuse (.unexpectedArgument "--strict")) := by decide +kernel
  have hright : CommandLine.read ["list","-p","linode"] = .ok ⟨none,0,.list [.linode]⟩ := by decide +kernel
  have haddress : (Settings.load (around "ftp://d/").files (some "/home") none).result =
    .error (.invalidValue "dreamhost.url" "\u0060ftp://d/\u0060 is not an http(s) URL") := by decide +kernel
  have hname : ∃ s, (Settings.load (around "http://d/").files (some "/home") none).result = .ok s ∧
      Client.ofSettings s = .error (.noClient "builder error") := by
    refine ⟨{ Settings.defaults with userAgent := "a\x01b", dreamhostUrl := "http://d/" },?_,?_⟩ <;>
      decide +kernel
  obtain ⟨s,hs,hclient⟩ := hname
  obtain ⟨-,more,hmisuse⟩ := (nothing_asked_before_acceptance (around "ftp://d/") _).1 _ hwrong
  obtain ⟨-,hsettings,-⟩ := (nothing_asked_before_acceptance (around "ftp://d/") _).2.1 _ _ hright haddress
  obtain ⟨-,hsources,-⟩ := (nothing_asked_before_acceptance (around "http://d/") _).2.2.1 _ s _ hright hs
    (Audit.sources_of_no_client (around "http://d/").remote [.linode] hclient)
  exact ⟨by rw [hmisuse],hsettings,hsources⟩

end Program

end RegionAudit
