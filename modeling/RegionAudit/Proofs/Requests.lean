import RegionAudit.Proofs.Agreement
import RegionAudit.Proofs.Exchange

/-! Who is asked where. An audit looks each selected provider up once, in the order in which the selection first
mentions them. The first request of a lookup goes to the endpoint that the settings have for that very provider,
and every other one to where the response before it sent the asker. -/
namespace RegionAudit

open Run

namespace Network

/-! ### The requests of an exchange -/

section Course

variable {remote : Remote} {client : Client} {first url : Url} {left n : Nat} {requests : List Request}
  {ending : Ending}

theorem Course.head?_eq_some_iff (h : Course remote client first left n url requests ending) {r : Request} :
    requests.head? = some r ↔ remote n ⟨url,client.userAgent⟩ ≠ .refused ∧ r = ⟨url,client.userAgent⟩ := by
  have hmade {reply : Reply} (h : replyAt remote client n url = reply) (hne : reply ≠ .refused) :
      remote n ⟨url,client.userAgent⟩ ≠ .refused := fun hrefused =>
    hne (h.symm.trans (replyTo_eq_refused_iff.mpr hrefused))
  cases h with
  | unconnected reply => simp [replyTo_eq_refused_iff.mp reply]
  | dropped reply | silent reply | settled reply | stopped reply | onward reply =>
    simp [hmade reply (by simp),eq_comm]

/-- Every other request goes, under the same name, to where the response before it sent the asker. -/
theorem Course.sentOn (h : Course remote client first left n url requests ending) {i : Nat} {r : Request}
    (hr : requests[i+1]? = some r) : r.userAgent = client.userAgent ∧ ∃ before response,
      requests[i]? = some before ∧ remote (n+i) before = .response response ∧
        response.target? before.url = some r.url := by
  induction h generalizing i with
  | unconnected | dropped | silent | settled | stopped => cases hr
  | @onward left n url target response requests ending reply leads web rest ih =>
    rw [List.getElem?_cons_succ] at hr
    cases i with
    | zero =>
      rw [← List.head?_eq_getElem?] at hr
      obtain ⟨-,rfl⟩ := rest.head?_eq_some_iff.mp hr
      exact ⟨rfl,_,response,rfl,remote_of_replyTo reply,leads⟩
    | succ i =>
      obtain ⟨hname,before,response',hbefore,hreply,htarget⟩ := ih hr
      rw [Nat.add_right_comm] at hreply
      exact ⟨hname,before,response',hbefore,hreply,htarget⟩

end Course

theorem events_follow (remote : Remote) (client : Client) (first url : Url) (left n : Nat) :
    (follow remote client first left n url).events = [] := by
  induction left generalizing n url with
  | zero =>
    rw [follow,events_bind,events_ask,List.nil_append]
    cases (ask remote n ⟨url,client.userAgent⟩).result with
    | response r => cases htarget : r.target? url <;> simp [htarget]
    | refused | dropped | silent => rfl
  | succ left ih =>
    rw [follow,events_bind,events_ask,List.nil_append]
    cases (ask remote n ⟨url,client.userAgent⟩).result with
    | response r =>
      cases htarget : r.target? url with
      | none => simp [htarget]
      | some target => cases hweb : target.isWeb <;> simp [htarget,hweb,ih]
    | refused | dropped | silent => rfl

/-- The requests of one who asks under a name at an address that is written as a text. The first one goes there, if
that can be requested and the connection is made, and otherwise there is none. Each of the others goes to where the
response before it sent the asker. -/
structure AsksAt (remote : Remote) (name text : String) (requests : List Request) : Prop where
  first : ∀ r, requests.head? = some r ↔ ∃ url, Url.ofText? text.toList = some url ∧ url.isWeb = true ∧
    remote 0 ⟨url,name⟩ ≠ .refused ∧ r = ⟨url,name⟩
  sentOn : ∀ i r, requests[i+1]? = some r → r.userAgent = name ∧
    ∃ before response, requests[i]? = some before ∧ remote i before = .response response ∧
      response.target? before.url = some r.url

theorem asksAt_nil {remote : Remote} {name text : String}
    (h : ∀ url, Url.ofText? text.toList = some url → url.isWeb = false) : AsksAt remote name text [] where
  first r := by
    constructor
    · intro hr
      cases hr
    · rintro ⟨url,hurl,hweb,-⟩
      rw [h url hurl] at hweb
      cases hweb
  sentOn i r hr := by cases hr

theorem asksAt_request (remote : Remote) (client : Client) (text : String) :
    AsksAt remote client.userAgent text (request remote client text).requests := by
  obtain ⟨hforeign,hnone,-⟩ | ⟨first,hfirst,hweb,hcourse⟩ := request_cases remote client text
  · rw [hnone]
    exact asksAt_nil hforeign
  · refine ⟨fun r => ?_,fun i r hr => by simpa using hcourse.sentOn hr⟩
    rw [hcourse.head?_eq_some_iff]
    simp [hfirst,hweb]

theorem events_request (remote : Remote) (client : Client) (text : String) :
    (request remote client text).events = [] := by
  unfold request
  cases Url.ofText? text.toList with
  | none => rfl
  | some url =>
    dsimp only
    split
    · exact events_follow remote client url url redirectLimit 0
    · rfl

end Network

/-! ### The requests of a lookup -/

section Lookup

variable (remote : Remote) (client : Client) (p : Provider) (url : String)

theorem requests_lookup : (lookup remote client p url).requests = (Network.request remote client url).requests := by
  have hread : ∀ answer, (readAnswer p url answer).requests = [] := by
    intro answer
    simp only [readAnswer,requests_bind]
    cases p <;> cases Listing.regions _ url answer <;> simp [tellAnswer]
  simp only [lookup,requests_bind,Network.requests_fetch]
  cases (Network.fetch remote client url).result with
  | ok answer => simp [hread]
  | error f => simp

def Event.begun? : Event → Option String
  | .fetching url => some url
  | _ => none

theorem begun_lookup : (lookup remote client p url).events.filterMap Event.begun? = [url] := by
  have hread : ∀ answer, (readAnswer p url answer).events.filterMap Event.begun? = [] := by
    intro answer
    simp only [readAnswer,events_bind]
    cases p <;> cases Listing.regions _ url answer <;> simp [tellAnswer,Event.begun?]
  have hfetch : (Network.fetch remote client url).events.filterMap Event.begun? = [url] := by
    simp only [Network.fetch,events_bind,events_tell,Network.events_request]
    cases Network.outcome url (Network.request remote client url).result <;> simp [Event.begun?]
  simp only [lookup,events_bind,List.filterMap_append,hfetch]
  cases (Network.fetch remote client url).result with
  | ok answer => simp [hread]
  | error f => simp

end Lookup

/-! ### The requests of an audit -/

namespace Survey

theorem requests_list (sources : List Source) :
    (list sources).requests = sources.flatMap (·.lookup.requests) := by
  simp [list,ask]

theorem begun_list (sources : List Source) :
    (list sources).events.filterMap Event.begun? =
      sources.flatMap fun s => s.lookup.events.filterMap Event.begun? := by
  have hask : ∀ s : Source, (ask s).events.filterMap Event.begun? = s.lookup.events.filterMap Event.begun? := by
    intro s
    simp only [ask,events_bind,List.filterMap_append]
    cases s.lookup.result <;> simp [lookupEvent,Event.begun?]
  simp only [list,events_each,List.filterMap_flatMap,hask]

theorem begun_check (sources : List Source) :
    (check sources).events.filterMap Event.begun? = (list sources).events.filterMap Event.begun? := by
  have hcompare : ∀ e, (compare e).events.filterMap Event.begun? = [] := by
    intro e
    unfold compare
    cases e.result <;> simp [Event.begun?]
  simp [check,List.filterMap_flatMap,hcompare]

end Survey

def Command.selection : Command → List Provider
  | .list selection => selection
  | .check selection _ => selection

def HasControl (name : String) : Prop :=
  ∃ c ∈ name.toList, (c.toNat < 0x20 ∨ c.toNat = 0x7f) ∧ c ≠ '\t'

namespace Client

theorem not_isNameChar_iff {c : Char} :
    isNameChar c = false ↔ (c.toNat < 0x20 ∨ c.toNat = 0x7f) ∧ c ≠ '\t' := by
  have hblank : ' ' ≤ c ↔ 0x20 ≤ c.toNat := Iff.rfl
  have hdelete : c = '\x7f' ↔ c.toNat = 0x7f := by
    rw [← Char.toNat_inj]
    rfl
  simp only [isNameChar,Bool.or_eq_false_iff,Bool.and_eq_false_imp,decide_eq_false_iff_not,
    decide_eq_true_eq,hblank,hdelete,not_not,and_comm (a := ¬ c = '\t')]
  exact and_congr_left fun _ => by omega

/-- A client can ask under any name without controls other than tabs, and under no other one. -/
theorem ofSettings_cases (s : Settings) :
    (HasControl s.userAgent ∧ ofSettings s = .error (.noClient "builder error")) ∨
      (¬ HasControl s.userAgent ∧ ofSettings s = .ok ⟨s.timeout,s.userAgent⟩) := by
  have hall : s.userAgent.toList.all isNameChar = false ↔ HasControl s.userAgent := by
    simp only [List.all_eq_false,Bool.not_eq_true,not_isNameChar_iff,HasControl]
  unfold ofSettings
  cases h : s.userAgent.toList.all isNameChar with
  | false => exact .inl ⟨hall.mp h,rfl⟩
  | true => exact .inr ⟨fun hc => by simp [hall.mpr hc] at h,rfl⟩

end Client

namespace Audit

/-- The first mentions of names in a selection, in their order. A selection without names mentions them all. -/
structure FirstMentions (selection names : List Provider) : Prop where
  all : selection = [] → names = [.digitalocean,.linode,.dreamhost]
  mem_iff : selection ≠ [] → ∀ p, p ∈ names ↔ p ∈ selection
  ordered : selection ≠ [] → names.Pairwise (selection.idxOf · < selection.idxOf ·)

theorem firstMentions_selected (selection : List Provider) :
    FirstMentions selection (selected selection) := by
  cases selection with
  | nil => exact ⟨fun _ => rfl,fun h => absurd rfl h,fun h => absurd rfl h⟩
  | cons p ps =>
    exact ⟨fun h => absurd h (List.cons_ne_nil p ps),fun _ _ => mem_distinct,
      fun _ => pairwise_distinct (p :: ps)⟩

/-- Where a request of an audit goes: to the endpoint of a provider that is asked, or to where the response to
another request of the same lookup led. -/
inductive Destination (s : Settings) (remote : Remote) (asked : List Source) (url : Url) : Prop
  | endpoint {a : Source} (mem : a ∈ asked) (eq : Url.ofText? (s.endpoint a.provider).toList = some url)
  | redirect {a : Source} (mem : a ∈ asked) {i : Nat} {before : Request} {response : Response}
      (sent : a.lookup.requests[i]? = some before) (reply : remote i before = .response response)
      (leads : response.target? before.url = some url)

section Obey

variable {s : Settings} {remote : Remote} {asked : List Source}

theorem obey_without_sources {f : Failure} (command : Command)
    (h : sources s remote command.selection = .error f) : obey s remote command = pure (refusal f) := by
  cases command <;> simp only [Command.selection] at h <;> simp only [obey,h]

theorem requests_obey_sources (command : Command) (h : sources s remote command.selection = .ok asked) :
    (obey s remote command).requests = asked.flatMap (·.lookup.requests) := by
  cases command <;> simp only [Command.selection] at h <;>
    simp only [obey,h,requests_map,Survey.requests_check,Survey.requests_list]

theorem begun_obey (command : Command) (h : sources s remote command.selection = .ok asked) :
    (obey s remote command).events.filterMap Event.begun? =
      asked.flatMap fun a => a.lookup.events.filterMap Event.begun? := by
  cases command <;> simp only [Command.selection] at h <;>
    simp only [obey,h,events_map,Survey.begun_check,Survey.begun_list]

/-- Of each lookup, the first request goes to the endpoint, and the others to where responses led. -/
theorem destination (hasked : ∀ a ∈ asked,
      Network.AsksAt remote s.userAgent (s.endpoint a.provider) a.lookup.requests)
    {r : Request} (hr : r ∈ asked.flatMap (·.lookup.requests)) : Destination s remote asked r.url := by
  obtain ⟨a,ha,hr⟩ := List.mem_flatMap.mp hr
  obtain ⟨i,hi⟩ := List.mem_iff_getElem?.mp hr
  cases i with
  | zero =>
    rw [← List.head?_eq_getElem?] at hi
    obtain ⟨url,hurl,-,-,rfl⟩ := ((hasked a ha).first r).mp hi
    exact .endpoint ha hurl
  | succ i =>
    obtain ⟨-,before,response,hbefore,hreply,hleads⟩ := (hasked a ha).sentOn i r hi
    exact .redirect ha hbefore hreply hleads

end Obey

/-- A command is carried out unless there is a control character other than a tab in the name under which to ask,
whatever is selected; then nobody is asked at all. Otherwise each provider that is selected is asked once, in the
order of the first mentions: one lookup begins, at the endpoint of that very provider, and its requests are made
under the name of the settings. Hence what is asked for at the endpoint of another provider is what is asked for at
the endpoint of a selected one as well, or where a response led. -/
theorem one_lookup_each (s : Settings) (remote : Remote) (command : Command) :
    let done := obey s remote command
    (HasControl s.userAgent ∧ sources s remote command.selection = .error (.noClient "builder error") ∧
      done.requests = [] ∧ done.events.filterMap Event.begun? = []) ∨
    (¬ HasControl s.userAgent ∧ ∃ asked, sources s remote command.selection = .ok asked ∧
      FirstMentions command.selection (asked.map (·.provider)) ∧
      done.requests = asked.flatMap (·.lookup.requests) ∧
      done.events.filterMap Event.begun? = asked.map (fun a => s.endpoint a.provider) ∧
      (∀ a ∈ asked, Network.AsksAt remote s.userAgent (s.endpoint a.provider) a.lookup.requests) ∧
      ∀ r ∈ done.requests, Destination s remote asked r.url) := by
  intro done
  obtain ⟨hcontrol,hclient⟩ | ⟨hcontrol,hclient⟩ := Client.ofSettings_cases s
  · have hsources := sources_of_no_client remote command.selection hclient
    have hdone : done = pure (refusal (.noClient "builder error")) := obey_without_sources command hsources
    rw [hdone]
    exact .inl ⟨hcontrol,hsources,rfl,rfl⟩
  · have hsources := sources_of_client remote command.selection hclient
    have hrequests := requests_obey_sources command hsources
    have hasks : ∀ a ∈ (selected command.selection).map fun p =>
          (⟨p,lookup remote ⟨s.timeout,s.userAgent⟩ p (s.endpoint p)⟩ : Source),
        Network.AsksAt remote s.userAgent (s.endpoint a.provider) a.lookup.requests := by
      intro a ha
      obtain ⟨p,-,rfl⟩ := List.mem_map.mp ha
      rw [requests_lookup]
      exact Network.asksAt_request remote ⟨s.timeout,s.userAgent⟩ (s.endpoint p)
    refine .inr ⟨hcontrol,_,hsources,?_,hrequests,?_,hasks,?_⟩
    · simpa [Function.comp_def] using firstMentions_selected command.selection
    · rw [begun_obey command hsources,List.flatMap_map,List.map_map]
      simp only [begun_lookup,Function.comp_def]
      exact List.flatMap_pure_eq_map _ _
    · intro r hr
      rw [hrequests] at hr
      exact destination hasks hr

end Audit

end RegionAudit
