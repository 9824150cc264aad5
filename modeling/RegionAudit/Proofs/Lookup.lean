import Mathlib.Tactic.Common
import RegionAudit.Lookup

/-! What a lookup gives. Whatever a remote side answers, it is regions, each once and at least one, or a
failure that names the address that was asked for: a failure of the network when no answer came through,
and a failure of the answer when there are no regions in it. -/
namespace RegionAudit

/-- The address that a failure names. -/
def Failure.url? : Failure → Option String
  | .requestFailed url _ | .unexpectedStatus url _ | .timedOut url => some url
  | .invalidJson url _ | .noRegions url => some url
  | _ => none

theorem Failure.not_isNetwork_of_isAnswer {f : Failure} (h : f.isAnswer = true) :
    f.isNetwork = false := by
  cases f <;> simp_all [isAnswer,isNetwork]

namespace Listing

/-- Whether an answer lists any regions, in its provider's own form. -/
def ListsRegions (p : Provider) (answer : List Char) : Prop :=
  match p with
  | .digitalocean => availabilityIds answer ≠ []
  | .linode => ∃ ids, clusterIds answer = .ok ids ∧ ids ≠ []
  | .dreamhost => hostIds answer ≠ []

theorem ofIds_eq_nil_iff {ids : List String} : Region.ofIds ids = [] ↔ ids = [] := by
  simp [Region.ofIds,distinct_eq_nil_iff]

theorem regionsOf_nil (url : String) : regionsOf url [] = .error (.noRegions url) := rfl

theorem regionsOf_of_ne_nil {ids : List String} (url : String) (h : ids ≠ []) :
    regionsOf url ids = .ok (Region.ofIds ids) := by
  have hne : Region.ofIds ids ≠ [] := fun he => h (ofIds_eq_nil_iff.mp he)
  unfold regionsOf
  split
  · rename_i he
    exact absurd he hne
  · rfl

theorem regions_of_lists {p : Provider} {answer : List Char} (url : String)
    (h : ListsRegions p answer) :
    ∃ rs, regions p url answer = .ok rs ∧ rs ≠ [] ∧ rs.Nodup := by
  have key : ∀ ids : List String, ids ≠ [] →
      ∃ rs, regionsOf url ids = .ok rs ∧ rs ≠ [] ∧ rs.Nodup := fun ids hne =>
    ⟨Region.ofIds ids,regionsOf_of_ne_nil url hne,fun he => hne (ofIds_eq_nil_iff.mp he),
      nodup_distinct _⟩
  cases p with
  | digitalocean => exact key _ h
  | linode =>
    obtain ⟨ids,hids,hne⟩ := h
    simpa only [regions,Listing.ids,hids] using key ids hne
  | dreamhost => exact key _ h

theorem regions_of_not_lists {p : Provider} {answer : List Char} (url : String)
    (h : ¬ ListsRegions p answer) :
    ∃ f, regions p url answer = .error f ∧ f.isAnswer = true ∧ f.url? = some url := by
  cases p with
  | digitalocean =>
    have he : availabilityIds answer = [] := not_not.mp h
    exact ⟨.noRegions url,by simp only [regions,ids,he,regionsOf_nil],rfl,rfl⟩
  | linode =>
    cases hc : clusterIds answer with
    | error f => exact ⟨.invalidJson url (f.message answer),by simp only [regions,ids,hc],rfl,rfl⟩
    | ok found =>
      have he : found = [] := by
        by_contra hne
        exact h ⟨found,hc,hne⟩
      exact ⟨.noRegions url,by simp only [regions,ids,hc,he,regionsOf_nil],rfl,rfl⟩
  | dreamhost =>
    have he : hostIds answer = [] := not_not.mp h
    exact ⟨.noRegions url,by simp only [regions,ids,he,regionsOf_nil],rfl,rfl⟩

theorem regions_ne_nil (p : Provider) (url : String) (answer : List Char) :
    regions p url answer ≠ .ok [] := by
  intro h
  by_cases hl : ListsRegions p answer
  · obtain ⟨rs,hrs,hne,-⟩ := regions_of_lists url hl
    exact hne (Except.ok.inj (hrs.symm.trans h))
  · obtain ⟨f,hf,-⟩ := regions_of_not_lists url hl
    cases hf.symm.trans h

end Listing

namespace Network

open Run

theorem fetch_result (remote : Remote) (client : Client) (url : String) :
    (fetch remote client url).result = outcome url (request remote client url).result := by
  simp only [fetch,result_bind]
  cases h : outcome url (request remote client url).result with
  | ok text => rfl
  | error f => rfl

/-- Whatever goes wrong on the way, the failure is the network's and names the first address. -/
theorem outcome_error {url : String} {e : Ending} {f : Failure} (h : outcome url e = .error f) :
    f.isNetwork = true ∧ f.url? = some url := by
  unfold outcome at h
  split at h
  · cases h; exact ⟨rfl,rfl⟩
  · cases h; exact ⟨rfl,rfl⟩
  · split at h
    · cases h; exact ⟨rfl,rfl⟩
    · split at h
      · cases h
      · cases h; exact ⟨rfl,rfl⟩

end Network

open Run

theorem lookup_result (remote : Remote) (client : Client) (p : Provider) (url : String) :
    (lookup remote client p url).result =
      (Network.fetch remote client url).result >>= Listing.regions p url := by
  have hread : ∀ answer, (readAnswer p url answer).result = Listing.regions p url answer := by
    intro answer
    simp only [readAnswer,result_bind]
    cases h : Listing.regions p url answer with
    | ok rs => rfl
    | error f => rfl
  simp only [lookup,result_bind]
  cases h : (Network.fetch remote client url).result with
  | ok answer => exact hread answer
  | error f => rfl

section Contract

variable (remote : Remote) (client : Client) (p : Provider) (url : String)

/-- The three ways of a lookup: nothing was fetched, what was fetched lists no regions, or it lists some. -/
theorem lookup_cases :
    (∃ f, (Network.fetch remote client url).result = .error f ∧
      (lookup remote client p url).result = .error f ∧ f.isNetwork = true ∧ f.url? = some url) ∨
    (∃ answer f, (Network.fetch remote client url).result = .ok answer ∧
      ¬ Listing.ListsRegions p answer ∧
      (lookup remote client p url).result = .error f ∧ f.isAnswer = true ∧ f.url? = some url) ∨
    ∃ answer rs, (Network.fetch remote client url).result = .ok answer ∧
      Listing.ListsRegions p answer ∧
      (lookup remote client p url).result = .ok rs ∧ rs ≠ [] ∧ rs.Nodup := by
  have hl := lookup_result remote client p url
  cases hf : (Network.fetch remote client url).result with
  | error f =>
    rw [hf] at hl
    rw [Network.fetch_result] at hf
    exact .inl ⟨f,rfl,hl,Network.outcome_error hf⟩
  | ok answer =>
    rw [hf] at hl
    by_cases hr : Listing.ListsRegions p answer
    · obtain ⟨rs,hrs,hne,hnd⟩ := Listing.regions_of_lists url hr
      exact .inr (.inr ⟨answer,rs,rfl,hr,hl.trans hrs,hne,hnd⟩)
    · obtain ⟨f,hfail,ha,hu⟩ := Listing.regions_of_not_lists url hr
      exact .inr (.inl ⟨answer,f,rfl,hr,hl.trans hfail,ha,hu⟩)

theorem lookup_isNetwork_iff :
    (∃ f, (lookup remote client p url).result = .error f ∧ f.isNetwork = true) ↔
      ∃ f, (Network.fetch remote client url).result = .error f := by
  obtain ⟨f,hf,hl,hn,-⟩ | ⟨answer,f,hf,-,hl,ha,-⟩ | ⟨answer,rs,hf,-,hl,-⟩ :=
    lookup_cases remote client p url
  · exact ⟨fun _ => ⟨f,hf⟩,fun _ => ⟨f,hl,hn⟩⟩
  · simp [hf,hl,Failure.not_isNetwork_of_isAnswer ha]
  · simp [hf,hl]

theorem lookup_isAnswer_iff :
    (∃ f, (lookup remote client p url).result = .error f ∧ f.isAnswer = true) ↔
      ∃ answer, (Network.fetch remote client url).result = .ok answer ∧
        ¬ Listing.ListsRegions p answer := by
  obtain ⟨f,hf,hl,hn,-⟩ | ⟨answer,f,hf,hr,hl,ha,-⟩ | ⟨answer,rs,hf,hr,hl,-⟩ :=
    lookup_cases remote client p url
  · have ha : f.isAnswer ≠ true := fun ha => by
      simp [Failure.not_isNetwork_of_isAnswer ha] at hn
    simp [hf,hl,ha]
  · exact ⟨fun _ => ⟨answer,hf,hr⟩,fun _ => ⟨f,hl,ha⟩⟩
  · simp [hf,hl,hr]

/-- A lookup gives regions, at least one and each once, or a failure that names its address. The failure is
the network's exactly when nothing was fetched, and the answer's exactly when what was fetched lists no
regions; and no answer at all gives an empty list. -/
theorem lookup_contract :
    ((∃ rs, (lookup remote client p url).result = .ok rs ∧ rs ≠ [] ∧ rs.Nodup) ∨
      ∃ f, (lookup remote client p url).result = .error f ∧ f.url? = some url ∧
        (f.isNetwork = true ∨ f.isAnswer = true)) ∧
    ((∃ f, (lookup remote client p url).result = .error f ∧ f.isNetwork = true) ↔
      ∃ f, (Network.fetch remote client url).result = .error f) ∧
    ((∃ f, (lookup remote client p url).result = .error f ∧ f.isAnswer = true) ↔
      ∃ answer, (Network.fetch remote client url).result = .ok answer ∧
        ¬ Listing.ListsRegions p answer) ∧
    ∀ answer, Listing.regions p url answer ≠ .ok [] := by
  refine ⟨?_,lookup_isNetwork_iff remote client p url,lookup_isAnswer_iff remote client p url,
    Listing.regions_ne_nil p url⟩
  obtain ⟨f,-,hl,hn,hu⟩ | ⟨answer,f,-,-,hl,ha,hu⟩ | ⟨answer,rs,-,-,hl,hne,hnd⟩ :=
    lookup_cases remote client p url
  · exact .inr ⟨f,hl,hu,.inl hn⟩
  · exact .inr ⟨f,hl,hu,.inr ha⟩
  · exact .inl ⟨rs,hl,hne,hnd⟩

end Contract

end RegionAudit
