import Mathlib.Data.List.Basic
import RegionAudit.Proofs.Survey

/-! Lookups that are under way at the same time. In every step one lookup that has not ended tells an event,
makes a request, or ends with a result of its own; which lookup it is and what it does is left open. However
the steps of the lookups are interleaved, the entries of the survey are those of asking one after another. -/
namespace RegionAudit.Survey

open Run

/-- One of the lookups: what it has told and requested so far, and its result once it has ended. -/
structure Slot where
  provider : Provider
  events : List Event
  requests : List Request
  result? : Option (Except Failure (List Region))

/-- What a lookup may do next. -/
inductive Act
  | tell (e : Event)
  | send (r : Request)
  | finish (result : Except Failure (List Region))

/-- A step of the lookup in one place. -/
structure Move where
  place : Nat
  act : Act

/-- The lookups in the order of asking, and all that was told and requested in the order of time. -/
structure Progress where
  slots : List Slot
  events : List Event
  requests : List Request

namespace Act

def events (p : Provider) : Act → List Event
  | tell e => [e]
  | send _ => []
  | finish result => [lookupEvent p result]

def requests : Act → List Request
  | send r => [r]
  | _ => []

def result? : Act → Option (Except Failure (List Region))
  | finish result => some result
  | _ => none

end Act

namespace Slot

def start (p : Provider) : Slot :=
  ⟨p,[],[],none⟩

def after (s : Slot) : Act → Slot
  | .tell e => { s with events := s.events ++ [e] }
  | .send r => { s with requests := s.requests ++ [r] }
  | .finish result => { s with result? := some result }

/-- Everything that was told about a lookup; its end is told as well. -/
def told (s : Slot) : List Event :=
  s.events ++ s.result?.toList.map (lookupEvent s.provider)

def report? (s : Slot) : Option (Entry (List Region)) :=
  s.result?.map fun result => ⟨s.provider,result⟩

@[simp] theorem provider_after (s : Slot) (a : Act) : (s.after a).provider = s.provider := by
  cases a <;> rfl

theorem result?_after {s : Slot} (h : s.result? = none) (a : Act) :
    (s.after a).result? = a.result? := by
  cases a <;> first | exact h | rfl

theorem told_after {s : Slot} (h : s.result? = none) (a : Act) :
    (s.after a).told = s.told ++ a.events s.provider := by
  cases a <;> simp [told,after,Act.events,h]

theorem requests_after (s : Slot) (a : Act) : (s.after a).requests = s.requests ++ a.requests := by
  cases a <;> simp [after,Act.requests]

end Slot

namespace Progress

def start (ps : List Provider) : Progress :=
  ⟨ps.map Slot.start,[],[]⟩

/-- The entries of the survey, as soon as all lookups have ended. -/
def entries? (g : Progress) : Option (List (Entry (List Region))) :=
  g.slots.mapM Slot.report?

end Progress

/-- One step: a lookup that has not ended does something. -/
inductive Step : Progress → Move → Progress → Prop
  | act {g : Progress} {i : Nat} {s : Slot} (a : Act) (hplace : g.slots[i]? = some s)
      (hpending : s.result? = none) :
      Step g ⟨i,a⟩ ⟨g.slots.set i (s.after a),g.events ++ a.events s.provider,
        g.requests ++ a.requests⟩

inductive Steps (g : Progress) : List Move → Progress → Prop
  | refl : Steps g [] g
  | step {ms : List Move} {m : Move} {g' g'' : Progress} (hrun : Steps g ms g')
      (hstep : Step g' m g'') : Steps g (ms ++ [m]) g''

def ended (ms : List Move) (i : Nat) : List (Except Failure (List Region)) :=
  (ms.filter (·.place = i)).filterMap (·.act.result?)

theorem ended_concat (ms : List Move) (m : Move) (i : Nat) :
    ended (ms ++ [m]) i = ended ms i ++ if m.place = i then m.act.result?.toList else [] := by
  by_cases h : m.place = i
  · cases hr : m.act.result? <;> simp [ended,h,hr]
  · simp [ended,h]

/-! ### What every run keeps -/

/-- What holds after the moves `ms` of lookups about `ps`. -/
structure Invariant (ps : List Provider) (ms : List Move) (g : Progress) : Prop where
  providers : g.slots.map (·.provider) = ps
  /-- A lookup ends once, and keeps the result with which it ended. -/
  results : ∀ i s, g.slots[i]? = some s → ended ms i = s.result?.toList
  events : g.events.Perm (g.slots.flatMap Slot.told)
  requests : g.requests.Perm (g.slots.flatMap Slot.requests)

theorem flatMap_set_perm {α β : Type} {f : α → List β} {xs : List α} {i : Nat} {x y : α}
    {zs : List β} (hx : xs[i]? = some x) (hy : f y = f x ++ zs) :
    ((xs.set i y).flatMap f).Perm (xs.flatMap f ++ zs) := by
  induction xs generalizing i with
  | nil => cases hx
  | cons a as ih =>
    cases i with
    | zero =>
      cases hx
      rw [List.set_cons_zero,List.flatMap_cons,List.flatMap_cons,hy,List.append_assoc,
        List.append_assoc]
      exact List.perm_append_comm.append_left _
    | succ i =>
      rw [List.set_cons_succ,List.flatMap_cons,List.flatMap_cons,List.append_assoc]
      exact (ih hx).append_left _

theorem invariant_start (ps : List Provider) : Invariant ps [] (.start ps) where
  providers := by simp [Progress.start,Slot.start,Function.comp_def]
  results i s h := by
    obtain ⟨p,-,rfl⟩ := List.mem_map.mp (List.mem_of_getElem? h)
    rfl
  events := by simp [Progress.start,Slot.told,Slot.start,List.flatMap_map]
  requests := by simp [Progress.start,Slot.start,List.flatMap_map]

theorem Invariant.step {ps : List Provider} {ms : List Move} {m : Move} {g g' : Progress}
    (h : Invariant ps ms g) (hstep : Step g m g') : Invariant ps (ms ++ [m]) g' := by
  obtain ⟨a,hplace,hpending⟩ := hstep
  rename_i i s
  have hlt : i < g.slots.length := (List.getElem?_eq_some_iff.mp hplace).1
  refine ⟨?_,fun j t ht => ?_,?_,?_⟩
  · rw [List.map_set,Slot.provider_after,← h.providers]
    refine List.ext_getElem? fun j => ?_
    rw [List.getElem?_set]
    split
    · rename_i hij
      subst hij
      rw [List.length_map,if_pos hlt,List.getElem?_map,hplace]
      rfl
    · rfl
  · rw [ended_concat]
    by_cases hij : i = j
    · subst hij
      rw [List.getElem?_set_self hlt] at ht
      cases ht
      rw [h.results i s hplace,hpending,Slot.result?_after hpending,if_pos rfl]
      rfl
    · rw [List.getElem?_set_ne hij] at ht
      rw [h.results j t ht,if_neg hij,List.append_nil]
  · exact (h.events.append_right _).trans
      (flatMap_set_perm hplace (Slot.told_after hpending a)).symm
  · exact (h.requests.append_right _).trans
      (flatMap_set_perm hplace (Slot.requests_after s a)).symm

theorem invariant_steps {ps : List Provider} {ms : List Move} {g : Progress}
    (h : Steps (.start ps) ms g) : Invariant ps ms g := by
  induction h with
  | refl => exact invariant_start ps
  | step _ hstep ih => exact ih.step hstep

/-! ### What a survey gives -/

def compared (entries : List (Entry (List Region))) : List (Entry Drift) :=
  (each compare entries).result

theorem result_compare (e : Entry (List Region)) :
    (compare e).result = ⟨e.provider,e.result.map (drift e.provider)⟩ := by
  unfold compare
  cases h : e.result <;> rfl

theorem compared_eq (entries : List (Entry (List Region))) :
    compared entries = entries.map fun e => ⟨e.provider,e.result.map (drift e.provider)⟩ := by
  rw [compared,result_each]
  exact List.map_congr_left fun e _ => result_compare e

theorem map_eq_of_mapM_eq_some {α β : Type} {f : α → Option β} {xs : List α} {ys : List β}
    (h : xs.mapM f = some ys) : xs.map f = ys.map some := by
  induction xs generalizing ys with
  | nil =>
    cases h
    rfl
  | cons x xs ih =>
    simp only [List.mapM_cons,Option.bind_eq_bind,Option.bind_eq_some_iff,Option.pure_def,
      Option.some.injEq] at h
    obtain ⟨y,hy,zs,hzs,rfl⟩ := h
    rw [List.map_cons,List.map_cons,hy,ih hzs]

theorem mapM_isSome {α β : Type} {f : α → Option β} {xs : List α}
    (h : ∀ x ∈ xs, (f x).isSome = true) : ∃ ys, xs.mapM f = some ys := by
  induction xs with
  | nil => exact ⟨[],rfl⟩
  | cons x xs ih =>
    obtain ⟨y,hy⟩ := Option.isSome_iff_exists.mp (h x List.mem_cons_self)
    obtain ⟨ys,hys⟩ := ih fun z hz => h z (List.mem_cons_of_mem x hz)
    exact ⟨y :: ys,by simp [hy,hys]⟩

/-- Lookups that have ended are what asking one after another would have been. -/
theorem exists_sources {slots : List Slot} {entries : List (Entry (List Region))}
    (h : slots.map Slot.report? = entries.map some) :
    ∃ sources : List Source, sources.map (·.provider) = slots.map (·.provider) ∧
      sources.map listing = entries ∧
      (sources.flatMap fun s => (ask s).events) = slots.flatMap Slot.told ∧
      (sources.flatMap fun s => (ask s).requests) = slots.flatMap Slot.requests := by
  induction slots generalizing entries with
  | nil =>
    cases entries with
    | nil => exact ⟨[],rfl,rfl,rfl,rfl⟩
    | cons e es => cases h
  | cons s slots ih =>
    cases entries with
    | nil => cases h
    | cons e es =>
      obtain ⟨hs,hslots⟩ := List.cons.inj h
      obtain ⟨result,hresult,rfl⟩ := Option.map_eq_some_iff.mp hs
      obtain ⟨sources,hp,he,hev,hreq⟩ := ih hslots
      refine ⟨⟨s.provider,result,s.events,s.requests⟩ :: sources,?_,?_,?_,?_⟩
      · rw [List.map_cons,List.map_cons,hp]
      · rw [List.map_cons,he]
        rfl
      · rw [List.flatMap_cons,List.flatMap_cons,hev]
        simp [ask,Slot.told,hresult]
      · rw [List.flatMap_cons,List.flatMap_cons,hreq]
        simp [ask]

section Complete

variable {ps : List Provider} {ms : List Move} {g : Progress} {entries : List (Entry (List Region))}

/-- Every entry is made of the provider in its place and of the result with which that lookup ended. -/
theorem getElem?_entries (hrun : Steps (.start ps) ms g) (hdone : g.entries? = some entries) (i : Nat) :
    entries[i]? = ps[i]?.bind fun p => (ended ms i).head?.map fun result => ⟨p,result⟩ := by
  have hinv := invariant_steps hrun
  have hentries := congrArg (·[i]?) (map_eq_of_mapM_eq_some hdone)
  simp only [List.getElem?_map] at hentries
  rw [← hinv.providers,List.getElem?_map]
  cases hs : g.slots[i]? with
  | none =>
    rw [hs] at hentries
    exact Option.map_eq_none_iff.mp hentries.symm
  | some s =>
    rw [hs] at hentries
    obtain ⟨e,he,hsome⟩ := Option.map_eq_some_iff.mp hentries.symm
    obtain ⟨result,hresult,rfl⟩ := Option.map_eq_some_iff.mp hsome.symm
    rw [he,hinv.results i s hs,hresult]
    rfl

theorem length_entries (hrun : Steps (.start ps) ms g) (hdone : g.entries? = some entries) :
    entries.length = ps.length := by
  have hlen := congrArg List.length (map_eq_of_mapM_eq_some hdone)
  rw [List.length_map,List.length_map] at hlen
  rw [← (invariant_steps hrun).providers,List.length_map,hlen]

/-- In a run in which all lookups end, each of them ends once. -/
theorem exists_ended (hrun : Steps (.start ps) ms g) (hdone : g.entries? = some entries) {i : Nat}
    (hi : i < ps.length) : ∃ result, ended ms i = [result] := by
  have hinv := invariant_steps hrun
  have hlt : i < g.slots.length := by
    rw [← hinv.providers,List.length_map] at hi
    exact hi
  have hsome : (g.slots.map Slot.report?)[i]? = some (g.slots[i].report?) := by
    rw [List.getElem?_map,List.getElem?_eq_getElem hlt]
    rfl
  rw [map_eq_of_mapM_eq_some hdone,List.getElem?_map] at hsome
  obtain ⟨e,-,he⟩ := Option.map_eq_some_iff.mp hsome
  obtain ⟨result,hresult,-⟩ := Option.map_eq_some_iff.mp he.symm
  rw [hinv.results i _ (List.getElem?_eq_getElem hlt),hresult]
  exact ⟨result,rfl⟩

/-- However lookups are interleaved, the survey has one entry for each provider, in its place and with the
result of its own lookup, or what a check makes of that; asking one after another, with the same results,
gives the same entries and tells and requests the same things in some order; and if only one lookup ends
otherwise, only its entry is another. -/
theorem complete_steps_keep_places (hrun : Steps (.start ps) ms g) (hdone : g.entries? = some entries) :
    entries.length = ps.length ∧ (compared entries).length = ps.length ∧
    (∀ i p, ps[i]? = some p → ∃ result, ended ms i = [result] ∧ entries[i]? = some ⟨p,result⟩ ∧
      (compared entries)[i]? = some ⟨p,result.map fun live => Drift.between p.known live⟩) ∧
    (∃ sources : List Source, sources.map (·.provider) = ps ∧
      (list sources).result = entries ∧ (check sources).result = compared entries ∧
      g.events.Perm (list sources).events ∧ g.requests.Perm (list sources).requests) ∧
    ∀ j ms' g' entries', Steps (.start ps) ms' g' → g'.entries? = some entries' →
      (∀ i, i ≠ j → ended ms' i = ended ms i) →
      ∀ i, i ≠ j → entries'[i]? = entries[i]? ∧ (compared entries')[i]? = (compared entries)[i]? := by
  have hcompared : ∀ (es : List (Entry (List Region))) (i : Nat), (compared es)[i]? =
      es[i]?.map fun e => ⟨e.provider,e.result.map (drift e.provider)⟩ := fun es i => by
    rw [compared_eq,List.getElem?_map]
  refine ⟨length_entries hrun hdone,?_,fun i p hp => ?_,?_,?_⟩
  · rw [compared_eq,List.length_map,length_entries hrun hdone]
  · obtain ⟨result,hresult⟩ := exists_ended hrun hdone (List.getElem?_eq_some_iff.mp hp).1
    have hentry : entries[i]? = some ⟨p,result⟩ := by
      rw [getElem?_entries hrun hdone,hp,hresult]
      rfl
    refine ⟨result,hresult,hentry,?_⟩
    rw [hcompared,hentry]
    rfl
  · have hinv := invariant_steps hrun
    obtain ⟨sources,hp,he,hev,hreq⟩ := exists_sources (map_eq_of_mapM_eq_some hdone)
    refine ⟨sources,hp.trans hinv.providers,(list_result sources).trans he,?_,?_,?_⟩
    · rw [check,result_bind,list_result,he]
      rfl
    · rw [list,events_each,hev]
      exact hinv.events
    · rw [list,requests_each,hreq]
      exact hinv.requests
  · intro j ms' g' entries' hrun' hdone' hended i hi
    have hentry : entries'[i]? = entries[i]? := by
      rw [getElem?_entries hrun hdone,getElem?_entries hrun' hdone',hended i hi]
    exact ⟨hentry,by rw [hcompared,hcompared,hentry]⟩

end Complete

/-! ### Every order is possible -/

section Orders

variable (ps : List Provider) (results : Nat → Except Failure (List Region))

def endings (order : List Nat) : List Move :=
  order.map fun i => ⟨i,.finish (results i)⟩

theorem ended_endings (order : List Nat) (i : Nat) :
    ended (endings results order) i = (order.filter (· = i)).map results := by
  simp only [ended,endings,List.filter_map,List.filterMap_map,Function.comp_def,Act.result?,
    List.filterMap_eq_map']

theorem exists_steps_endings {order : List Nat} (hnodup : order.Nodup)
    (hlt : ∀ i ∈ order, i < ps.length) : ∃ g, Steps (.start ps) (endings results order) g := by
  induction order using List.reverseRecOn with
  | nil => exact ⟨_,.refl⟩
  | append_singleton order i ih =>
    obtain ⟨hbefore,-,hdisjoint⟩ := List.nodup_append.mp hnodup
    obtain ⟨g,hrun⟩ := ih hbefore fun j hj => hlt j (List.mem_append_left _ hj)
    have hinv := invariant_steps hrun
    have hi : i < g.slots.length := by
      have hi := hlt i (List.mem_append_right _ List.mem_cons_self)
      rw [← hinv.providers,List.length_map] at hi
      exact hi
    have hplace := List.getElem?_eq_getElem hi
    -- the lookup is still under way, as it has no place among those that have ended
    have hnone : ended (endings results order) i = [] := by
      have hfilter : order.filter (· = i) = [] := List.filter_eq_nil_iff.mpr fun j hj hji =>
        hdisjoint j hj i List.mem_cons_self (of_decide_eq_true hji)
      rw [ended_endings,hfilter]
      rfl
    have hpending : g.slots[i].result? = none := by
      rw [hinv.results i _ hplace] at hnone
      exact Option.toList_eq_nil_iff.mp hnone
    rw [endings,List.map_append]
    exact ⟨_,.step hrun (.act _ hplace hpending)⟩

/-- Lookups can end in any order and with any results. -/
theorem exists_complete_steps (order : List Nat) (h : order.Perm (List.range ps.length)) :
    ∃ g entries, Steps (.start ps) (endings results order) g ∧ g.entries? = some entries := by
  obtain ⟨g,hrun⟩ := exists_steps_endings ps results (h.nodup_iff.mpr List.nodup_range)
    fun i hi => List.mem_range.mp (h.mem_iff.mp hi)
  have hinv := invariant_steps hrun
  have hended : ∀ s ∈ g.slots, s.report?.isSome := by
    intro s hs
    obtain ⟨i,hi,rfl⟩ := List.mem_iff_getElem.mp hs
    have hended := hinv.results i _ (List.getElem?_eq_getElem hi)
    have hmem : i ∈ order := by
      rw [h.mem_iff,List.mem_range,← hinv.providers,List.length_map]
      exact hi
    rw [ended_endings] at hended
    cases hr : g.slots[i].result? with
    | some result => simp [Slot.report?,hr]
    | none =>
      rw [hr] at hended
      have hfilter : i ∈ order.filter (· = i) := List.mem_filter.mpr ⟨hmem,decide_eq_true rfl⟩
      rw [List.map_eq_nil_iff.mp hended] at hfilter
      exact absurd hfilter List.not_mem_nil
  obtain ⟨entries,hentries⟩ := mapM_isSome hended
  exact ⟨g,entries,hrun,hentries⟩

end Orders

def secondTimesOut (first : Except Failure (List Region)) (i : Nat) :
    Except Failure (List Region) :=
  if i = 0 then first else .error (.timedOut "https://api.example/")

theorem ended_secondTimesOut (first second : Except Failure (List Region)) {i : Nat} (hi : i ≠ 0) :
    ended (endings (secondTimesOut first) [0,1]) i =
      ended (endings (secondTimesOut second) [1,0]) i := by
  by_cases h : i = 1
  · subst h
    rfl
  · simp [ended_endings,Ne.symm hi,Ne.symm h]

/-- Two lookups about one provider, of which the second one fails before the first one ends. Its entry stays
in the second place, also if the first one fails. -/
theorem complete_steps_same_provider :
    ∃ g entries, Steps (.start [.linode,.linode])
        (endings (secondTimesOut (.ok [⟨"us-east-1"⟩])) [1,0]) g ∧ g.entries? = some entries ∧
      entries[0]? = some ⟨.linode,.ok [⟨"us-east-1"⟩]⟩ ∧
      entries[1]? = some ⟨.linode,.error (.timedOut "https://api.example/")⟩ ∧
      ∃ g' entries', Steps (.start [.linode,.linode])
          (endings (secondTimesOut (.error (.noRegions "https://api.example/"))) [0,1]) g' ∧
        g'.entries? = some entries' ∧ entries'[1]? = entries[1]? := by
  obtain ⟨g,entries,hrun,hdone⟩ := exists_complete_steps [.linode,.linode]
    (secondTimesOut (.ok [⟨"us-east-1"⟩])) [1,0] (by decide)
  obtain ⟨g',entries',hrun',hdone'⟩ := exists_complete_steps [.linode,.linode]
    (secondTimesOut (.error (.noRegions "https://api.example/"))) [0,1] (by decide)
  obtain ⟨-,-,hplaces,-,hother⟩ := complete_steps_keep_places hrun hdone
  obtain ⟨first,hfirst,hzero,-⟩ := hplaces 0 .linode rfl
  obtain ⟨second,hsecond,hone,-⟩ := hplaces 1 .linode rfl
  cases hfirst
  cases hsecond
  have hkept := hother 0 _ g' entries' hrun' hdone' (fun i hi => ended_secondTimesOut _ _ hi) 1
    (by decide)
  exact ⟨g,entries,hrun,hdone,hzero,hone,g',entries',hrun',hdone',hkept.1⟩

end RegionAudit.Survey
