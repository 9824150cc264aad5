import Mathlib.Data.List.Forall2
import Mathlib.Tactic.Common
import RegionAudit.CommandLine

/-! How command lines are written. Every spelling of an option stands for a choice, and an accepted command line is one
that spells choices which can be made one after another, before a command and after it. -/
namespace RegionAudit.CommandLine

open Entries

/-! ### Choices -/

/-- What an option is written for: a flag, or the value of an option. -/
inductive Choice
  | flag (f : Flag)
  | value (o : ValueOption) (text : String)
  deriving DecidableEq

def Choice.make (place : Place) (e : Entries) : Choice → Except Stop Entries
  | .flag f => e.raise place f
  | .value o text => e.accept o text

def enter (place : Place) (e : Entries) (cs : List Choice) : Except Stop Entries :=
  cs.foldlM (Choice.make place) e

section Enter

variable {place : Place} {e e' : Entries} {c : Choice} {cs ds : List Choice}

@[simp] theorem enter_nil : enter place e [] = .ok e := rfl

@[simp] theorem enter_cons : enter place e (c :: cs) = c.make place e >>= (enter place · cs) := rfl

theorem enter_append : enter place e (cs++ds) = enter place e cs >>= (enter place · ds) :=
  List.foldlM_append

theorem enter_one : enter place e [c] = c.make place e :=
  bind_pure _

theorem enter_concat {s : Entries} (hs : enter place e cs = .ok s) (h : c.make place s = .ok e') :
    enter place e (cs++[c]) = .ok e' := by
  rw [enter_append,hs]
  exact enter_one.trans h

theorem bind_eq_ok_iff {α β : Type} {x : Except Stop α} {f : α → Except Stop β} {b : β} :
    x >>= f = .ok b ↔ ∃ a, x = .ok a ∧ f a = .ok b := by
  cases x with
  | error s => exact ⟨nofun,nofun⟩
  | ok a => exact ⟨fun h => ⟨a,rfl,h⟩,fun ⟨_,h,hb⟩ => by cases h; exact hb⟩

theorem bind_ok_congr {α β : Type} {x : Except Stop α} {f g : α → Except Stop β} {b : β}
    (h : ∀ a, x = .ok a → (f a = .ok b ↔ g a = .ok b)) : x >>= f = .ok b ↔ x >>= g = .ok b := by
  rw [bind_eq_ok_iff,bind_eq_ok_iff]
  exact exists_congr fun a => and_congr_right (h a)

theorem settle_of_pending (h : e.pending = none) : e.settle = .ok e := by
  rw [settle,h]

theorem pending_accept {o : ValueOption} {text : String} (h : e.accept o text = .ok e') :
    e'.pending = e.pending := by
  unfold accept at h
  cases o with
  | config =>
    dsimp only at h
    split at h
    · cases h
    · split at h
      · cases h
      · cases h
        rfl
  | provider =>
    dsimp only at h
    split at h
    · cases h
      rfl
    · cases h

theorem pending_settle (h : e.settle = .ok e') : e'.pending = none := by
  unfold settle at h
  split at h
  · rename_i hnone
    cases h
    exact hnone
  · cases h
  · exact pending_accept h

theorem pending_raise {f : Flag} (h : e.raise place f = .ok e') : e'.pending = none := by
  obtain ⟨s,hs,h⟩ := bind_eq_ok_iff.mp h
  have hnone := pending_settle hs
  cases f with
  | verbose =>
    cases h
    exact hnone
  | strict =>
    dsimp only at h
    split at h
    · cases h
    · cases h
      exact hnone
  | help => cases h

theorem pending_make (hp : e.pending = none) (h : c.make place e = .ok e') : e'.pending = none := by
  cases c with
  | flag f => exact pending_raise h
  | value o text => exact (pending_accept h).trans hp

theorem pending_enter (hp : e.pending = none) (h : enter place e cs = .ok e') : e'.pending = none := by
  induction cs generalizing e with
  | nil =>
    cases h
    exact hp
  | cons c cs ih =>
    obtain ⟨s,hs,h⟩ := bind_eq_ok_iff.mp h
    exact ih (pending_make hp hs) h

end Enter

/-! ### Spellings -/

def FlagLetters (place : Place) (letters : List Char) (fs : List Flag) : Prop :=
  List.Forall₂ (fun c f => place.short? c = some (.flag f)) letters fs

/-- Arguments that write choices in a place, by long names or by letters. The value of an option is joined to it, or is
the next argument. -/
inductive Writes (place : Place) : List String → List Choice → Prop
  | nothing : Writes place [] []
  | flag {a name : String} {f : Flag} {args : List String} {cs : List Choice} (form : shape a = .long name none)
      (names : place.long? name = some (.flag f)) (rest : Writes place args cs) :
      Writes place (a :: args) (.flag f :: cs)
  | joined {a name text : String} {o : ValueOption} {args : List String} {cs : List Choice}
      (form : shape a = .long name (some text)) (names : place.long? name = some (.value o))
      (rest : Writes place args cs) : Writes place (a :: args) (.value o text :: cs)
  | apart {a name text : String} {o : ValueOption} {args : List String} {cs : List Choice}
      (form : shape a = .long name none) (names : place.long? name = some (.value o)) (word : shape text = .word)
      (rest : Writes place args cs) : Writes place (a :: text :: args) (.value o text :: cs)
  | letters {a : String} {letters : List Char} {fs : List Flag} {args : List String} {cs : List Choice}
      (form : shape a = .short letters) (flags : FlagLetters place letters fs) (rest : Writes place args cs) :
      Writes place (a :: args) (fs.map .flag++cs)
  | lettersJoined {a : String} {letters tail : List Char} {c : Char} {fs : List Flag} {o : ValueOption}
      {args : List String} {cs : List Choice} (form : shape a = .short (letters++c :: tail))
      (flags : FlagLetters place letters fs) (names : place.short? c = some (.value o)) (more : tail ≠ [])
      (rest : Writes place args cs) : Writes place (a :: args) (fs.map .flag++.value o (attached tail) :: cs)
  | lettersApart {a text : String} {letters : List Char} {c : Char} {fs : List Flag} {o : ValueOption}
      {args : List String} {cs : List Choice} (form : shape a = .short (letters++[c]))
      (flags : FlagLetters place letters fs) (names : place.short? c = some (.value o)) (word : shape text = .word)
      (rest : Writes place args cs) : Writes place (a :: text :: args) (fs.map .flag++.value o text :: cs)

/-! ### One argument -/

section Take

variable {place : Place} {e e' : Entries}

theorem settle_idem (h : e.settle = .ok e') : e'.settle = .ok e' :=
  settle_of_pending (pending_settle h)

theorem awaited?_of_pending (h : e.pending = none) : e.awaited? = none := by
  rw [awaited?,h]

theorem settle_ne_ok_of_awaited {o : ValueOption} (h : e.awaited? = some o) : e.settle ≠ .ok e' := by
  rw [awaited?] at h
  split at h
  · rename_i hpending
    rw [settle,hpending]
    nofun
  · cases h

/-- What goes well just if it does so after what was entered is settled. -/
def SettlesFirst {α : Type} (g : Entries → Except Stop α) (e : Entries) : Prop :=
  ∀ a, g e = .ok a ↔ ∃ s, e.settle = .ok s ∧ g s = .ok a

section SettlesFirst

variable {α β : Type} {g : Entries → Except Stop α}

theorem settlesFirst_settle (f : Entries → Except Stop α) : SettlesFirst (fun e => e.settle >>= f) e := by
  intro a
  rw [bind_eq_ok_iff]
  refine exists_congr fun s => and_congr_right fun hs => ?_
  show f s = .ok a ↔ s.settle >>= f = .ok a
  rw [settle_idem hs]
  rfl

theorem settlesFirst_self : SettlesFirst settle e := by
  simpa only [bind_pure] using settlesFirst_settle (e := e) pure

theorem settlesFirst_of_ne_ok (h : ∀ e a, g e ≠ .ok a) : SettlesFirst g e :=
  fun a => ⟨fun ha => absurd ha (h e a),fun ⟨s,_,ha⟩ => absurd ha (h s a)⟩

theorem settlesFirst_error {f : Entries → Stop} : SettlesFirst (fun e => (.error (f e) : Except Stop α)) e :=
  settlesFirst_of_ne_ok fun _ _ => nofun

theorem SettlesFirst.bind (h : SettlesFirst g e) (f : α → Except Stop β) :
    SettlesFirst (fun e => g e >>= f) e := by
  intro b
  simp only [bind_eq_ok_iff,h _]
  constructor
  · rintro ⟨a,⟨s,hs,ha⟩,hb⟩
    exact ⟨s,hs,a,ha,hb⟩
  · rintro ⟨s,hs,a,ha,hb⟩
    exact ⟨a,⟨s,hs,ha⟩,hb⟩

end SettlesFirst

theorem settlesFirst_takeLong (name : String) (value : Option String) :
    SettlesFirst (takeLong · place name value) e := by
  unfold takeLong
  split
  · exact settlesFirst_error
  · exact settlesFirst_settle _
  · exact settlesFirst_settle _
  · exact settlesFirst_error
  · exact settlesFirst_settle _

theorem settlesFirst_takeShort {letters : List Char} (hmore : letters ≠ []) :
    SettlesFirst (takeShort · place letters) e := by
  obtain ⟨c,cs,rfl⟩ := List.exists_cons_of_ne_nil hmore
  unfold takeShort
  split
  · exact settlesFirst_error
  · exact (settlesFirst_settle _).bind _
  · split
    · exact settlesFirst_settle _
    · exact settlesFirst_settle _

def Entries.awaiting (e : Entries) (o : ValueOption) : Entries :=
  { e with pending := some (o,none) }

@[simp] theorem awaited?_awaiting (e : Entries) (o : ValueOption) : (e.awaiting o).awaited? = some o := rfl

theorem await_of_pending (o : ValueOption) (h : e.pending = none) : e.await o = .ok (e.awaiting o) := by
  rw [await,settle_of_pending h]
  rfl

theorem attach_of_pending (o : ValueOption) (text : String) (h : e.pending = none) :
    e.attach o text = e.accept o text := by
  rw [attach,settle_of_pending h]
  rfl

theorem settle_supply (o : ValueOption) (text : String) (h : e.pending = none) :
    ((e.awaiting o).supply o text).settle = e.accept o text := by
  have hsame : { e with pending := none } = e := by rw [← h]
  rw [← hsame]
  rfl

@[simp] theorem awaited?_supply (e : Entries) (o : ValueOption) (text : String) :
    (e.supply o text).awaited? = none := rfl

theorem takeLong_flag {name : String} {f : Flag} (names : place.long? name = some (.flag f)) :
    e.takeLong place name none = e.raise place f := by
  simp only [takeLong,names]

theorem takeLong_joined {name text : String} {o : ValueOption} (names : place.long? name = some (.value o))
    (hp : e.pending = none) : e.takeLong place name (some text) = e.accept o text := by
  simp only [takeLong,names,attach_of_pending o text hp]

theorem takeLong_apart {name : String} {o : ValueOption} (names : place.long? name = some (.value o))
    (hp : e.pending = none) : e.takeLong place name none = .ok (e.awaiting o) := by
  simp only [takeLong,names,await_of_pending o hp]

theorem takeLong_cases {name : String} {value : Option String} (hp : e.pending = none)
    (h : e.takeLong place name value = .ok e') :
    (∃ f, value = none ∧ place.long? name = some (.flag f) ∧ e.raise place f = .ok e') ∨
    (∃ o text, value = some text ∧ place.long? name = some (.value o) ∧ e.accept o text = .ok e') ∨
    (∃ o, value = none ∧ place.long? name = some (.value o) ∧ e' = e.awaiting o) := by
  unfold takeLong at h
  split at h
  · cases h
  · rename_i o text hname
    rw [attach_of_pending o text hp] at h
    exact .inr (.inl ⟨o,text,rfl,hname,h⟩)
  · rename_i o hname
    rw [await_of_pending o hp] at h
    exact .inr (.inr ⟨o,rfl,hname,(Except.ok.inj h).symm⟩)
  · cases h
  · rename_i f hname
    exact .inl ⟨f,rfl,hname,h⟩

theorem takeShort_joined {c : Char} {tail : List Char} {o : ValueOption} (names : place.short? c = some (.value o))
    (more : tail ≠ []) (hp : e.pending = none) :
    e.takeShort place (c :: tail) = e.accept o (attached tail) := by
  have hmore : tail.isEmpty = false := by simp [more]
  simp only [takeShort,names,hmore,attach_of_pending o _ hp,Bool.false_eq_true,if_false]

theorem takeShort_apart {c : Char} {o : ValueOption} (names : place.short? c = some (.value o))
    (hp : e.pending = none) : e.takeShort place [c] = .ok (e.awaiting o) := by
  simp only [takeShort,names,List.isEmpty_nil,if_true,await_of_pending o hp]

theorem takeShort_flags {letters : List Char} {fs : List Flag} (flags : FlagLetters place letters fs)
    (more : List Char) :
    e.takeShort place (letters++more) = enter place e (fs.map .flag) >>= (takeShort · place more) := by
  induction flags generalizing e with
  | nil => rfl
  | @cons c f _ _ hc _ ih =>
    simp only [List.cons_append,takeShort,hc,List.map_cons,enter_cons,bind_assoc]
    exact congrArg (e.raise place f >>= ·) (funext fun _ => ih)

theorem takeShort_only_flags {letters : List Char} {fs : List Flag} (flags : FlagLetters place letters fs) :
    e.takeShort place letters = enter place e (fs.map .flag) := by
  have hend := takeShort_flags (e := e) flags []
  rw [List.append_nil] at hend
  exact hend.trans (bind_pure _)

/-- Letters are those of flags, and after them perhaps that of an option with a value, which either follows at once
or is waited for. -/
theorem takeShort_cases {letters : List Char} (hp : e.pending = none) (h : e.takeShort place letters = .ok e') :
    ∃ ls fs more s, letters = ls++more ∧ FlagLetters place ls fs ∧ enter place e (fs.map .flag) = .ok s ∧
      (more = [] ∧ e' = s ∨
        ∃ c tail o, more = c :: tail ∧ place.short? c = some (.value o) ∧
          (tail ≠ [] ∧ s.accept o (attached tail) = .ok e' ∨ tail = [] ∧ e' = s.awaiting o)) := by
  induction letters generalizing e with
  | nil => exact ⟨[],[],[],e,rfl,.nil,rfl,.inl ⟨rfl,(Except.ok.inj h).symm⟩⟩
  | cons c cs ih =>
    unfold takeShort at h
    split at h
    · cases h
    · rename_i f hc
      obtain ⟨d,hd,h⟩ := bind_eq_ok_iff.mp h
      obtain ⟨ls,fs,more,s,rfl,flags,hs,hmore⟩ := ih (pending_raise hd) h
      exact ⟨c :: ls,f :: fs,more,s,rfl,.cons hc flags,bind_eq_ok_iff.mpr ⟨d,hd,hs⟩,hmore⟩
    · rename_i o hc
      refine ⟨[],[],c :: cs,e,rfl,.nil,rfl,.inr ⟨c,cs,o,rfl,hc,?_⟩⟩
      split at h
      · rename_i hnone
        rw [await_of_pending o hp] at h
        exact .inr ⟨List.isEmpty_iff.mp hnone,(Except.ok.inj h).symm⟩
      · rename_i hmore
        rw [attach_of_pending o _ hp] at h
        exact .inl ⟨fun hnone => hmore (List.isEmpty_iff.mpr hnone),h⟩

end Take

end RegionAudit.CommandLine
