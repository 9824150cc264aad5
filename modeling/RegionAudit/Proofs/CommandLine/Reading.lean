import RegionAudit.Proofs.CommandLine.Written

/-! What is read from a command line. The front of it and what follows the command are read in one way: options up to
the first argument that is none, then something that depends on the place. An accepted command line is therefore one
that is written as the grammar says, and it asks for what its choices make. -/
namespace RegionAudit.CommandLine

open Entries

/-! ### Shapes -/

theorem shape_eq_dashes {a : String} : shape a = .dashes ↔ a = "--" := by
  constructor
  · intro form
    unfold shape at form
    split at form
    · rename_i h
      exact String.toList_inj.mp h
    · unfold longShape at form
      split at form <;> cases form
    · cases form
    · cases form
    · cases form
  · rintro rfl
    rfl

theorem letters_ne_nil {a : String} {letters : List Char} (form : shape a = .short letters) : letters ≠ [] := by
  rintro rfl
  unfold shape at form
  split at form
  · cases form
  · unfold longShape at form
    split at form <;> cases form
  · cases form
  · rename_i hmore _
    cases form
    exact hmore rfl
  · cases form

/-! ### Readers -/

def BeginsWithWord (args : List String) : Prop :=
  ∃ a ∈ args.head?, shape a = .word

/-- What reads the arguments of a place: options are taken one after another, a word that is waited for is supplied, and
whatever comes then is read from what was settled. -/
structure IsReader {α : Type} (place : Place) (R : Entries → List String → Except Stop α) : Prop where
  long {e : Entries} {a name : String} {value : Option String} {rest : List String}
    (form : shape a = .long name value) : R e (a :: rest) = e.takeLong place name value >>= (R · rest)
  short {e : Entries} {a : String} {letters : List Char} {rest : List String} (form : shape a = .short letters) :
    R e (a :: rest) = e.takeShort place letters >>= (R · rest)
  awaited {e : Entries} {a : String} {o : ValueOption} {rest : List String} (form : shape a = .word)
    (waits : e.awaited? = some o) : R e (a :: rest) = R (e.supply o a) rest
  nil (e : Entries) : SettlesFirst (R · []) e
  dashes {a : String} {rest : List String} (form : shape a = .dashes) (e : Entries) : SettlesFirst (R · (a :: rest)) e
  word {e : Entries} {a : String} {rest : List String} (form : shape a = .word) (ready : e.awaited? = none) :
    SettlesFirst (R · (a :: rest)) e

theorem Writes.append {place : Place} {as bs : List String} {cs ds : List Choice} (h : Writes place as cs)
    (h' : Writes place bs ds) : Writes place (as++bs) (cs++ds) := by
  induction h with
  | nothing => exact h'
  | flag form names _ ih => exact .flag form names ih
  | joined form names _ ih => exact .joined form names ih
  | apart form names word _ ih => exact .apart form names word ih
  | letters form flags _ ih => simpa using .letters form flags ih
  | lettersJoined form flags names more _ ih => simpa using .lettersJoined form flags names more ih
  | lettersApart form flags names word _ ih => simpa using .lettersApart form flags names word ih

namespace IsReader

variable {α : Type} {place : Place} {R : Entries → List String → Except Stop α} {e s : Entries} {a : String}
  {args rest : List String} {r : α}

/-- What was entered may be settled before the next argument, unless that may be what is waited for. -/
theorem settlesFirst (hR : IsReader place R) (h : e.awaited? = none ∨ ¬BeginsWithWord args) :
    SettlesFirst (R · args) e := by
  cases args with
  | nil => exact hR.nil e
  | cons a rest =>
    cases form : shape a with
    | dashes => exact hR.dashes form e
    | word => exact hR.word form (h.resolve_right fun hnot => hnot ⟨a,rfl,form⟩)
    | long name value =>
      simp only [hR.long form]
      exact (settlesFirst_takeLong name value).bind _
    | short letters =>
      simp only [hR.short form]
      exact (settlesFirst_takeShort (letters_ne_nil form)).bind _

theorem awaiting_word (hR : IsReader place R) {o : ValueOption} {text : String} (hp : e.pending = none)
    (form : shape text = .word) :
    R (e.awaiting o) (text :: rest) = .ok r ↔ e.accept o text >>= (R · rest) = .ok r := by
  rw [hR.awaited form (awaited?_awaiting e o),hR.settlesFirst (.inl (awaited?_supply _ _ _)) r,
    settle_supply o text hp,bind_eq_ok_iff]

theorem awaiting_eq_ok_iff (hR : IsReader place R) {o : ValueOption} (hp : e.pending = none) :
    R (e.awaiting o) args = .ok r ↔
      ∃ text rest, args = text :: rest ∧ shape text = .word ∧ e.accept o text >>= (R · rest) = .ok r := by
  constructor
  · intro h
    by_cases hbegins : BeginsWithWord args
    · obtain ⟨text,hhead,form⟩ := hbegins
      obtain ⟨rest,rfl⟩ := List.head?_eq_some_iff.mp hhead
      exact ⟨text,rest,rfl,form,(hR.awaiting_word hp form).mp h⟩
    · obtain ⟨s,hs,-⟩ := (hR.settlesFirst (.inr hbegins) r).mp h
      exact absurd hs (settle_ne_ok_of_awaited (awaited?_awaiting e o))
  · rintro ⟨text,rest,rfl,form,h⟩
    exact (hR.awaiting_word hp form).mpr h

theorem writes_append (hR : IsReader place R) {written : List String} {cs : List Choice} (h : Writes place written cs)
    (hp : e.pending = none) : R e (written++rest) = .ok r ↔ enter place e cs >>= (R · rest) = .ok r := by
  -- between two arguments nothing is left to settle, so every argument meets entries as the choices leave them
  induction h generalizing e with
  | nothing => exact Iff.rfl
  | flag form names _ ih =>
    rw [List.cons_append,hR.long form,takeLong_flag names,enter_cons,bind_assoc]
    exact bind_ok_congr fun d hd => ih (pending_raise hd)
  | joined form names _ ih =>
    rw [List.cons_append,hR.long form,takeLong_joined names hp,enter_cons,bind_assoc]
    exact bind_ok_congr fun d hd => ih ((pending_accept hd).trans hp)
  | apart form names word _ ih =>
    rw [List.cons_append,hR.long form,takeLong_apart names hp,enter_cons,bind_assoc]
    exact (hR.awaiting_word hp word).trans (bind_ok_congr fun d hd => ih ((pending_accept hd).trans hp))
  | letters form flags _ ih =>
    rw [List.cons_append,hR.short form,takeShort_only_flags flags,enter_append,bind_assoc]
    exact bind_ok_congr fun d hd => ih (pending_enter hp hd)
  | lettersJoined form flags names more _ ih =>
    rw [List.cons_append,hR.short form,takeShort_flags flags,enter_append,bind_assoc,bind_assoc]
    refine bind_ok_congr fun s hs => ?_
    have hps := pending_enter hp hs
    rw [takeShort_joined names more hps,enter_cons,bind_assoc]
    exact bind_ok_congr fun d hd => ih ((pending_accept hd).trans hps)
  | lettersApart form flags names word _ ih =>
    rw [List.cons_append,hR.short form,takeShort_flags flags,enter_append,bind_assoc,bind_assoc]
    refine bind_ok_congr fun s hs => ?_
    have hps := pending_enter hp hs
    rw [takeShort_apart names hps,enter_cons,bind_assoc]
    exact (hR.awaiting_word hps word).trans (bind_ok_congr fun d hd => ih ((pending_accept hd).trans hps))

theorem writes_first (hR : IsReader place R) (hp : e.pending = none) (h : R e (a :: args) = .ok r) :
    (shape a = .dashes ∨ shape a = .word) ∨
      ∃ more rest cs s, args = more++rest ∧ Writes place (a :: more) cs ∧ enter place e cs = .ok s ∧
        R s rest = .ok r := by
  cases form : shape a with
  | dashes => exact .inl (.inl rfl)
  | word => exact .inl (.inr rfl)
  | long name value =>
    rw [hR.long form] at h
    obtain ⟨d,hd,hr⟩ := bind_eq_ok_iff.mp h
    obtain ⟨f,rfl,names,hd⟩ | ⟨o,text,rfl,names,hd⟩ | ⟨o,rfl,names,rfl⟩ := takeLong_cases hp hd
    · exact .inr ⟨[],args,[.flag f],d,rfl,.flag form names .nothing,enter_one.trans hd,hr⟩
    · exact .inr ⟨[],args,[.value o text],d,rfl,.joined form names .nothing,enter_one.trans hd,hr⟩
    · obtain ⟨text,rest,rfl,word,hr⟩ := (hR.awaiting_eq_ok_iff hp).mp hr
      obtain ⟨s,hs,hr⟩ := bind_eq_ok_iff.mp hr
      exact .inr ⟨[text],rest,[.value o text],s,rfl,.apart form names word .nothing,enter_one.trans hs,hr⟩
  | short letters =>
    rw [hR.short form] at h
    obtain ⟨d,hd,hr⟩ := bind_eq_ok_iff.mp h
    obtain ⟨ls,fs,more,s,rfl,flags,hs,⟨rfl,rfl⟩ | ⟨c,tail,o,rfl,names,⟨more,hd⟩ | ⟨rfl,rfl⟩⟩⟩ :=
      takeShort_cases hp hd
    · rw [List.append_nil] at form
      rw [← List.append_nil (fs.map _)] at hs
      exact .inr ⟨[],args,_,d,rfl,.letters form flags .nothing,hs,hr⟩
    · exact .inr ⟨[],args,_,d,rfl,.lettersJoined form flags names more .nothing,enter_concat hs hd,hr⟩
    · obtain ⟨text,rest,rfl,word,hr⟩ := (hR.awaiting_eq_ok_iff (pending_enter hp hs)).mp hr
      obtain ⟨d,hd,hr⟩ := bind_eq_ok_iff.mp hr
      exact .inr ⟨[text],rest,_,d,rfl,.lettersApart form flags names word .nothing,enter_concat hs hd,hr⟩

/-- What is read is written up to the first argument that is no option. -/
theorem exists_writes (hR : IsReader place R) (hp : e.pending = none) (h : R e args = .ok r) :
    ∃ written rest cs, args = written++rest ∧ (∀ a ∈ rest.head?, shape a = .dashes ∨ shape a = .word) ∧
      Writes place written cs ∧ enter place e cs >>= (R · rest) = .ok r := by
  -- an option may take its value from the next argument, so the induction is on how many are left
  induction hn : args.length using Nat.strongRecOn generalizing args e with
  | _ n ih =>
    cases args with
    | nil => exact ⟨[],[],[],rfl,nofun,.nothing,h⟩
    | cons a args =>
      obtain hplain | ⟨more,rest,cs,s,rfl,hcs,hs,hr⟩ := hR.writes_first hp h
      · exact ⟨[],a :: args,[],rfl,by simpa using hplain,.nothing,h⟩
      · have hless : rest.length < n := by
          simp only [← hn,List.length_cons,List.length_append]
          omega
        obtain ⟨written,rest,ds,rfl,hplain,hds,hd⟩ := ih _ hless (pending_enter hp hs) hr rfl
        refine ⟨a :: more++written,rest,cs++ds,by simp,hplain,hcs.append hds,?_⟩
        rw [enter_append,bind_assoc]
        exact bind_eq_ok_iff.mpr ⟨s,hs,hd⟩

end IsReader

/-! ### The readers -/

theorem isReader_readOptions (place : Place) : IsReader place (readOptions place) where
  long form := by simp only [readOptions,form]
  short form := by simp only [readOptions,form]
  awaited form waits := by simp only [readOptions,form,waits]
  nil e := by
    simp only [readOptions]
    exact settlesFirst_self
  dashes {a rest} form e := by
    simp only [readOptions,form]
    cases rest with
    | nil => exact settlesFirst_self
    | cons next rest => exact settlesFirst_error
  word {e a rest} form ready := by
    intro r
    constructor
    · intro h
      simp only [readOptions,form,ready] at h
      cases h
    · rintro ⟨s,hs,h⟩
      simp only [readOptions,form,awaited?_of_pending (pending_settle hs)] at h
      cases h

def Place.word? : Place → Option String
  | .front => none
  | .list => some "list"
  | .check => some "check"

def Place.command (place : Place) (back : Entries) : Command :=
  match place with
  | .check => .check back.selection back.isStrict
  | _ => .list back.selection

section Command

variable {e : Entries} {word : String} {rest : List String} {i : Invocation}

theorem readCommand_of_word {place : Place} (hword : place.word? = some word) :
    readCommand e word rest = readOptions place .empty rest >>= fun back =>
      e.settle >>= fun front => .ok (invocation front back (place.command back)) := by
  cases place with
  | front => cases hword
  | list =>
    cases hword
    rfl
  | check =>
    cases hword
    rfl

theorem exists_place_of_readCommand (h : readCommand e word rest = .ok i) :
    ∃ place : Place, place.word? = some word := by
  unfold readCommand at h
  split at h
  · exact ⟨.list,rfl⟩
  · exact ⟨.check,rfl⟩
  · cases h
  · cases h

theorem readCommand_eq_ok_iff :
    readCommand e word rest = .ok i ↔
      ∃ place back front, place.word? = some word ∧ readOptions place .empty rest = .ok back ∧
        e.settle = .ok front ∧ i = invocation front back (place.command back) := by
  constructor
  · intro h
    obtain ⟨place,hword⟩ := exists_place_of_readCommand h
    rw [readCommand_of_word hword] at h
    obtain ⟨back,hback,h⟩ := bind_eq_ok_iff.mp h
    obtain ⟨front,hfront,h⟩ := bind_eq_ok_iff.mp h
    exact ⟨place,back,front,hword,hback,hfront,(Except.ok.inj h).symm⟩
  · rintro ⟨place,back,front,hword,hback,hfront,rfl⟩
    rw [readCommand_of_word hword]
    exact bind_eq_ok_iff.mpr ⟨back,hback,bind_eq_ok_iff.mpr ⟨front,hfront,rfl⟩⟩

theorem settlesFirst_readCommand (word : String) (rest : List String) :
    SettlesFirst (readCommand · word rest) e := by
  intro i
  simp only [readCommand_eq_ok_iff]
  constructor
  · rintro ⟨place,back,front,hword,hback,hfront,h⟩
    exact ⟨front,hfront,place,back,front,hword,hback,settle_idem hfront,h⟩
  · rintro ⟨s,hs,place,back,front,hword,hback,hfront,h⟩
    cases (settle_idem hs).symm.trans hfront
    exact ⟨place,back,s,hword,hback,hs,h⟩

theorem withoutCommand_ne_ok : withoutCommand e ≠ .ok i := by
  intro h
  obtain ⟨_,_,h⟩ := bind_eq_ok_iff.mp h
  cases h

/-- In front of the command, two dashes are never right. -/
theorem readFront_dashes_ne_ok {a : String} (form : shape a = .dashes) : readFront e (a :: rest) ≠ .ok i := by
  simp only [readFront,form]
  cases rest with
  | nil => exact withoutCommand_ne_ok
  | cons next rest =>
    dsimp only
    split <;> nofun

theorem readFront_word {a : String} (form : shape a = .word) (ready : e.awaited? = none) :
    readFront e (a :: rest) = readCommand e a rest := by
  simp only [readFront,form,ready]

theorem isReader_readFront : IsReader .front readFront where
  long form := by simp only [readFront,form]
  short form := by simp only [readFront,form]
  awaited form waits := by simp only [readFront,form,waits]
  nil e := settlesFirst_of_ne_ok fun _ _ => withoutCommand_ne_ok
  dashes form e := settlesFirst_of_ne_ok fun _ _ => readFront_dashes_ne_ok form
  word {e a rest} form ready := by
    intro i
    show readFront e (a :: rest) = .ok i ↔ ∃ s, e.settle = .ok s ∧ readFront s (a :: rest) = .ok i
    rw [readFront_word form ready,settlesFirst_readCommand a rest i]
    refine exists_congr fun s => and_congr_right fun hs => ?_
    rw [readFront_word form (awaited?_of_pending (pending_settle hs))]

end Command

/-! ### What is accepted -/

/-- Arguments that write choices up to the end, which two dashes may mark. -/
def WritesLast (place : Place) (args : List String) (cs : List Choice) : Prop :=
  ∃ written, Writes place written cs ∧ (args = written ∨ args = written++["--"])

/-- Arguments that write choices before a command and after it. -/
def Spells (args : List String) (front : List Choice) (place : Place) (back : List Choice) : Prop :=
  ∃ before word after, args = before++word :: after ∧ place.word? = some word ∧ Writes .front before front ∧
    WritesLast place after back

theorem readOptions_dashes {place : Place} {e e' : Entries} {a : String} {rest : List String} (hp : e.pending = none)
    (form : shape a = .dashes) : readOptions place e (a :: rest) = .ok e' ↔ rest = [] ∧ e' = e := by
  simp only [readOptions,form]
  cases rest with
  | nil => simp [settle_of_pending hp,eq_comm]
  | cons next rest => simp

theorem exists_writesLast {place : Place} {e e' : Entries} {args : List String} (hp : e.pending = none)
    (h : readOptions place e args = .ok e') : ∃ cs, WritesLast place args cs := by
  obtain ⟨written,rest,cs,rfl,hplain,hcs,hr⟩ := (isReader_readOptions place).exists_writes hp h
  obtain ⟨s,hs,hr⟩ := bind_eq_ok_iff.mp hr
  have hps := pending_enter hp hs
  cases rest with
  | nil => exact ⟨cs,written,hcs,.inl (List.append_nil written)⟩
  | cons a rest =>
    obtain form | form := hplain a rfl
    · obtain ⟨rfl,-⟩ := (readOptions_dashes hps form).mp hr
      cases shape_eq_dashes.mp form
      exact ⟨cs,written,hcs,.inr rfl⟩
    · simp only [readOptions,form,awaited?_of_pending hps] at hr
      cases hr

theorem WritesLast.readOptions_eq_ok_iff {place : Place} {e e' : Entries} {args : List String} {cs : List Choice}
    (h : WritesLast place args cs) (hp : e.pending = none) :
    readOptions place e args = .ok e' ↔ enter place e cs = .ok e' := by
  obtain ⟨written,hcs,hargs⟩ := h
  have hrest : ∃ rest, args = written++rest ∧ ∀ s, s.pending = none → readOptions place s rest = .ok s := by
    obtain rfl | rfl := hargs
    · exact ⟨[],(List.append_nil args).symm,fun s hs => settle_of_pending hs⟩
    · exact ⟨["--"],rfl,fun s hs => (readOptions_dashes hs rfl).mpr ⟨rfl,rfl⟩⟩
  obtain ⟨rest,rfl,hend⟩ := hrest
  have hpure := bind_ok_congr (x := enter place e cs) (g := pure) (b := e')
    fun s hs => iff_of_eq (congrArg (· = _) (hend s (pending_enter hp hs)))
  rw [(isReader_readOptions place).writes_append hcs hp,hpure,bind_pure]

/-- A command line that is accepted is one that spells choices. -/
theorem exists_spells {args : List String} {i : Invocation} (h : read args = .ok i) :
    ∃ front place back, Spells args front place back := by
  obtain ⟨before,rest,front,rfl,hplain,hfront,hr⟩ := isReader_readFront.exists_writes rfl h
  obtain ⟨f,hf,hr⟩ := bind_eq_ok_iff.mp hr
  cases rest with
  | nil => exact absurd hr withoutCommand_ne_ok
  | cons word after =>
    obtain form | form := hplain word rfl
    · exact absurd hr (readFront_dashes_ne_ok form)
    · rw [readFront_word form (awaited?_of_pending (pending_enter rfl hf)),readCommand_eq_ok_iff] at hr
      obtain ⟨place,b,-,hword,hb,-⟩ := hr
      obtain ⟨back,hback⟩ := exists_writesLast rfl hb
      exact ⟨front,place,back,before,word,after,rfl,hword,hfront,hback⟩

/-- A command line asks for what the choices that it spells make, if they can be made. -/
theorem Spells.read_eq_ok_iff {args : List String} {front back : List Choice} {place : Place} {i : Invocation}
    (h : Spells args front place back) :
    read args = .ok i ↔
      ∃ f b, enter .front .empty front = .ok f ∧ enter place .empty back = .ok b ∧
        i = invocation f b (place.command b) := by
  obtain ⟨before,word,after,rfl,hword,hfront,hback⟩ := h
  have form : shape word = .word := by
    cases place <;> cases hword <;> rfl
  rw [read,isReader_readFront.writes_append hfront rfl,bind_eq_ok_iff]
  refine exists_congr fun f => ?_
  constructor
  · rintro ⟨hf,hr⟩
    have hpf := pending_enter rfl hf
    rw [readFront_word form (awaited?_of_pending hpf),readCommand_of_word hword,settle_of_pending hpf] at hr
    obtain ⟨b,hb,hr⟩ := bind_eq_ok_iff.mp hr
    exact ⟨b,hf,(hback.readOptions_eq_ok_iff rfl).mp hb,(Except.ok.inj hr).symm⟩
  · rintro ⟨b,hf,hb,rfl⟩
    have hpf := pending_enter rfl hf
    rw [readFront_word form (awaited?_of_pending hpf),readCommand_of_word hword,settle_of_pending hpf]
    exact ⟨hf,bind_eq_ok_iff.mpr ⟨b,(hback.readOptions_eq_ok_iff rfl).mpr hb,rfl⟩⟩

end RegionAudit.CommandLine
