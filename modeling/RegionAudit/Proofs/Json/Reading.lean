import RegionAudit.Proofs.Json.Skipping

/-! Reading by shape. A text is read as a value of a shape exactly when it writes that value, with blanks
around it; so every other text is a fault. -/
namespace RegionAudit.Json

/-- A reader takes the texts that write its values, behind any blanks, and nothing else. -/
def Takes {α : Type} (item : Cursor → Reading α) (W : α → List Char → Prop) : Prop :=
  ∀ c v rest, Gives (item c) v rest ↔ ∃ g t, IsGap g ∧ W v t ∧ c.rest = g ++ t ++ rest

/-! ### The next part -/

def PartAt (first : Bool) (c c' : Cursor) : Prop :=
  if first then c' = c.pastGap
  else ∃ cs, c.pastGap.rest = ',' :: cs ∧ c' = (Cursor.mk cs (c.pastGap.offset + 1)).pastGap

theorem PartAt.exists_gaps {first : Bool} {c c' : Cursor} (h : PartAt first c c') :
    ∃ g h, IsGap g ∧ IsGap h ∧ c.rest = g ++ ((if first then [] else [',']) ++ (h ++ c'.rest)) := by
  obtain ⟨g,hg,hc⟩ := exists_gap c
  cases first with
  | true =>
    obtain rfl : c' = c.pastGap := h
    exact ⟨g,[],hg,isGap_nil,hc⟩
  | false =>
    obtain ⟨cs,hcs,rfl⟩ : ∃ cs, c.pastGap.rest = ',' :: cs ∧ _ := h
    obtain ⟨k,hk,hrest⟩ := exists_gap ⟨cs,c.pastGap.offset + 1⟩
    exact ⟨g,k,hg,hk,by rw [hc,hcs]; exact congrArg (fun r => g ++ ',' :: r) hrest⟩

theorem exists_partAt {first : Bool} {c : Cursor} {g h xs : List Char} {x : Char} (hg : IsGap g)
    (hh : IsGap h) (hx : isGap x = false)
    (hc : c.rest = g ++ ((if first then [] else [',']) ++ (h ++ x :: xs))) :
    ∃ c', PartAt first c c' ∧ c'.rest = x :: xs := by
  cases first with
  | true => exact ⟨_,rfl,pastGap_rest_eq (by simpa using hc) (hg.append hh) hx⟩
  | false =>
    have hcs : c.pastGap.rest = ',' :: (h ++ x :: xs) := pastGap_rest_eq hc hg (by decide)
    exact ⟨_,⟨_,hcs,rfl⟩,pastGap_rest_eq rfl hh hx⟩

/-- What comes next is the closing sign, or a part that begins in a given way. -/
def NextIs (closing : Char) (starts : Char → Prop) (first : Bool) (c : Cursor) : Next → Prop
  | .close c' => c' = c.pastGap ∧ ∃ r, c.pastGap.rest = closing :: r
  | .entry c' => PartAt first c c' ∧ ∃ x xs, c'.rest = x :: xs ∧ starts x

theorem nextItem_sound {first : Bool} {c : Cursor} {next : Next} (h : nextItem first c = .ok next) :
    NextIs ']' (· ≠ ']') first c next := by
  unfold nextItem at h
  dsimp only at h
  split at h
  · cases h
  · rename_i x cs hcs
    split at h
    · rename_i hx
      cases h
      exact ⟨rfl,cs,hx ▸ hcs⟩
    · rename_i hx
      split at h
      · rename_i hfirst
        cases h
        exact ⟨by simp [PartAt,hfirst],x,cs,hcs,hx⟩
      · rename_i hfirst
        split at h
        · rename_i hcomma
          split at h
          · cases h
          · cases h
          · rename_i hnil hclose
            cases h
            obtain ⟨y,ys,hy⟩ := List.exists_cons_of_ne_nil hnil
            refine ⟨?_,y,ys,hy,fun he => hclose ys (he ▸ hy)⟩
            simp only [PartAt,hfirst]
            exact ⟨cs,hcomma ▸ hcs,rfl⟩
        · cases h

theorem nextMember_sound {first : Bool} {c : Cursor} {next : Next} (h : nextMember first c = .ok next) :
    NextIs '\x7d' (· = '"') first c next := by
  have key : ∀ c' : Cursor, PartAt first c c' → nextMember.key c' = .ok next →
      NextIs '\x7d' (· = '"') first c next := by
    intro c' hat hkey
    unfold nextMember.key at hkey
    split at hkey
    · cases hkey
    · rename_i cs hcs
      cases hkey
      exact ⟨hat,'"',cs,hcs,rfl⟩
    · cases hkey
    · cases hkey
  unfold nextMember at h
  dsimp only at h
  split at h
  · cases h
  · rename_i x cs hcs
    split at h
    · rename_i hx
      cases h
      exact ⟨rfl,cs,hx ▸ hcs⟩
    · split at h
      · rename_i hfirst
        exact key _ (by simp [PartAt,hfirst]) h
      · rename_i hfirst
        split at h
        · rename_i hcomma
          refine key _ ?_ h
          simp only [PartAt,hfirst]
          exact ⟨cs,hcomma ▸ hcs,rfl⟩
        · cases h

theorem nextItem_close {c : Cursor} {r : List Char} (h : c.pastGap.rest = ']' :: r) (first : Bool) :
    nextItem first c = .ok (.close c.pastGap) := by
  simp [nextItem,h]

theorem nextMember_close {c : Cursor} {r : List Char} (h : c.pastGap.rest = '\x7d' :: r) (first : Bool) :
    nextMember first c = .ok (.close c.pastGap) := by
  simp [nextMember,h]

theorem nextItem_entry {first : Bool} {c c' : Cursor} {x : Char} {xs : List Char} (hat : PartAt first c c')
    (hc : c'.rest = x :: xs) (hx : x ≠ ']') : nextItem first c = .ok (.entry c') := by
  cases first with
  | true =>
    obtain rfl : c' = c.pastGap := hat
    simp [nextItem,hc,hx]
  | false =>
    obtain ⟨cs,hcs,rfl⟩ : ∃ cs, c.pastGap.rest = ',' :: cs ∧ _ := hat
    simp only [nextItem,hcs,hc]
    simp [hx]

theorem nextMember_entry {first : Bool} {c c' : Cursor} {xs : List Char} (hat : PartAt first c c')
    (hc : c'.rest = '"' :: xs) : nextMember first c = .ok (.entry c') := by
  cases first with
  | true =>
    obtain rfl : c' = c.pastGap := hat
    simp [nextMember,nextMember.key,hc]
  | false =>
    obtain ⟨cs,hcs,rfl⟩ : ∃ cs, c.pastGap.rest = ',' :: cs ∧ _ := hat
    simp [nextMember,nextMember.key,hcs,hc]

/-! ### Closing signs -/

theorem leaves_closeList_iff {c : Cursor} {rest : List Char} :
    Leaves (closeList c) rest ↔ ∃ g, IsGap g ∧ c.rest = g ++ ']' :: rest := by
  rw [← pastGap_rest_iff (by decide)]
  unfold closeList
  dsimp only
  split
  · rename_i h
    simp [h]
  · rename_i cs h
    simp [h]
  · rename_i cs h
    split <;> simp [h]
  · rename_i h _
    simpa using h rest

theorem leaves_closeObject_iff {c : Cursor} {rest : List Char} :
    Leaves (closeObject c) rest ↔ ∃ g, IsGap g ∧ c.rest = g ++ '\x7d' :: rest := by
  rw [← pastGap_rest_iff (by decide)]
  unfold closeObject
  dsimp only
  split
  · rename_i h
    simp [h]
  · rename_i cs h
    simp [h]
  · rename_i cs h
    simp [h]
  · rename_i h _
    simpa using h rest

theorem exists_gap_append_iff {c : Cursor} {x : Char} {r rest : List Char} (hx : isGap x = false)
    (h : c.rest = x :: r) : (∃ g, IsGap g ∧ c.rest = g ++ x :: rest) ↔ r = rest := by
  rw [← pastGap_rest_iff hx,pastGap_rest_eq (g := []) h isGap_nil hx]
  simp

theorem leaves_closeList_of_rest {c : Cursor} {r rest : List Char} (h : c.rest = ']' :: r) :
    Leaves (closeList c) rest ↔ r = rest :=
  leaves_closeList_iff.trans (exists_gap_append_iff (by decide) h)

theorem leaves_closeObject_of_rest {c : Cursor} {r rest : List Char} (h : c.rest = '\x7d' :: r) :
    Leaves (closeObject c) rest ↔ r = rest :=
  leaves_closeObject_iff.trans (exists_gap_append_iff (by decide) h)

/-! ### Texts -/

theorem read_text {c : Cursor} {cs : List Char} (h : c.pastGap.rest = '"' :: cs) : read .text c =
    match readQuoted .plain cs (c.pastGap.offset + 1) with
    | .ok (s,c) => .ok (String.ofList s,c)
    | .error f => .error f := by
  rw [read,h]
  rfl

theorem takes_text : Takes (read .text) Shape.text.Writes := by
  intro c v rest
  constructor
  · intro h
    rw [read] at h
    split at h
    · simp at h
    · rename_i cs hcs
      obtain ⟨g,hg,hc⟩ := (pastGap_rest_iff (by decide)).mp hcs
      split at h
      · rename_i s d hread
        obtain ⟨rfl,rfl⟩ := gives_ok.mp h
        obtain ⟨i,hi,rfl⟩ := gives_readQuoted_iff.mp ⟨d.offset,hread⟩
        exact ⟨g,_,hg,⟨i,by simpa using hi,rfl⟩,by simp [hc]⟩
      · simp at h
    · simp at h
  · rintro ⟨g,_,hg,⟨i,hi,rfl⟩,hc⟩
    have hcs : c.pastGap.rest = '"' :: (i ++ '"' :: rest) :=
      pastGap_rest_eq (by simpa using hc) hg (by decide)
    obtain ⟨n,hread⟩ := gives_readQuoted_iff.mpr ⟨i,hi,rfl⟩
    rw [read_text hcs,hread]
    exact gives_ok.mpr ⟨String.ofList_toList,rfl⟩

/-! ### Lists -/

section Lists

variable {α : Type} {item : Cursor → Reading α} {W : α → List Char → Prop}

theorem readItems_sound (htakes : Takes item W) {fuel : Nat} {first : Bool} {c : Cursor} {vs : List α}
    {rest : List Char} (h : Gives (readItems item fuel first c) vs rest) :
    ∃ g items, IsGap g ∧ List.Forall₂ (fun v (i : Padded) => W v i.body) vs items ∧
      c.rest = g ++ (listed first (items.map Padded.text) ++ rest) ∧ ∃ r, rest = ']' :: r := by
  induction fuel generalizing first c vs with
  | zero => simp [readItems] at h
  | succ fuel ih =>
    rw [readItems] at h
    split at h
    · simp at h
    · rename_i d hnext
      obtain ⟨rfl,r,hr⟩ := nextItem_sound hnext
      obtain ⟨rfl,rfl⟩ := gives_ok.mp h
      obtain ⟨g,hg,hc⟩ := exists_gap c
      exact ⟨g,[],hg,.nil,by simpa [listed] using hc,r,hr⟩
    · rename_i d hnext
      obtain ⟨hat,-⟩ := nextItem_sound hnext
      obtain ⟨g,k,hg,hk,hc⟩ := hat.exists_gaps
      split at h
      · simp at h
      · rename_i v e hitem
        obtain ⟨l,t,hl,ht,hd⟩ := (htakes d v e.rest).mp ⟨e.offset,hitem⟩
        split at h
        · simp at h
        · rename_i ws f hitems
          obtain ⟨rfl,rfl⟩ := gives_ok.mp h
          obtain ⟨m,items,hm,hall,he,hr⟩ := ih ⟨f.offset,hitems⟩
          refine ⟨g,⟨k ++ l,t,m,hk.append hl,hm⟩ :: items,hg,.cons ht hall,?_,hr⟩
          simp [listed,Padded.text,hc,hd,he]

theorem readItems_complete (htakes : Takes item W) (hbegins : ∀ v t, W v t → Begins t)
    {vs : List α} {items : List Padded}
    (hall : List.Forall₂ (fun v (i : Padded) => W v i.body) vs items) {fuel : Nat}
    (hfuel : items.length < fuel) {first : Bool} {c : Cursor} {g r : List Char} (hg : IsGap g)
    (hc : c.rest = g ++ (listed first (items.map Padded.text) ++ ']' :: r)) :
    Gives (readItems item fuel first c) vs (']' :: r) := by
  induction hall generalizing fuel first c g with
  | nil =>
    obtain ⟨fuel,rfl⟩ : ∃ k, fuel = k + 1 := ⟨fuel - 1,by omega⟩
    have hclose : c.pastGap.rest = ']' :: r := pastGap_rest_eq hc hg (by decide)
    rw [readItems,nextItem_close hclose]
    exact gives_ok.mpr ⟨rfl,hclose⟩
  | @cons v i vs items hv hall ih =>
    obtain ⟨fuel,rfl⟩ : ∃ k, fuel = k + 1 := ⟨fuel - 1,by omega⟩
    obtain ⟨x,xs,hbody,hx,hne,-⟩ := hbegins v _ hv
    obtain ⟨d,hat,hd⟩ := exists_partAt hg i.isGap_before hx
      (show c.rest = g ++ ((if first then [] else [',']) ++ (i.before ++ x :: (xs ++ (i.after ++
        (listed false (items.map Padded.text) ++ ']' :: r))))) by
        simpa [listed,Padded.text,hbody] using hc)
    obtain ⟨n,hitem⟩ := (htakes d v _).mpr ⟨[],_,isGap_nil,hv,by rw [hd,hbody]; rfl⟩
    obtain ⟨k,hitems⟩ : Gives (readItems item fuel false
        ⟨i.after ++ (listed false (items.map Padded.text) ++ ']' :: r),n⟩) vs (']' :: r) :=
      ih (by simpa using hfuel) i.isGap_after rfl
    rw [readItems,nextItem_entry hat hd hne]
    dsimp only
    rw [hitem]
    dsimp only
    rw [hitems]
    exact gives_ok.mpr ⟨rfl,rfl⟩

end Lists

/-! ### Records -/

/-- The end of reading a record is a value, and this much of the text is left before its bracket closes. -/
def Ends {α : Type} (e : Ending α) (v : α) (rest : List Char) : Prop :=
  ∃ n, e = .value v ⟨rest,n⟩

@[simp] theorem ends_value {α : Type} {v w : α} {c : Cursor} {rest : List Char} :
    Ends (.value v c) w rest ↔ v = w ∧ c.rest = rest := by
  constructor
  · rintro ⟨n,h⟩
    cases h
    exact ⟨rfl,rfl⟩
  · rintro ⟨rfl,rfl⟩
    exact ⟨c.offset,rfl⟩

@[simp] theorem not_ends_fault {α : Type} {f : Fault} {v : α} {rest : List Char} :
    ¬ Ends (.fault f) v rest := by
  rintro ⟨n,h⟩
  cases h

@[simp] theorem not_ends_cause {α : Type} {cause : Cause} {c : Cursor} {v : α} {rest : List Char} :
    ¬ Ends (.cause cause c) v rest := by
  rintro ⟨n,h⟩
  cases h

theorem gives_close_iff {α : Type} {close : Cursor → Except Fault Cursor} {e : Ending α} {v : α}
    {rest : List Char} :
    Gives (e.close close) v rest ↔ ∃ c, e = .value v c ∧ Leaves (close c) rest := by
  cases e with
  | value w c =>
    cases hc : close c with
    | error f => simp [Ending.close,Gives,Leaves,hc,Except.map]
    | ok d => simp [Ending.close,Gives,Leaves,hc,Except.map,and_assoc]
  | fault f => simp [Ending.close]
  | cause cause c => simp [Ending.close]

/-- The members of an object give the value of a field: it stands once, unless it has been found before, and
all other members have other names. -/
inductive Fills {α : Type} (field : String) (W : α → List Char → Prop) :
    Option α → List Member → α → Prop
  | done {v : α} : Fills field W (some v) [] v
  | field {v w : α} {m : Member} {ms : List Member} (hname : Quotes m.name.body field.toList)
      (hvalue : W v m.value.body) (hms : Fills field W (some v) ms w) : Fills field W none (m :: ms) w
  | other {found : Option α} {w : α} {m : Member} {ms : List Member} (hm : m.IsOther field)
      (hms : Fills field W found ms w) : Fills field W found (m :: ms) w

section Records

variable {α : Type} {value : Cursor → Reading α} {W : α → List Char → Prop} {field : String}

theorem fills_some_iff {v w : α} {ms : List Member} :
    Fills field W (some v) ms w ↔ v = w ∧ ∀ m ∈ ms, m.IsOther field := by
  constructor
  · intro h
    generalize hfound : some v = found at h
    induction h with
    | done =>
      cases hfound
      simp
    | field => cases hfound
    | other hm _ ih =>
      obtain ⟨rfl,hms⟩ := ih hfound
      exact ⟨rfl,List.forall_mem_cons.mpr ⟨hm,hms⟩⟩
  · rintro ⟨rfl,hms⟩
    induction ms with
    | nil => exact .done
    | cons m ms ih =>
      obtain ⟨hm,hms⟩ := List.forall_mem_cons.mp hms
      exact .other hm (ih hms)

theorem fills_none_iff {w : α} {ms : List Member} :
    Fills field W none ms w ↔ ∃ front m back, ms = front ++ m :: back ∧
      Quotes m.name.body field.toList ∧ W w m.value.body ∧ ∀ o ∈ front ++ back, o.IsOther field := by
  constructor
  · intro h
    generalize hfound : none = found at h
    induction h with
    | done => cases hfound
    | @field v w m ms hname hvalue hms =>
      obtain ⟨rfl,hothers⟩ := fills_some_iff.mp hms
      exact ⟨[],m,ms,rfl,hname,hvalue,hothers⟩
    | @other _ w m ms hm _ ih =>
      obtain ⟨front,n,back,rfl,hname,hvalue,hothers⟩ := ih hfound
      exact ⟨m :: front,n,back,rfl,hname,hvalue,List.forall_mem_cons.mpr ⟨hm,hothers⟩⟩
  · rintro ⟨front,m,back,rfl,hname,hvalue,hothers⟩
    induction front with
    | nil => exact .field hname hvalue (fills_some_iff.mpr ⟨rfl,hothers⟩)
    | cons o front ih =>
      obtain ⟨ho,hothers⟩ := List.forall_mem_cons.mp hothers
      exact .other ho (ih hothers)

theorem exists_name {c d e : Cursor} {x : Char} {xs s : List Char} (hc : c.rest = x :: xs) (hx : x = '"')
    (hread : readQuoted .plain c.next.rest c.next.offset = .ok (s,d)) (hcolon : readColon d = .ok e) :
    ∃ q g, Quotes q s ∧ IsGap g ∧ c.rest = q ++ (g ++ ':' :: e.rest) := by
  obtain ⟨i,hi,hnext⟩ := gives_readQuoted_iff.mp ⟨d.offset,hread⟩
  obtain ⟨g,hg,hd⟩ := leaves_readColon_iff.mp ⟨e.offset,hcolon⟩
  rw [next_rest hc] at hnext
  exact ⟨_,g,⟨i,hi,rfl⟩,hg,by simp [hc,hx,hnext,hd]⟩

theorem readMembers_sound (htakes : Takes value W) {fuel : Nat} {first : Bool} {found : Option α}
    {c : Cursor} {v : α} {rest : List Char} (h : Ends (readMembers field value fuel first found c) v rest) :
    ∃ g ms, IsGap g ∧ Fills field W found ms v ∧
      c.rest = g ++ (listed first (ms.map Member.text) ++ rest) ∧ ∃ r, rest = '\x7d' :: r := by
  induction fuel generalizing first found c with
  | zero => simp [readMembers] at h
  | succ fuel ih =>
    rw [readMembers] at h
    split at h
    · simp at h
    · rename_i d hnext
      obtain ⟨rfl,r,hr⟩ := nextMember_sound hnext
      cases found with
      | none => simp at h
      | some w =>
        obtain ⟨rfl,rfl⟩ := ends_value.mp h
        obtain ⟨g,hg,hc⟩ := exists_gap c
        exact ⟨g,[],hg,.done,by simpa [listed] using hc,r,hr⟩
    · rename_i d hnext
      obtain ⟨hat,x,xs,hd,hx⟩ := nextMember_sound hnext
      obtain ⟨g,k,hg,hk,hc⟩ := hat.exists_gaps
      split at h
      · simp at h
      · rename_i key e hread
        split at h
        · rename_i hkey
          split at h
          · simp at h
          · rename_i hfound
            obtain rfl : found = none := by simpa using hfound
            split at h
            · simp at h
            · rename_i f hcolon
              obtain ⟨q,l,hq,hl,hd⟩ := exists_name hd hx hread hcolon
              split at h
              · simp at h
              · rename_i w f' hvalue
                obtain ⟨m,t,hm,ht,hf⟩ := (htakes f w f'.rest).mp ⟨f'.offset,hvalue⟩
                obtain ⟨a,ms,ha,hms,hf',hr⟩ := ih h
                refine ⟨g,⟨⟨k,q,l,hk,hl⟩,⟨m,t,a,hm,ha⟩⟩ :: ms,hg,.field (hkey ▸ hq) ht hms,?_,hr⟩
                simp [listed,Member.text,Padded.text,hc,hd,hf,hf']
        · rename_i hkey
          split at h
          · simp at h
          · rename_i f hcolon
            obtain ⟨q,l,hq,hl,hd⟩ := exists_name hd hx hread hcolon
            split at h
            · simp at h
            · rename_i f' hskip
              obtain ⟨m,t,hm,ht,hf⟩ := skip_sound ⟨f'.offset,hskip⟩
              obtain ⟨a,ms,ha,hms,hf',hr⟩ := ih h
              refine ⟨g,⟨⟨k,q,l,hk,hl⟩,⟨m,t,a,hm,ha⟩⟩ :: ms,hg,.other ⟨⟨key,hkey,hq⟩,ht⟩ hms,?_,hr⟩
              simp [listed,Member.text,Padded.text,hc,hd,hf,hf']

theorem readName {m : Member} {s : List Char} (hname : Quotes m.name.body s) {c : Cursor} {tail : List Char}
    (hc : c.rest = m.name.body ++ (m.name.after ++ ':' :: tail)) :
    ∃ d e, readQuoted .plain c.next.rest c.next.offset = .ok (s,d) ∧ readColon d = .ok e ∧
      e.rest = tail := by
  obtain ⟨i,hi,hbody⟩ := hname
  have hnext : c.next.rest = i ++ '"' :: (m.name.after ++ ':' :: tail) :=
    next_rest (x := '"') (by simpa [hbody] using hc)
  obtain ⟨n,hread⟩ := readQuoted_complete hi (m.name.after ++ ':' :: tail) c.next.offset
  obtain ⟨k,hcolon⟩ := leaves_readColon_iff.mpr
    (show ∃ g, IsGap g ∧ (⟨m.name.after ++ ':' :: tail,n⟩ : Cursor).rest = g ++ ':' :: tail from
      ⟨_,m.name.isGap_after,rfl⟩)
  rw [hnext]
  exact ⟨_,_,hread,hcolon,rfl⟩

theorem exists_nextMember {m : Member} {s : List Char} (hname : Quotes m.name.body s) {first : Bool}
    {c : Cursor} {g tail : List Char} {ts : List (List Char)} (hg : IsGap g)
    (hc : c.rest = g ++ (listed first (m.text :: ts) ++ tail)) :
    ∃ d, nextMember first c = .ok (.entry d) ∧ d.rest = m.name.body ++ (m.name.after ++
      ':' :: (m.value.text ++ (listed false ts ++ tail))) := by
  obtain ⟨xs,hbody⟩ := hname.isQuoted.exists_eq_cons
  obtain ⟨d,hat,hd⟩ := exists_partAt hg m.name.isGap_before (x := '"') (by decide)
    (show c.rest = g ++ ((if first then [] else [',']) ++ (m.name.before ++ '"' :: (xs ++ (m.name.after ++
      ':' :: (m.value.text ++ (listed false ts ++ tail)))))) by
      simpa [listed,Member.text,Padded.text,hbody] using hc)
  exact ⟨d,nextMember_entry hat hd,by rw [hd,hbody]; rfl⟩

theorem readMembers_complete (htakes : Takes value W) {found : Option α} {ms : List Member} {v : α}
    (hms : Fills field W found ms v) {fuel : Nat} (hfuel : ms.length < fuel) {first : Bool} {c : Cursor}
    {g r : List Char} (hg : IsGap g)
    (hc : c.rest = g ++ (listed first (ms.map Member.text) ++ '\x7d' :: r)) :
    Ends (readMembers field value fuel first found c) v ('\x7d' :: r) := by
  induction hms generalizing fuel first c g with
  | done =>
    obtain ⟨fuel,rfl⟩ : ∃ k, fuel = k + 1 := ⟨fuel - 1,by omega⟩
    have hclose : c.pastGap.rest = '\x7d' :: r := pastGap_rest_eq hc hg (by decide)
    rw [readMembers,nextMember_close hclose]
    exact ends_value.mpr ⟨rfl,hclose⟩
  | @field v w m ms hname hvalue hms ih =>
    obtain ⟨fuel,rfl⟩ : ∃ k, fuel = k + 1 := ⟨fuel - 1,by omega⟩
    obtain ⟨d,hnext,hd⟩ := exists_nextMember hname hg hc
    obtain ⟨e,f,hread,hcolon,hf⟩ := readName hname hd
    obtain ⟨n,htake⟩ := (htakes f v _).mpr
      ⟨m.value.before,_,m.value.isGap_before,hvalue,by rw [hf,Padded.text,List.append_assoc]⟩
    simp only [readMembers,hnext,hread,hcolon,htake,if_true,Option.isSome_none,Bool.false_eq_true,if_false]
    exact ih (by simpa using hfuel) m.value.isGap_after rfl
  | @other found w m ms hm hms ih =>
    obtain ⟨⟨s,hs,hname⟩,hval⟩ := hm
    obtain ⟨fuel,rfl⟩ : ∃ k, fuel = k + 1 := ⟨fuel - 1,by omega⟩
    obtain ⟨d,hnext,hd⟩ := exists_nextMember hname hg hc
    obtain ⟨e,f,hread,hcolon,hf⟩ := readName hname hd
    have hbreaks : Breaks (m.value.after ++ (listed false (ms.map Member.text) ++ '\x7d' :: r)) :=
      breaks_gap_append m.value.isGap_after (breaks_listed (breaks_cons.mpr (by decide)) r)
    obtain ⟨n,hskip⟩ := skip_complete m.value.isGap_before hval hbreaks
      (by rw [hf,Padded.text,List.append_assoc])
    simp only [readMembers,hnext,hread,hs,hcolon,hskip,if_false]
    exact ih (by simpa using hfuel) m.value.isGap_after rfl

end Records

/-! ### Between brackets -/

theorem gives_map_iff {α : Type} {v w : α} {r : Except Fault Cursor} {rest : List Char} :
    Gives (r.map (v,·)) w rest ↔ v = w ∧ Leaves r rest := by
  cases r with
  | error f => simp [Except.map]
  | ok c => simp [Except.map]

theorem Padded.text_ne_nil {p : Padded} (h : Begins p.body) : p.text ≠ [] := by
  obtain ⟨x,xs,hbody,-⟩ := h
  simp [Padded.text,hbody]

theorem Member.text_ne_nil (m : Member) : m.text ≠ [] := by
  simp [Member.text]

/-- There are no more parts than characters. -/
theorem length_lt_of_listed {α : Type} (text : α → List Char) {parts : List α}
    (h : ∀ p ∈ parts, text p ≠ []) (k r : List Char) :
    parts.length < (k ++ (listed true (parts.map text) ++ r)).length + 1 := by
  have hlen := length_le_listed true (List.forall_mem_map.mpr h)
  simp only [List.length_map,List.length_append] at hlen ⊢
  omega

theorem listText_append (gap : List Char) (items : List Padded) (rest : List Char) :
    listText gap items ++ rest = '[' :: (gap ++ (listed true (items.map Padded.text) ++ ']' :: rest)) := by
  simp [listText,bracketed,intercalate_eq_listed]

theorem objectText_append (gap : List Char) (members : List Member) (rest : List Char) :
    objectText gap members ++ rest =
      '\x7b' :: (gap ++ (listed true (members.map Member.text) ++ '\x7d' :: rest)) := by
  simp [objectText,bracketed,intercalate_eq_listed]

section Brackets

variable {α : Type} {value : Cursor → Reading α} {W : α → List Char → Prop} {c : Cursor}
  {rest : List Char}

def readList (item : Cursor → Reading α) (c : Cursor) : Reading (List α) :=
  match readItems item (c.rest.length + 1) true c with
  | .error f => .error f
  | .ok (vs,c) => (closeList c).map (vs,·)

theorem gives_readList_iff (htakes : Takes value W) (hbegins : ∀ v t, W v t → Begins t) {vs : List α} :
    Gives (readList value c) vs rest ↔ ∃ k items, IsGap k ∧
      List.Forall₂ (fun v (i : Padded) => W v i.body) vs items ∧
      c.rest = k ++ (listed true (items.map Padded.text) ++ ']' :: rest) := by
  constructor
  · intro h
    unfold readList at h
    split at h
    · simp at h
    · rename_i ws d hread
      obtain ⟨rfl,hclose⟩ := gives_map_iff.mp h
      obtain ⟨k,items,hk,hall,hsplit,r,hr⟩ := readItems_sound htakes ⟨d.offset,hread⟩
      obtain rfl := (leaves_closeList_of_rest hr).mp hclose
      exact ⟨k,items,hk,hall,hr ▸ hsplit⟩
  · rintro ⟨k,items,hk,hall,hc⟩
    have hfuel := length_lt_of_listed Padded.text
      (fun i hi => Padded.text_ne_nil (forall_body hbegins hall i hi)) k (']' :: rest)
    rw [← hc] at hfuel
    obtain ⟨n,hread⟩ := readItems_complete htakes hbegins hall hfuel hk hc
    rw [readList,hread]
    exact gives_map_iff.mpr ⟨rfl,(leaves_closeList_of_rest rfl).mpr rfl⟩

theorem readOnly_sound (htakes : Takes value W) {expected : String} {v : α}
    (h : Ends (readOnly expected value c) v rest) : ∃ g t, IsGap g ∧ W v t ∧ c.rest = g ++ t ++ rest := by
  unfold readOnly at h
  split at h
  · simp at h
  · simp at h
  · rename_i d hnext
    obtain ⟨hat,-⟩ := nextItem_sound hnext
    obtain ⟨g,k,hg,hk,hc⟩ := hat.exists_gaps
    split at h
    · simp at h
    · rename_i w e hvalue
      obtain ⟨rfl,rfl⟩ := ends_value.mp h
      obtain ⟨l,t,hl,ht,hd⟩ := (htakes d w e.rest).mp ⟨e.offset,hvalue⟩
      exact ⟨g ++ (k ++ l),t,hg.append (hk.append hl),ht,by simp [hc,hd]⟩

theorem readOnly_complete (htakes : Takes value W) (expected : String) {v : α} {g t : List Char}
    (hg : IsGap g) (hv : W v t) (hbegins : Begins t) (hc : c.rest = g ++ t ++ rest) :
    Ends (readOnly expected value c) v rest := by
  obtain ⟨x,xs,ht,hx,hne,-⟩ := hbegins
  have hd : c.pastGap.rest = x :: (xs ++ rest) := pastGap_rest_eq (by simpa [ht] using hc) hg hx
  obtain ⟨n,hvalue⟩ := (htakes c.pastGap v rest).mpr ⟨[],t,isGap_nil,hv,by rw [hd,ht]; rfl⟩
  have hat : PartAt true c c.pastGap := rfl
  rw [readOnly,nextItem_entry hat hd hne]
  dsimp only
  rw [hvalue]
  exact ends_value.mpr ⟨rfl,rfl⟩

theorem gives_readOnly_iff (htakes : Takes value W) (hbegins : ∀ v t, W v t → Begins t)
    (expected : String) {v : α} :
    Gives ((readOnly expected value c).close closeList) v rest ↔
      ∃ k i, IsGap k ∧ W v i.body ∧ c.rest = k ++ (listed true ([i].map Padded.text) ++ ']' :: rest) := by
  rw [gives_close_iff]
  constructor
  · rintro ⟨d,hread,hclose⟩
    obtain ⟨k,t,hk,ht,hc⟩ := readOnly_sound htakes ⟨d.offset,hread⟩
    obtain ⟨l,hl,hd⟩ := leaves_closeList_iff.mp hclose
    exact ⟨[],⟨k,t,l,hk,hl⟩,isGap_nil,ht,by simp [listed,Padded.text,hc,hd]⟩
  · rintro ⟨k,i,hk,hi,hc⟩
    obtain ⟨n,hread⟩ := readOnly_complete htakes expected (hk.append i.isGap_before) hi (hbegins v _ hi)
      (show c.rest = k ++ i.before ++ i.body ++ (i.after ++ ']' :: rest) by
        simpa [listed,Padded.text] using hc)
    exact ⟨_,hread,leaves_closeList_iff.mpr ⟨i.after,i.isGap_after,rfl⟩⟩

theorem gives_readMembers_iff (htakes : Takes value W) {field : String} {v : α} :
    Gives ((readMembers field value (c.rest.length + 1) true none c).close closeObject) v rest ↔
      ∃ k ms, IsGap k ∧ Fills field W none ms v ∧
        c.rest = k ++ (listed true (ms.map Member.text) ++ '\x7d' :: rest) := by
  rw [gives_close_iff]
  constructor
  · rintro ⟨d,hread,hclose⟩
    obtain ⟨k,ms,hk,hms,hsplit,r,hr⟩ := readMembers_sound htakes ⟨d.offset,hread⟩
    obtain rfl := (leaves_closeObject_of_rest hr).mp hclose
    exact ⟨k,ms,hk,hms,hr ▸ hsplit⟩
  · rintro ⟨k,ms,hk,hms,hc⟩
    have hfuel := length_lt_of_listed Member.text (fun m (_ : m ∈ ms) => m.text_ne_nil) k ('\x7d' :: rest)
    rw [← hc] at hfuel
    obtain ⟨n,hread⟩ := readMembers_complete htakes hms hfuel hk hc
    exact ⟨_,hread,(leaves_closeObject_of_rest rfl).mpr rfl⟩

end Brackets

/-! ### Every shape -/

theorem read_list {item : Shape} {c : Cursor} {cs : List Char} (h : c.pastGap.rest = '[' :: cs) :
    read (.list item) c = readList (read item) ⟨cs,c.pastGap.offset + 1⟩ := by
  simp only [read,h,readList]
  cases readItems (read item) (cs.length + 1) true ⟨cs,c.pastGap.offset + 1⟩ with
  | error f => rfl
  | ok r => rfl

theorem exists_bracket {item : Shape} {c : Cursor} {vs : (Shape.list item).Value} {rest : List Char}
    (h : Gives (read (.list item) c) vs rest) : ∃ cs, c.pastGap.rest = '[' :: cs := by
  rw [read] at h
  split at h
  · simp at h
  · rename_i cs hcs
    exact ⟨cs,hcs⟩
  · simp at h

theorem takes_list {item : Shape} (htakes : Takes (read item) item.Writes) :
    Takes (read (.list item)) (Shape.list item).Writes := by
  have hbegins : ∀ v t, item.Writes v t → Begins t := fun _ _ h => h.isValue.begins
  intro c vs rest
  constructor
  · intro h
    obtain ⟨cs,hcs⟩ := exists_bracket h
    obtain ⟨g,hg,hc⟩ := (pastGap_rest_iff (by decide)).mp hcs
    rw [read_list hcs] at h
    obtain ⟨k,items,hk,hall,hsplit⟩ := (gives_readList_iff htakes hbegins).mp h
    have hsplit : cs = k ++ (listed true (items.map Padded.text) ++ ']' :: rest) := hsplit
    refine ⟨g,_,hg,⟨k,items,hk,hall,rfl⟩,?_⟩
    rw [hc,List.append_assoc,listText_append,hsplit]
  · rintro ⟨g,_,hg,⟨k,items,hk,hall,rfl⟩,hc⟩
    rw [List.append_assoc,listText_append] at hc
    rw [read_list (pastGap_rest_eq hc hg (by decide))]
    exact (gives_readList_iff htakes hbegins).mpr ⟨k,items,hk,hall,rfl⟩

section Record

variable {name field : String} {value : Shape} {c : Cursor} {cs : List Char}

theorem read_record_list (h : c.pastGap.rest = '[' :: cs) : read (.record name field value) c =
    (readOnly (Shape.record name field value).expected (read value) ⟨cs,c.pastGap.offset + 1⟩).close
      closeList := by
  rw [read,h]
  rfl

theorem read_record_object (h : c.pastGap.rest = '\x7b' :: cs) : read (.record name field value) c =
    (readMembers field (read value) (cs.length + 1) true none ⟨cs,c.pastGap.offset + 1⟩).close
      closeObject := by
  rw [read,h]
  rfl

theorem exists_bracket_or_brace {v : (Shape.record name field value).Value} {rest : List Char}
    (h : Gives (read (.record name field value) c) v rest) :
    (∃ cs, c.pastGap.rest = '[' :: cs) ∨ ∃ cs, c.pastGap.rest = '\x7b' :: cs := by
  rw [read] at h
  split at h
  · simp at h
  · rename_i cs hcs
    exact .inl ⟨cs,hcs⟩
  · rename_i cs hcs
    exact .inr ⟨cs,hcs⟩
  · simp at h

theorem takes_record (htakes : Takes (read value) value.Writes) :
    Takes (read (.record name field value)) (Shape.record name field value).Writes := by
  have hbegins : ∀ v t, value.Writes v t → Begins t := fun _ _ h => h.isValue.begins
  intro c v rest
  constructor
  · intro h
    rcases exists_bracket_or_brace h with ⟨cs,hcs⟩ | ⟨cs,hcs⟩
    · obtain ⟨g,hg,hc⟩ := (pastGap_rest_iff (by decide)).mp hcs
      rw [read_record_list hcs] at h
      obtain ⟨k,i,hk,hi,hsplit⟩ := (gives_readOnly_iff htakes hbegins _).mp h
      have hsplit : cs = k ++ (listed true ([i].map Padded.text) ++ ']' :: rest) := hsplit
      refine ⟨g,_,hg,.inl ⟨k,i,hk,hi,rfl⟩,?_⟩
      rw [hc,List.append_assoc,listText_append,hsplit]
    · obtain ⟨g,hg,hc⟩ := (pastGap_rest_iff (by decide)).mp hcs
      rw [read_record_object hcs] at h
      obtain ⟨k,ms,hk,hms,hsplit⟩ := (gives_readMembers_iff htakes).mp h
      have hsplit : cs = k ++ (listed true (ms.map Member.text) ++ '\x7d' :: rest) := hsplit
      obtain ⟨front,m,back,rfl,hname,hvalue,hothers⟩ := fills_none_iff.mp hms
      refine ⟨g,_,hg,.inr ⟨k,front,m,back,hk,hname,hvalue,hothers,rfl⟩,?_⟩
      rw [hc,List.append_assoc,objectText_append,hsplit]
  · rintro ⟨g,_,hg,⟨k,i,hk,hi,rfl⟩ | ⟨k,front,m,back,hk,hname,hvalue,hothers,rfl⟩,hc⟩
    · rw [List.append_assoc,listText_append] at hc
      rw [read_record_list (pastGap_rest_eq hc hg (by decide))]
      exact (gives_readOnly_iff htakes hbegins _).mpr ⟨k,i,hk,hi,rfl⟩
    · have hms := fills_none_iff.mpr ⟨front,m,back,rfl,hname,hvalue,hothers⟩
      rw [List.append_assoc,objectText_append] at hc
      rw [read_record_object (pastGap_rest_eq hc hg (by decide))]
      exact (gives_readMembers_iff htakes).mpr ⟨k,_,hk,hms,rfl⟩

end Record

/-- A reader of a shape takes the texts that write its values. -/
theorem takes_read (s : Shape) : Takes (read s) s.Writes := by
  induction s with
  | text => exact takes_text
  | list item ih => exact takes_list ih
  | record name field value ih => exact takes_record ih

/-- A whole text is read as a value exactly when it writes that value, with blanks around it. -/
theorem decode_ok_iff (s : Shape) (text : List Char) (v : s.Value) :
    decode s text = .ok v ↔ ∃ p : Padded, s.Writes v p.body ∧ text = p.text := by
  have hgives : decode s text = .ok v ↔ ∃ g, IsGap g ∧ Gives (read s (.ofText text)) v g := by
    unfold decode
    split
    · rename_i f h
      simp [h]
    · rename_i w c h
      simp only [h,gives_ok]
      by_cases hrest : c.pastGap.rest = []
      · have hgap := pastGap_rest_eq_nil_iff.mp hrest
        simp [hrest,hgap]
      · have hgap : ¬ IsGap c.rest := fun h => hrest (pastGap_rest_eq_nil_iff.mpr h)
        simp [hrest,hgap]
  rw [hgives]
  constructor
  · rintro ⟨a,ha,h⟩
    obtain ⟨g,t,hg,ht,hc⟩ := (takes_read s _ v a).mp h
    exact ⟨⟨g,t,a,hg,ha⟩,ht,hc⟩
  · rintro ⟨p,hp,rfl⟩
    exact ⟨p.after,p.isGap_after,(takes_read s _ v _).mpr ⟨p.before,p.body,p.isGap_before,hp,rfl⟩⟩

end RegionAudit.Json
