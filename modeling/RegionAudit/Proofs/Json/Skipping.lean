import RegionAudit.Proofs.Json.Quotations

/-! Passing over a value. What is passed over is a value with blanks before it, and every value is passed
over, however deep its parts lie. -/
namespace RegionAudit.Json

/-! ### Names of members -/

theorem leaves_readColon_iff {c : Cursor} {rest : List Char} :
    Leaves (readColon c) rest ↔ ∃ g, IsGap g ∧ c.rest = g ++ ':' :: rest := by
  rw [← pastGap_rest_iff (by decide)]
  unfold readColon
  dsimp only
  split
  · rename_i cs hcs
    simp [hcs]
  · rename_i hne
    simpa using hne rest

theorem skipKey_eq (c : Cursor) : skipKey c =
    match c.pastGap.rest with
    | '"' :: cs => skipQuoted .plain cs (c.pastGap.offset + 1) >>= readColon
    | _ => .error (c.pastGap.faultOrEnd .keyNotText .endInObject) := rfl

theorem leaves_bind_iff {r : Except Fault Cursor} {f : Cursor → Except Fault Cursor} {rest : List Char} :
    Leaves (r >>= f) rest ↔ ∃ c, r = .ok c ∧ Leaves (f c) rest := by
  cases r with
  | error e => simp [bind,Except.bind]
  | ok c => simp [bind,Except.bind]

theorem leaves_skipKey_iff {c : Cursor} {rest : List Char} :
    Leaves (skipKey c) rest ↔ ∃ name : Padded, IsQuoted name.body ∧ c.rest = name.text ++ ':' :: rest := by
  rw [skipKey_eq]
  constructor
  · intro h
    split at h
    · rename_i cs hcs
      obtain ⟨g,hg,hc⟩ := (pastGap_rest_iff (by decide)).mp hcs
      obtain ⟨c',hskip,hcolon⟩ := leaves_bind_iff.mp h
      obtain ⟨i,hi,rfl⟩ := leaves_skipQuoted_iff.mp ⟨c'.offset,hskip⟩
      obtain ⟨g',hg',hc'⟩ := leaves_readColon_iff.mp hcolon
      exact ⟨⟨g,_,g',hg,hg'⟩,⟨i,hi,rfl⟩,by simp [Padded.text,hc,hc']⟩
    · simp at h
  · rintro ⟨⟨g,_,g',hg,hg'⟩,⟨i,hi,rfl⟩,hc⟩
    have hcs : c.pastGap.rest = '"' :: (i ++ '"' :: (g' ++ ':' :: rest)) :=
      pastGap_rest_eq (by simpa [Padded.text] using hc) hg (by decide)
    obtain ⟨n,hskip⟩ := leaves_skipQuoted_iff.mpr ⟨i,hi,rfl⟩
    simp only [hcs]
    exact leaves_bind_iff.mpr ⟨_,hskip,leaves_readColon_iff.mpr ⟨g',hg',rfl⟩⟩

/-! ### Parts up to a closing sign -/

section Parts

variable {α : Type} (text : α → List Char) (Q : α → Prop) (closing : Char)

def Begun (cs rest : List Char) : Prop :=
  ∃ parts : List α, parts ≠ [] ∧ (∀ p ∈ parts, Q p) ∧
    cs = listed true (parts.map text) ++ closing :: rest

/-- A text that begins with blanks, any parts that are still to come, and a closing sign. -/
def Enclosed (first : Bool) (cs rest : List Char) : Prop :=
  ∃ (g : List Char) (parts : List α), IsGap g ∧ (∀ p ∈ parts, Q p) ∧
    cs = g ++ listed first (parts.map text) ++ closing :: rest

variable {text Q closing} {g cs rest : List Char}

theorem enclosed_nil (hg : IsGap g) (first : Bool) :
    Enclosed text Q closing first (g ++ closing :: rest) rest :=
  ⟨g,[],hg,by simp,by simp [listed]⟩

theorem Begun.enclosed (h : Begun text Q closing cs rest) (hg : IsGap g) :
    Enclosed text Q closing true (g ++ cs) rest := by
  obtain ⟨parts,-,hparts,rfl⟩ := h
  exact ⟨g,parts,hg,hparts,by simp⟩

theorem Begun.enclosed_comma (h : Begun text Q closing cs rest) (hg : IsGap g) :
    Enclosed text Q closing false (g ++ ',' :: cs) rest := by
  obtain ⟨parts,hne,hparts,rfl⟩ := h
  obtain ⟨p,ps,rfl⟩ := List.exists_cons_of_ne_nil hne
  exact ⟨g,p :: ps,hg,hparts,by simp [listed]⟩

end Parts

/-! ### Steps over parts -/

/-- How steps go over parts: `run` is before a part or the closing sign, and goes on to `one` part; behind the
first one there is a comma before it. -/
def Sequences (run : Nat → Bool → Cursor → Except Fault Cursor) (one : Nat → Cursor → Except Fault Cursor)
    (closing : Char) : Prop :=
  ∀ fuel more (c : Cursor) rest, Leaves (run (fuel + 1) more c) rest ↔
    c.pastGap.rest = closing :: rest ∨ ∃ x xs, c.pastGap.rest = x :: xs ∧ x ≠ closing ∧
      if more then x = ',' ∧ Leaves (one fuel ⟨xs,c.pastGap.offset + 1⟩) rest
      else Leaves (one fuel c.pastGap) rest

theorem sequences_items : Sequences skipItems skipItem ']' := by
  intro fuel more c rest
  rw [skipItems]
  split
  · rename_i cs hcs
    simp [hcs]
  · rename_i hcs
    simp [hcs]
  · rename_i x cs hne hcs
    have hx : x ≠ ']' := hne
    cases more with
    | true => by_cases h : x = ',' <;> simp [hcs,hx,h]
    | false => simp [hcs,hx]

theorem sequences_members : Sequences skipMembers skipMember '\x7d' := by
  intro fuel more c rest
  rw [skipMembers]
  split
  · rename_i cs hcs
    simp [hcs]
  · rename_i hcs
    simp [hcs]
  · rename_i x cs hne hcs
    have hx : x ≠ '\x7d' := hne
    cases more with
    | true => by_cases h : x = ',' <;> simp [hcs,hx,h]
    | false => simp [hcs,hx]

section Sequences

variable {α : Type} {run : Nat → Bool → Cursor → Except Fault Cursor}
  {one : Nat → Cursor → Except Fault Cursor} {closing : Char} {text : α → List Char}

theorem Sequences.sound (hs : Sequences run one closing) {Q : α → Prop} {fuel : Nat}
    (hone : ∀ c rest, Leaves (one fuel c) rest → Begun text Q closing c.rest rest) {more : Bool}
    {c : Cursor} {rest : List Char} (h : Leaves (run (fuel + 1) more c) rest) :
    Enclosed text Q closing (!more) c.rest rest := by
  obtain ⟨g,hg,hc⟩ := exists_gap c
  rw [hc]
  rcases (hs fuel more c rest).mp h with hcs | ⟨x,xs,hcs,-,hnext⟩
  · rw [hcs]
    exact enclosed_nil hg _
  · cases more with
    | true =>
      obtain ⟨rfl,hnext⟩ : x = ',' ∧ _ := hnext
      rw [hcs]
      exact (hone _ rest hnext).enclosed_comma hg
    | false => exact (hone _ rest hnext).enclosed hg

end Sequences

/-! ### What is passed over -/

def Member.IsAny (m : Member) : Prop :=
  IsQuoted m.name.body ∧ IsValue m.value.body

def SkipsValue (fuel : Nat) : Prop :=
  ∀ c rest, Leaves (skipValue fuel c) rest → ∃ g v, IsGap g ∧ IsValue v ∧ c.rest = g ++ v ++ rest

def SkipsItems (fuel : Nat) : Prop :=
  ∀ more c rest, Leaves (skipItems fuel more c) rest →
    Enclosed Padded.text (fun i => IsValue i.body) ']' (!more) c.rest rest

def SkipsItem (fuel : Nat) : Prop :=
  ∀ c rest, Leaves (skipItem fuel c) rest →
    Begun Padded.text (fun i => IsValue i.body) ']' c.rest rest

def SkipsMembers (fuel : Nat) : Prop :=
  ∀ more c rest, Leaves (skipMembers fuel more c) rest →
    Enclosed Member.text Member.IsAny '\x7d' (!more) c.rest rest

def SkipsMember (fuel : Nat) : Prop :=
  ∀ c rest, Leaves (skipMember fuel c) rest → Begun Member.text Member.IsAny '\x7d' c.rest rest

theorem skipsItem_succ {fuel : Nat} (hv : SkipsValue fuel) (hi : SkipsItems fuel) :
    SkipsItem (fuel + 1) := by
  intro c rest h
  rw [skipItem] at h
  split at h
  · rename_i c' hskip
    obtain ⟨g,v,hg,hval,hc⟩ := hv c c'.rest ⟨c'.offset,hskip⟩
    obtain ⟨g',items,hg',hitems,hc'⟩ := hi true c' rest h
    refine ⟨⟨g,v,g',hg,hg'⟩ :: items,by simp,?_,by simp [listed,Padded.text,hc,hc']⟩
    exact List.forall_mem_cons.mpr ⟨hval,hitems⟩
  · simp at h

theorem skipsMember_succ {fuel : Nat} (hv : SkipsValue fuel) (hm : SkipsMembers fuel) :
    SkipsMember (fuel + 1) := by
  intro c rest h
  rw [skipMember] at h
  split at h
  · simp at h
  · rename_i c' hkey
    obtain ⟨name,hname,hc⟩ := leaves_skipKey_iff.mp ⟨c'.offset,hkey⟩
    split at h
    · rename_i c'' hskip
      obtain ⟨g,v,hg,hval,hc'⟩ := hv c' c''.rest ⟨c''.offset,hskip⟩
      obtain ⟨g',members,hg',hmembers,hc''⟩ := hm true c'' rest h
      refine ⟨⟨name,⟨g,v,g',hg,hg'⟩⟩ :: members,by simp,?_,?_⟩
      · exact List.forall_mem_cons.mpr ⟨⟨hname,hval⟩,hmembers⟩
      · simp [listed,Member.text,Padded.text,hc,hc',hc'']
    · simp at h

theorem Enclosed.isValue_list {cs rest : List Char}
    (h : Enclosed Padded.text (fun i => IsValue i.body) ']' true cs rest) :
    ∃ v, IsValue v ∧ '[' :: cs = v ++ rest := by
  obtain ⟨g,items,hg,hitems,rfl⟩ := h
  exact ⟨_,.list hg hitems,by simp [listText,bracketed,intercalate_eq_listed]⟩

theorem Enclosed.isValue_object {cs rest : List Char}
    (h : Enclosed Member.text Member.IsAny '\x7d' true cs rest) :
    ∃ v, IsValue v ∧ '\x7b' :: cs = v ++ rest := by
  obtain ⟨g,members,hg,hmembers,rfl⟩ := h
  exact ⟨_,.object hg (fun m hm => (hmembers m hm).1) fun m hm => (hmembers m hm).2,
    by simp [objectText,bracketed,intercalate_eq_listed]⟩

theorem skipsValue_succ {fuel : Nat} (hi : SkipsItems fuel) (hm : SkipsMembers fuel) :
    SkipsValue (fuel + 1) := by
  intro c rest h
  obtain ⟨g,hg,hc⟩ := exists_gap c
  have key : ∃ v, IsValue v ∧ c.pastGap.rest = v ++ rest := by
    rw [skipValue] at h
    split at h
    · simp at h
    · rename_i cs hcs
      obtain rfl : cs = "ull".toList ++ rest := leaves_readWord_iff.mp h
      exact ⟨"null".toList,.word (by simp),hcs⟩
    · rename_i cs hcs
      obtain rfl : cs = "rue".toList ++ rest := leaves_readWord_iff.mp h
      exact ⟨"true".toList,.word (by simp),hcs⟩
    · rename_i cs hcs
      obtain rfl : cs = "alse".toList ++ rest := leaves_readWord_iff.mp h
      exact ⟨"false".toList,.word (by simp),hcs⟩
    · rename_i cs hcs
      obtain ⟨n,hn,hrest⟩ := skipNumber_sound h
      obtain rfl : cs = n ++ rest := hrest
      exact ⟨'-' :: n,.number (.inr ⟨n,hn,rfl⟩),hcs⟩
    · rename_i cs hcs
      obtain ⟨i,hin,rfl⟩ := leaves_skipQuoted_iff.mp h
      exact ⟨'"' :: i ++ ['"'],.text ⟨i,hin,rfl⟩,by simp [hcs]⟩
    · rename_i cs hcs
      rw [hcs]
      exact (hi false _ rest h).isValue_list
    · rename_i cs hcs
      rw [hcs]
      exact (hm false _ rest h).isValue_object
    · rename_i d ds _ _ _ _ _ _ _ hcs
      split at h
      · obtain ⟨n,hn,hrest⟩ := skipNumber_sound h
        exact ⟨n,.number (.inl hn),hrest⟩
      · simp at h
  obtain ⟨v,hv,hrest⟩ := key
  exact ⟨g,v,hg,hv,by rw [hc,hrest,List.append_assoc]⟩

/-- Each of the steps passes over what it is for, from fewer steps of the others. -/
theorem skips (fuel : Nat) : SkipsValue fuel ∧ SkipsItems fuel ∧ SkipsItem fuel ∧
    SkipsMembers fuel ∧ SkipsMember fuel := by
  induction fuel with
  | zero => exact ⟨nofun,nofun,nofun,nofun,nofun⟩
  | succ fuel ih =>
    obtain ⟨hv,his,hi,hms,hm⟩ := ih
    exact ⟨skipsValue_succ his hms,fun _ _ _ h => sequences_items.sound hi h,skipsItem_succ hv his,
      fun _ _ _ h => sequences_members.sound hm h,skipsMember_succ hv hms⟩

theorem skip_sound {c : Cursor} {rest : List Char} (h : Leaves (skip c) rest) :
    ∃ g v, IsGap g ∧ IsValue v ∧ c.rest = g ++ v ++ rest :=
  (skips _).1 c rest h

/-! ### Every value is passed over -/

/-- Three steps for each of its characters are enough for a value. -/
def IsSkipped (v : List Char) : Prop :=
  ∀ fuel, 3 * v.length ≤ fuel → ∀ (c : Cursor) (rest : List Char), Breaks rest →
    c.pastGap.rest = v ++ rest → Leaves (skipValue fuel c) rest

theorem breaks_listed {parts : List (List Char)} {x : Char} (hx : Breaks [x]) (rest : List Char) :
    Breaks (listed false parts ++ x :: rest) := by
  cases parts with
  | nil => exact hx
  | cons t ts => exact breaks_cons.mpr (by decide)

def IsPassed (run : Nat → Bool → Cursor → Except Fault Cursor) (one : Nat → Cursor → Except Fault Cursor)
    (closing : Char) (core : List Char) : Prop :=
  ∀ fuel, 3 * core.length ≤ fuel → ∀ (c : Cursor) (tail : List (List Char)) (rest : List Char),
    c.pastGap.rest = core ++ (listed false tail ++ closing :: rest) →
    (∀ (c : Cursor) (g : List Char), IsGap g → c.rest = g ++ (listed false tail ++ closing :: rest) →
      Leaves (run fuel true c) rest) → Leaves (one (fuel + 1) c) rest

theorem Sequences.complete {α : Type} {run : Nat → Bool → Cursor → Except Fault Cursor}
    {one : Nat → Cursor → Except Fault Cursor} {closing : Char} (hs : Sequences run one closing)
    (hclosing : isGap closing = false) (hcomma : ',' ≠ closing) (lead core : α → List Char)
    {parts : List α}
    (hlead : ∀ p ∈ parts, IsGap (lead p) ∧ ∃ x xs, core p = x :: xs ∧ isGap x = false ∧ x ≠ closing)
    (hpassed : ∀ p ∈ parts, IsPassed run one closing (core p)) {more : Bool} {fuel : Nat} {c : Cursor}
    {g rest : List Char} (hg : IsGap g)
    (hfuel : 3 * (listed (!more) (parts.map fun p => lead p ++ core p)).length +
      (if more then 3 else 5) ≤ fuel)
    (hc : c.rest = g ++ (listed (!more) (parts.map fun p => lead p ++ core p) ++ closing :: rest)) :
    Leaves (run fuel more c) rest := by
  induction parts generalizing more fuel c g with
  | nil =>
    obtain ⟨fuel,rfl⟩ : ∃ k, fuel = k + 1 := ⟨fuel - 1,by split at hfuel <;> omega⟩
    exact (hs fuel more c rest).mpr (.inl (pastGap_rest_eq hc hg hclosing))
  | cons p parts ih =>
    obtain ⟨⟨hgap,x,xs,hcore,hx,hne⟩,hlead⟩ := List.forall_mem_cons.mp hlead
    obtain ⟨hp,hpassed⟩ := List.forall_mem_cons.mp hpassed
    obtain ⟨fuel,rfl⟩ : ∃ k, fuel = k + 1 + 1 := ⟨fuel - 2,by split at hfuel <;> omega⟩
    simp only [List.map_cons,listed,List.length_append] at hfuel
    -- the parts behind this one
    have htail : ∀ (c : Cursor) (g : List Char), IsGap g →
        c.rest = g ++ (listed false (parts.map fun p => lead p ++ core p) ++ closing :: rest) →
          Leaves (run fuel true c) rest := by
      intro c g hg hc
      refine ih hlead hpassed hg ?_ hc
      cases more <;> simp at hfuel ⊢ <;> omega
    have hlen : 3 * (core p).length ≤ fuel := by
      cases more <;> simp at hfuel <;> omega
    refine (hs _ more c rest).mpr (.inr ?_)
    cases more with
    | true =>
      have hcs : c.pastGap.rest = ',' :: (lead p ++ (core p ++
          (listed false (parts.map fun p => lead p ++ core p) ++ closing :: rest))) :=
        pastGap_rest_eq (by simpa [listed] using hc) hg (by decide)
      refine ⟨',',_,hcs,hcomma,rfl,hp fuel hlen _ _ rest ?_ htail⟩
      rw [hcore]
      exact pastGap_rest_eq rfl hgap hx
    | false =>
      have hcs : c.pastGap.rest = x :: (xs ++
          (listed false (parts.map fun p => lead p ++ core p) ++ closing :: rest)) :=
        pastGap_rest_eq (by simpa [listed,hcore] using hc) (hg.append hgap) hx
      refine ⟨x,_,hcs,hne,hp fuel hlen _ _ rest ?_ htail⟩
      rw [hcore]
      exact pastGap_rest_eq (g := []) hcs isGap_nil hx

theorem isPassed_item {i : Padded} (hi : IsSkipped i.body) :
    IsPassed skipItems skipItem ']' (i.body ++ i.after) := by
  intro fuel hfuel c tail rest hc htail
  rw [List.append_assoc] at hc
  have hbreaks : Breaks (i.after ++ (listed false tail ++ ']' :: rest)) :=
    breaks_gap_append i.isGap_after (breaks_listed (breaks_cons.mpr (by decide)) rest)
  have hlen : 3 * i.body.length ≤ fuel := by
    rw [List.length_append] at hfuel
    omega
  obtain ⟨n,hskip⟩ := hi fuel hlen c _ hbreaks hc
  rw [skipItem,hskip]
  exact htail _ i.after i.isGap_after rfl

theorem isPassed_member {m : Member} (hname : IsQuoted m.name.body) (hvalue : IsSkipped m.value.body)
    (hbegins : Begins m.value.body) :
    IsPassed skipMembers skipMember '\x7d' (m.name.body ++ m.name.after ++ ':' :: m.value.text) := by
  intro fuel hfuel c tail rest hc htail
  obtain ⟨x,xs,hbody,hx,-,-⟩ := hbegins
  have hlen : 3 * m.value.body.length ≤ fuel := by
    simp only [Padded.text,List.length_append,List.length_cons] at hfuel
    omega
  -- the name may have other blanks before it
  obtain ⟨i,-,hi⟩ := id hname
  have hquote : isGap '"' = false := by decide
  have hc' : c.pastGap.rest = '"' :: (i ++ '"' :: (m.name.after ++ ':' :: (m.value.text ++
      (listed false tail ++ '\x7d' :: rest)))) := by simpa [hi] using hc
  obtain ⟨g,hg,hcg⟩ := (pastGap_rest_iff hquote).mp hc'
  obtain ⟨n,hkey⟩ : Leaves (skipKey c) (m.value.text ++ (listed false tail ++ '\x7d' :: rest)) :=
    leaves_skipKey_iff.mpr
      ⟨⟨g,m.name.body,m.name.after,hg,m.name.isGap_after⟩,hname,by simp [Padded.text,hcg,hi]⟩
  have hbreaks : Breaks (m.value.after ++ (listed false tail ++ '\x7d' :: rest)) :=
    breaks_gap_append m.value.isGap_after (breaks_listed (breaks_cons.mpr (by decide)) rest)
  have hstart : (⟨m.value.text ++ (listed false tail ++ '\x7d' :: rest),n⟩ : Cursor).pastGap.rest =
      m.value.body ++ (m.value.after ++ (listed false tail ++ '\x7d' :: rest)) := by
    rw [hbody]
    exact pastGap_rest_eq (by simp [Padded.text,hbody]) m.value.isGap_before hx
  obtain ⟨k,hskip⟩ := hvalue fuel hlen _ _ hbreaks hstart
  rw [skipMember,hkey]
  dsimp only
  rw [hskip]
  exact htail _ _ m.value.isGap_after rfl

theorem skipValue_digit {c : Cursor} {d : Char} {ds : List Char} (hc : c.pastGap.rest = d :: ds)
    (hd : d.isDigit = true) (fuel : Nat) : skipValue (fuel + 1) c = skipNumber c.pastGap := by
  rw [skipValue,hc]
  split
  all_goals
    rename_i heq
    cases heq
  all_goals first | cases hd | exact if_pos hd

theorem IsQuoted.exists_eq_cons {q : List Char} (h : IsQuoted q) : ∃ xs, q = '"' :: xs := by
  obtain ⟨i,-,rfl⟩ := h
  exact ⟨_,rfl⟩

theorem isSkipped_list {gap : List Char} (hgap : IsGap gap) {items : List Padded}
    (hvalues : ∀ i ∈ items, IsValue i.body) (hitems : ∀ i ∈ items, IsSkipped i.body) :
    IsSkipped (listText gap items) := by
  have htext : items.map Padded.text = items.map fun i => i.before ++ (i.body ++ i.after) :=
    List.map_congr_left fun i _ => List.append_assoc ..
  intro fuel hfuel c rest _ hc
  simp only [listText,bracketed,intercalate_eq_listed,htext,List.length_append,List.length_cons] at hfuel hc
  obtain ⟨fuel,rfl⟩ : ∃ k, fuel = k + 1 := ⟨fuel - 1,by omega⟩
  simp only [List.append_assoc,List.cons_append,List.nil_append] at hc
  rw [skipValue,hc]
  refine sequences_items.complete (by decide) (by decide) Padded.before (fun i => i.body ++ i.after)
    (fun i hi => ⟨i.isGap_before,?_⟩) (fun i hi => isPassed_item (hitems i hi)) hgap ?_ rfl
  · obtain ⟨x,xs,hbody,hx,hne,-⟩ := (hvalues i hi).begins
    exact ⟨x,_,by rw [hbody]; rfl,hx,hne⟩
  · simp at hfuel ⊢
    omega

theorem isSkipped_object {gap : List Char} (hgap : IsGap gap) {members : List Member}
    (hnames : ∀ m ∈ members, IsQuoted m.name.body) (hvalues : ∀ m ∈ members, IsValue m.value.body)
    (hskipped : ∀ m ∈ members, IsSkipped m.value.body) : IsSkipped (objectText gap members) := by
  have htext : members.map Member.text = members.map fun m =>
      m.name.before ++ (m.name.body ++ m.name.after ++ ':' :: m.value.text) :=
    List.map_congr_left fun m _ => by simp [Member.text,Padded.text]
  intro fuel hfuel c rest _ hc
  simp only [objectText,bracketed,intercalate_eq_listed,htext,List.length_append,List.length_cons] at hfuel hc
  obtain ⟨fuel,rfl⟩ : ∃ k, fuel = k + 1 := ⟨fuel - 1,by omega⟩
  simp only [List.append_assoc,List.cons_append,List.nil_append] at hc
  rw [skipValue,hc]
  refine sequences_members.complete (by decide) (by decide) (fun m => m.name.before)
    (fun m => m.name.body ++ m.name.after ++ ':' :: m.value.text) (fun m hm => ⟨m.name.isGap_before,?_⟩)
    (fun m hm => isPassed_member (hnames m hm) (hskipped m hm) (hvalues m hm).begins) hgap ?_ ?_
  · obtain ⟨xs,hbody⟩ := (hnames m hm).exists_eq_cons
    exact ⟨'"',_,by rw [hbody]; rfl,by decide,by decide⟩
  · simp at hfuel ⊢
    omega
  · simp

/-- Every value is passed over, with the parts of lists and objects by induction on the value. -/
theorem IsValue.isSkipped {v : List Char} (h : IsValue v) : IsSkipped v := by
  induction h with
  | word hw =>
    intro fuel hfuel c rest _ hc
    simp only [List.mem_cons,List.not_mem_nil,or_false] at hw
    obtain ⟨fuel,rfl⟩ : ∃ k, fuel = k + 1 :=
      ⟨fuel - 1,by rcases hw with rfl | rfl | rfl <;> simp at hfuel <;> omega⟩
    rw [skipValue,hc]
    rcases hw with rfl | rfl | rfl
    · exact leaves_readWord_iff.mpr rfl
    · exact leaves_readWord_iff.mpr rfl
    · exact leaves_readWord_iff.mpr rfl
  | number hn =>
    intro fuel hfuel c rest hbreaks hc
    obtain hn | ⟨m,hm,rfl⟩ := hn
    · obtain ⟨d,ds,rfl,hd⟩ := hn.exists_eq_cons
      obtain ⟨fuel,rfl⟩ : ∃ k, fuel = k + 1 := ⟨fuel - 1,by simp at hfuel; omega⟩
      rw [skipValue_digit hc hd]
      exact skipNumber_complete hc hn hbreaks
    · obtain ⟨fuel,rfl⟩ : ∃ k, fuel = k + 1 := ⟨fuel - 1,by simp at hfuel; omega⟩
      rw [skipValue,hc]
      exact skipNumber_complete rfl hm hbreaks
  | text hq =>
    intro fuel hfuel c rest _ hc
    obtain ⟨i,hi,rfl⟩ := hq
    obtain ⟨fuel,rfl⟩ : ∃ k, fuel = k + 1 := ⟨fuel - 1,by simp at hfuel; omega⟩
    rw [skipValue,hc]
    exact leaves_skipQuoted_iff.mpr ⟨i,hi,by simp⟩
  | list hgap hitems ih => exact isSkipped_list hgap hitems ih
  | object hgap hnames hvalues ih => exact isSkipped_object hgap hnames hvalues ih

/-- A value is passed over wherever it may end. -/
theorem skip_complete {c : Cursor} {g v rest : List Char} (hg : IsGap g) (hv : IsValue v)
    (hr : Breaks rest) (hc : c.rest = g ++ v ++ rest) : Leaves (skip c) rest := by
  obtain ⟨x,xs,rfl,hx,-,-⟩ := hv.begins
  refine hv.isSkipped _ ?_ c rest hr (pastGap_rest_eq (by simpa using hc) hg hx)
  simp [hc]
  omega

end RegionAudit.Json
