import Mathlib
import RegionAudit.Proofs.Lookup

/-! Hostnames in a text. A page lists the region of every hostname on it, wherever it stands, and of nothing
else: the hostnames are taken from left to right, each behind the end of the one before, and no start that
comes to nothing hides a later one. -/
namespace RegionAudit.Listing

open Text (lower)

/-! ### Hostnames -/

/-- A letter or digit of an identifier: those of ASCII, the long s and the sign for kelvin. -/
def IsWordChar (c : Char) : Prop :=
  c.isAlphanum = true ∨ c = '\u017f' ∨ c = '\u212a'

instance : DecidablePred IsWordChar := fun _ => inferInstanceAs (Decidable (_ ∨ _))

/-- Identifiers: runs of letters and digits with single hyphens between them. -/
def IsIdentifier (t : List Char) : Prop :=
  ∃ runs : List (List Char), runs ≠ [] ∧ (∀ r ∈ runs, r ≠ [] ∧ ∀ c ∈ r, IsWordChar c) ∧
    t = List.intercalate ['-'] runs

/-- The forms of a small letter or another sign: itself, its capital, and one sign more for s and for k. -/
def IsFormOf (w c : Char) : Prop :=
  c.toLower = w ∨ (w = 's' ∧ c = '\u017f') ∨ (w = 'k' ∧ c = '\u212a')

instance (w : Char) : DecidablePred (IsFormOf w) := fun _ => inferInstanceAs (Decidable (_ ∨ _))

def IsWord (word cs : List Char) : Prop :=
  List.Forall₂ IsFormOf word cs

/-- The hostnames of an identifier. -/
def IsHost (t h : List Char) : Prop :=
  ∃ a b, IsWord hostStart a ∧ IsIdentifier t ∧ IsWord hostEnd b ∧ h = a ++ t ++ b

/-! ### Letters -/

theorem isWordChar_iff (c : Char) : isWordChar c = true ↔ IsWordChar c := by
  unfold isWordChar IsWordChar folded
  split
  · rename_i h
    subst h
    decide
  · split
    · rename_i h
      subst h
      decide
    · rename_i hs hk
      have halpha : (decide ('a' ≤ c.toLower) && decide (c.toLower ≤ 'z')) = c.isAlpha :=
        Char.isLower_toLower_eq_isAlpha c
      simp only [hs,hk,or_false,halpha,Char.isAlphanum]

theorem folded_eq_iff {w : Char} (hw : w.toNat < 128) (c : Char) : folded c = w ↔ IsFormOf w c := by
  have hne : ∀ d : Char, 128 ≤ d.toNat → d ≠ w := by
    rintro d hd rfl
    omega
  unfold folded IsFormOf
  split
  · rename_i h
    subst h
    simp [hne '\u017f' (by decide),eq_comm]
  · split
    · rename_i h
      subst h
      simp [hne '\u212a' (by decide),eq_comm]
    · rename_i hs hk
      simp [hs,hk]

theorem isWord_iff {word : List Char} (hw : ∀ w ∈ word, w.toNat < 128) {a : List Char} :
    IsWord word a ↔ a.map folded = word := by
  induction word generalizing a with
  | nil => simp [IsWord]
  | cons w ws ih =>
    have ih := @ih fun v hv => hw v (List.mem_cons_of_mem _ hv)
    have hc := folded_eq_iff (hw w (by simp))
    simp only [IsWord] at ih
    simp only [IsWord,List.forall₂_cons_left_iff,List.map_eq_cons_iff,hc,ih]
    exact ⟨fun ⟨c,cs,hc,hcs,h⟩ => ⟨c,cs,h,hc,hcs⟩,fun ⟨c,cs,h,hc,hcs⟩ => ⟨c,cs,hc,hcs,h⟩⟩

theorem after?_eq_some_iff {word : List Char} (hw : ∀ w ∈ word, w.toNat < 128) {cs rest : List Char} :
    after? word cs = some rest ↔ ∃ a, IsWord word a ∧ cs = a ++ rest := by
  simp only [isWord_iff hw]
  fun_induction after? word cs with
  | case1 cs => simp [eq_comm]
  | case2 w ws =>
    refine ⟨nofun,fun ⟨a,ha,h⟩ => ?_⟩
    obtain ⟨rfl,-⟩ := List.append_eq_nil_iff.mp h.symm
    cases ha
  | case3 ws c cs ih =>
    rw [ih fun v hv => hw v (List.mem_cons_of_mem _ hv)]
    constructor
    · rintro ⟨a,ha,rfl⟩
      exact ⟨c :: a,by rw [List.map_cons,ha],rfl⟩
    · rintro ⟨a,ha,h⟩
      obtain ⟨d,a,rfl,-,ha⟩ := List.map_eq_cons_iff.mp ha
      obtain ⟨-,h⟩ := List.cons.inj h
      exact ⟨a,ha,h⟩
  | case4 w ws c cs hne =>
    refine ⟨nofun,fun ⟨a,ha,h⟩ => ?_⟩
    obtain ⟨d,a,rfl,hd,-⟩ := List.map_eq_cons_iff.mp ha
    obtain ⟨rfl,-⟩ := List.cons.inj h
    exact absurd hd hne

theorem hostStart_basic : ∀ w ∈ hostStart, w.toNat < 128 := List.all_iff_forall_prop.mp (by decide)

theorem hostEnd_basic : ∀ w ∈ hostEnd, w.toNat < 128 := List.all_iff_forall_prop.mp (by decide)

/-! ### Identifiers -/

theorem isWordChar_hyphen : isWordChar '-' = false := by decide

theorem isWordChar_point : isWordChar '.' = false := by decide

theorem IsIdentifier.single {c : Char} (hc : IsWordChar c) : IsIdentifier [c] :=
  ⟨[[c]],by simp,by simpa using hc,rfl⟩

theorem IsIdentifier.ne_nil {t : List Char} (h : IsIdentifier t) : t ≠ [] := by
  obtain ⟨runs,hne,hr,rfl⟩ := h
  cases runs with
  | nil => exact absurd rfl hne
  | cons r rs =>
    have hrne := (hr r (by simp)).1
    cases rs <;> simp [List.intercalate_cons_cons,hrne]

theorem IsIdentifier.cons {c : Char} {t : List Char} (hc : IsWordChar c) (h : IsIdentifier t) :
    IsIdentifier (c :: t) := by
  obtain ⟨runs,hne,hr,rfl⟩ := h
  cases runs with
  | nil => exact absurd rfl hne
  | cons r rs =>
    refine ⟨(c :: r) :: rs,by simp,?_,?_⟩
    · intro q hq
      rcases List.mem_cons.mp hq with rfl | hq
      · refine ⟨by simp,fun d hd => ?_⟩
        rcases List.mem_cons.mp hd with rfl | hd
        · exact hc
        · exact (hr r (by simp)).2 d hd
      · exact hr q (List.mem_cons_of_mem _ hq)
    · cases rs <;> simp [List.intercalate_cons_cons]

theorem IsIdentifier.hyphen {c : Char} {t : List Char} (hc : IsWordChar c) (h : IsIdentifier t) :
    IsIdentifier (c :: '-' :: t) := by
  obtain ⟨runs,hne,hr,rfl⟩ := h
  cases runs with
  | nil => exact absurd rfl hne
  | cons r rs =>
    refine ⟨[c] :: r :: rs,by simp,?_,by simp [List.intercalate_cons_cons]⟩
    intro q hq
    rcases List.mem_cons.mp hq with rfl | hq
    · exact ⟨by simp,by simpa using hc⟩
    · exact hr q hq

def IsRuns (P : Char → Prop) (t : List Char) : Prop :=
  ∃ runs : List (List Char), runs ≠ [] ∧ (∀ r ∈ runs, r ≠ [] ∧ ∀ c ∈ r, P c) ∧
    t = List.intercalate ['-'] runs

theorem IsRuns.forall_mem {P : Char → Prop} {t : List Char} (h : IsRuns P t) : ∀ c ∈ t, P c ∨ c = '-' := by
  obtain ⟨runs,-,hr,rfl⟩ := h
  induction runs with
  | nil => simp
  | cons r rs ih =>
    have ih := ih fun q hq => hr q (List.mem_cons_of_mem _ hq)
    intro c hc
    cases rs with
    | nil => exact .inl ((hr r (by simp)).2 c (by simpa using hc))
    | cons q qs =>
      rw [List.intercalate_cons_cons,List.append_assoc,List.mem_append,List.mem_append] at hc
      rcases hc with hc | hc | hc
      · exact .inl ((hr r (by simp)).2 c hc)
      · exact .inr (by simpa using hc)
      · exact ih c hc

theorem IsIdentifier.isRuns {t : List Char} (h : IsIdentifier t) : IsRuns IsWordChar t := h

theorem IsIdentifier.forall_mem {t : List Char} (h : IsIdentifier t) :
    ∀ c ∈ t, IsWordChar c ∨ c = '-' :=
  h.isRuns.forall_mem

/-- What is taken for an identifier is one, and may go on a run that has begun. -/
theorem identifierAt_sound (hyphens : Bool) (cs : List Char) :
    cs = (identifierAt hyphens cs).1 ++ (identifierAt hyphens cs).2 ∧
      (hyphens = false → (identifierAt hyphens cs).1 ≠ [] → IsIdentifier (identifierAt hyphens cs).1) ∧
      (hyphens = true → ∀ c, IsWordChar c → IsIdentifier (c :: (identifierAt hyphens cs).1)) := by
  fun_induction identifierAt hyphens cs with
  | case1 hyphens => exact ⟨rfl,fun _ h => absurd rfl h,fun _ c hc => .single hc⟩
  | case2 hyphens c cs hc id rest heq ih =>
    rw [heq] at ih
    obtain ⟨hcs,-,hid⟩ := ih
    have hc := (isWordChar_iff c).mp hc
    exact ⟨by rw [hcs]; rfl,fun _ _ => hid rfl c hc,fun _ d hd => (hid rfl c hc).cons hd⟩
  | case3 hyphens c cs hc hh rest heq ih =>
    exact ⟨rfl,fun _ h => absurd rfl h,fun _ d hd => .single hd⟩
  | case4 hyphens c cs hc hh id rest hne heq ih =>
    rw [heq] at ih
    obtain ⟨hcs,hid,-⟩ := ih
    obtain ⟨rfl,rfl⟩ : hyphens = true ∧ c = '-' := by simpa using hh
    have hid : IsIdentifier id := hid rfl hne
    exact ⟨by rw [hcs]; rfl,by simp,fun _ d hd => hid.hyphen hd⟩
  | case5 hyphens c cs hc hh =>
    exact ⟨rfl,fun _ h => absurd rfl h,fun _ d hd => .single hd⟩

theorem identifierAt_run {r : List Char} (hne : r ≠ []) (hr : ∀ c ∈ r, IsWordChar c) (hyphens : Bool)
    (cs : List Char) :
    identifierAt hyphens (r ++ cs) = (r ++ (identifierAt true cs).1,(identifierAt true cs).2) := by
  induction r generalizing hyphens with
  | nil => exact absurd rfl hne
  | cons c r ih =>
    have hc : isWordChar c = true := (isWordChar_iff c).mpr (hr c (by simp))
    rw [List.cons_append,identifierAt,if_pos hc]
    cases r with
    | nil => rfl
    | cons d r => rw [ih (by simp) (fun e he => hr e (List.mem_cons_of_mem _ he))]; rfl

/-- An identifier before a point is taken as a whole. -/
theorem identifierAt_complete {t : List Char} (h : IsIdentifier t) (hyphens : Bool) (s : List Char) :
    identifierAt hyphens (t ++ '.' :: s) = (t,'.' :: s) := by
  obtain ⟨runs,hne,hr,rfl⟩ := h
  have hpoint : identifierAt true ('.' :: s) = ([],'.' :: s) := by
    simp [identifierAt,isWordChar_point]
  induction runs generalizing hyphens with
  | nil => exact absurd rfl hne
  | cons r rs ih =>
    obtain ⟨hrne,hrw⟩ := hr r (by simp)
    have hrs := fun q hq => hr q (List.mem_cons_of_mem _ hq)
    cases rs with
    | nil =>
      rw [List.intercalate_singleton,identifierAt_run hrne hrw,hpoint,List.append_nil]
    | cons q qs =>
      have ih := ih false (by simp) hrs
      have htail : IsIdentifier (List.intercalate ['-'] (q :: qs)) := ⟨_,by simp,hrs,rfl⟩
      have hhyphen : identifierAt true ('-' :: (List.intercalate ['-'] (q :: qs) ++ '.' :: s)) =
          ('-' :: List.intercalate ['-'] (q :: qs),'.' :: s) := by
        rw [identifierAt,isWordChar_hyphen,ih]
        obtain ⟨c,cs,hcs⟩ := List.exists_cons_of_ne_nil htail.ne_nil
        simp [hcs]
      rw [List.intercalate_cons_cons,List.append_assoc,List.append_assoc,identifierAt_run hrne hrw]
      simp only [List.cons_append,List.nil_append,List.append_assoc,hhyphen]

/-! ### Hostnames at a place -/

theorem eq_of_isFormOf {w c : Char} (hw : w.isAlpha = false) (h : IsFormOf w c) : c = w := by
  rcases h with h | ⟨rfl,-⟩ | ⟨rfl,-⟩
  · have hc : ¬ c.isUpper := by
      intro hc
      rw [← h,Char.isAlpha_toLower_eq_isAlpha,Char.isAlpha,hc] at hw
      cases hw
    rw [← h,Char.toLower_eq_of_not_isUpper hc]
  · cases hw
  · cases hw

theorem exists_eq_point_cons {b : List Char} (hb : IsWord hostEnd b) : ∃ b', b = '.' :: b' := by
  have hend : hostEnd = '.' :: "dream.io".toList := by decide
  rw [hend] at hb
  obtain ⟨c,b',hc,-,rfl⟩ := List.forall₂_cons_left_iff.mp hb
  exact ⟨b',by rw [eq_of_isFormOf (by decide) hc]⟩

theorem hostAt?_eq_some_iff {cs t : List Char} :
    hostAt? cs = some t ↔ ∃ h s, IsHost t h ∧ cs = h ++ s := by
  unfold hostAt?
  constructor
  · intro h
    split at h
    · cases h
    · rename_i mid hmid
      obtain ⟨a,ha,rfl⟩ := (after?_eq_some_iff hostStart_basic).mp hmid
      obtain ⟨hmid',hid,-⟩ := identifierAt_sound false mid
      split at h
      · cases h
      · rename_i id rest hne heq
        rw [heq] at hmid' hid
        obtain ⟨s,hrest,rfl⟩ := Option.map_eq_some_iff.mp h
        obtain ⟨b,hb,rfl⟩ := (after?_eq_some_iff hostEnd_basic).mp hrest
        exact ⟨a ++ id ++ b,s,⟨a,b,ha,hid rfl hne,hb,rfl⟩,by simp [hmid']⟩
  · rintro ⟨_,s,⟨a,b,ha,ht,hb,rfl⟩,rfl⟩
    have hstart : after? hostStart (a ++ t ++ b ++ s) = some (t ++ (b ++ s)) :=
      (after?_eq_some_iff hostStart_basic).mpr ⟨a,ha,by simp⟩
    have hend : after? hostEnd (b ++ s) = some s := (after?_eq_some_iff hostEnd_basic).mpr ⟨b,hb,rfl⟩
    obtain ⟨b',rfl⟩ := exists_eq_point_cons hb
    obtain ⟨c,cs,hcs⟩ := List.exists_cons_of_ne_nil ht.ne_nil
    simp only [hstart,List.cons_append,identifierAt_complete ht]
    rw [List.cons_append] at hend
    simp [hcs,hend]

theorem IsWord.length_eq {word a : List Char} (h : IsWord word a) : a.length = word.length :=
  (List.Forall₂.length_eq h).symm

theorem IsHost.length_eq {t h : List Char} (hh : IsHost t h) : h.length = hostLength t := by
  obtain ⟨a,b,ha,-,hb,rfl⟩ := hh
  simp [hostLength,ha.length_eq,hb.length_eq,Nat.add_assoc]

theorem IsHost.length_pos {t h : List Char} (hh : IsHost t h) : 0 < h.length := by
  have hpos : 0 < hostStart.length := by decide
  rw [hh.length_eq,hostLength]
  omega

/-- One hostname at most begins at a place. -/
theorem IsHost.eq_of_append_eq {t t' h h' s s' : List Char} (hh : IsHost t h) (hh' : IsHost t' h')
    (heq : h ++ s = h' ++ s') : t = t' ∧ h = h' ∧ s = s' := by
  have ht : t = t' := Option.some.inj <|
    (hostAt?_eq_some_iff.mpr ⟨h,s,hh,rfl⟩).symm.trans (hostAt?_eq_some_iff.mpr ⟨h',s',hh',heq⟩)
  exact ⟨ht,List.append_inj heq (by rw [hh.length_eq,hh'.length_eq,ht])⟩

/-! ### Hostnames in a text -/

/-- Hostnames of a text from left to right: the first one there is, and then those behind its end. -/
inductive Hosts : List Char → List (List Char) → Prop
  | none {cs : List Char} (hno : ∀ p t h s, IsHost t h → cs ≠ p ++ h ++ s) : Hosts cs []
  | next {p t h s : List Char} {ts : List (List Char)} (hh : IsHost t h)
      (hfirst : ∀ p' t' h' s', IsHost t' h' → p ++ h ++ s = p' ++ h' ++ s' → p.length ≤ p'.length)
      (hrest : Hosts s ts) : Hosts (p ++ h ++ s) (t :: ts)

theorem Hosts.cons {c : Char} {cs : List Char} {ts : List (List Char)}
    (hno : ∀ t h s, IsHost t h → c :: cs ≠ h ++ s) (hcs : Hosts cs ts) : Hosts (c :: cs) ts := by
  -- a hostname of the whole text begins after its first character
  have htail : ∀ p t h s, IsHost t h → c :: cs = p ++ h ++ s →
      ∃ p', p = c :: p' ∧ cs = p' ++ h ++ s := by
    intro p t h s hh heq
    cases p with
    | nil => exact absurd heq (hno t h s hh)
    | cons d p' =>
      obtain ⟨rfl,rfl⟩ := List.cons.inj heq
      exact ⟨p',rfl,rfl⟩
  cases hcs with
  | none hnone =>
    refine .none fun p t h s hh heq => ?_
    obtain ⟨p',-,hcs⟩ := htail p t h s hh heq
    exact hnone p' t h s hh hcs
  | @next p t h s ts hh hfirst hrest =>
    refine Hosts.next (p := c :: p) hh (fun p' t' h' s' hh' heq => ?_) hrest
    obtain ⟨p'',rfl,hcs⟩ := htail p' t' h' s' hh' heq
    exact Nat.succ_le_succ (hfirst p'' t' h' s' hh' hcs)

theorem hostIdsFrom_busy (busy : Nat) (cs : List Char) :
    hostIdsFrom busy cs = hostIdsFrom 0 (cs.drop busy) := by
  induction cs generalizing busy with
  | nil => simp [hostIdsFrom]
  | cons c cs ih =>
    cases busy with
    | zero => rfl
    | succ busy => exact ih busy

/-- What is listed are the hostnames from left to right. -/
theorem hosts_hostIdsFrom (cs : List Char) : Hosts cs (hostIdsFrom 0 cs) := by
  induction hn : cs.length using Nat.strongRecOn generalizing cs with
  | _ n ih =>
    cases cs with
    | nil =>
      refine .none fun p t h s hh heq => ?_
      have hpos := hh.length_pos
      have hlen := congrArg List.length heq
      simp at hlen
      omega
    | cons c cs =>
      rw [hostIdsFrom]
      cases hat : hostAt? (c :: cs) with
      | none =>
        refine .cons (fun t h s hh heq => ?_) (ih cs.length (by simp [← hn]) cs rfl)
        have hsome := hostAt?_eq_some_iff.mpr ⟨h,s,hh,heq⟩
        cases hat.symm.trans hsome
      | some t =>
        obtain ⟨h,s,hh,heq⟩ := hostAt?_eq_some_iff.mp hat
        have hpos := hh.length_pos
        have hdrop : cs.drop (hostLength t - 1) = s := by
          have hd : (c :: cs).drop (hostLength t - 1 + 1) = s := by
            rw [heq,Nat.sub_add_cancel (hh.length_eq ▸ hpos),← hh.length_eq,List.drop_left]
          exact hd
        have hlen : s.length < n := by
          rw [← hn,heq,List.length_append]
          omega
        have hs := ih s.length hlen s rfl
        simp only [hostIdsFrom_busy (hostLength t - 1),hdrop,heq]
        exact Hosts.next (p := []) hh (fun _ _ _ _ _ _ => Nat.zero_le _) hs

theorem Hosts.unique {cs : List Char} {ts us : List (List Char)} (ht : Hosts cs ts) (hu : Hosts cs us) :
    ts = us := by
  induction ht generalizing us with
  | none hno =>
    cases hu with
    | none => rfl
    | next hh => exact absurd rfl (hno _ _ _ _ hh)
  | @next p t h s ts hh hfirst hrest ih =>
    generalize hcs : p ++ h ++ s = cs at hu
    cases hu with
    | none hno => exact absurd hcs.symm (hno _ _ _ _ hh)
    | @next p' t' h' s' us hh' hfirst' hrest' =>
      have hp : p.length = p'.length :=
        Nat.le_antisymm (hfirst _ _ _ _ hh' hcs) (hfirst' _ _ _ _ hh hcs.symm)
      rw [List.append_assoc,List.append_assoc] at hcs
      obtain ⟨rfl,heq⟩ := List.append_inj hcs hp
      obtain ⟨rfl,rfl,rfl⟩ := hh.eq_of_append_eq hh' heq
      rw [ih hrest']

theorem Hosts.exists_host {cs : List Char} {ts : List (List Char)} (hcs : Hosts cs ts) {t : List Char}
    (ht : t ∈ ts) : ∃ p h s, IsHost t h ∧ cs = p ++ h ++ s := by
  induction hcs with
  | none => simp at ht
  | @next p u h s ts hh hfirst hrest ih =>
    rcases List.mem_cons.mp ht with rfl | ht
    · exact ⟨p,h,s,hh,rfl⟩
    · obtain ⟨p',h',s',hh',rfl⟩ := ih ht
      exact ⟨p ++ h ++ p',h',s',hh',by simp⟩

theorem Hosts.eq_nil_iff {cs : List Char} {ts : List (List Char)} (hcs : Hosts cs ts) :
    ts = [] ↔ ∀ p t h s, IsHost t h → cs ≠ p ++ h ++ s := by
  constructor
  · rintro rfl
    cases hcs with
    | none hno => exact hno
  · intro hno
    exact hcs.unique (.none hno)

/-! ### Hostnames that stand apart -/

/-- Whether a text ends where a hostname may begin: at its beginning or after a character that no
identifier has. -/
def EndsApart (p : List Char) : Prop :=
  ∀ c, p.getLast? = some c → ¬ IsWordChar c ∧ c ≠ '-'

theorem IsHost.exists_eq_cons {t h : List Char} (hh : IsHost t h) : ∃ d v, h = d :: v ∧ IsFormOf 'o' d := by
  obtain ⟨a,b,ha,-,-,rfl⟩ := hh
  have hstart : hostStart = 'o' :: "bjects-".toList := by decide
  rw [hstart] at ha
  obtain ⟨d,a,hd,-,rfl⟩ := List.forall₂_cons_left_iff.mp ha
  exact ⟨d,_,rfl,hd⟩

theorem isWordChar_of_mem_hostStart {a : List Char} (ha : IsWord hostStart a) :
    ∀ c ∈ a, IsWordChar c ∨ c = '-' := by
  intro c hc
  have every : ∀ w ∈ hostStart, ('a' ≤ w ∧ w ≤ 'z') ∨ w = '-' :=
    List.all_iff_forall_prop.mp (by decide)
  have hmem : folded c ∈ hostStart := by
    rw [← (isWord_iff hostStart_basic).mp ha]
    exact List.mem_map_of_mem hc
  rcases every _ hmem with hw | hw
  · exact .inl ((isWordChar_iff c).mp (by simp [isWordChar,hw]))
  · exact .inr (eq_of_isFormOf (by decide) ((folded_eq_iff (by decide) c).mp hw))

/-- A character within a hostname that no identifier has is a point, and behind it comes no letter that
hostnames begin with. -/
theorem IsHost.not_isFormOf_behind {t h u v : List Char} {c d : Char} (hh : IsHost t h)
    (hc : ¬ IsWordChar c ∧ c ≠ '-') (heq : h = u ++ c :: d :: v) : ¬ IsFormOf 'o' d := by
  obtain ⟨a,b,ha,ht,hb,rfl⟩ := hh
  have hmem : c ∉ a ++ t := by
    intro hin
    have hor : IsWordChar c ∨ c = '-' := (List.mem_append.mp hin).elim
      (isWordChar_of_mem_hostStart ha c) (ht.forall_mem c)
    exact hor.elim hc.1 hc.2
  obtain ⟨w,rfl⟩ : ∃ w, b = w ++ c :: d :: v := by
    rcases List.append_eq_append_iff.mp heq with ⟨w,-,hw⟩ | ⟨w,hw,hb'⟩
    · exact ⟨w,hw⟩
    · cases w with
      | nil => exact ⟨[],hb'.symm⟩
      | cons e w =>
        obtain ⟨rfl,-⟩ := List.cons.inj hb'
        exact absurd (by simp [hw]) hmem
  have hchain : hostEnd.IsChain fun p q => ('a' ≤ p ∧ p ≤ 'z') ∨ q ≠ 'o' := by decide
  rw [← (isWord_iff hostEnd_basic).mp hb,List.map_append,List.map_cons,List.map_cons,
    List.isChain_append_cons_cons] at hchain
  rw [← folded_eq_iff (by decide)]
  rcases hchain.2.1 with hw | hd
  · exact absurd ((isWordChar_iff c).mp (by simp [isWordChar,hw])) hc.1
  · exact hd

theorem EndsApart.of_append {p q : List Char} (h : EndsApart (p ++ q)) : EndsApart q := by
  intro c hc
  exact h c (by rw [List.getLast?_append,hc]; rfl)

/-- A hostname that stands apart is listed, whatever comes before it: the hostnames from left to right end
before it or are that one. -/
theorem Hosts.mem_of_endsApart {cs : List Char} {ts : List (List Char)} (hcs : Hosts cs ts)
    {p t h s : List Char} (heq : cs = p ++ h ++ s) (hh : IsHost t h) (hp : EndsApart p) : t ∈ ts := by
  induction hcs generalizing p with
  | none hno => exact absurd heq (hno p t h s hh)
  | @next q u g r ts hg hfirst hrest ih =>
    rw [List.append_assoc,List.append_assoc] at heq
    obtain ⟨m,rfl,hm⟩ : ∃ m, p = q ++ m ∧ g ++ r = m ++ (h ++ s) := by
      rcases List.append_eq_append_iff.mp heq with ⟨m,rfl,hm⟩ | ⟨m,hq,hm⟩
      · exact ⟨m,rfl,hm⟩
      · have hle := hfirst p t h s hh (by simpa using heq)
        rw [hq,List.length_append] at hle
        obtain rfl : m = [] := List.length_eq_zero_iff.mp (by omega)
        exact ⟨[],by simpa using hq.symm,hm.symm⟩
    have hm' := hp.of_append
    rcases List.append_eq_append_iff.mp hm with ⟨n,rfl,hr⟩ | ⟨n,hn,hs⟩
    · exact List.mem_cons_of_mem _ (ih (by simpa using hr) hm'.of_append)
    · obtain rfl | ⟨m,c,rfl⟩ := List.eq_nil_or_concat m
      · obtain ⟨rfl,-,-⟩ := hg.eq_of_append_eq hh hm
        exact List.mem_cons_self
      · have hc := hm' c (by simp)
        cases n with
        | nil => exact List.mem_cons_of_mem _ (ih (p := []) (by simpa using hs.symm) nofun)
        | cons d n =>
          -- the hostname would begin within the one before it
          obtain ⟨e,v,rfl,he⟩ := hh.exists_eq_cons
          obtain ⟨rfl,-⟩ := List.cons.inj hs
          exact absurd he (hg.not_isFormOf_behind (u := m) (v := n) hc (by simpa using hn))

/-! ### The regions of a page -/

def regionOfHost (t : List Char) : Region :=
  ⟨String.ofList (lower t)⟩

theorem regions_dreamhost (url : String) {body : List Char} {ts : List (List Char)} (hts : Hosts body ts) :
    regions .dreamhost url body =
      if ts = [] then .error (.noRegions url) else .ok (distinct (ts.map regionOfHost)) := by
  have hids : hostIds body = ts.map fun t => String.ofList (lower t) :=
    congrArg (List.map fun t => String.ofList (lower t)) ((hosts_hostIdsFrom body).unique hts)
  simp only [regions,ids,hids]
  split
  · rename_i h
    subst h
    rfl
  · rename_i h
    rw [regionsOf_of_ne_nil url (by simpa using h),Region.ofIds,List.map_map]
    rfl

/-- A page lists the regions of the hostnames on it: it lists none but theirs, it lists the region of each
one that stands apart, in the order of the hostnames from left to right without repeats, and it lists
nothing exactly when there is no hostname on it. -/
theorem regions_hostnames (url : String) (body : List Char) :
    (∀ rs, regions .dreamhost url body = .ok rs → ∀ r ∈ rs, ∃ p t h s,
      IsHost t h ∧ body = p ++ h ++ s ∧ r = regionOfHost t) ∧
    (∀ p t h s, IsHost t h → body = p ++ h ++ s → EndsApart p → ∃ rs,
      regions .dreamhost url body = .ok rs ∧ regionOfHost t ∈ rs) ∧
    (∃ ts, Hosts body ts ∧ (∀ us, Hosts body us → us = ts) ∧
      regions .dreamhost url body =
        if ts = [] then .error (.noRegions url) else .ok (ts.map regionOfHost).eraseDups) ∧
    (regions .dreamhost url body = .error (.noRegions url) ↔
      ∀ p t h s, IsHost t h → body ≠ p ++ h ++ s) := by
  have hts := hosts_hostIdsFrom body
  generalize hostIdsFrom 0 body = ts at hts
  have hr := regions_dreamhost url hts
  refine ⟨?_,?_,⟨ts,hts,fun us hus => hus.unique hts,by rw [hr,distinct_eq_eraseDups]⟩,?_⟩
  · intro rs hrs r hin
    rw [hr] at hrs
    split at hrs
    · cases hrs
    · cases hrs
      obtain ⟨t,ht,rfl⟩ := List.mem_map.mp (mem_distinct.mp hin)
      obtain ⟨p,h,s,hh,rfl⟩ := hts.exists_host ht
      exact ⟨p,t,h,s,hh,rfl,rfl⟩
  · intro p t h s hh heq hp
    have hin := hts.mem_of_endsApart heq hh hp
    rw [if_neg (List.ne_nil_of_mem hin)] at hr
    exact ⟨_,hr,mem_distinct.mpr (List.mem_map_of_mem hin)⟩
  · rw [hr,← hts.eq_nil_iff]
    split <;> simp_all

theorem regions_hostnames_capitals :
    ∃ rs, regions .dreamhost "u" "objects-us--east.dream.io, objects-EU-1.dream.io".toList = .ok rs ∧
      regionOfHost "EU-1".toList ∈ rs := by
  obtain ⟨-,hlisted,-,-⟩ :=
    regions_hostnames "u" "objects-us--east.dream.io, objects-EU-1.dream.io".toList
  have hstart : IsWord hostStart "objects-".toList := (isWord_iff hostStart_basic).mpr (by decide)
  have hend : IsWord hostEnd ".dream.io".toList := (isWord_iff hostEnd_basic).mpr (by decide)
  have hid : IsIdentifier "EU-1".toList :=
    ⟨["EU".toList,"1".toList],by simp,by simp [IsWordChar],by decide⟩
  refine hlisted "objects-us--east.dream.io, ".toList _ _ [] ⟨_,_,hstart,hid,hend,rfl⟩ (by decide) ?_
  intro c hc
  obtain rfl : ' ' = c := Option.some.inj ((show _ = some ' ' by decide).symm.trans hc)
  decide

end RegionAudit.Listing
