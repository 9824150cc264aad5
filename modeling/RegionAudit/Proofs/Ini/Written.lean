import Mathlib.Data.List.TakeWhile
import Mathlib.Tactic.Common
import RegionAudit.Ini

/-! Settings files as they are written, line by line. Blank lines and comments may stand between headers and
properties wherever a line ends, and what is read back is the headers and the properties. -/
namespace RegionAudit.Ini

open Text (isBlank trim)

/-! ### Written lines -/

def isNameChar (c : Char) : Bool :=
  c.isAlphanum || c = '_'

def isControl (c : Char) : Bool :=
  c.toNat < 0x20 || (0x7f ≤ c.toNat && c.toNat < 0xa0)

/-- A key, or the name of a section. -/
structure NameText where
  chars : List Char
  ne_nil : chars ≠ []
  plain : ∀ c ∈ chars, isNameChar c = true

/-- The characters that stand for themselves in a value: all but control characters, quotation marks and
backslashes. -/
def isValueChar (c : Char) : Bool :=
  !(isControl c || c = '"' || c = '\'' || c = '\\')

/-- A text that stands as a value as it is, without blanks around it. -/
structure ValueText where
  chars : List Char
  ne_nil : chars ≠ []
  first : isBlank (chars.head ne_nil) = false
  last : isBlank (chars.getLast ne_nil) = false
  plain : ∀ c ∈ chars, isValueChar c = true

inductive Line
  /-- A line of spaces and tabs, if of anything. -/
  | blank (cs : List Char) (plain : ∀ c ∈ cs, c = ' ' ∨ c = '\t')
  /-- A line that begins with its mark; anything may follow. -/
  | comment (mark : Char) (cs : List Char) (isMark : mark = ';' ∨ mark = '#') (plain : '\n' ∉ cs)
  | header (name : NameText)
  | property (key : NameText) (value : ValueText)

inductive LineEnd
  | feed
  | returnFeed

def LineEnd.chars : LineEnd → List Char
  | .feed => ['\n']
  | .returnFeed => ['\r','\n']

namespace Line

def text : Line → List Char
  | .blank cs _ => cs
  | .comment mark cs _ _ => mark :: cs
  | .header name => '[' :: name.chars ++ [']']
  | .property key value => key.chars ++ " = ".toList ++ value.chars

def item? : Line → Option Item
  | .blank _ _ | .comment _ _ _ _ => none
  | .header name => some (.header (String.ofList name.chars))
  | .property key value => some (.property ⟨String.ofList key.chars,String.ofList value.chars⟩)

/-- Whether a line is there for its readers only. -/
def isGap : Line → Bool
  | .blank _ _ | .comment _ _ _ _ => true
  | .header _ | .property _ _ => false

end Line

def writtenFile (lines : List (Line × LineEnd)) (last : Line) : List Char :=
  lines.flatMap (fun l => l.1.text ++ l.2.chars) ++ last.text

def writtenItems (lines : List (Line × LineEnd)) (last : Line) : List Item :=
  lines.filterMap (·.1.item?) ++ last.item?.toList

/-! ### Characters -/

theorem isNameChar_ne {c d : Char} (h : isNameChar c = true) (hd : isNameChar d = false) : c ≠ d := by
  rintro rfl
  rw [h] at hd
  cases hd

theorem toNat_of_isNameChar {c : Char} (h : isNameChar c = true) : 48 ≤ c.toNat ∧ c.toNat ≤ 122 := by
  simp only [isNameChar,Bool.or_eq_true,decide_eq_true_eq] at h
  rcases h with h | rfl
  · exact Text.toNat_of_isAlphanum h
  · decide

theorem toNat_of_isBlank {c : Char} (h : isBlank c = true) : c.toNat ≤ 32 ∨ 0x85 ≤ c.toNat := by
  simp only [isBlank,Bool.or_eq_true,Bool.and_eq_true,decide_eq_true_eq] at h
  rcases h with (((((((((⟨-,h⟩ | rfl) | rfl) | rfl) | rfl) | ⟨h,-⟩) | rfl) | rfl) | rfl) | rfl) | rfl
  · exact .inl (Nat.le_trans h (by decide))
  all_goals first | exact .inr (Nat.le_trans (by decide) h) | decide

theorem isBlank_of_isNameChar {c : Char} (h : isNameChar c = true) : isBlank c = false := by
  refine Bool.eq_false_iff.mpr fun hblank => ?_
  have hname := toNat_of_isNameChar h
  have := toNat_of_isBlank hblank
  omega

theorem isValueChar_of_isNameChar {c : Char} (h : isNameChar c = true) : isValueChar c = true := by
  have hbounds := toNat_of_isNameChar h
  have hcontrol : isControl c = false := by
    simp only [isControl,Bool.or_eq_false_iff,Bool.and_eq_false_iff,decide_eq_false_iff_not]
    omega
  have hne : ∀ d, isNameChar d = false → c ≠ d := fun d => isNameChar_ne h
  simp [isValueChar,hcontrol,hne '"' (by decide),hne '\'' (by decide),hne '\\' (by decide)]

theorem NameText.trim_eq (t : NameText) : trim t.chars = t.chars :=
  Text.trim_eq_self
    (fun c hc => isBlank_of_isNameChar (t.plain c (List.mem_of_mem_head? hc)))
    (fun c hc => isBlank_of_isNameChar (t.plain c (List.mem_of_mem_getLast? hc)))

theorem ValueText.trim_eq (t : ValueText) : trim t.chars = t.chars := by
  refine Text.trim_eq_self (fun c hc => ?_) (fun c hc => ?_)
  · rw [List.head?_eq_some_head t.ne_nil] at hc
    cases hc
    exact t.first
  · rw [List.getLast?_eq_some_getLast t.ne_nil] at hc
    cases hc
    exact t.last

theorem ne_of_isValueChar {c : Char} (h : isValueChar c = true) :
    isControl c = false ∧ c ≠ '"' ∧ c ≠ '\'' ∧ c ≠ '\\' := by
  simpa [isValueChar,and_assoc] using h

/-! ### Spans -/

/-- Whether a span of text ends before what is left. -/
def EndsBefore (ends : List End) (rest : List Char) : Prop :=
  rest.head? ∈ ends

/-- A span without ends and backslashes is read as it stands. -/
theorem readUntil_append {ends : List End} {span rest : List Char}
    (hspan : ∀ c ∈ span, some c ∉ ends ∧ c ≠ '\\') (hrest : EndsBefore ends rest) :
    readUntil ends .plain (span ++ rest) = .ok (span,rest) := by
  induction span with
  | nil =>
    cases rest with
    | nil => simp [readUntil,atEnd,show none ∈ ends from hrest]
    | cons c cs => simp [readUntil,show some c ∈ ends from hrest]
  | cons c span ih =>
    obtain ⟨hc,hbackslash⟩ := hspan c (by simp)
    rw [List.cons_append,readUntil,if_neg hc,if_neg hbackslash,
      ih fun d hd => hspan d (List.mem_cons_of_mem c hd)]
    rfl

def IsAfterLine (rest : List Char) : Prop :=
  EndsBefore lineEnds rest

theorem readValue_append (value : ValueText) {rest : List Char} (hrest : IsAfterLine rest) :
    readValue (' ' :: value.chars ++ rest) = .ok (value.chars,rest) := by
  obtain ⟨c,cs,hchars⟩ := List.exists_cons_of_ne_nil value.ne_nil
  have hblank : isBlank c = false := by
    have hfirst := value.first
    simpa only [hchars,List.head_cons] using hfirst
  have hc := ne_of_isValueChar (value.plain c (by rw [hchars]; simp))
  have hspan : ∀ d ∈ c :: cs, some d ∉ lineEnds ∧ d ≠ '\\' := by
    intro d hd
    obtain ⟨hcontrol,-,-,hbackslash⟩ := ne_of_isValueChar (value.plain d (hchars ▸ hd))
    refine ⟨?_,hbackslash⟩
    simp only [lineEnds,List.mem_cons,Option.some.injEq,reduceCtorEq,List.not_mem_nil,or_false,not_or]
    constructor
    · rintro rfl
      cases hcontrol
    · rintro rfl
      cases hcontrol
  have hdrop : (' ' :: value.chars ++ rest).dropWhile isLineBlank = c :: cs ++ rest := by
    rw [hchars]
    simp [isLineBlank,hblank,show isBlank ' ' = true by decide]
  rw [readValue,hdrop,List.cons_append,readParts]
  simp only [hc.2.1,hc.2.2.1,Bool.or_eq_true,decide_eq_true_eq,or_self,if_false]
  rw [← List.cons_append,readUntil_append hspan hrest]
  simp only [if_true]
  rw [← hchars,value.trim_eq]

/-! ### One step of reading -/

theorem readItems_open {margin : Margin} {cs rest : List Char} {item : Item}
    (h : readHeader cs = .ok (item,rest)) :
    readItems margin ('[' :: cs) = (item :: ·) <$> readItems .inside rest := by
  rw [readItems]
  simp only [Char.reduceEq,decide_false,Bool.or_self,Bool.false_and,Bool.false_eq_true,if_false,if_true]
  split
  · rename_i item' rest' h'
    rw [h] at h'
    cases h'
    rfl
  · rename_i f h'
    rw [h] at h'
    cases h'

def BeginsKey (c : Char) : Prop :=
  c ∉ ['\n','\r',' ','\t',';','#','[']

theorem readItems_key {c : Char} (hc : BeginsKey c) {cs key mid rest : List Char} {item : Item}
    (hkey : readUntil keyEnds .plain (c :: cs) = .ok (key,mid))
    (h : readProperty key mid = .ok (item,rest)) :
    readItems .start (c :: cs) = (item :: ·) <$> readItems .inside rest := by
  simp only [BeginsKey,List.mem_cons,List.not_mem_nil,or_false,not_or] at hc
  obtain ⟨h1,h2,h3,h4,h5,h6,h7⟩ := hc
  rw [readItems]
  simp only [h1,h2,h3,h4,h5,h6,h7,decide_false,Bool.or_self,Bool.false_and,Bool.false_eq_true,if_false]
  split
  · rename_i key' mid' hkey'
    rw [hkey] at hkey'
    cases hkey'
    split
    · rename_i item' rest' h'
      rw [h] at h'
      cases h'
      rfl
    · rename_i f h'
      rw [h] at h'
      cases h'
  · rename_i f hkey'
    rw [hkey] at hkey'
    cases hkey'

theorem readItems_comment {mark : Char} (hmark : mark = ';' ∨ mark = '#') (cs : List Char) :
    readItems .start (mark :: cs) = readItems .start ((cs.dropWhile (· ≠ '\n')).drop 1) := by
  have hend : ¬ (mark = '\n' ∨ mark = '\r') := by rcases hmark with rfl | rfl <;> decide
  have hblank : ¬ (mark = ' ' ∨ mark = '\t') := by rcases hmark with rfl | rfl <;> decide
  rw [readItems]
  simp [hend,hblank,hmark]

theorem readItems_feed {margin : Margin} (hmargin : margin ≠ .indented) (cs : List Char) :
    readItems margin ('\n' :: cs) = readItems .start cs := by
  rw [readItems]
  simp [hmargin,marginAfter]

theorem readItems_return {margin : Margin} (hmargin : margin ≠ .indented) (cs : List Char) :
    readItems margin ('\r' :: cs) = readItems .inside cs := by
  rw [readItems]
  simp [hmargin,marginAfter]

theorem readItems_indented {c : Char} (hc : c = '\n' ∨ c = '\r') (cs : List Char) :
    readItems .indented (c :: cs) = readItems (pastBlankLine c cs).1 (pastBlankLine c cs).2 := by
  rw [readItems]
  simp [hc]

theorem readItems_gap {c : Char} (hc : c = ' ' ∨ c = '\t') (margin : Margin) (cs : List Char) :
    readItems margin (c :: cs) = readItems margin.afterBlank cs := by
  have hend : ¬ (c = '\n' ∨ c = '\r') := by rcases hc with rfl | rfl <;> decide
  rw [readItems]
  simp [hend,hc]

/-! ### One line -/

theorem readItems_lineEnd {margin : Margin} (hmargin : margin ≠ .indented) (e : LineEnd)
    (rest : List Char) : readItems margin (e.chars ++ rest) = readItems .start rest := by
  cases e with
  | feed => exact readItems_feed hmargin rest
  | returnFeed => exact (readItems_return hmargin _).trans (readItems_feed (by decide) rest)

theorem readItems_header (name : NameText) (rest : List Char) :
    readItems .start ((Line.header name).text ++ rest) =
      (Item.header (String.ofList name.chars) :: ·) <$> readItems .inside rest := by
  have hspan : ∀ c ∈ name.chars, some c ∉ [some ']'] ∧ c ≠ '\\' := fun c hc =>
    ⟨by simpa using isNameChar_ne (name.plain c hc) (by decide),
      isNameChar_ne (name.plain c hc) (by decide)⟩
  have hread : readHeader (name.chars ++ ']' :: rest) =
      .ok (.header (String.ofList name.chars),rest) := by
    rw [readHeader,readUntil_append hspan (by simp [EndsBefore])]
    simp only [trimmed,name.trim_eq]
    rfl
  have htext : (Line.header name).text ++ rest = '[' :: (name.chars ++ ']' :: rest) := by
    simp [Line.text]
  rw [htext,readItems_open hread]

theorem readUntil_key (key : NameText) (rest : List Char) :
    readUntil keyEnds .plain (key.chars ++ [' '] ++ '=' :: rest) =
      .ok (key.chars ++ [' '],'=' :: rest) := by
  refine readUntil_append (fun c hc => ?_) (by simp [EndsBefore,keyEnds])
  rcases List.mem_append.mp hc with hc | hc
  · have hne : ∀ d, isNameChar d = false → c ≠ d := fun d => isNameChar_ne (key.plain c hc)
    exact ⟨by simp [keyEnds,hne '=' (by decide),hne ':' (by decide)],hne _ (by decide)⟩
  · obtain rfl := List.mem_singleton.mp hc
    decide

theorem NameText.trim_space (t : NameText) : trim (t.chars ++ [' ']) = t.chars := by
  obtain ⟨c,cs,hchars⟩ := List.exists_cons_of_ne_nil t.ne_nil
  have hstart := Text.trimStart_cons_of_not_blank
    (isBlank_of_isNameChar (t.plain c (by rw [hchars]; simp)))
  have hspace : trim (t.chars ++ [' ']) = trim t.chars := by
    rw [hchars,List.cons_append,trim,trim,hstart,hstart,← List.cons_append]
    exact Text.trimEnd_concat_blank (by decide) _
  exact hspace.trans t.trim_eq

theorem readProperty_written (key : NameText) (value : ValueText) {rest : List Char}
    (hrest : IsAfterLine rest) :
    readProperty (key.chars ++ [' ']) ('=' :: (' ' :: value.chars ++ rest)) =
      .ok (.property ⟨String.ofList key.chars,String.ofList value.chars⟩,rest) := by
  have hne : key.chars.isEmpty = false := by simpa using key.ne_nil
  rw [readProperty,key.trim_space,hne,List.drop_one,List.tail_cons,readValue_append value hrest]
  simp only [trimmed,key.trim_space,Bool.false_eq_true,if_false]

theorem readItems_property (key : NameText) (value : ValueText) {rest : List Char}
    (hrest : IsAfterLine rest) :
    readItems .start ((Line.property key value).text ++ rest) =
      (Item.property ⟨String.ofList key.chars,String.ofList value.chars⟩ :: ·) <$>
        readItems .inside rest := by
  obtain ⟨c,cs,hchars⟩ := List.exists_cons_of_ne_nil key.ne_nil
  have hc : isNameChar c = true := key.plain c (by rw [hchars]; simp)
  have hbegins : BeginsKey c := by
    simp only [BeginsKey,List.mem_cons,List.not_mem_nil,or_false]
    rintro (rfl | rfl | rfl | rfl | rfl | rfl | rfl) <;> cases hc
  have htext : (Line.property key value).text ++ rest =
      key.chars ++ [' '] ++ '=' :: (' ' :: value.chars ++ rest) := by
    simp [Line.text]
  have hread := readUntil_key key (' ' :: value.chars ++ rest)
  have hproperty := readProperty_written key value hrest
  rw [htext]
  rw [hchars] at hread hproperty ⊢
  exact readItems_key hbegins hread hproperty

/-! ### Blank lines -/

theorem readItems_gaps {margin : Margin} (hmargin : margin ≠ .inside) {cs : List Char} (hne : cs ≠ [])
    (hcs : ∀ c ∈ cs, c = ' ' ∨ c = '\t') (rest : List Char) :
    readItems margin (cs ++ rest) = readItems .indented rest := by
  induction cs generalizing margin with
  | nil => exact absurd rfl hne
  | cons c cs ih =>
    have hafter : margin.afterBlank = .indented := by cases margin <;> first | rfl | exact absurd rfl hmargin
    rw [List.cons_append,readItems_gap (hcs c (by simp)),hafter]
    cases cs with
    | nil => rfl
    | cons d cs => exact ih (by decide) (by simp) fun e he => hcs e (List.mem_cons_of_mem c he)

theorem isBlank_of_gap {c : Char} (h : c = ' ' ∨ c = '\t') : isBlank c = true := by
  rcases h with rfl | rfl <;> decide

theorem pastBlankLine_append (c : Char) {cs : List Char} (hcs : ∀ d ∈ cs, isBlank d = true)
    (rest : List Char) : pastBlankLine c (cs ++ '\n' :: rest) = pastBlankLine '\n' rest := by
  have hfeed : isBlank '\n' = true := by decide
  have htake : (cs ++ '\n' :: rest).takeWhile isBlank = cs ++ '\n' :: rest.takeWhile isBlank := by
    rw [List.takeWhile_append_of_pos hcs,List.takeWhile_cons_of_pos hfeed]
  have hdrop : (cs ++ '\n' :: rest).dropWhile isBlank = rest.dropWhile isBlank := by
    rw [List.dropWhile_append_of_pos hcs,List.dropWhile_cons_of_pos hfeed]
  have hlast : (c :: cs ++ '\n' :: rest.takeWhile isBlank).getLast? =
      ('\n' :: rest.takeWhile isBlank).getLast? := by
    rw [List.getLast?_append,List.getLast?_cons,Option.some_or]
  rw [pastBlankLine,pastBlankLine,htake,hdrop,← List.cons_append,hlast]

theorem pastBlankLine_of_not_blank {c : Char} (h : isBlank c = false) (cs : List Char) :
    pastBlankLine '\n' (c :: cs) = (.start,c :: cs) := by
  simp [pastBlankLine,h,marginAfter]

/-- Whether going past blank lines makes no difference where a line begins. -/
def AllowsBlankLines (rest : List Char) : Prop :=
  readItems (pastBlankLine '\n' rest).1 (pastBlankLine '\n' rest).2 = readItems .start rest

theorem readItems_blankLine {cs rest : List Char} (hcs : ∀ c ∈ cs, c = ' ' ∨ c = '\t') (e : LineEnd)
    (hrest : AllowsBlankLines rest) :
    readItems .start (cs ++ (e.chars ++ rest)) = readItems .start rest := by
  by_cases hne : cs = []
  · subst hne
    exact readItems_lineEnd (by decide) e rest
  · rw [readItems_gaps (by decide) hne hcs]
    cases e with
    | feed => exact (readItems_indented (.inl rfl) rest).trans hrest
    | returnFeed =>
      have hpast : pastBlankLine '\r' ('\n' :: rest) = pastBlankLine '\n' rest :=
        pastBlankLine_append '\r' (List.forall_mem_nil _) rest
      exact (readItems_indented (.inr rfl) ('\n' :: rest)).trans (hpast ▸ hrest)

theorem pastBlankLine_blankLine {cs : List Char} (hcs : ∀ c ∈ cs, c = ' ' ∨ c = '\t') (e : LineEnd)
    (rest : List Char) :
    pastBlankLine '\n' (cs ++ (e.chars ++ rest)) = pastBlankLine '\n' rest := by
  have hblank : ∀ c ∈ cs, isBlank c = true := fun c hc => isBlank_of_gap (hcs c hc)
  cases e with
  | feed => exact pastBlankLine_append '\n' hblank rest
  | returnFeed =>
    have hreturn : cs ++ (LineEnd.returnFeed.chars ++ rest) = cs ++ ['\r'] ++ '\n' :: rest := by
      simp [LineEnd.chars]
    rw [hreturn]
    refine pastBlankLine_append '\n' (fun c hc => ?_) rest
    rcases List.mem_append.mp hc with hc | hc
    · exact hblank c hc
    · obtain rfl := List.mem_singleton.mp hc
      decide

/-! ### The file -/

theorem readItems_nil (margin : Margin) : readItems margin [] = .ok [] := by
  rw [readItems]

theorem Line.begins {l : Line} (h : ∀ cs plain, l ≠ .blank cs plain) :
    ∃ c cs, l.text = c :: cs ∧ isBlank c = false := by
  cases l with
  | blank cs plain => exact absurd rfl (h cs plain)
  | comment mark cs isMark plain =>
    exact ⟨mark,cs,rfl,by rcases isMark with rfl | rfl <;> decide⟩
  | header name => exact ⟨'[',name.chars ++ [']'],rfl,by decide⟩
  | property key value =>
    obtain ⟨c,cs,hchars⟩ := List.exists_cons_of_ne_nil key.ne_nil
    refine ⟨c,cs ++ " = ".toList ++ value.chars,by rw [text,hchars]; rfl,?_⟩
    exact isBlank_of_isNameChar (key.plain c (by rw [hchars]; simp))

theorem allowsBlankLines_of_begins {l : Line} (h : ∀ cs plain, l ≠ .blank cs plain) (rest : List Char) :
    AllowsBlankLines (l.text ++ rest) := by
  obtain ⟨c,cs,htext,hblank⟩ := Line.begins h
  rw [AllowsBlankLines,htext,List.cons_append,pastBlankLine_of_not_blank hblank]

theorem writtenFile_cons (l : Line) (e : LineEnd) (lines : List (Line × LineEnd)) (last : Line) :
    writtenFile ((l,e) :: lines) last = l.text ++ (e.chars ++ writtenFile lines last) := by
  simp [writtenFile]

theorem readItems_blankEnd {cs : List Char} (hcs : ∀ c ∈ cs, c = ' ' ∨ c = '\t') :
    readItems .start cs = .ok [] := by
  by_cases hne : cs = []
  · rw [hne,readItems_nil]
  · have hread : readItems .start (cs ++ []) = readItems .indented [] :=
      readItems_gaps (by decide) hne hcs []
    rwa [List.append_nil,readItems_nil] at hread

theorem allowsBlankLines_last (last : Line) : AllowsBlankLines last.text := by
  by_cases h : ∃ cs plain, last = .blank cs plain
  · obtain ⟨cs,plain,rfl⟩ := h
    have hdrop : cs.dropWhile isBlank = [] :=
      Text.trimStart_eq_nil_iff.mpr fun c hc => isBlank_of_gap (plain c hc)
    change readItems _ (cs.dropWhile isBlank) = readItems .start cs
    rw [hdrop,readItems_nil,readItems_blankEnd plain]
  · have hbegins := allowsBlankLines_of_begins (fun cs plain hl => h ⟨cs,plain,hl⟩) []
    rwa [List.append_nil] at hbegins

/-- Blank lines may precede any file. -/
theorem allowsBlankLines_writtenFile (lines : List (Line × LineEnd)) (last : Line) :
    AllowsBlankLines (writtenFile lines last) := by
  induction lines with
  | nil => exact allowsBlankLines_last last
  | cons line lines ih =>
    obtain ⟨l,e⟩ := line
    rw [writtenFile_cons]
    by_cases h : ∃ cs plain, l = .blank cs plain
    · obtain ⟨cs,plain,rfl⟩ := h
      have hpast := pastBlankLine_blankLine plain e (writtenFile lines last)
      have hread := readItems_blankLine plain e ih
      rw [AllowsBlankLines,Line.text,hpast,hread]
      exact ih
    · exact allowsBlankLines_of_begins (fun cs plain hl => h ⟨cs,plain,hl⟩) _

theorem isAfterLine_nil : IsAfterLine [] := by
  simp [IsAfterLine,EndsBefore,lineEnds]

theorem isAfterLine_lineEnd (e : LineEnd) (rest : List Char) : IsAfterLine (e.chars ++ rest) := by
  cases e <;> simp [IsAfterLine,EndsBefore,lineEnds,LineEnd.chars]

theorem readItems_commentLine {mark : Char} {cs : List Char} (isMark : mark = ';' ∨ mark = '#')
    (plain : '\n' ∉ cs) (e : LineEnd) (rest : List Char) :
    readItems .start (mark :: cs ++ (e.chars ++ rest)) = readItems .start rest := by
  have hcs : ∀ c ∈ cs, decide (c ≠ '\n') = true := fun c hc =>
    decide_eq_true fun heq => plain (heq ▸ hc)
  have hdrop : (cs ++ (e.chars ++ rest)).dropWhile (· ≠ '\n') = '\n' :: rest := by
    rw [List.dropWhile_append_of_pos hcs]
    cases e <;> simp [LineEnd.chars]
  rw [List.cons_append,readItems_comment isMark,hdrop]
  rfl

/-- A line is read as what it means. -/
theorem readItems_line (l : Line) (e : LineEnd) (lines : List (Line × LineEnd)) (last : Line) :
    readItems .start (writtenFile ((l,e) :: lines) last) =
      (l.item?.toList ++ ·) <$> readItems .start (writtenFile lines last) := by
  rw [writtenFile_cons]
  cases l with
  | blank cs plain =>
    simp only [Line.text,Line.item?,Option.toList_none,List.nil_append,id_map']
    exact readItems_blankLine plain e (allowsBlankLines_writtenFile lines last)
  | comment mark cs isMark plain =>
    simp only [Line.text,Line.item?,Option.toList_none,List.nil_append,id_map']
    exact readItems_commentLine isMark plain e _
  | header name =>
    rw [readItems_header,readItems_lineEnd (by decide)]
    rfl
  | property key value =>
    rw [readItems_property key value (isAfterLine_lineEnd e _),readItems_lineEnd (by decide)]
    rfl

theorem readItems_last (last : Line) : readItems .start last.text = .ok last.item?.toList := by
  have hnil : readItems .inside [] = .ok [] := readItems_nil .inside
  cases last with
  | blank cs plain => exact readItems_blankEnd plain
  | comment mark cs isMark plain =>
    have hdrop : cs.dropWhile (· ≠ '\n') = [] := by
      simp only [List.dropWhile_eq_nil_iff,decide_eq_true_eq]
      exact fun c hc heq => plain (heq ▸ hc)
    rw [Line.text,readItems_comment isMark,hdrop]
    exact readItems_nil .start
  | header name =>
    have hread := readItems_header name []
    rw [List.append_nil,hnil] at hread
    exact hread
  | property key value =>
    have hread := readItems_property key value isAfterLine_nil
    rw [List.append_nil,hnil] at hread
    exact hread

/-- A file is read as what its lines mean, wherever blank lines and comments stand. -/
theorem readItems_writtenFile (lines : List (Line × LineEnd)) (last : Line) :
    readItems .start (writtenFile lines last) = .ok (writtenItems lines last) := by
  induction lines with
  | nil => exact readItems_last last
  | cons line lines ih =>
    obtain ⟨l,e⟩ := line
    rw [readItems_line,ih]
    cases h : l.item? <;> simp [writtenItems,h]

theorem writtenItems_eq (lines : List (Line × LineEnd)) (last : Line) :
    writtenItems lines last =
      ((lines.map (·.1) ++ [last]).filter (·.isGap = false)).filterMap Line.item? := by
  have hgap : (fun l : Line => if decide (l.isGap = false) = true then l.item? else none) = Line.item? := by
    funext l
    cases l <;> rfl
  rw [List.filterMap_filter,hgap,List.filterMap_append,List.filterMap_map,writtenItems]
  change _ ++ _ = lines.filterMap (·.1.item?) ++ [last].filterMap Line.item?
  cases h : last.item? <;> simp [h]

theorem ofText_written (lines : List (Line × LineEnd)) (last : Line) :
    ofText (writtenFile lines last) = .ok (ofItems (writtenItems lines last)) := by
  rw [ofText,readItems_writtenFile]
  rfl

end RegionAudit.Ini
