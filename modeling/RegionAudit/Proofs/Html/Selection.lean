import RegionAudit.Proofs.Html.Forest

/-! What is found below an element whose contents are given by a tree: its text, the elements of a name, and
what these hold in their turn. -/
namespace RegionAudit.Html.Document

/-- One item of a node's contents with all that stands below it. -/
def expand (d : Document) (depth : Nat) : Content → List Content
  | .node child => .node child :: d.below depth child
  | .char c => [.char c]

theorem below_succ (d : Document) (depth id : Nat) :
    d.below (depth+1) id = (d.contents id).reverse.flatMap (d.expand depth) := by
  rw [below]
  congr
  funext item
  cases item <;> rfl

def named? (d : Document) (names : List String) : Content → Option Nat
  | .char _ => none
  | .node child =>
    match d.element? child with
    | some e => if e.name ∈ names then some child else none
    | none => none

theorem eq_node_of_named? {d : Document} {names : List String} {item : Content} {id : Nat}
    (h : d.named? names item = some id) : item = .node id := by
  cases item with
  | char c => cases h
  | node child =>
    simp only [named?] at h
    split at h
    · split_ifs at h
      rw [Option.some.inj h]
    · cases h

theorem descendantsNamed_eq (d : Document) (names : List String) (id : Nat) :
    d.descendantsNamed names id = (d.descendants id).filterMap (d.named? names) := by
  rw [descendantsNamed]
  congr

/-- Whether a node is an element whose contents are those of some trees. -/
structure Holds (d : Document) (id : Nat) (inside : Forest) : Prop where
  lt : id < d.size
  contents : d.contents id = (inside.tops (id+1)).reverse
  shows : d.Shows (id+1) inside

theorem lt_size_of_element? {d : Document} {id : Nat} {e : Element} (h : d.element? id = some e) :
    id < d.size := by
  by_contra hle
  have hnone : d.node? id = none := Array.getElem?_eq_none (Nat.not_lt.mp hle)
  simp [element?,hnone] at h

theorem Shows.holds {d : Document} {n : Nat} {name : String} {inside rest : Forest}
    (h : d.Shows n (.element name inside rest)) : d.Holds n inside :=
  ⟨lt_size_of_element? h.1,h.2.1,h.2.2.1⟩

theorem Shows.add_count_le {d : Document} {n : Nat} {f : Forest} (h : d.Shows n f)
    (hn : n ≤ d.size) : n + f.count ≤ d.size := by
  induction f generalizing n with
  | nil => exact hn
  | char c rest ih => exact ih h hn
  | element name inside rest hi hr =>
    have hlt := lt_size_of_element? h.1
    have hin := hi h.2.2.1 (by omega)
    have hrest := hr h.2.2.2 hin
    simp only [Forest.count]
    omega

theorem Shows.flatMap_expand {d : Document} {n depth : Nat} {f : Forest} (h : d.Shows n f)
    (hdepth : f.height ≤ depth) : (f.tops n).flatMap (d.expand depth) = f.items n := by
  induction f generalizing n depth with
  | nil => rfl
  | char c rest ih =>
    simpa only [Forest.tops,Forest.items,List.flatMap_cons,expand,List.singleton_append,
      List.cons.injEq,true_and] using ih h hdepth
  | element name inside rest hi hr =>
    obtain ⟨-,hc,hin,hrest⟩ := h
    simp only [Forest.height] at hdepth
    obtain ⟨k,rfl⟩ : ∃ k, depth = k + 1 := ⟨depth - 1,by omega⟩
    have hbelow : d.below (k+1) n = inside.items (n+1) := by
      rw [below_succ,hc,List.reverse_reverse]
      exact hi hin (by omega)
    rw [Forest.tops,List.flatMap_cons,expand,hbelow,hr hrest (by omega)]
    rfl

/-- What stands below a node that holds trees is what they consist of. -/
theorem Holds.descendants_eq {d : Document} {id : Nat} {inside : Forest} (h : d.Holds id inside) :
    d.descendants id = inside.items (id+1) := by
  have hcount := h.shows.add_count_le h.lt
  have hheight := inside.height_le_count
  obtain ⟨k,hk⟩ : ∃ k, d.size = k + 1 := ⟨d.size - 1,by have := h.lt; omega⟩
  rw [descendants,hk,below_succ,h.contents,List.reverse_reverse]
  exact h.shows.flatMap_expand (by omega)

def char? : Content → Option Char
  | .char c => some c
  | .node _ => none

theorem text_items (f : Forest) (n : Nat) : (f.items n).filterMap char? = f.text := by
  induction f generalizing n with
  | nil => rfl
  | char c rest ih => rw [Forest.items,List.filterMap_cons,ih]; rfl
  | element name inside rest hi hr =>
    rw [Forest.items,List.filterMap_append,List.filterMap_cons,hi,hr]
    rfl

theorem Holds.text_eq {d : Document} {id : Nat} {inside : Forest} (h : d.Holds id inside) :
    d.text id = inside.text := by
  rw [← text_items inside (id+1),← h.descendants_eq]
  rfl

/-- Whatever can be said of an element by its tree can be said of the elements of a name that are found
below: they are those of the trees, in the same order. -/
theorem Shows.map_named {α : Type} {d : Document} {n : Nat} {f : Forest} (h : d.Shows n f)
    (names : List String) {a : Nat → α} {b : Forest → α}
    (hab : ∀ id inside, d.Holds id inside → a id = b inside) :
    ((f.items n).filterMap (d.named? names)).map a = (f.within names).map b := by
  induction f generalizing n with
  | nil => rfl
  | char c rest ih => exact ih h
  | element name inside rest hi hr =>
    have hhere := hab n inside h.holds
    obtain ⟨he,-,hin,hrest⟩ := h
    by_cases hname : name ∈ names
    · simp [Forest.items,Forest.within,named?,he,hname,hhere,hi hin,hr hrest]
    · simp [Forest.items,Forest.within,named?,he,hname,hi hin,hr hrest]

theorem Holds.map_descendantsNamed {α : Type} {d : Document} {id : Nat} {inside : Forest}
    (h : d.Holds id inside) (names : List String) {a : Nat → α} {b : Forest → α}
    (hab : ∀ id inside, d.Holds id inside → a id = b inside) :
    (d.descendantsNamed names id).map a = (inside.within names).map b := by
  rw [descendantsNamed_eq,h.descendants_eq]
  exact h.shows.map_named names hab

def isNamed (d : Document) (name : String) (id : Nat) : Bool :=
  match d.element? id with
  | some e => e.name = name
  | none => false

theorem lt_size_of_isNamed {d : Document} {name : String} {id : Nat}
    (h : d.isNamed name id = true) : id < d.size := by
  unfold isNamed at h
  split at h
  · next he => exact lt_size_of_element? he
  · cases h

theorem Shows.map_range' {α : Type} {d : Document} {n : Nat} {f : Forest} (h : d.Shows n f)
    (name : String) {a : Nat → α} {b : Forest → α}
    (hab : ∀ id inside, d.Holds id inside → a id = b inside) :
    ((List.range' n f.count).filter (d.isNamed name)).map a = (f.within [name]).map b := by
  induction f generalizing n with
  | nil => rfl
  | char c rest ih => exact ih h
  | element name' inside rest hi hr =>
    have hhere := hab n inside h.holds
    obtain ⟨he,-,hin,hrest⟩ := h
    have hsplit : List.range' n (inside.count + 1 + rest.count) =
        n :: (List.range' (n+1) inside.count ++ List.range' (n+1+inside.count) rest.count) := by
      rw [List.range'_append_1,← List.range'_succ]
      congr 1
      omega
    have hbelow : ((List.range' (n+1) inside.count ++
        List.range' (n+1+inside.count) rest.count).filter (d.isNamed name)).map a =
        (inside.within [name]).map b ++ (rest.within [name]).map b := by
      rw [List.filter_append,List.map_append,hi hin,hr hrest]
    rw [Forest.count,hsplit,Forest.within,List.map_append,List.map_append,List.append_assoc,← hbelow]
    by_cases hname : name' = name
    · rw [List.filter_cons_of_pos (by simp [isNamed,he,hname]),if_pos (by simp [hname]),
        List.map_cons,hhere]
      rfl
    · rw [List.filter_cons_of_neg (by simp [isNamed,he,hname]),if_neg (by simp [hname])]
      rfl

end RegionAudit.Html.Document
