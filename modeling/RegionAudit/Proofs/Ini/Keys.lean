import Mathlib.Data.List.Nodup
import Mathlib.Tactic.Common
import RegionAudit.Ini

/-! Looking up keys and names of sections. Where none of them is repeated, their order does not count. -/
namespace RegionAudit.Ini

section Find
variable {α κ : Type} [DecidableEq κ] {key : α → κ} {xs ys : List α} {k : κ}

theorem find?_key_iff (hnodup : (xs.map key).Nodup) {x : α} :
    xs.find? (key · = k) = some x ↔ x ∈ xs ∧ key x = k := by
  constructor
  · intro h
    exact ⟨List.mem_of_find?_eq_some h,by simpa using List.find?_some h⟩
  · rintro ⟨hx,hk⟩
    cases h : xs.find? (key · = k) with
    | none => exact absurd hk (by simpa using List.find?_eq_none.mp h x hx)
    | some y =>
      have hy : key y = k := by simpa using List.find?_some h
      have heq : y = x := List.inj_on_of_nodup_map hnodup (List.mem_of_find?_eq_some h) hx (hy.trans hk.symm)
      rw [heq]

theorem find?_key_perm (hnodup : (xs.map key).Nodup) (h : xs.Perm ys) :
    xs.find? (key · = k) = ys.find? (key · = k) := by
  have hnodup' : (ys.map key).Nodup := (h.map key).nodup_iff.mp hnodup
  refine Option.ext fun x => ?_
  rw [find?_key_iff hnodup,find?_key_iff hnodup',h.mem_iff]

end Find

theorem value?_perm {ps qs : List Property} (hnodup : (ps.map (·.key)).Nodup) (h : ps.Perm qs)
    (key : String) : value? ps key = value? qs key := by
  rw [value?,value?,find?_key_perm hnodup h]

theorem mem_of_value? {ps : List Property} {key value : String} (h : value? ps key = some value) :
    ⟨key,value⟩ ∈ ps := by
  obtain ⟨p,hp,rfl⟩ := Option.map_eq_some_iff.mp h
  have hkey : p.key = key := by simpa using List.find?_some hp
  exact hkey ▸ List.mem_of_find?_eq_some hp

theorem value?_eq_none_iff {ps : List Property} {key : String} :
    value? ps key = none ↔ ∀ p ∈ ps, p.key ≠ key := by
  simp [value?,List.find?_eq_none]

theorem section?_eq_some_iff {ini : Ini} (hnodup : (ini.sections.map (·.name)).Nodup) {name : String}
    {s : Section} : ini.section? name = some s ↔ s ∈ ini.sections ∧ s.name = name :=
  find?_key_iff hnodup

theorem section?_eq_none_iff {ini : Ini} {name : String} :
    ini.section? name = none ↔ ∀ s ∈ ini.sections, s.name ≠ name := by
  simp [section?,List.find?_eq_none]

/-! ### Items -/

def Section.items (s : Section) : List Item :=
  .header s.name :: s.properties.map .property

theorem ofItems_properties (ps : List Property) (items : List Item) :
    ofItems (ps.map .property ++ items) =
      ⟨ps ++ (ofItems items).general,(ofItems items).sections⟩ := by
  induction ps with
  | nil => rfl
  | cons p ps ih => simp [ofItems,ih]

/-- Nothing is lost when a file is taken apart into its items. -/
theorem ofItems_items (ini : Ini) :
    ofItems (ini.general.map .property ++ ini.sections.flatMap Section.items) = ini := by
  have hsections : ∀ ss : List Section, ofItems (ss.flatMap Section.items) = ⟨[],ss⟩ := by
    intro ss
    induction ss with
    | nil => rfl
    | cons s ss ih => simp [Section.items,ofItems,ofItems_properties,ih]
  rw [ofItems_properties,hsections,List.append_nil]

end RegionAudit.Ini
