import Mathlib.Data.List.Nodup
import UtilityStyle.Proofs.Style.Algebra
import UtilityStyle.Proofs.Style.Declaration

namespace UtilityStyle

namespace Entries

variable {α : Type}

theorem put_eq_map_of_mem {key : String} {value : α} {entries : Entries α}
    (hnodup : (keys entries).Nodup) (hm : key ∈ keys entries) :
    put key value entries =
      entries.map fun entry => if entry.1 = key then (key, value) else entry := by
  induction entries with
  | nil => cases hm
  | cons entry rest ih =>
    obtain ⟨hnew, hnodup⟩ := List.nodup_cons.1 hnodup
    by_cases hk : entry.1 = key
    · have hrest : rest.map (fun entry => if entry.1 = key then (key, value) else entry) =
          rest := by
        refine (List.map_congr_left fun other ho => ?_).trans (List.map_id rest)
        have hne : other.1 ≠ key := fun e => hnew (hk ▸ e ▸ List.mem_map_of_mem ho)
        exact if_neg hne
      simp [put, hk, hrest]
    · have hm : key ∈ keys rest := (List.mem_cons.1 hm).resolve_left (Ne.symm hk)
      simp [put, hk, ih hnodup hm]

end Entries

namespace Declaration

def giving (property : String) (value : Json) (d : Declaration) : Declaration :=
  if d.property = property then { d with value } else d

theorem giving_within (property : String) (value : Json) (key : String) (d : Declaration) :
    (d.within key).giving property value = (d.giving property value).within key := by
  unfold giving
  rw [property_within]
  split <;> rfl

end Declaration

namespace Style

structure Flat (style : Style) : Prop where
  nodup : style.keys.Nodup
  isLeaf : ∀ entry ∈ style.fields, entry.2.isObject = false

variable {key property : String} {value : Json} {style : Style}

theorem flat_empty : empty.Flat := ⟨List.nodup_nil, by simp [empty]⟩

theorem Flat.put (hs : style.Flat) (hv : value.isObject = false) : (style.put key value).Flat := by
  constructor
  · exact Entries.nodup_keys_put hs.nodup key value
  · intro entry he
    rcases Entries.mem_of_mem_put he with rfl | he
    · exact hv
    · exact hs.isLeaf entry he

theorem declarations_of_flat (h : style.Flat) :
    style.declarations = style.fields.map fun entry => ⟨[], entry.1, entry.2⟩ := by
  have hfields : ∀ fields : Fields, (∀ entry ∈ fields, entry.2.isObject = false) →
      declarationsIn fields = fields.map fun entry => ⟨[], entry.1, entry.2⟩ := by
    intro fields hleaf
    induction fields with
    | nil => rfl
    | cons entry rest ih =>
      obtain ⟨hentry, hrest⟩ := List.forall_mem_cons.1 hleaf
      rw [declarationsIn, declarationsOf_of_leaf hentry, ih hrest, List.map_cons,
        List.singleton_append]
  exact hfields style.fields h.isLeaf

theorem paths_of_flat (h : style.Flat) : style.paths = style.keys.map fun key => [key] := by
  have hfields : ∀ fields : Fields, (∀ entry ∈ fields, entry.2.isObject = false) →
      pathsIn fields = (Entries.keys fields).map fun key => [key] := by
    intro fields hleaf
    induction fields with
    | nil => rfl
    | cons entry rest ih =>
      obtain ⟨hentry, hrest⟩ := List.forall_mem_cons.1 hleaf
      rw [pathsIn, pathsOf_of_leaf hentry, ih hrest, List.singleton_append]
      rfl
  exact hfields style.fields h.isLeaf

theorem mem_keys_of_flat (h : style.Flat) :
    property ∈ style.keys ↔ ∃ d ∈ style.declarations, d.property = property := by
  rw [declarations_of_flat h]
  simp [keys, Entries.keys]

theorem declarations_put_of_flat (h : style.Flat) (hm : key ∈ style.keys)
    (hv : value.isObject = false) :
    (style.put key value).declarations = style.declarations.map (.giving key value) := by
  rw [declarations_of_flat (h.put hv), declarations_of_flat h, List.map_map]
  change (Entries.put key value style.fields).map _ = _
  rw [Entries.put_eq_map_of_mem h.nodup hm, List.map_map]
  apply List.map_congr_left
  intro entry _
  by_cases hk : entry.1 = key <;> simp [Declaration.giving, hk]

theorem paths_put_of_flat (h : style.Flat) (hm : key ∈ style.keys) (hv : value.isObject = false) :
    (style.put key value).paths = style.paths := by
  have hkeys : (style.put key value).keys = style.keys :=
    (Entries.keys_put key value style.fields).trans (if_pos hm)
  rw [paths_of_flat (h.put hv), paths_of_flat h, hkeys]

theorem declarations_under (key : String) (inner : Style) :
    (under key inner).declarations = inner.declarations.map (.within key) :=
  List.append_nil _

theorem paths_under (key : String) (inner : Style) :
    (under key inner).paths = [key] :: inner.paths.map (key :: ·) :=
  List.append_nil _

theorem exists_declaration_within {path : List String} :
    (∃ d ∈ (style.within path).declarations, d.property = property) ↔
      ∃ d ∈ style.declarations, d.property = property := by
  induction path with
  | nil => rfl
  | cons key path ih =>
    rw [within_cons, declarations_under, ← ih]
    simp

theorem values_within (path : List String) :
    (style.within path).declarations.map (·.value) = style.declarations.map (·.value) := by
  induction path with
  | nil => rfl
  | cons key path ih =>
    rw [within_cons, declarations_under, List.map_map, ← ih]
    rfl

theorem declarations_within_giving {other : Style} (path : List String)
    (h : other.declarations = style.declarations.map (.giving property value)) :
    (other.within path).declarations =
      (style.within path).declarations.map (.giving property value) := by
  induction path with
  | nil => exact h
  | cons key path ih =>
    simp only [within_cons, declarations_under, ih, List.map_map]
    apply List.map_congr_left
    intro d _
    exact (Declaration.giving_within property value key d).symm

theorem paths_within_congr {other : Style} (path : List String) (h : other.paths = style.paths) :
    (other.within path).paths = (style.within path).paths := by
  induction path with
  | nil => exact h
  | cons key path ih => rw [within_cons, within_cons, paths_under, paths_under, ih]

end Style

end UtilityStyle
