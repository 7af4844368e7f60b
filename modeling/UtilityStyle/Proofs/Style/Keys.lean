import Mathlib.Data.List.Basic
import UtilityStyle.Proofs.Style.Merge

namespace UtilityStyle

namespace Style

variable {key first second : String}

@[simp] theorem keys_empty : empty.keys = [] := rfl

@[simp] theorem keys_under (key : String) (inner : Style) : (under key inner).keys = [key] := rfl

@[simp] theorem keys_one (key text : String) : (one key text).keys = [key] := rfl

theorem keys_prefix_put (key : String) (value : Json) (fields : Fields) :
    Entries.keys fields <+: Entries.keys (Entries.put key value fields) := by
  rw [Entries.keys_put]
  split
  · exact List.prefix_refl _
  · exact List.prefix_append _ _

theorem mem_keys_put {other : String} {value : Json} {fields : Fields} :
    other ∈ Entries.keys (Entries.put key value fields) ↔
      other = key ∨ other ∈ Entries.keys fields := by
  rw [Entries.keys_put]
  split
  · rename_i h
    exact ⟨.inr, fun ho => ho.elim (fun e => e ▸ h) id⟩
  · rw [List.mem_append, List.mem_singleton, or_comm]

theorem keys_prefix_mergeFields (fields more : Fields) :
    Entries.keys fields <+: Entries.keys (mergeFields fields more) := by
  induction more generalizing fields with
  | nil => exact List.prefix_refl _
  | cons entry rest ih =>
    rw [mergeFields_cons]
    exact (keys_prefix_put entry.1 _ fields).trans (ih _)

theorem mem_keys_mergeFields {fields more : Fields} :
    key ∈ Entries.keys (mergeFields fields more) ↔
      key ∈ Entries.keys fields ∨ key ∈ Entries.keys more := by
  induction more generalizing fields with
  | nil => simp [mergeFields, Entries.keys]
  | cons entry rest ih =>
    change _ ↔ _ ∨ key ∈ entry.1 :: Entries.keys rest
    rw [mergeFields_cons, ih, mem_keys_put, List.mem_cons, or_assoc, or_left_comm]

theorem mem_keys_foldl_merge {styles : List Style} {start : Style} :
    key ∈ (styles.foldl merge start).keys ↔
      key ∈ start.keys ∨ ∃ style ∈ styles, key ∈ style.keys := by
  induction styles generalizing start with
  | nil => simp
  | cons style rest ih =>
    have hmerge : key ∈ (start.merge style).keys ↔ key ∈ start.keys ∨ key ∈ style.keys :=
      mem_keys_mergeFields
    rw [List.foldl_cons, ih, hmerge, or_assoc]
    simp

theorem mem_keys_mergeAll {styles : List Style} :
    key ∈ (mergeAll styles).keys ↔ ∃ style ∈ styles, key ∈ style.keys := by
  unfold mergeAll
  rw [mem_keys_foldl_merge]
  simp

theorem keys_prefix_foldl_merge (styles : List Style) (start : Style) :
    start.keys <+: (styles.foldl merge start).keys := by
  induction styles generalizing start with
  | nil => exact List.prefix_refl _
  | cons style rest ih => exact (keys_prefix_mergeFields start.fields style.fields).trans (ih _)

theorem keys_prefix_mergeAll (earlier later : List Style) :
    (mergeAll earlier).keys <+: (mergeAll (earlier ++ later)).keys := by
  unfold mergeAll
  rw [List.foldl_append]
  exact keys_prefix_foldl_merge later _

def Precedes (first second : String) (style : Style) : Prop :=
  first ∈ style.keys ∧ second ∈ style.keys ∧ style.keys.idxOf first < style.keys.idxOf second

theorem precedes_mergeAll {earlier later : List Style}
    (hfirst : ∃ style ∈ earlier, first ∈ style.keys)
    (hsecond : ∀ style ∈ earlier, second ∉ style.keys)
    (hmem : second ∈ (mergeAll (earlier ++ later)).keys) :
    Precedes first second (mergeAll (earlier ++ later)) := by
  have hstart : first ∈ (mergeAll earlier).keys := mem_keys_mergeAll.2 hfirst
  have hnew : second ∉ (mergeAll earlier).keys := by
    rw [mem_keys_mergeAll]
    rintro ⟨style, hs, hm⟩
    exact hsecond style hs hm
  obtain ⟨rest, hrest⟩ := keys_prefix_mergeAll earlier later
  unfold Precedes
  rw [← hrest] at hmem ⊢
  refine ⟨List.mem_append_left _ hstart, hmem, ?_⟩
  rw [List.idxOf_append_of_mem hstart, List.idxOf_append_of_notMem hnew]
  exact Nat.lt_of_lt_of_le (List.idxOf_lt_length_of_mem hstart) (Nat.le_add_right _ _)

end Style

end UtilityStyle
