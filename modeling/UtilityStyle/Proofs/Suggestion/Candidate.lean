import UtilityStyle.Proofs.Suggestion.Best
import UtilityStyle.Proofs.Text.Start
import UtilityStyle.Proofs.Token.Grammar

namespace UtilityStyle

theorem eq_unsigned_or (text : String) : text = unsigned text ∨ text = "-" ++ unsigned text := by
  unfold unsigned
  split
  · cases h : Text.afterStart "-" text with
    | none => exact .inl rfl
    | some rest => exact .inr (Text.afterStart_eq_some_iff.1 h)
  · exact .inl rfl

namespace Suggestion

theorem exists_leaf_of_mem_candidates {theme : Theme} {query : Query} {s : Suggestion}
    (h : s ∈ candidates theme query) : ∃ leaf ∈ matching theme query, candidate query leaf = s :=
  List.mem_map.1 ((chosen_candidates theme query).mem h)

theorem exists_of_mem_shortlist {limit : Nat} {all : List Suggestion} {target : String}
    (h : target ∈ (shortlist limit all).targets) : ∃ s ∈ all, s.target = target := by
  have hsorted : ∀ s ∈ sorted all, s ∈ all := fun s => List.mem_mergeSort.1
  unfold shortlist at h
  cases hs : sorted all with
  | nil => simp [hs, Suggestions.targets] at h
  | cons best rest =>
    rw [hs] at h hsorted
    dsimp only at h
    split at h
    · exact ⟨best, hsorted best (List.mem_cons_self ..), (List.mem_singleton.1 h).symm⟩
    · obtain ⟨s, hm, rfl⟩ := List.mem_map.1 h
      exact ⟨s, hsorted s (List.mem_of_mem_take hm), rfl⟩

theorem exists_leaf_of_mem_fromTheme {theme : Theme} {query : Query} {target : String}
    (h : target ∈ (fromTheme theme query).targets) :
    ∃ leaf ∈ matching theme query, targetOf query.key leaf.1 = target := by
  have hcandidate : ∃ s ∈ candidates theme query, s.target = target := by
    unfold fromTheme at h
    dsimp only at h
    split at h
    · split at h
      · cases h
      · obtain ⟨_, hm, rfl⟩ := List.mem_map.1 h
        obtain ⟨s, hs, rfl⟩ := List.mem_map.1 hm
        exact ⟨s, List.mem_of_mem_take hs, rfl⟩
    · obtain ⟨s, hs, rfl⟩ := exists_of_mem_shortlist h
      exact ⟨s, (List.mem_filter.1 hs).1, rfl⟩
  obtain ⟨s, hs, rfl⟩ := hcandidate
  obtain ⟨leaf, hleaf, rfl⟩ := exists_leaf_of_mem_candidates hs
  exact ⟨leaf, hleaf, rfl⟩

def selector (key path : String) : Token :=
  let bare := unsigned (classPath path)
  ⟨[], bare ≠ classPath path, false, "-".intercalate ([key, bare].filter (!·.isEmpty))⟩

theorem text_selector (key path : String) : (selector key path).text = targetOf key path := by
  unfold selector targetOf Token.text Token.unscoped Token.sign Token.bang
  by_cases h : unsigned (classPath path) = classPath path <;> simp [h]

theorem className_selector {key path : String} (hk : key ≠ "") :
    (selector key path).className =
      if unsigned (classPath path) = "" then key
      else key ++ "-" ++ unsigned (classPath path) := by
  unfold selector
  by_cases h : unsigned (classPath path) = "" <;> simp [h, hk]

theorem className_selector_ne {key path name : String} (hk : key ≠ "") (hne : key ≠ name)
    (hn : '-' ∉ name.toList) : (selector key path).className ≠ name := by
  rw [className_selector hk]
  split
  · exact hne
  · rintro rfl
    simp at hn

theorem sign_selector_append (key path : String) :
    (selector key path).sign ++ unsigned (classPath path) = classPath path := by
  unfold selector Token.sign
  by_cases h : unsigned (classPath path) = classPath path
  · simp [h]
  · have hsigned := (eq_unsigned_or (classPath path)).resolve_left (Ne.symm h)
    simpa [h] using hsigned.symm

end Suggestion

end UtilityStyle
