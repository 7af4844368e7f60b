import UtilityStyle.Proofs.Rule.Invariant
import UtilityStyle.Proofs.Rule.Property
import UtilityStyle.Proofs.Style.Keys
import UtilityStyle.Proofs.Utility.Invariant

namespace UtilityStyle

namespace Style

def Unscreened (style : Style) : Prop := ∀ key ∈ style.keys, ¬Screen.IsMedia key

instance (style : Style) : Decidable style.Unscreened :=
  inferInstanceAs (Decidable (∀ key ∈ style.keys, ¬Screen.IsMedia key))

variable {key : String} {style more : Style}

theorem unscreened_empty : empty.Unscreened := by
  simp [Unscreened]

theorem unscreened_under (h : ¬Screen.IsMedia key) (inner : Style) :
    (under key inner).Unscreened := by
  simpa [Unscreened] using h

theorem Unscreened.put (hs : style.Unscreened) (h : ¬Screen.IsMedia key) (value : Json) :
    (style.put key value).Unscreened := by
  intro other ho
  rcases mem_keys_put.1 ho with rfl | ho
  · exact h
  · exact hs other ho

theorem Unscreened.merge (hs : style.Unscreened) (hm : more.Unscreened) :
    (style.merge more).Unscreened := by
  intro key hk
  exact (mem_keys_mergeFields.1 hk).elim (hs key) (hm key)

theorem unscreened_markImportant (h : style.Unscreened) : style.markImportant.Unscreened := by
  unfold Unscreened
  rwa [keys_markImportant]

end Style

theorem not_isMedia_of_not_isScope {key : String} (h : isScope key = false) :
    ¬Screen.IsMedia key := by
  intro hm
  rw [isScope_of_isMedia hm] at h
  cases h

theorem Utility.unscreened_invariant : Utility.Invariant Style.Unscreened where
  empty := Style.unscreened_empty
  putText hs hk _ := hs.put (not_isMedia_of_not_isScope hk) _
  putNumber hs hk _ := hs.put (not_isMedia_of_not_isScope hk) _
  under _ hk := Style.unscreened_under (Family.isScope_selector _ _ hk).2 _
  markImportant hs := Style.unscreened_markImportant hs
  fixed := by decide +kernel

namespace Rule

theorem not_isMedia_of_not_startsAtRule {key : String} (h : ¬Property.StartsAtRule key.toList) :
    ¬Screen.IsMedia key := by
  rintro ⟨rest, hrest⟩
  apply h
  rw [← hrest]
  exact ⟨'m', _, rfl, by decide⟩

theorem not_isMedia_states {states : String} (h : states.toList.head? = some ':') :
    ¬Screen.IsMedia states := by
  rintro ⟨rest, hrest⟩
  rw [← hrest] at h
  cases h

theorem unscreened_invariant : Invariant Style.Unscreened where
  empty := Style.unscreened_empty
  putText hs property _ :=
    hs.put (not_isMedia_of_not_startsAtRule (Property.not_startsAtRule_camelCase property)) _
  merge hf hs := hf.merge hs
  under _ h := Style.unscreened_under (not_isMedia_states h) _

end Rule

end UtilityStyle
