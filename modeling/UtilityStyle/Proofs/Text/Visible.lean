import Mathlib.Data.List.Basic
import UtilityStyle.Json.Printer

namespace UtilityStyle

namespace Text

theorem allBlank_append {a b : String} : allBlank (a ++ b) ↔ allBlank a ∧ allBlank b := by
  simp [allBlank, List.all_append]

theorem not_allBlank_of_mem {text : String} {c : Char} (h : c ∈ text.toList)
    (hc : isBlank c = false) : ¬allBlank text := by
  intro hblank
  rw [List.all_eq_true.1 hblank c h] at hc
  cases hc

theorem trim_append_of_allBlank {blanks : String} (h : allBlank blanks) (rest : String) :
    trim (blanks ++ rest) = trim rest := by
  have hdrop : dropBlanks (blanks ++ rest).toList = dropBlanks rest.toList := by
    rw [String.toList_append]
    exact List.dropWhile_append_of_pos (List.all_eq_true.1 h)
  rw [trim, trim, hdrop]

theorem isBlank_of_isDigit {c : Char} (h : c.isDigit) : isBlank c = false := by
  have hzero : '0'.toNat = 48 := rfl
  have hnine : '9'.toNat = 57 := rfl
  rw [Char.isDigit_iff_toNat] at h
  simp only [isBlank, blankRanges, List.any_cons, List.any_nil, Bool.or_false,
    Bool.or_eq_false_iff, Bool.and_eq_false_iff, decide_eq_false_iff_not]
  omega

theorem not_allBlank_ofNat (n : Nat) : ¬allBlank n.repr := by
  obtain ⟨c, rest, hdigits⟩ := List.exists_cons_of_ne_nil (@Nat.toDigits_ne_nil n 10)
  have hc : c ∈ Nat.toDigits 10 n := by simp [hdigits]
  refine not_allBlank_of_mem (by rwa [Nat.toList_repr]) (isBlank_of_isDigit ?_)
  exact Nat.isDigit_of_mem_toDigits (by decide) (by decide) hc

theorem not_allBlank_ofInt (n : Int) : ¬allBlank (toString n) := by
  cases n with
  | ofNat n => exact not_allBlank_ofNat n
  | negSucc n =>
    change ¬allBlank ("-" ++ (n + 1).repr)
    rw [allBlank_append]
    exact fun h => not_allBlank_ofNat _ h.2

end Text

theorem Digits.exists_visible_layout (d : Digits) : ∃ c ∈ d.layout, Text.isBlank c = false := by
  have hpoint : Text.isBlank '.' = false := by decide
  unfold layout
  dsimp only
  split
  · exact ⟨'e', by simp, by decide⟩
  · split
    · exact ⟨'.', by simp, hpoint⟩
    · split
      · exact ⟨'.', by simp, hpoint⟩
      · exact ⟨'.', by simp, hpoint⟩

theorem Double.not_allBlank_text (x : Double) : ¬Text.allBlank (text x) := by
  have hnull : ¬Text.allBlank "null" := by decide
  unfold text
  cases Binary.view x with
  | finite negative m q =>
    dsimp only
    obtain ⟨c, hc, hvisible⟩ : ∃ c ∈ if m = 0 then ['0', '.', '0'] else (shortest m q).layout,
        Text.isBlank c = false := by
      split
      · exact ⟨'0', by decide, by decide⟩
      · exact (shortest m q).exists_visible_layout
    refine Text.not_allBlank_of_mem ?_ hvisible
    rw [String.toList_ofList]
    cases negative with
    | false => exact hc
    | true => exact List.mem_cons_of_mem '-' hc
  | infinite | undefined => exact hnull

theorem Number.not_allBlank_styled (number : Number) : ¬Text.allBlank number.styled := by
  unfold styled
  split
  · exact Text.not_allBlank_ofInt _
  · split
    · split
      · exact Text.not_allBlank_ofInt _
      · exact Double.not_allBlank_text _
    · exact Double.not_allBlank_text _

theorem Json.not_allBlank_text (value : Json) : ¬Text.allBlank value.text := by
  have hvisible : ∀ {a b : String}, ¬Text.allBlank a → ¬Text.allBlank (a ++ b) := fun ha h =>
    ha (Text.allBlank_append.1 h).1
  unfold text
  cases value with
  | null => decide
  | bool value => cases value <;> decide
  | number number =>
    cases number with
    | whole value => exact Text.not_allBlank_ofInt value
    | double value => exact Double.not_allBlank_text value
  | string text => exact hvisible (hvisible (by decide))
  | array items => exact hvisible (hvisible (by decide))
  | object fields => exact hvisible (hvisible (by decide))

end UtilityStyle
