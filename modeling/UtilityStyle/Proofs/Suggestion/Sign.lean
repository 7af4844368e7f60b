import UtilityStyle.Proofs.Suggestion.Candidate
import UtilityStyle.Proofs.Theme.Scale

namespace UtilityStyle.Suggestion

variable {theme : Theme} {query : Query} {key path target : String}

/-- The paths whose sign has nothing behind it that a class would write. -/
def signless : List String := ["-", "-default", "--default"]

theorem isNegativePath_eq_true_iff : isNegativePath path = true ↔ ∃ rest, path = "-" ++ rest := by
  unfold isNegativePath
  rw [decide_eq_true_eq, List.head?_eq_some_iff]
  constructor
  · rintro ⟨cs, h⟩
    exact ⟨String.ofList cs, String.toList_inj.1 (by simp [h])⟩
  · rintro ⟨rest, rfl⟩
    exact ⟨rest.toList, by simp⟩

theorem isNegativePath_append (h : path ≠ "") (rest : String) :
    isNegativePath (path ++ rest) = isNegativePath path := by
  have hcs : path.toList ≠ [] := by simpa using h
  obtain ⟨c, cs, hc⟩ := List.exists_cons_of_ne_nil hcs
  simp [isNegativePath, hc]

theorem unsigned_ne_self_iff {text : String} :
    unsigned text ≠ text ↔ isNegativePath text = true ∧ text ≠ "-" := by
  have hsigned : unsigned text ≠ text ↔ text = "-" ++ unsigned text := by
    constructor
    · exact fun h => (eq_unsigned_or text).resolve_left h.symm
    · intro h hself
      rw [hself] at h
      exact Scale.ne_dash_append text h
  rw [hsigned, Scale.eq_dash_append_unsigned_iff, isNegativePath_eq_true_iff]
  constructor
  · rintro ⟨rest, hrest, rfl⟩
    exact ⟨⟨rest, rfl⟩, fun h => hrest ((String.append_right_inj "-").1 h)⟩
  · rintro ⟨⟨rest, rfl⟩, hne⟩
    refine ⟨rest, ?_, rfl⟩
    rintro rfl
    exact hne rfl

theorem classPath_cases (path : String) :
    path = "default" ∨ path = classPath path ++ "-default" ∨ path = classPath path := by
  unfold classPath
  by_cases h : path = "default"
  · exact .inl h
  · rw [if_neg h]
    cases hb : Text.beforeEnd "-default" path with
    | none => exact .inr (.inr rfl)
    | some rest => exact .inr (.inl (Text.beforeEnd_eq_some_iff.1 hb))

theorem append_default_mem_signless_iff {rest : String} :
    rest ++ "-default" ∈ signless ↔ rest = "" ∨ rest = "-" := by
  have hshort : rest ++ "-default" ≠ "-" := Text.append_ne_of_length_lt (by decide) rest
  have hdefault : rest ++ "-default" = "-default" ↔ rest = "" :=
    @String.append_left_inj rest "" "-default"
  have hsigned : rest ++ "-default" = "--default" ↔ rest = "-" :=
    @String.append_left_inj rest "-" "-default"
  simp [signless, hshort, hdefault, hsigned]

theorem isNegativePath_classPath :
    isNegativePath (classPath path) = true ∧ classPath path ≠ "-" ↔
      isNegativePath path = true ∧ path ∉ signless := by
  obtain rfl | hcut | hself := classPath_cases path
  · decide
  · generalize classPath path = rest at hcut ⊢
    subst hcut
    rw [append_default_mem_signless_iff]
    by_cases hrest : rest = ""
    · subst hrest
      decide
    · simp [isNegativePath_append hrest, hrest]
  · rw [← hself]
    apply and_congr_right
    intro _
    have hsigned : path ≠ "-default" ∧ path ≠ "--default" := by
      constructor <;> rintro rfl <;> exact absurd hself (by decide)
    simp [signless, hsigned]

theorem isNegativePath_className_selector (hkey : key ≠ "") (path : String) :
    isNegativePath (selector key path).className = isNegativePath key := by
  rw [className_selector hkey]
  split
  · rfl
  · rw [String.append_assoc, isNegativePath_append hkey]

theorem isNegativePath_targetOf (hkey : key ≠ "") (hsign : isNegativePath key = false) :
    isNegativePath (targetOf key path) = true ↔ isNegativePath path = true ∧ path ∉ signless := by
  rw [← isNegativePath_classPath, ← unsigned_ne_self_iff]
  have htarget : targetOf key path =
      (if unsigned (classPath path) = classPath path then "" else "-") ++
        (selector key path).className := rfl
  rw [htarget]
  by_cases hbare : unsigned (classPath path) = classPath path
  · rw [if_pos hbare, String.empty_append, isNegativePath_className_selector hkey, hsign]
    simp [hbare]
  · rw [if_neg hbare]
    exact iff_of_true (isNegativePath_eq_true_iff.2 ⟨_, rfl⟩) hbare

theorem targetOf_of_signless (hkey : key ≠ "") (hpath : path ∈ signless) :
    targetOf key path = key ∨ targetOf key path = key ++ "--" := by
  have hclass : classPath path = "" ∨ classPath path = "-" := by
    revert path
    decide
  have hbare : unsigned (classPath path) = classPath path := by
    obtain h | h := hclass <;> rw [h] <;> decide
  have htarget : targetOf key path = (selector key path).className := by
    rw [← text_selector]
    simp [selector, Token.text, Token.unscoped, Token.sign, Token.bang, hbare]
  rw [htarget, className_selector hkey, hbare]
  obtain h | h := hclass
  · exact .inl (by rw [h, if_pos rfl])
  · exact .inr (by rw [h, if_neg (by decide), String.append_assoc]; rfl)

theorem negative_of_mem_matching {leaf : String × String} (h : leaf ∈ matching theme query) :
    isNegativePath leaf.1 = query.negative := of_decide_eq_true (List.mem_filter.1 h).2

theorem sign_targetOf_iff {leaf : String × String} (hkey : query.key ≠ "")
    (hsign : isNegativePath query.key = false) (hleaf : leaf ∈ matching theme query) :
    isNegativePath (targetOf query.key leaf.1) = query.negative ↔ leaf.1 ∉ signless := by
  have htarget := @isNegativePath_targetOf query.key leaf.1 hkey hsign
  have hsigned : ∀ path ∈ signless, isNegativePath path = true := by decide
  rw [negative_of_mem_matching hleaf] at htarget
  cases hn : query.negative with
  | true => simpa [hn] using htarget
  | false =>
    have hleafSign := negative_of_mem_matching hleaf
    rw [hn] at hleafSign htarget
    refine iff_of_true (by simpa using htarget) fun hmem => ?_
    rw [hsigned leaf.1 hmem] at hleafSign
    cases hleafSign

/-- A search keeps the sign of its query, except for tokens whose path has a sign with nothing
behind it. The class of such a token has no sign. -/
theorem fromTheme_sign (theme : Theme) (query : Query) (hkey : query.key ≠ "")
    (hsign : isNegativePath query.key = false) :
    ((∀ s ∈ candidates theme query, isNegativePath s.target = query.negative) ↔
        ∀ leaf ∈ matching theme query, leaf.1 ∉ signless) ∧
      ∀ target ∈ (fromTheme theme query).targets, ∃ leaf ∈ matching theme query,
        targetOf query.key leaf.1 = target ∧
          (isNegativePath target = query.negative ↔ leaf.1 ∉ signless) ∧
          (leaf.1 ∈ signless → target = query.key ∨ target = query.key ++ "--") := by
  refine ⟨⟨?_, ?_⟩, ?_⟩
  · intro h leaf hleaf
    obtain ⟨s, hs, htarget⟩ := (chosen_candidates theme query).exists_of_mem
      (List.mem_map_of_mem (f := candidate query) hleaf)
    have hsame : s.target = targetOf query.key leaf.1 := htarget
    exact (sign_targetOf_iff hkey hsign hleaf).1 (hsame ▸ h s hs)
  · intro h s hs
    obtain ⟨leaf, hleaf, rfl⟩ := exists_leaf_of_mem_candidates hs
    exact (sign_targetOf_iff hkey hsign hleaf).2 (h leaf hleaf)
  · intro target htarget
    obtain ⟨leaf, hleaf, rfl⟩ := exists_leaf_of_mem_fromTheme htarget
    exact ⟨leaf, hleaf, rfl, sign_targetOf_iff hkey hsign hleaf, targetOf_of_signless hkey⟩

def negativeDefault : Theme := ⟨[("margin", .object [("-default", .string "-1rem")])]⟩

theorem fromTheme_sign_default :
    (fromTheme negativeDefault ⟨["margin"], "m", "m-x", true⟩).targets = ["m"] ∧
      ∃ leaf ∈ matching negativeDefault ⟨["margin"], "m", "m-x", true⟩, leaf.1 ∈ signless := by
  have htargets : (fromTheme negativeDefault ⟨["margin"], "m", "m-x", true⟩).targets = ["m"] := by
    decide +kernel
  obtain ⟨leaf, hleaf, -, hiff, -⟩ := (fromTheme_sign negativeDefault
    ⟨["margin"], "m", "m-x", true⟩ (by decide) (by decide)).2 "m" (by simp [htargets])
  exact ⟨htargets, leaf, hleaf, not_not.1 (mt hiff.2 (by decide))⟩

theorem not_fromTheme_sign :
    ¬∀ (theme : Theme) (query : Query), query.key ≠ "" → isNegativePath query.key = false →
      ∀ target ∈ (fromTheme theme query).targets, isNegativePath target = query.negative := by
  intro h
  have hkept := h negativeDefault ⟨["margin"], "m", "m-x", true⟩ (by decide) (by decide) "m"
    (by decide +kernel)
  exact absurd hkept (by decide)

end UtilityStyle.Suggestion
