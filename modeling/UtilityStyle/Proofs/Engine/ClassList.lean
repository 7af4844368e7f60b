import UtilityStyle.Engine.Basic
import UtilityStyle.Proofs.Text.Pieces

namespace UtilityStyle

namespace Engine

structure IsWord (raw : String) : Prop where
  noBlank : ∀ c ∈ raw.toList, Text.isBlank c = false
  notBar : raw ≠ "|"

instance (raw : String) : Decidable (IsWord raw) :=
  decidable_of_iff (raw.toList.all (!Text.isBlank ·) ∧ raw ≠ "|")
    ⟨fun h => ⟨by simpa using h.1, h.2⟩, fun h => ⟨by simpa using h.noBlank, h.notBar⟩⟩

theorem noBlank_of_all {raw : String} (h : raw.toList.all (!Text.isBlank ·)) :
    ∀ c ∈ raw.toList, Text.isBlank c = false := by
  simpa using h

theorem withoutDividers_eq_self {cs : List Char}
    (h : ∀ before after, cs ≠ before ++ ' ' :: '|' :: ' ' :: after) : withoutDividers cs = cs := by
  fun_induction withoutDividers cs with
  | case1 rest => exact absurd rfl (h [] rest)
  | case2 c rest _ ih =>
    rw [ih]
    intro before after he
    exact h (c :: before) after (congrArg (c :: ·) he)
  | case3 => rfl

theorem pieces_append_bar (before after : List Char) :
    Text.pieces (· == ' ') (before ++ ' ' :: '|' :: ' ' :: after) =
      Text.pieces (· == ' ') before ++ ['|'] :: Text.pieces (· == ' ') after := by
  have hbar : Text.pieces (· == ' ') ('|' :: ' ' :: after) =
      ['|'] :: Text.pieces (· == ' ') after :=
    @Text.pieces_append_separator (· == ' ') ['|'] ' ' (by simp) rfl after
  rw [Text.pieces_append_cons rfl, hbar]

/-- A bar at an end of the list divides nothing, so it is a token as well. -/
theorem tokens_intercalate_of_bars {raws : List String}
    (hblank : ∀ raw ∈ raws, ∀ c ∈ raw.toList, Text.isBlank c = false)
    (hbars : ∀ before after, raws = before ++ "|" :: after → before = [] ∨ after = []) :
    tokens (" ".intercalate raws) = raws.filter (!·.isEmpty) := by
  cases raws with
  | nil => rfl
  | cons first rest =>
    have hne : (first :: rest).map String.toList ≠ [] := by simp
    have hblank : ∀ piece ∈ (first :: rest).map String.toList, ∀ c ∈ piece,
        Text.isBlank c = false := by
      intro piece hp
      obtain ⟨raw, hr, rfl⟩ := List.mem_map.1 hp
      exact hblank raw hr
    have hspace : ∀ piece ∈ (first :: rest).map String.toList, ∀ c ∈ piece, (c == ' ') = false := by
      intro piece hp c hc
      rw [beq_eq_false_iff_ne]
      rintro rfl
      exact absurd (hblank piece hp ' ' hc) (by decide)
    -- the bar of a divider would be a class of its own with others on both sides
    have hbars : ∀ before after, Text.join ' ' ((first :: rest).map String.toList) ≠
        before ++ ' ' :: '|' :: ' ' :: after := by
      intro before after he
      have hpieces := pieces_append_bar before after
      rw [← he, Text.pieces_join rfl hspace hne] at hpieces
      obtain ⟨earlier, later, hraws, hbefore, hlater⟩ := List.map_eq_append_iff.1 hpieces
      obtain ⟨bar, others, rfl, hbar, hafter⟩ := List.map_eq_cons_iff.1 hlater
      obtain rfl : bar = "|" := String.toList_inj.1 hbar
      rcases hbars earlier others hraws with rfl | rfl
      · exact Text.pieces_ne_nil _ before hbefore.symm
      · exact Text.pieces_ne_nil _ after hafter.symm
    unfold tokens Text.words
    rw [String.toList_ofList, Text.toList_intercalate (c := ' ') rfl, withoutDividers_eq_self hbars,
      Text.pieces_join Text.isBlank_space hblank hne, List.filter_map, List.map_map]
    simp only [Function.comp_def, String.ofList_toList, List.map_id']
    apply List.filter_congr
    intro raw _
    rw [Bool.eq_iff_iff]
    simp

theorem tokens_intercalate {raws : List String} (h : ∀ raw ∈ raws, IsWord raw) :
    tokens (" ".intercalate raws) = raws.filter (!·.isEmpty) := by
  apply tokens_intercalate_of_bars fun raw hr => (h raw hr).noBlank
  rintro before after rfl
  exact absurd rfl (h "|" (by simp)).notBar

end Engine

end UtilityStyle
