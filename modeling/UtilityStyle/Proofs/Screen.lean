import UtilityStyle.Engine.Order
import UtilityStyle.Proofs.Outcome
import UtilityStyle.Proofs.Token.Grammar
import UtilityStyle.Variant

/-!
Screens and their media queries. A name has a query if it is that of a screen, no other variant
stands under a media query, and the first screen among the variants of a token gives its rank.
Sorting cuts a token at its colons and reading takes its variants off the front. The two see the
same screens, because reading leaves no colon behind.
-/

namespace UtilityStyle

namespace Screen

def IsMedia (key : String) : Prop := "@media".toList <+: key.toList

instance (key : String) : Decidable (IsMedia key) := inferInstanceAs (Decidable (_ <+: _))

theorem isMedia_media (condition : String) : IsMedia (media condition) := by
  unfold IsMedia media
  rw [String.toList_append]
  exact ⟨[' '] ++ condition.toList, by simp⟩

variable {theme : Theme} {name query : String}

theorem isMedia_of_query? (h : query? theme name = .ok (some query)) : IsMedia query := by
  unfold query? at h
  split at h
  · cases h
  · obtain ⟨condition, -, h⟩ := Outcome.bind_eq_ok_iff.1 h
    split at h
    · cases h
    · obtain rfl := Option.some.inj (Outcome.pure_eq_ok_iff.1 h)
      exact isMedia_media condition

theorem rank?_eq_none_iff : theme.rank? name = none ↔ name ∉ theme.screenNames :=
  List.idxOf?_eq_none_iff

theorem query?_eq_none_iff : query? theme name = .ok none ↔ theme.rank? name = none := by
  have hrank : theme.rank? name = none ↔ Entries.get? name theme.screens = none := by
    rw [Entries.get?_eq_none_iff]
    exact rank?_eq_none_iff
  rw [hrank]
  unfold query?
  cases Entries.get? name theme.screens with
  | none => simp
  | some screen =>
    simp only [reduceCtorEq, iff_false]
    intro h
    obtain ⟨condition, -, h⟩ := Outcome.bind_eq_ok_iff.1 h
    split at h <;> cases h

end Screen

namespace Variant

variable {theme : Theme} {name query : String} {variant : Variant}

theorem find_eq_ok_iff :
    find theme name = .ok variant ↔
      (∃ query, Screen.query? theme name = .ok (some query) ∧ .screen name query = variant) ∨
        Screen.query? theme name = .ok none ∧
          ∃ selector, Selector.builtin? name = some selector ∧ .pseudo name selector = variant := by
  unfold find fromTheme
  cases Screen.query? theme name with
  | error cause => simp
  | ok query? =>
    cases query? with
    | some query => simp
    | none => cases Selector.builtin? name <;> simp

def isScreen : Variant → Bool
  | .screen _ _ => true
  | .pseudo _ _ => false

theorem name_of_find (h : find theme name = .ok variant) : variant.name = name := by
  obtain ⟨query, -, rfl⟩ | ⟨-, selector, -, rfl⟩ := find_eq_ok_iff.1 h <;> rfl

theorem isScreen_iff_of_find (h : find theme name = .ok variant) :
    variant.isScreen ↔ name ∈ theme.screenNames := by
  rw [← not_iff_not, ← Screen.rank?_eq_none_iff, ← Screen.query?_eq_none_iff]
  obtain ⟨query, hquery, rfl⟩ | ⟨hquery, selector, -, rfl⟩ := find_eq_ok_iff.1 h
  · simp [isScreen, hquery]
  · simp [isScreen, hquery]

theorem keys_eq_ok_iff {sassy : Bool} {names keys : List String} :
    Variant.keys theme sassy names = .ok keys ↔
      ∃ found, names.mapM (find theme) = .ok found ∧ found.map (key sassy) = keys := by
  unfold Variant.keys
  rw [Outcome.mapM_eq_map fun _ _ => rfl, Outcome.map_eq_ok_iff]

theorem name_find?_isScreen {names : List String} {found : List Variant}
    (h : names.mapM (find theme) = .ok found) :
    (found.find? isScreen).map Variant.name = names.find? (· ∈ theme.screenNames) := by
  induction names generalizing found with
  | nil =>
    obtain rfl : [] = found := Except.ok.inj h
    rfl
  | cons name rest ih =>
    simp only [List.mapM_cons, Outcome.bind_eq_ok_iff, Outcome.pure_eq_ok_iff] at h
    obtain ⟨first, hfirst, others, hothers, rfl⟩ := h
    have hscreen := isScreen_iff_of_find hfirst
    by_cases hname : name ∈ theme.screenNames
    · simp [hscreen.2 hname, hname, name_of_find hfirst]
    · have hpseudo : first.isScreen = false := by simpa [hname] using hscreen
      simp [hpseudo, hname, ih hothers]

theorem not_isMedia_builtin : ∀ entry ∈ Selector.builtin,
    ¬Screen.IsMedia entry.2 ∧ ¬Screen.IsMedia (Selector.sassy entry.2) := by
  decide

theorem query?_of_isMedia_key {sassy : Bool} (h : find theme name = .ok variant)
    (hm : Screen.IsMedia (variant.key sassy)) :
    Screen.query? theme name = .ok (some (variant.key sassy)) := by
  obtain ⟨query, hquery, rfl⟩ | ⟨-, selector, hselector, rfl⟩ := find_eq_ok_iff.1 h
  · exact hquery
  · obtain ⟨hplain, hsassy⟩ := not_isMedia_builtin _ (Entries.mem_of_get?_eq_some hselector)
    unfold key at hm
    dsimp only at hm
    split at hm
    · exact absurd hm hsassy
    · exact absurd hm hplain

end Variant

namespace Order

theorem rank?_text {theme : Theme} {token : Token} (h : token.Grammatical) :
    rank? theme token.text = token.variants.findSome? theme.rank? := by
  unfold rank?
  rw [Token.pieces_text h, List.dropLast_concat, List.findSome?_map]
  simp only [Function.comp_def, String.ofList_toList]

theorem rank?_of_read {theme : Theme} {raw : String} {token : Token}
    (h : Token.read raw = .ok token) :
    rank? theme raw = token.variants.findSome? theme.rank? := by
  obtain ⟨hg, rfl⟩ := Token.read_eq_ok_iff.1 h
  exact rank?_text hg

/-- The rank of a token is the position of the first of its variants that is the name of a screen,
which is the first that is found as a screen if all are found. What stands behind the variants has
no part in it. -/
theorem rank_eq_first_screen (theme : Theme) {raw : String} {token : Token}
    (h : Token.read raw = .ok token) :
    (∀ rank, rank? theme raw = some rank ↔
      ∃ earlier name later, token.variants = earlier ++ name :: later ∧
        (∀ other ∈ earlier, other ∉ theme.screenNames) ∧
        theme.screenNames.idxOf? name = some rank) ∧
    (rank? theme raw = none ↔ ∀ name ∈ token.variants, name ∉ theme.screenNames) ∧
    (∀ sassy keys, Variant.keys theme sassy token.variants = .ok keys →
      ∃ found, token.variants.mapM (Variant.find theme) = .ok found ∧
        found.map (Variant.key sassy) = keys ∧
        (found.find? Variant.isScreen).map Variant.name =
          token.variants.find? (· ∈ theme.screenNames)) ∧
    ∀ (other : String) (second : Token), Token.read other = .ok second →
      second.variants = token.variants → rank? theme other = rank? theme raw := by
  have hrank : rank? theme raw = token.variants.findSome? theme.rank? := rank?_of_read h
  refine ⟨?_, ?_, ?_, ?_⟩
  · intro rank
    rw [hrank, List.findSome?_eq_some_iff]
    simp only [Screen.rank?_eq_none_iff]
    constructor
    · rintro ⟨earlier, name, later, hvariants, hfound, hnone⟩
      exact ⟨earlier, name, later, hvariants, hnone, hfound⟩
    · rintro ⟨earlier, name, later, hvariants, hnone, hfound⟩
      exact ⟨earlier, name, later, hvariants, hfound, hnone⟩
  · rw [hrank, List.findSome?_eq_none_iff]
    simp only [Screen.rank?_eq_none_iff]
  · intro sassy keys hkeys
    obtain ⟨found, hfound, hmap⟩ := Variant.keys_eq_ok_iff.1 hkeys
    exact ⟨found, hfound, hmap, Variant.name_find?_isScreen hfound⟩
  · intro other second hsecond hsame
    rw [rank?_of_read hsecond, hrank, hsame]

def screenOfClass : Theme :=
  ⟨[("screens", .object [("sm", .string "640px"), ("md", .string "768px"),
    ("flex", .string "1px")])]⟩

theorem rank_eq_first_screen_shadowed :
    Token.read "hover:md:sm:flex" = .ok ⟨["hover", "md", "sm"], false, false, "flex"⟩ ∧
      rank? screenOfClass "hover:md:sm:flex" = some 1 ∧
      ∃ found, ["hover", "md", "sm"].mapM (Variant.find screenOfClass) = .ok found ∧
        (found.find? Variant.isScreen).map Variant.name = some "md" := by
  have hread : Token.read "hover:md:sm:flex" =
      .ok ⟨["hover", "md", "sm"], false, false, "flex"⟩ := by
    decide
  obtain ⟨hrank, -, hfind, -⟩ := rank_eq_first_screen screenOfClass hread
  have hkeys : Variant.keys screenOfClass false ["hover", "md", "sm"] =
      .ok [":hover", "@media (min-width: 768px)", "@media (min-width: 640px)"] := by
    decide
  obtain ⟨found, hfound, -, hscreen⟩ := hfind false _ hkeys
  refine ⟨hread, (hrank 1).2 ⟨["hover"], "md", ["sm"], rfl, by decide, by decide⟩, found, hfound,
    hscreen.trans (by decide)⟩

end Order

end UtilityStyle
