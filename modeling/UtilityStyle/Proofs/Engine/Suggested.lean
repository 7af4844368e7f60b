import UtilityStyle.Proofs.Engine.Failure
import UtilityStyle.Proofs.Suggestion.Candidate

namespace UtilityStyle.Engine

variable {engine : Engine} {raw : String} {token : Token} {row : Row} {name : String}
  {suggestions : Suggestions}

theorem exists_leaf_of_mem_targets {target : String}
    (hroute : Route.find engine.rules token.className = .ofRow row)
    (hcorrection : Suggestion.correction? token.className = none)
    (h : engine.style token = .error (.unresolvable name suggestions))
    (htarget : target ∈ suggestions.targets) :
    ∃ leaf ∈ Suggestion.matching engine.theme
        ⟨row.searched ⟨engine.theme, engine.options, token, row.key⟩, row.key, token.className,
          token.negative⟩,
      Suggestion.targetOf row.key leaf.1 = target := by
  rw [suggestions_eq hroute hcorrection h] at htarget
  split at htarget
  · exact Suggestion.exists_leaf_of_mem_fromTheme htarget
  · cases htarget

theorem exists_resolve_targetOf_iff {key path : String} (hk : key ≠ "") (hgroup : key ≠ "group")
    (hg : (Suggestion.selector key path).Grammatical) :
    (∃ style, engine.resolve (Suggestion.targetOf key path) = .ok style) ↔
      (Route.find engine.rules (Suggestion.selector key path).className).Selects engine
        (Suggestion.selector key path) := by
  have hname : (Suggestion.selector key path).className ≠ "group" :=
    Suggestion.className_selector_ne hk hgroup (by decide)
  have hempty : (Suggestion.selector key path).className ≠ "" :=
    Suggestion.className_selector_ne hk hk (by decide)
  rw [← Suggestion.text_selector, ← exists_style_eq_ok_iff]
  constructor
  · rintro ⟨_, h⟩
    obtain ⟨_, inner, -, hinner, -⟩ := (resolve_text_eq_ok_iff hg hname hempty).1 h
    exact ⟨inner, hinner⟩
  · rintro ⟨inner, hinner⟩
    exact ⟨_, (resolve_text_eq_ok_iff hg hname hempty).2 ⟨[], inner, rfl, hinner, rfl⟩⟩

theorem places_selector {path : String} (hk : row.key ≠ "") :
    row.places engine.theme ((Suggestion.selector row.key path).sign ++
        row.suffix (Suggestion.selector row.key path).className) =
      row.places engine.theme (Suggestion.classPath path) := by
  have hsuffix : row.suffix (Suggestion.selector row.key path).className =
      unsigned (Suggestion.classPath path) := by
    rw [Suggestion.className_selector hk]
    split
    · rename_i h
      rw [row.suffix_key, h]
    · exact row.suffix_append _
  rw [hsuffix, Suggestion.sign_selector_append]

/-- A suggested class is made of the path of a leaf. It resolves if it can be read as a token that
resolves; where it reads as it was made, if its class is selected; and where it goes to the row it
was suggested for, if the row finds a value at that path. -/
theorem suggested_resolves_iff {target : String} (hread : Token.read raw = .ok token)
    (hroute : Route.find engine.rules token.className = .ofRow row)
    (hcorrection : Suggestion.correction? token.className = none)
    (hfails : engine.resolve raw = .error (.unresolvable name suggestions))
    (htarget : target ∈ suggestions.targets) :
    ((∃ style, engine.resolve target = .ok style) ↔ engine.Reaches target) ∧
      ∃ leaf ∈ Suggestion.matching engine.theme
          ⟨row.searched ⟨engine.theme, engine.options, token, row.key⟩, row.key, token.className,
            token.negative⟩,
        target = (Suggestion.selector row.key leaf.1).text ∧
          ((Suggestion.selector row.key leaf.1).Grammatical →
            ((∃ style, engine.resolve target = .ok style) ↔
              (Route.find engine.rules (Suggestion.selector row.key leaf.1).className).Selects
                engine (Suggestion.selector row.key leaf.1)) ∧
            (Route.find engine.rules (Suggestion.selector row.key leaf.1).className = .reading row →
              ((∃ style, engine.resolve target = .ok style) ↔
                (Suggestion.selector row.key leaf.1).className.toList.getLast? ≠ some '-' ∧
                  engine.theme.Answers
                    (row.places engine.theme (Suggestion.classPath leaf.1))))) := by
  refine ⟨exists_resolve_eq_ok_iff, ?_⟩
  obtain ⟨leaf, hleaf, rfl⟩ := exists_leaf_of_mem_targets hroute hcorrection
    (style_of_resolve_eq_unresolvable hread hfails) htarget
  obtain ⟨hk, hgroup, -⟩ := Utility.grammatical_key row (Route.mem_of_find_eq_ofRow hroute)
  refine ⟨leaf, hleaf, (Suggestion.text_selector row.key leaf.1).symm, ?_⟩
  intro hg
  have hselects := @exists_resolve_targetOf_iff engine _ _ hk hgroup hg
  refine ⟨hselects, ?_⟩
  intro hsame
  rw [hselects, hsame, ← places_selector hk]
  rfl

def shallowAndDeep : Engine :=
  ⟨⟨[("padding", .object [("4", .string "1rem"),
    ("a", .object [("b", .object [("c", .string "1px")])])])]⟩, {}, .empty⟩

theorem suggested_resolves_shallow :
    Token.read "p-5" = .ok ⟨[], false, false, "p-5"⟩ ∧
      Route.find .empty "p-5" = .ofRow (Utility.reads "p" ["padding"] "padding") ∧
      Suggestion.correction? "p-5" = none ∧
      shallowAndDeep.resolve "p-5" = .error (.unresolvable "p-5"
        (.ranked [⟨"p-4", "1rem", Binary.zero false⟩, ⟨"p-a-b-c", "1px", Binary.zero false⟩])) ∧
      shallowAndDeep.Reaches "p-4" ∧ ¬shallowAndDeep.Reaches "p-a-b-c" := by
  have hread : Token.read "p-5" = .ok ⟨[], false, false, "p-5"⟩ := by decide
  have hroute : Route.find .empty "p-5" = .ofRow (Utility.reads "p" ["padding"] "padding") := by
    decide
  have hcorrection : Suggestion.correction? "p-5" = none := by decide
  have hfails : shallowAndDeep.resolve "p-5" = .error (.unresolvable "p-5"
      (.ranked [⟨"p-4", "1rem", Binary.zero false⟩, ⟨"p-a-b-c", "1px", Binary.zero false⟩])) := by
    decide
  refine ⟨hread, hroute, hcorrection, hfails, ?_, ?_⟩
  · apply (suggested_resolves_iff hread hroute hcorrection hfails (List.mem_cons_self ..)).1.1
    exact ⟨⟨[("padding", .string "1rem")]⟩, by decide⟩
  · intro h
    obtain ⟨style, hstyle⟩ := (suggested_resolves_iff hread hroute hcorrection hfails
      (List.mem_cons_of_mem _ (List.mem_cons_self ..))).1.2 h
    have hmissing : (shallowAndDeep.resolve "p-a-b-c").toOption = none := by decide
    rw [hstyle] at hmissing
    cases hmissing

theorem not_suggested_resolves :
    ¬∀ (engine : Engine) (raw : String) (token : Token) (row : Row) (name : String)
      (suggestions : Suggestions) (target : String), engine.options.hasSuggestions →
        Token.read raw = .ok token → Route.find engine.rules token.className = .ofRow row →
        Suggestion.correction? token.className = none →
        engine.resolve raw = .error (.unresolvable name suggestions) →
        target ∈ suggestions.targets → ∃ style, engine.resolve target = .ok style := by
  intro h
  let engine : Engine := ⟨⟨[("placeholderColor", .object []),
    ("placeholderOpacity", .object [("50", .string "0.5")])]⟩, {}, .empty⟩
  have hfails : engine.resolve "placeholder-50" =
      .error (.unresolvable "placeholder-50" (.single "placeholder-50")) := by
    decide +kernel
  obtain ⟨style, hstyle⟩ := h engine "placeholder-50" ⟨[], false, false, "placeholder-50"⟩
    ⟨"placeholder", .family .placeholder⟩ "placeholder-50" (.single "placeholder-50")
    "placeholder-50" rfl (by decide) (by decide) (by decide) hfails
    (List.mem_singleton_self _)
  rw [hfails] at hstyle
  cases hstyle

end UtilityStyle.Engine
