import UtilityStyle.Proofs.Engine.Failure
import UtilityStyle.Proofs.Suggestion.Search

namespace UtilityStyle

def Theme.Offers (theme : Theme) (negative : Bool) (source : String) : Prop :=
  ∃ found, theme.section? source = some found ∧
    ∃ leaf ∈ Suggestion.sectionLeaves found, Suggestion.isNegativePath leaf.1 = negative

variable {theme : Theme} {negative : Bool} {source : String} {r : Request}

theorem Theme.Offers.has (h : theme.Offers negative source) : theme.has source = true := by
  obtain ⟨found, hfound, -⟩ := h
  simp [Theme.has, hfound]

theorem Suggestion.matching_eq_nil_iff {query : Suggestion.Query} :
    Suggestion.matching theme query = [] ↔
      ∀ source ∈ query.sections, ¬theme.Offers query.negative source := by
  unfold Suggestion.matching Theme.Offers
  rw [List.filter_eq_nil_iff]
  constructor
  · rintro h source hsource ⟨found, hfound, leaf, hleaf, hsign⟩
    refine h leaf (List.mem_flatMap.2 ⟨source, hsource, ?_⟩) (decide_eq_true hsign)
    simpa [hfound] using hleaf
  · intro h leaf hleaf hsign
    obtain ⟨source, hsource, hleaf⟩ := List.mem_flatMap.1 hleaf
    cases hfound : theme.section? source with
    | none => simp [hfound] at hleaf
    | some found =>
      rw [hfound] at hleaf
      exact h source hsource ⟨found, hfound, leaf, by simpa using hleaf, of_decide_eq_true hsign⟩

namespace Family

def consulted (member : Family) (r : Request) : List String := (member.readings r).map (·.source)

theorem consulted_eq (member : Family) (r : Request) :
    member.consulted r = match member with
      | .container => []
      | .space => ["space"]
      | .divide =>
        if r.key = "divide-x" || r.key = "divide-y" then ["divideWidth"]
        else if r.key = "divide-opacity" then ["divideOpacity", "opacity"]
        else ["divideColor", "borderColor", "colors"]
      | .placeholder =>
        (if (Paint.placeholderOpacityKey? r).isSome then ["placeholderOpacity", "opacity"]
          else []) ++ ["placeholderColor"]
      | .text => ["textColor", "fontSize"]
      | .bg => ["backgroundColor", "backgroundSize", "backgroundPosition"]
      | .border => ["borderWidth", "borderColor"] := by
  cases member with
  | divide =>
    unfold consulted readings
    dsimp only
    split
    · rfl
    · split <;> rfl
  | placeholder =>
    unfold consulted readings Paint.placeholderReadings Paint.placeholderOpacityReadings
    cases Paint.placeholderOpacityKey? r <;> rfl
  | container | space | text | bg | border => rfl

/-- The sections that a family consults but does not search. -/
def overlooked (member : Family) (r : Request) : List String :=
  match member with
  | .divide =>
    if r.key = "divide-x" || r.key = "divide-y" then []
    else if r.key = "divide-opacity" then
      if r.theme.has "divideOpacity" then ["opacity"] else []
    else ["borderColor", "colors"]
  | .placeholder =>
    if (Paint.placeholderOpacityKey? r).isSome && r.theme.has "placeholderOpacity" then ["opacity"]
    else []
  | .container | .space | .text | .bg | .border => []

theorem mem_consulted_of_mem_overlooked {member : Family} (h : source ∈ member.overlooked r) :
    source ∈ member.consulted r := by
  rw [consulted_eq]
  unfold overlooked at h
  cases member with
  | divide =>
    dsimp only at h ⊢
    split at h
    · cases h
    · split at h
      · split at h
        · simp_all
        · cases h
      · simp_all
  | placeholder =>
    dsimp only at h ⊢
    split at h
    · simp_all
    · cases h
  | container | space | text | bg | border => cases h

theorem eq_opacitySection_or {own : String} (hmem : source ∈ [own, "opacity"])
    (hhas : r.theme.has source = true) :
    source = r.opacitySection own ∨ r.theme.has own = true ∧ source = "opacity" := by
  unfold Request.opacitySection
  by_cases hown : r.theme.has own = true
  · simpa [hown] using hmem
  · rcases List.mem_cons.1 hmem with rfl | hmem
    · exact absurd hhas hown
    · exact .inl (by simpa [hown] using hmem)

theorem mem_searched_or_mem_overlooked {member : Family} (hmem : source ∈ member.consulted r)
    (hhas : r.theme.has source = true) :
    source ∈ member.searched r ∨ source ∈ member.overlooked r := by
  rw [consulted_eq] at hmem
  unfold searched overlooked
  cases member with
  | divide =>
    dsimp only at hmem ⊢
    split
    · rename_i hwidth
      rw [if_pos hwidth] at hmem
      exact .inl hmem
    · rename_i hwidth
      rw [if_neg hwidth] at hmem
      split
      · rename_i hopacity
        rw [if_pos hopacity] at hmem
        obtain rfl | ⟨hown, rfl⟩ := eq_opacitySection_or hmem hhas
        · exact .inl (List.mem_singleton_self _)
        · exact .inr (by simp [hown])
      -- the colors of borders are looked up after the own ones, but never offered
      · rename_i hcolor
        rw [if_neg hcolor] at hmem
        exact (List.mem_cons.1 hmem).imp_left List.mem_singleton.2
  | placeholder =>
    dsimp only at hmem ⊢
    rcases List.mem_append.1 hmem with hmem | hmem
    · split at hmem
      · rename_i hkey
        obtain rfl | ⟨hown, rfl⟩ := eq_opacitySection_or hmem hhas
        · exact .inl (by simp)
        · exact .inr (by simp [hkey, hown])
      · cases hmem
    · exact .inl (List.mem_cons.2 (.inl (List.mem_singleton.1 hmem)))
  | border => simpa [or_comm] using hmem
  | container | space | text | bg => exact .inl hmem

end Family

namespace Row

def consulted (row : Row) (r : Request) : List String := (row.tries r).map (·.source)

theorem consulted_of_descriptors {row : Row} {list : List Descriptor}
    (h : row.handler = .descriptors list) (r : Request) :
    row.consulted r = list.map (·.sourceIn r.theme) := by
  unfold consulted tries readings descriptors
  rw [h]
  simp

theorem consulted_of_family {row : Row} {member : Family} (h : row.handler = .family member)
    (r : Request) : row.consulted r = member.consulted r := by
  unfold consulted tries
  rw [h]
  rfl

def overlooked (row : Row) (r : Request) : List String :=
  match row.handler with
  | .descriptors list => (list.filter fun d => !r.theme.has d.source).filterMap (·.fallback)
  | .family member => member.overlooked r

theorem mem_consulted_of_mem_overlooked {row : Row} (h : source ∈ row.overlooked r) :
    source ∈ row.consulted r := by
  unfold overlooked at h
  cases hm : row.handler with
  | family member =>
    rw [hm] at h
    rw [consulted_of_family hm]
    exact Family.mem_consulted_of_mem_overlooked h
  | descriptors list =>
    rw [hm] at h
    rw [consulted_of_descriptors hm]
    obtain ⟨d, hd, hfallback⟩ := List.mem_filterMap.1 h
    obtain ⟨hd, hmissing⟩ := List.mem_filter.1 hd
    refine List.mem_map.2 ⟨d, hd, ?_⟩
    simp_all [Descriptor.sourceIn]

theorem mem_searched_or_mem_overlooked {row : Row} (hmem : source ∈ row.consulted r)
    (hhas : r.theme.has source = true) : source ∈ row.searched r ∨ source ∈ row.overlooked r := by
  unfold searched overlooked sources descriptors
  cases hm : row.handler with
  | family member =>
    rw [consulted_of_family hm] at hmem
    exact Family.mem_searched_or_mem_overlooked hmem hhas
  | descriptors list =>
    rw [consulted_of_descriptors hm] at hmem
    obtain ⟨d, hd, rfl⟩ := List.mem_map.1 hmem
    unfold Descriptor.sourceIn at hhas ⊢
    by_cases hown : r.theme.has d.source = true
    · rw [if_pos hown]
      exact .inl (List.mem_map_of_mem hd)
    · rw [if_neg hown] at hhas ⊢
      cases hf : d.fallback with
      | none =>
        rw [hf] at hhas
        exact absurd hhas hown
      | some fallback =>
        refine .inr (List.mem_filterMap.2 ⟨d, List.mem_filter.2 ⟨hd, ?_⟩, hf⟩)
        simpa using hown

end Row

namespace Engine

variable {engine : Engine} {raw name : String} {token : Token} {row : Row}
  {suggestions : Suggestions}

/-- A failed class has no suggestion just where no section that is searched has a token of its sign.
A section that was consulted and has one leads to a suggestion unless it is overlooked, and no other
section makes up for it. -/
theorem suggestions_cover_iff (hwanted : engine.options.hasSuggestions = true)
    (hread : Token.read raw = .ok token)
    (hroute : Route.find engine.rules token.className = .ofRow row)
    (hcorrection : Suggestion.correction? token.className = none)
    (hfails : engine.resolve raw = .error (.unresolvable name suggestions)) :
    let r : Request := ⟨engine.theme, engine.options, token, row.key⟩
    (suggestions.isEmpty = true ↔
        ∀ source ∈ row.searched r, ¬engine.theme.Offers token.negative source) ∧
      (((∃ source ∈ row.consulted r, engine.theme.Offers token.negative source) →
          suggestions.isEmpty = false) ↔
        ((∃ source ∈ row.overlooked r, engine.theme.Offers token.negative source) →
          ∃ source ∈ row.searched r, engine.theme.Offers token.negative source)) := by
  intro r
  have hsuggestions := suggestions_eq hroute hcorrection
    (style_of_resolve_eq_unresolvable hread hfails)
  rw [if_pos hwanted] at hsuggestions
  have hempty : suggestions.isEmpty = true ↔
      ∀ source ∈ row.searched r, ¬engine.theme.Offers token.negative source := by
    rw [hsuggestions, Suggestion.isEmpty_fromTheme_iff, Suggestion.matching_eq_nil_iff]
  have hfull : suggestions.isEmpty = false ↔
      ∃ source ∈ row.searched r, engine.theme.Offers token.negative source := by
    rw [← Bool.not_eq_true, hempty]
    simp
  refine ⟨hempty, ?_⟩
  rw [hfull]
  constructor
  · rintro h ⟨source, hmem, hoffers⟩
    exact h ⟨source, Row.mem_consulted_of_mem_overlooked hmem, hoffers⟩
  · rintro h ⟨source, hmem, hoffers⟩
    rcases Row.mem_searched_or_mem_overlooked hmem hoffers.has with hsearched | hoverlooked
    · exact ⟨source, hsearched, hoffers⟩
    · exact h ⟨source, hoverlooked, hoffers⟩

def borderColors : Engine :=
  ⟨⟨[("borderColor", .object [("red", .string "#f00")])]⟩, {}, .empty⟩

theorem borderColors_offers : borderColors.theme.Offers false "borderColor" :=
  ⟨.object [("red", .string "#f00")], rfl, ("red", "#f00"), by decide, by decide⟩

theorem suggestions_cover_divide :
    (∃ style, borderColors.resolve "divide-red" = .ok style) ∧
      borderColors.resolve "divide-q" = .error (.unresolvable "divide-q" .nothing) ∧
      (∃ source ∈ Family.divide.overlooked
          ⟨borderColors.theme, {}, ⟨[], false, false, "divide-q"⟩, "divide"⟩,
        borderColors.theme.Offers false source) ∧
      ∀ source ∈ Family.divide.searched
          ⟨borderColors.theme, {}, ⟨[], false, false, "divide-q"⟩, "divide"⟩,
        ¬borderColors.theme.Offers false source := by
  have hfails : borderColors.resolve "divide-q" = .error (.unresolvable "divide-q" .nothing) := by
    decide
  have hresolves : (borderColors.resolve "divide-red").toOption.isSome = true := by decide
  obtain ⟨hnone, hcover⟩ := suggestions_cover_iff rfl
    (show Token.read "divide-q" = .ok ⟨[], false, false, "divide-q"⟩ by decide)
    (show Route.find .empty "divide-q" = .ofRow ⟨"divide", .family .divide⟩ by decide)
    (by decide) hfails
  refine ⟨?_, hfails, ?_, hnone.1 rfl⟩
  · cases h : borderColors.resolve "divide-red" with
    | ok style => exact ⟨style, rfl⟩
    | error cause =>
      rw [h] at hresolves
      cases hresolves
  · have hlost : ¬((∃ source ∈ Family.divide.consulted
          ⟨borderColors.theme, {}, ⟨[], false, false, "divide-q"⟩, "divide"⟩,
        borderColors.theme.Offers false source) → Suggestions.nothing.isEmpty = false) := by
      intro h
      exact absurd (h ⟨"borderColor", by decide, borderColors_offers⟩) (by decide)
    exact (Classical.not_imp.1 (mt hcover.2 hlost)).1

theorem not_suggestions_cover :
    ¬∀ (engine : Engine) (raw : String) (token : Token) (row : Row) (name : String)
      (suggestions : Suggestions), engine.options.hasSuggestions = true →
        Token.read raw = .ok token → Route.find engine.rules token.className = .ofRow row →
        Suggestion.correction? token.className = none →
        engine.resolve raw = .error (.unresolvable name suggestions) →
        (∃ source ∈ row.consulted ⟨engine.theme, engine.options, token, row.key⟩,
          engine.theme.Offers token.negative source) →
        suggestions.isEmpty = false := by
  intro h
  have hfull := h borderColors "divide-q" ⟨[], false, false, "divide-q"⟩
    ⟨"divide", .family .divide⟩ "divide-q" .nothing rfl (by decide) (by decide)
    (by decide) (by decide) ⟨"borderColor", by decide, borderColors_offers⟩
  exact absurd hfull (by decide)

end Engine

end UtilityStyle
