import UtilityStyle.Proofs.Suggestion.Inner
import UtilityStyle.Proofs.Suggestion.Sign

namespace UtilityStyle.Suggestion

inductive Kept : String → String → Prop
  | default : Kept "default" ""
  | before (rest : String) : Kept (rest ++ "-default") rest
  | whole {path : String} : path ≠ "default" → (∀ rest, path ≠ rest ++ "-default") → Kept path path

/-- The class with a key and what is kept of a path. A sign with something behind it comes first. -/
inductive Selects (key : String) : String → String → Prop
  | plain {kept : String} : (∀ rest, rest ≠ "" → kept ≠ "-" ++ rest) →
      Selects key kept ("-".intercalate ([key, kept].filter (!·.isEmpty)))
  | signed {rest : String} : rest ≠ "" →
      Selects key ("-" ++ rest) ("-" ++ "-".intercalate ([key, rest].filter (!·.isEmpty)))

/-- What is behind the key in a class name, or all of it if it starts in another way. -/
inductive Behind (key : String) : String → String → Prop
  | dash (rest : String) : Behind key (key ++ "-" ++ rest) rest
  | noDash {rest : String} : (∀ more, rest ≠ "-" ++ more) → Behind key (key ++ rest) rest
  | other {className : String} : (∀ rest, className ≠ key ++ rest) → Behind key className className

structure Offer (query : Query) (inner : Inner) (s : Suggestion) : Prop where
  target : ∃ kept, Kept inner.path kept ∧ Selects query.key kept s.target
  value : inner.value.Written s.value
  rating : ∃ rest, Behind query.key query.className rest ∧ s.rating =
    Text.similarity ("-" ++ inner.path) ("-" ++ (if query.negative then "-" else "") ++ rest)

/-- One offer for each token of the sections that has the sign of the query, in their order. -/
def Offered (theme : Theme) (query : Query) (offers : List Suggestion) : Prop :=
  ∃ tokens : String → List Inner,
    (∀ name ∈ query.sections, Inner.InOrder (theme.HasToken name) (tokens name)) ∧
      List.Forall₂ (Offer query)
        ((query.sections.flatMap tokens).filter fun inner =>
          inner.path.toList.head? = some '-' ↔ query.negative = true)
        offers

variable {theme : Theme} {query : Query} {inner : Inner} {s : Suggestion}
  {key path kept target className rest : String} {offers : List Suggestion}

theorem kept_iff : Kept path kept ↔ kept = classPath path := by
  unfold classPath
  constructor
  · rintro (_ | _ | ⟨hne, hnone⟩)
    · rfl
    · have hne : kept ++ "-default" ≠ "default" := Text.append_ne_of_length_lt (by decide) kept
      rw [if_neg hne, Text.beforeEnd_eq_some_iff.2 rfl]
      rfl
    · have hbefore : Text.beforeEnd "-default" path = none := by
        rw [Option.eq_none_iff_forall_ne_some]
        exact fun rest he => hnone rest (Text.beforeEnd_eq_some_iff.1 he)
      rw [if_neg hne, hbefore]
      rfl
  · rintro rfl
    split
    · rename_i hdefault
      exact hdefault ▸ .default
    · rename_i hne
      cases hbefore : Text.beforeEnd "-default" path with
      | some rest =>
        rw [Text.beforeEnd_eq_some_iff.1 hbefore]
        exact .before rest
      | none =>
        refine .whole hne fun rest he => ?_
        rw [Text.beforeEnd_eq_some_iff.2 he] at hbefore
        cases hbefore

theorem selects_iff : Selects key (classPath path) target ↔ target = targetOf key path := by
  unfold targetOf
  generalize classPath path = kept
  dsimp only
  -- a dash with nothing behind it is no sign
  by_cases hsigned : ∃ rest, rest ≠ "" ∧ kept = "-" ++ rest
  · have hdash := Scale.eq_dash_append_unsigned_iff.2 hsigned
    obtain ⟨rest, hrest, hkept⟩ := hsigned
    have hbare : unsigned kept = rest := (String.append_right_inj "-").1 (hdash.symm.trans hkept)
    have hne : rest ≠ kept := hkept ▸ Scale.ne_dash_append rest
    rw [hbare, if_neg hne]
    constructor
    · rintro (hunsigned | hother)
      · exact absurd hkept (hunsigned rest hrest)
      · rw [(String.append_right_inj "-").1 hkept]
    · rintro rfl
      exact hkept ▸ .signed hrest
  · have hunsigned : ∀ rest, rest ≠ "" → kept ≠ "-" ++ rest := fun rest hrest he =>
      hsigned ⟨rest, hrest, he⟩
    have hbare := (eq_unsigned_or kept).resolve_right
      (mt Scale.eq_dash_append_unsigned_iff.1 hsigned)
    rw [← hbare, if_pos rfl, String.empty_append]
    constructor
    · intro h
      cases h with
      | plain => rfl
      | signed hrest => exact absurd rfl (hunsigned _ hrest)
    · rintro rfl
      exact .plain hunsigned

theorem behind_iff : Behind query.key query.className rest ↔ rest = query.suffix := by
  unfold Query.suffix
  generalize query.key = key, query.className = className
  constructor
  · intro h
    cases h with
    | dash =>
      rw [String.append_assoc, Text.afterStart_eq_some_iff.2 rfl]
      dsimp only
      rw [Text.afterStart_eq_some_iff.2 rfl]
      rfl
    | noDash hnone =>
      rw [Text.afterStart_eq_some_iff.2 rfl]
      dsimp only
      rw [Text.afterStart_eq_none_iff.2 hnone]
      rfl
    | other hnone => rw [Text.afterStart_eq_none_iff.2 hnone]
  · rintro rfl
    cases hafter : Text.afterStart key className with
    | none => exact .other (Text.afterStart_eq_none_iff.1 hafter)
    | some rest =>
      rw [Text.afterStart_eq_some_iff.1 hafter]
      dsimp only
      cases hdash : Text.afterStart "-" rest with
      | none => exact .noDash (Text.afterStart_eq_none_iff.1 hdash)
      | some more =>
        rw [Text.afterStart_eq_some_iff.1 hdash, ← String.append_assoc]
        exact .dash more

theorem offer_iff (hleaf : Lookup.isLeaf inner.value) :
    Offer query inner s ↔ s = candidate query (inner.path, shown inner.value) := by
  constructor
  · rintro ⟨⟨kept, hkept, htarget⟩, hvalue, rest, hrest, hrating⟩
    obtain rfl := kept_iff.1 hkept
    obtain rfl := behind_iff.1 hrest
    obtain ⟨target, value, rating⟩ := s
    rw [candidate, Suggestion.mk.injEq]
    exact ⟨selects_iff.1 htarget, (Json.written_iff.1 hvalue).2, hrating⟩
  · rintro rfl
    exact ⟨⟨_, kept_iff.2 rfl, selects_iff.2 rfl⟩, Json.written_iff.2 ⟨hleaf, rfl⟩, _,
      behind_iff.2 rfl, rfl⟩

theorem matching_eq (theme : Theme) (query : Query) :
    matching theme query =
      ((query.sections.flatMap theme.tokens).filter fun inner =>
        inner.path.toList.head? = some '-' ↔ query.negative = true).map
          fun inner => (inner.path, shown inner.value) := by
  unfold matching
  simp only [Theme.sectionLeaves_eq]
  rw [← List.map_flatMap, List.filter_map]
  congr 1
  apply List.filter_congr
  intro inner _
  cases query.negative <;> simp [isNegativePath]

theorem isLeaf_of_mem_tokens {name : String} (h : inner ∈ theme.tokens name) :
    Lookup.isLeaf inner.value := by
  obtain ⟨-, -, -, hleaf⟩ := Theme.hasToken_iff.1 (((theme.inOrder_tokens name).mem_iff inner).1 h)
  exact hleaf

theorem offered_iff :
    Offered theme query offers ↔ offers = (matching theme query).map (candidate query) := by
  have hoffers : List.Forall₂ (Offer query)
      ((query.sections.flatMap theme.tokens).filter fun inner =>
        inner.path.toList.head? = some '-' ↔ query.negative = true) offers ↔
      offers = (matching theme query).map (candidate query) := by
    rw [matching_eq, List.map_map]
    apply forall₂_iff_eq_map
    intro inner hinner s
    obtain ⟨name, -, htoken⟩ := List.mem_flatMap.1 (List.mem_filter.1 hinner).1
    exact offer_iff (isLeaf_of_mem_tokens htoken)
  rw [← hoffers]
  constructor
  · rintro ⟨tokens, htokens, h⟩
    have hsame : query.sections.flatMap tokens = query.sections.flatMap theme.tokens :=
      List.flatMap_congr fun name hname => (htokens name hname).unique (theme.inOrder_tokens name)
    rwa [← hsame]
  · exact fun h => ⟨theme.tokens, fun name _ => theme.inOrder_tokens name, h⟩

/-- Both searches follow one law. A search of the theme ranks one offer for each class, the first of
the best, and comes to nothing only where there is none. A search of the tables ranks their names,
and comes to nothing where none is alike enough. -/
theorem searches_settled (theme : Theme) (query : Query) (className : String) :
    (∃ offers all,
      Offered theme query offers ∧ (∀ other, Offered theme query other → other = offers) ∧
      Chosen offers all ∧ (∀ other, Chosen offers other → other = all) ∧
      (fromTheme theme query = .nothing ↔ all = []) ∧
      Settled 20 (Binary.ofRatio 3 5) (Binary.ofRatio 3 20 ≤ ·) all
        ((all.take 20).map fun s => { s with rating := Binary.zero false })
        (fromTheme theme query)) ∧
      (fromVocabulary className = .nothing ↔
        ∀ s ∈ named className, ¬Binary.ofRatio 1 4 < s.rating) ∧
      Settled 6 (Binary.ofRatio 3 5) (Binary.ofRatio 1 4 < ·) (named className) []
        (fromVocabulary className) := by
  refine ⟨⟨_, candidates theme query, offered_iff.2 rfl, fun other h => offered_iff.1 h,
    chosen_candidates theme query, fun other h => h.unique (rated_map_candidate query _)
      (chosen_candidates theme query), fromTheme_eq_nothing_iff, settled_fromTheme theme query⟩,
    fromVocabulary_eq_nothing_iff, settled_fromVocabulary className⟩

def namedTwice : Theme := ⟨[
  ("borderColor", .object [
    ("x", .object [("default", .string "red"), ("on", .bool true)]),
    ("-y", .string "blue"),
    ("deep", .object [("a", .object [("b", .array [.string "c", .number (.whole 1)])])])]),
  ("borderWidth", .object [("x", .string "2px"), ("xy", .string "4px")])]⟩

def borderQuery : Query := ⟨["borderColor", "borderWidth"], "border", "border-xyyyyy", false⟩

def alikeOffers : List Suggestion :=
  [⟨"border-x", "2px", Binary.ofRatio 2 7⟩, ⟨"border-xy", "4px", Binary.ofRatio 4 8⟩]

theorem fromTheme_namedTwice :
    fromTheme namedTwice borderQuery = .ranked alikeOffers.reverse := by
  have halike : (candidates namedTwice borderQuery).filter (fun s => leastRating ≤ s.rating) =
      alikeOffers := by
    decide
  have hshort : fromTheme namedTwice borderQuery = shortlist sectionLimit alikeOffers := by
    unfold fromTheme
    dsimp only
    rw [halike]
    rfl
  have hbetter : (Binary.ofRatio 2 7 : Double).totalKey <
      (Binary.ofRatio 4 8 : Double).totalKey := by
    decide
  have hsorted : sorted alikeOffers = alikeOffers.reverse := by
    simpa [sorted, alikeOffers, List.mergeSort, List.merge] using hbetter
  rw [hshort, shortlist, hsorted]
  decide

theorem searches_settled_namedTwice :
    ∃ offers all list, Offered namedTwice borderQuery offers ∧ Chosen offers all ∧
      offers.map (fun s => (s.target, s.value)) =
        [("border-x", "red"), ("border-deep-a-b", "c, 1"), ("border-x", "2px"),
          ("border-xy", "4px")] ∧
      all.map (fun s => (s.target, s.value)) =
        [("border-x", "2px"), ("border-deep-a-b", "c, 1"), ("border-xy", "4px")] ∧
      list.map (fun s => (s.target, s.value)) = [("border-xy", "4px"), ("border-x", "2px")] ∧
      fromTheme namedTwice borderQuery = .ranked list ∧ Listed 20 list ∧
      Ranks 20 (Binary.ofRatio 3 20 ≤ ·) all list := by
  obtain ⟨⟨offers, all, hoffers, -, hchosen, hunique, -, hsettled⟩, -⟩ :=
    searches_settled namedTwice borderQuery "border-xyyyyy"
  obtain rfl := offered_iff.1 hoffers
  obtain rfl := hunique _ (chosen_candidates namedTwice borderQuery)
  have hlist := fromTheme_namedTwice
  have halike : ∃ s ∈ candidates namedTwice borderQuery, Binary.ofRatio 3 20 ≤ s.rating := by
    decide
  -- the second border-x is more alike than the default of the first, so it takes its place
  refine ⟨_, _, _, hoffers, hchosen, by decide, by decide, rfl, hlist,
    hsettled.listed _ hlist, (hsettled.ranks _ hlist).resolve_right ?_⟩
  rintro ⟨hnone, -⟩
  obtain ⟨s, hs, hr⟩ := halike
  exact hnone s hs (decide_eq_true hr)

end UtilityStyle.Suggestion
