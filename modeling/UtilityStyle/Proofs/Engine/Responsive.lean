import UtilityStyle.Proofs.Engine.Cascade
import UtilityStyle.Proofs.Engine.Invariant
import UtilityStyle.Proofs.Engine.Order
import UtilityStyle.Proofs.Utility.Unscreened

namespace UtilityStyle

namespace Engine

variable {engine : Engine} {raw key : String} {token : Token} {style fragment : Style}

theorem unscreened_style (hrules : engine.rules.Holds Style.Unscreened)
    (hroute : ∀ row, Route.find engine.rules token.className ≠ .family row .container)
    (h : engine.style token = .ok style) : style.Unscreened :=
  invariant_style Utility.unscreened_invariant
    (fun _ => Rulebook.invariant_resolve Rule.unscreened_invariant hrules) hroute h

/-- A media query in the style of a token is that of its first variant. -/
theorem query?_of_mem_keys (hrules : engine.rules.Holds Style.Unscreened)
    (hroute : ∀ row, Route.find engine.rules token.className ≠ .family row .container)
    (hread : Token.read raw = .ok token) (h : engine.resolve raw = .ok fragment)
    (hk : key ∈ fragment.keys) (hm : Screen.IsMedia key) :
    ∃ name rest, token.variants = name :: rest ∧
      Screen.query? engine.theme name = .ok (some key) := by
  obtain ⟨-, found, keys, inner, hfound, hkeys, -, hinner, rfl⟩ := resolve_eq_ok_iff.1 h
  obtain rfl := Except.ok.inj (hread.symm.trans hfound)
  cases hv : token.variants with
  | nil =>
    rw [hv] at hkeys
    obtain rfl : [] = keys := Except.ok.inj hkeys
    exact absurd hm (unscreened_style hrules hroute hinner key hk)
  | cons name rest =>
    rw [hv] at hkeys
    simp only [Variant.keys, List.mapM_cons, Outcome.bind_eq_ok_iff, Outcome.map_eq_ok_iff,
      Outcome.pure_eq_ok_iff] at hkeys
    obtain ⟨_, ⟨variant, hvariant, rfl⟩, others, -, rfl⟩ := hkeys
    obtain rfl := List.mem_singleton.1 hk
    exact ⟨name, rest, rfl, Variant.query?_of_isMedia_key hvariant hm⟩

theorem keys_eq_of_screen {name : String} {rest : List String} {rank : Nat}
    (hread : Token.read raw = .ok token) (h : engine.resolve raw = .ok fragment)
    (hv : token.variants = name :: rest) (hrank : engine.theme.rank? name = some rank) :
    ∃ query, Screen.query? engine.theme name = .ok (some query) ∧ fragment.keys = [query] := by
  obtain ⟨-, found, keys, inner, hfound, hkeys, -, hinner, rfl⟩ := resolve_eq_ok_iff.1 h
  obtain rfl := Except.ok.inj (hread.symm.trans hfound)
  rw [hv] at hkeys
  simp only [Variant.keys, List.mapM_cons, Outcome.bind_eq_ok_iff, Outcome.map_eq_ok_iff,
    Outcome.pure_eq_ok_iff] at hkeys
  obtain ⟨_, ⟨variant, hvariant, rfl⟩, others, -, rfl⟩ := hkeys
  obtain ⟨query, hquery, rfl⟩ | ⟨hnone, -⟩ := Variant.find_eq_ok_iff.1 hvariant
  · exact ⟨query, hquery, rfl⟩
  · rw [Screen.query?_eq_none_iff, hrank] at hnone
    cases hnone

theorem precedes_of_resolveAll {earlier later : List String} {first second : String}
    (h : engine.resolveAll (earlier ++ later) = .ok style)
    (hfirst : ∃ raw ∈ earlier, ∃ fragment, engine.resolve raw = .ok fragment ∧
      first ∈ fragment.keys)
    (hsecond : ∀ raw ∈ earlier, ∀ fragment, engine.resolve raw = .ok fragment →
      second ∉ fragment.keys)
    (hmem : second ∈ style.keys) : style.Precedes first second := by
  obtain ⟨fragments, hfragments, rfl⟩ := Outcome.map_eq_ok_iff.1 h
  simp only [List.mapM_append, Outcome.bind_eq_ok_iff, Outcome.pure_eq_ok_iff] at hfragments
  obtain ⟨before, hbefore, after, -, rfl⟩ := hfragments
  apply Style.precedes_mergeAll _ _ hmem
  · obtain ⟨raw, hraw, fragment, hresolve, hk⟩ := hfirst
    exact ⟨fragment, (mem_of_mapM_resolve hbefore).2 ⟨raw, hraw, hresolve⟩, hk⟩
  · intro fragment hf
    obtain ⟨raw, hraw, hresolve⟩ := (mem_of_mapM_resolve hbefore).1 hf
    exact hsecond raw hraw fragment hresolve

theorem exists_ordered_eq_append {classes : String} (h : raw ∈ tokens classes) :
    ∃ earlier later, engine.ordered classes = earlier ++ later ∧ raw ∈ earlier ∧
      ∀ other ∈ earlier, Order.before engine.theme other raw := by
  have hmem : raw ∈ engine.ordered classes := mem_ordered.2 h
  have hsorted := Order.byScreen_pairwise engine.theme (tokens classes)
  obtain ⟨earlier, later, hsplit⟩ := List.append_of_mem hmem
  rw [ordered] at hsplit
  rw [hsplit, List.pairwise_append] at hsorted
  refine ⟨earlier ++ [raw], later, by simp [ordered, hsplit], by simp, ?_⟩
  intro other ho
  rcases List.mem_append.1 ho with ho | ho
  · exact hsorted.2.2 other ho raw List.mem_cons_self
  · obtain rfl := List.mem_singleton.1 ho
    exact Order.before_of_rank?_eq rfl

theorem exists_resolve_of_mem {classes : String} (h : engine.resolveList classes = .ok style)
    (hraw : raw ∈ tokens classes) :
    ∃ fragment, engine.resolve raw = .ok fragment ∧ ∀ key ∈ fragment.keys, key ∈ style.keys := by
  obtain ⟨fragments, hfragments, rfl⟩ := Outcome.map_eq_ok_iff.1 h
  have hmem : raw ∈ engine.ordered classes := mem_ordered.2 hraw
  obtain ⟨fragment, hresolve⟩ :=
    exists_resolved_iff.1 ⟨fragments, mapM_resolve_eq_ok_iff.1 hfragments⟩ raw hmem
  refine ⟨fragment, hresolve, fun key hk => Style.mem_keys_mergeAll.2 ⟨fragment, ?_, hk⟩⟩
  exact (mem_of_mapM_resolve hfragments).2 ⟨raw, hmem, hresolve⟩

theorem rank_le_of_before {other : String} (hrules : engine.rules.Holds Style.Unscreened)
    (hroute : ∀ u, Token.read other = .ok u →
      ∀ row, Route.find engine.rules u.className ≠ .family row .container)
    (hread : Token.read raw = .ok token) (hbefore : Order.before engine.theme other raw)
    (hresolve : engine.resolve other = .ok fragment) (hk : key ∈ fragment.keys)
    (hm : Screen.IsMedia key) :
    ∃ name rank limit, Screen.query? engine.theme name = .ok (some key) ∧
      engine.theme.rank? name = some rank ∧
      token.variants.findSome? engine.theme.rank? = some limit ∧ rank ≤ limit := by
  obtain ⟨-, u, -, -, hu, -⟩ := resolve_eq_ok_iff.1 hresolve
  obtain ⟨name, rest, hv, hquery⟩ := query?_of_mem_keys hrules (hroute u hu) hu hresolve hk hm
  have hscreen : engine.theme.rank? name ≠ none := by
    intro hnone
    rw [← Screen.query?_eq_none_iff, hquery] at hnone
    cases hnone
  obtain ⟨rank, hrank⟩ := Option.ne_none_iff_exists'.1 hscreen
  have hother : Order.rank? engine.theme other = some rank := by
    rw [Order.rank?_of_read hu, hv, List.findSome?_cons, hrank]
  obtain ⟨limit, hlimit, hle⟩ := Order.before_iff.1 hbefore rank hother
  rw [Order.rank?_of_read hread] at hlimit
  exact ⟨name, rank, limit, hquery, hrank, hlimit, hle⟩

/-- However a class list is written, what is for all screens comes before every media query in its
style, and the media queries of first variants come in the order of their screens. -/
theorem responsive_order {engine : Engine} {components utilities : List Rule} {classes : String}
    {style : Style} (hrules : Rulebook.ofRules components utilities = .ok engine.rules)
    (hscreens : ∀ a b query, Screen.query? engine.theme a = .ok (some query) →
      Screen.query? engine.theme b = .ok (some query) → a = b)
    (hroute : ∀ raw ∈ tokens classes, ∀ token, Token.read raw = .ok token →
      ∀ row, Route.find engine.rules token.className ≠ .family row .container)
    (h : engine.resolveList classes = .ok style) :
    (∀ raw ∈ tokens classes, ∀ token fragment, Token.read raw = .ok token →
      engine.resolve raw = .ok fragment →
      (∀ name ∈ token.variants, engine.theme.rank? name = none) →
      ∀ key ∈ fragment.keys, ∀ media ∈ style.keys, Screen.IsMedia media →
        style.Precedes key media) ∧
    ∀ raw ∈ tokens classes, ∀ other ∈ tokens classes, ∀ (t u : Token) (a b : String) (i j : Nat),
      Token.read raw = .ok t → Token.read other = .ok u →
      t.variants.head? = some a → u.variants.head? = some b →
      engine.theme.rank? a = some i → engine.theme.rank? b = some j → i < j →
      ∃ first second, Screen.query? engine.theme a = .ok (some first) ∧
        Screen.query? engine.theme b = .ok (some second) ∧ style.Precedes first second := by
  have hbook := Rulebook.invariant_ofRules Rule.unscreened_invariant hrules
  constructor
  · intro raw hraw token fragment hread hresolve hunscoped key hk media hmedia hm
    obtain ⟨earlier, later, hordered, hmem, hbefore⟩ := @exists_ordered_eq_append engine _ _ hraw
    rw [resolveList, hordered] at h
    apply precedes_of_resolveAll h ⟨raw, hmem, fragment, hresolve, hk⟩ _ hmedia
    intro other ho found hfound hkey
    have htoken : other ∈ tokens classes := mem_ordered.1 (hordered ▸ List.mem_append_left later ho)
    obtain ⟨_, _, limit, -, -, hlimit, -⟩ :=
      rank_le_of_before hbook (hroute other htoken) hread (hbefore other ho) hfound hkey hm
    rw [List.findSome?_eq_none_iff.2 hunscoped] at hlimit
    cases hlimit
  · intro raw hraw other hother t u a b i j ht hu ha hb hi hj hij
    obtain ⟨rest, hv⟩ := List.head?_eq_some_iff.1 ha
    obtain ⟨others, hw⟩ := List.head?_eq_some_iff.1 hb
    obtain ⟨fragment, hresolve, -⟩ := exists_resolve_of_mem h hraw
    obtain ⟨after, hlast, hkeys⟩ := exists_resolve_of_mem h hother
    obtain ⟨first, hfirst, hone⟩ := keys_eq_of_screen ht hresolve hv hi
    obtain ⟨second, hsecond, htwo⟩ := keys_eq_of_screen hu hlast hw hj
    refine ⟨first, second, hfirst, hsecond, ?_⟩
    obtain ⟨earlier, later, hordered, hmem, hbefore⟩ := @exists_ordered_eq_append engine _ _ hraw
    have hmedia : second ∈ style.keys := hkeys second (by simp [htwo])
    rw [resolveList, hordered] at h
    apply precedes_of_resolveAll h ⟨raw, hmem, fragment, hresolve, by simp [hone]⟩ _ hmedia
    intro before ho found hfound hkey
    have htoken : before ∈ tokens classes :=
      mem_ordered.1 (hordered ▸ List.mem_append_left later ho)
    obtain ⟨name, rank, limit, hquery, hrank, hlimit, hle⟩ :=
      rank_le_of_before hbook (hroute before htoken) ht (hbefore before ho) hfound hkey
        (Screen.isMedia_of_query? hsecond)
    -- the query is that of the later screen, whose rank is beyond the limit
    obtain rfl := hscreens name b second hquery hsecond
    rw [hv, List.findSome?_cons, hi] at hlimit
    rw [hj] at hrank
    cases hrank
    cases hlimit
    omega

theorem query?_twoScreens {name query : String}
    (h : Screen.query? twoScreens.theme name = .ok (some query)) :
    name = "sm" ∧ query = "@media (min-width: 640px)" ∨
      name = "md" ∧ query = "@media (min-width: 768px)" := by
  have hscreens : twoScreens.theme.screens =
      [("sm", .string "640px"), ("md", .string "768px")] := by
    decide
  unfold Screen.query? at h
  rw [hscreens] at h
  by_cases hsm : "sm" = name
  · subst hsm
    exact .inl ⟨rfl, (Option.some.inj (Except.ok.inj h)).symm⟩
  · by_cases hmd : "md" = name
    · subst hmd
      exact .inr ⟨rfl, (Option.some.inj (Except.ok.inj h)).symm⟩
    · simp [Entries.get?, hsm, hmd] at h

theorem query?_twoScreens_inj (a b query : String)
    (ha : Screen.query? twoScreens.theme a = .ok (some query))
    (hb : Screen.query? twoScreens.theme b = .ok (some query)) : a = b := by
  rcases query?_twoScreens ha with ⟨rfl, hqa⟩ | ⟨rfl, hqa⟩ <;>
    rcases query?_twoScreens hb with ⟨rfl, hqb⟩ | ⟨rfl, hqb⟩
  · rfl
  · exact absurd (hqa.symm.trans hqb) (by decide)
  · exact absurd (hqa.symm.trans hqb) (by decide)
  · rfl

theorem responsive_order_reversed :
    ∃ style, twoScreens.resolveList "md:block sm:flex p-4" = .ok style ∧
      style.Precedes "padding" "@media (min-width: 640px)" ∧
      style.Precedes "@media (min-width: 640px)" "@media (min-width: 768px)" := by
  have htokens : tokens "md:block sm:flex p-4" = ["md:block", "sm:flex", "p-4"] := by
    decide +kernel
  have hmd : Token.read "md:block" = .ok ⟨["md"], false, false, "block"⟩ := by decide
  have hsm : Token.read "sm:flex" = .ok ⟨["sm"], false, false, "flex"⟩ := by decide
  have hall : Token.read "p-4" = .ok ⟨[], false, false, "p-4"⟩ := by decide
  have hblock : Route.find .empty "block" = .fixed "block" (.one "display" "block") := by
    decide
  have hflex : Route.find .empty "flex" = .fixed "flex" (.one "display" "flex") := by
    decide
  have hpadding : Route.find .empty "p-4" =
      .reading (Utility.reads "p" ["padding"] "padding") := by
    decide
  have hroute : ∀ raw ∈ tokens "md:block sm:flex p-4", ∀ token, Token.read raw = .ok token →
      ∀ row, Route.find twoScreens.rules token.className ≠ .family row .container := by
    intro raw hraw token hread row hfind
    simp only [htokens, List.mem_cons, List.not_mem_nil, or_false] at hraw
    rcases hraw with rfl | rfl | rfl
    · obtain rfl := Except.ok.inj (hmd.symm.trans hread)
      cases hblock.symm.trans hfind
    · obtain rfl := Except.ok.inj (hsm.symm.trans hread)
      cases hflex.symm.trans hfind
    · obtain rfl := Except.ok.inj (hall.symm.trans hread)
      cases hpadding.symm.trans hfind
  have hone : twoScreens.resolve "p-4" = .ok (.one "padding" "1rem") := by decide
  have hresolves : ∀ raw ∈ twoScreens.ordered "md:block sm:flex p-4",
      ∃ fragment, twoScreens.resolve raw = .ok fragment := by
    intro raw hraw
    have hraw := mem_ordered.1 hraw
    simp only [htokens, List.mem_cons, List.not_mem_nil, or_false] at hraw
    rcases hraw with rfl | rfl | rfl
    · exact ⟨.under "@media (min-width: 768px)" (.one "display" "block"), by decide +kernel⟩
    · exact ⟨.under "@media (min-width: 640px)" (.one "display" "flex"), by decide +kernel⟩
    · exact ⟨_, hone⟩
  obtain ⟨fragments, hfragments⟩ := exists_resolved_iff.2 hresolves
  have h : twoScreens.resolveList "md:block sm:flex p-4" = .ok _ :=
    resolveAll_eq_ok_iff.2 ⟨fragments, hfragments, rfl⟩
  obtain ⟨hunscoped, hranked⟩ :=
    @responsive_order twoScreens [] [] _ _ rfl query?_twoScreens_inj hroute h
  obtain ⟨first, second, hfirst, hsecond, hprecedes⟩ := hranked "sm:flex" (by simp [htokens])
    "md:block" (by simp [htokens]) _ _ "sm" "md" 0 1 hsm hmd rfl rfl (by decide)
    (by decide) (by decide)
  obtain rfl : first = "@media (min-width: 640px)" := by
    simpa using query?_twoScreens hfirst
  obtain rfl : second = "@media (min-width: 768px)" := by
    simpa using query?_twoScreens hsecond
  refine ⟨_, h, ?_, hprecedes⟩
  exact hunscoped "p-4" (by simp [htokens]) _ _ hall hone (by simp) "padding" (by simp) _
    hprecedes.1 (Screen.isMedia_of_query? hfirst)

end Engine

end UtilityStyle
