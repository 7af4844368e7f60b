import UtilityStyle.Proofs.Engine.Cascade
import UtilityStyle.Proofs.Engine.Invariant
import UtilityStyle.Proofs.Engine.Order

namespace UtilityStyle

namespace Token

def withVariant (name : String) (token : Token) : Token :=
  { token with variants := name :: token.variants }

variable {name raw : String} {token : Token}

theorem text_withVariant : (token.withVariant name).text = name ++ ":" ++ token.text := by
  have hunscoped : (token.withVariant name).unscoped = token.unscoped := rfl
  rw [← String.toList_inj, text, hunscoped]
  simp [text, withVariant]

theorem Grammatical.withVariant (h : token.Grammatical) (hname : isVariantName name.toList) :
    (token.withVariant name).Grammatical :=
  ⟨List.forall_mem_cons.2 ⟨hname, h.isName⟩, h.noColon, h.noSign, h.noBang⟩

theorem read_withVariant (hname : isVariantName name.toList) (h : read raw = .ok token) :
    read (name ++ ":" ++ raw) = .ok (token.withVariant name) := by
  obtain ⟨hg, rfl⟩ := read_eq_ok_iff.1 h
  exact read_eq_ok_iff.2 ⟨hg.withVariant hname, text_withVariant⟩

theorem isBlank_of_isNameChar {c : Char} (h : isNameChar c) : Text.isBlank c = false := by
  have hle : ∀ a b : Char, a ≤ b ↔ a.toNat ≤ b.toNat := fun a b => Iff.rfl
  simp only [isNameChar, isNameStart, Bool.or_eq_true, Bool.and_eq_true, decide_eq_true_eq,
    hle] at h
  rcases h with ((h | h) | rfl) | rfl
  · simp [Text.isBlank, Text.blankRanges] at h ⊢
    omega
  · simp [Text.isBlank, Text.blankRanges] at h ⊢
    omega
  · decide
  · decide

theorem noBlank_of_isVariantName {cs : List Char} (h : isVariantName cs) :
    ∀ c ∈ cs, Text.isBlank c = false := by
  cases cs with
  | nil => cases h
  | cons first rest =>
    simp only [isVariantName, Bool.and_eq_true, List.all_eq_true] at h
    have hfirst : isNameChar first := by simp [isNameChar, h.1]
    exact List.forall_mem_cons.2
      ⟨isBlank_of_isNameChar hfirst, fun c hc => isBlank_of_isNameChar (h.2 c hc)⟩

end Token

namespace Order

variable {theme : Theme} {name : String}

theorem rank?_withVariant (hname : Token.isVariantName name.toList) (raw : String) :
    rank? theme (name ++ ":" ++ raw) = (theme.rank? name).or (rank? theme raw) := by
  have hcolon : ∀ piece ∈ [name.toList], ':' ∉ piece :=
    List.forall_mem_singleton.2 (Token.colon_not_mem_of_isVariantName hname)
  have hpieces : Text.pieces (· == ':') (name ++ ":" ++ raw).toList =
      name.toList :: Text.pieces (· == ':') raw.toList := by
    simpa using Text.pieces_flatMap_append hcolon raw.toList
  unfold rank?
  rw [hpieces, List.dropLast_cons_of_ne_nil (Text.pieces_ne_nil _ _), List.findSome?_cons,
    String.ofList_toList]
  cases theme.rank? name <;> rfl

theorem before_withVariant (hname : Token.isVariantName name.toList) {a b : String}
    (h : theme.rank? name = none ∨ rank? theme a = none ∧ rank? theme b = none) :
    before theme (name ++ ":" ++ a) (name ++ ":" ++ b) = before theme a b := by
  unfold before
  rw [rank?_withVariant hname, rank?_withVariant hname]
  rcases h with h | ⟨ha, hb⟩
  · rw [h]
    rfl
  · rw [ha, hb]
    simp

end Order

namespace Engine

variable {engine : Engine} {token : Token} {name raw : String} {variant : Variant} {style : Style}

theorem style_withVariant
    (hroute : ∀ row, Route.find engine.rules token.className ≠ .family row .container) :
    engine.style (token.withVariant name) = engine.style token := by
  have hclass : (token.withVariant name).className = token.className := rfl
  unfold Engine.style
  rw [hclass]
  cases hfind : Route.find engine.rules token.className with
  | family row member =>
    cases member with
    | container => exact absurd hfind (hroute row)
    | space | divide | placeholder | text | bg | border => rfl
  | fixed | reading | rule | unmatched => rfl

theorem resolve_withVariant (hname : Token.isVariantName name.toList)
    (hvariant : Variant.find engine.theme name = .ok variant)
    (hroute : AvoidsContainer engine.rules raw) (h : engine.resolve raw = .ok style) :
    engine.resolve (name ++ ":" ++ raw) =
      .ok (.under (variant.key engine.options.sassyPseudo) style) := by
  obtain ⟨-, token, keys, inner, hread, hkeys, hclass, hinner, rfl⟩ := resolve_eq_ok_iff.1 h
  rw [resolve_eq_ok_iff]
  constructor
  · intro hgroup
    have hcolon : ':' ∈ "group".toList := by
      rw [← hgroup]
      simp
    exact absurd hcolon (by decide)
  · refine ⟨token.withVariant name, variant.key engine.options.sassyPseudo :: keys, inner,
      Token.read_withVariant hname hread, ?_, hclass, ?_, rfl⟩
    · unfold Variant.keys at hkeys ⊢
      change (name :: token.variants).mapM _ = _
      rw [List.mapM_cons, hvariant, hkeys]
      rfl
    · rwa [style_withVariant (hroute token hread)]

theorem mapM_resolve_map {written : String → String} {nest : Style → Style} {raws : List String}
    {styles : List Style}
    (h : ∀ raw ∈ raws, ∀ style, engine.resolve raw = .ok style →
      engine.resolve (written raw) = .ok (nest style))
    (hstyles : raws.mapM engine.resolve = .ok styles) :
    (raws.map written).mapM engine.resolve = .ok (styles.map nest) := by
  induction raws generalizing styles with
  | nil =>
    obtain rfl : [] = styles := Except.ok.inj hstyles
    rfl
  | cons raw rest ih =>
    simp only [List.mapM_cons, Outcome.bind_eq_ok_iff, Outcome.pure_eq_ok_iff] at hstyles
    obtain ⟨first, hfirst, others, hothers, rfl⟩ := hstyles
    obtain ⟨hraw, hrest⟩ := List.forall_mem_cons.1 h
    rw [List.map_cons, List.mapM_cons, hraw first hfirst, ih hrest hothers]
    rfl

theorem resolveAll_withVariant {raws : List String} (hne : raws ≠ [])
    (hname : Token.isVariantName name.toList)
    (hvariant : Variant.find engine.theme name = .ok variant)
    (hroute : ∀ raw ∈ raws, AvoidsContainer engine.rules raw)
    (hkeys : ∀ raw ∈ raws, ∀ style, engine.resolve raw = .ok style → style.keys.Nodup)
    (h : ∀ raw ∈ raws, ∃ style, engine.resolve raw = .ok style) :
    ∃ style, engine.resolveAll raws = .ok style ∧
      engine.resolveAll (raws.map (name ++ ":" ++ ·)) =
        .ok (style.within [variant.key engine.options.sassyPseudo]) := by
  obtain ⟨styles, hforall⟩ := exists_resolved_iff.2 h
  have hstyles := mapM_resolve_eq_ok_iff.2 hforall
  have hnested := mapM_resolve_map
    (fun raw hraw _ hresolve => resolve_withVariant hname hvariant (hroute raw hraw) hresolve)
    hstyles
  refine ⟨Style.mergeAll styles, by rw [resolveAll, hstyles]; rfl, ?_⟩
  rw [resolveAll, hnested]
  cases hforall with
  | nil => exact absurd rfl hne
  | cons hfirst hothers =>
    have hnodup := hkeys _ List.mem_cons_self _ hfirst
    exact congrArg Except.ok (Style.mergeAll_map_under _ hnodup _)

theorem isWord_withVariant (hname : Token.isVariantName name.toList)
    (hblank : ∀ c ∈ raw.toList, Text.isBlank c = false) : IsWord (name ++ ":" ++ raw) := by
  constructor
  · simp only [String.toList_append, List.forall_mem_append]
    exact ⟨⟨Token.noBlank_of_isVariantName hname, noBlank_of_all (by decide)⟩, hblank⟩
  · intro hbar
    have hcolon : ':' ∈ "|".toList := by
      rw [← hbar]
      simp
    exact absurd hcolon (by decide)

/-- A variant in front of every token puts the style of the list under the key of the variant. No
bar stands between two tokens of the list, where it would be no token but with the variant, and the
variant is no screen, or the list has none. -/
theorem resolveList_withVariant {components utilities : List Rule} {raws : List String}
    (hrules : Rulebook.ofRules components utilities = .ok engine.rules) (hne : raws ≠ [])
    (hblank : ∀ raw ∈ raws, ∀ c ∈ raw.toList, Text.isBlank c = false)
    (hbars : ∀ before after, raws = before ++ "|" :: after → before = [] ∨ after = [])
    (hresolve : ∀ raw ∈ raws, ∃ style, engine.resolve raw = .ok style)
    (hroute : ∀ raw ∈ raws, AvoidsContainer engine.rules raw)
    (hname : Token.isVariantName name.toList)
    (hvariant : Variant.find engine.theme name = .ok variant)
    (hscreens : engine.theme.rank? name = none ∨ ∀ raw ∈ raws, ∀ token,
      Token.read raw = .ok token → ∀ other ∈ token.variants, engine.theme.rank? other = none) :
    ∃ style, engine.resolveList (" ".intercalate raws) = .ok style ∧
      engine.resolveList (" ".intercalate (raws.map (name ++ ":" ++ ·))) =
        .ok (style.within [variant.key engine.options.sassyPseudo]) := by
  have hwords : ∀ raw ∈ raws.map (name ++ ":" ++ ·), IsWord raw :=
    List.forall_mem_map.2 fun raw hraw => isWord_withVariant hname (hblank raw hraw)
  have hplain : tokens (" ".intercalate raws) = raws := by
    rw [tokens_intercalate_of_bars hblank hbars, List.filter_eq_self]
    intro raw hraw
    obtain ⟨style, h⟩ := hresolve raw hraw
    simp [ne_empty_of_resolve h]
  have hnested : tokens (" ".intercalate (raws.map (name ++ ":" ++ ·))) =
      raws.map (name ++ ":" ++ ·) := by
    rw [tokens_intercalate hwords, List.filter_eq_self, List.forall_mem_map]
    simp
  -- no token changes places: the variant is no screen, or no token had one before
  have hranks : engine.theme.rank? name = none ∨
      ∀ raw ∈ raws, Order.rank? engine.theme raw = none := by
    refine hscreens.imp_right fun hscreens raw hraw => ?_
    obtain ⟨style, h⟩ := hresolve raw hraw
    obtain ⟨-, token, -, -, hread, -⟩ := resolve_eq_ok_iff.1 h
    rw [Order.rank?_of_read hread, List.findSome?_eq_none_iff]
    exact hscreens raw hraw token hread
  have hsorted : Order.byScreen engine.theme (raws.map (name ++ ":" ++ ·)) =
      (Order.byScreen engine.theme raws).map (name ++ ":" ++ ·) := by
    unfold Order.byScreen
    rw [List.map_mergeSort]
    intro a ha b hb
    exact (Order.before_withVariant hname (hranks.imp_right fun h => ⟨h a ha, h b hb⟩)).symm
  have hmem : ∀ raw ∈ Order.byScreen engine.theme raws, raw ∈ raws :=
    fun raw => (Order.byScreen_perm engine.theme raws).mem_iff.1
  unfold resolveList ordered
  rw [hplain, hnested, hsorted]
  apply resolveAll_withVariant _ hname hvariant
  · exact fun raw hraw => hroute raw (hmem raw hraw)
  · intro raw hraw style h
    exact Json.nodup_keys (wellFormed_resolve hrules (hroute raw (hmem raw hraw)) h)
  · exact fun raw hraw => hresolve raw (hmem raw hraw)
  · intro hnil
    have hperm := Order.byScreen_perm engine.theme raws
    rw [hnil] at hperm
    exact hne hperm.nil_eq.symm

def barRule : Rule := ⟨".|", [("color", "red")]⟩

def barred : Engine := { twoScreens with rules := ⟨[("|", .one "color" "red")], []⟩ }

theorem resolveList_withVariant_bar :
    barred.resolveList "hover:| hover:p-4 hover:sm:focus:flex" =
      .ok ⟨[(":hover", .object [("color", .string "red"), ("padding", .string "1rem"),
        ("@media (min-width: 640px)", .object [(":focus",
          .object [("display", .string "flex")])])])]⟩ := by
  have hrules : Rulebook.ofRules [barRule] [] = .ok barred.rules := by decide +kernel
  have hall : ∀ raw ∈ ["|", "p-4", "sm:focus:flex"], raw.toList.all (!Text.isBlank ·) := by
    decide
  have hbars : ∀ before after, ["|", "p-4", "sm:focus:flex"] = before ++ "|" :: after →
      before = [] ∨ after = [] := by
    intro before after he
    cases before with
    | nil => exact .inl rfl
    | cons first rest =>
      have hmem : "|" ∈ ["p-4", "sm:focus:flex"] := by
        rw [(List.cons.inj he).2]
        simp
      exact absurd hmem (by decide)
  have hbar : barred.resolve "|" = .ok (.one "color" "red") := by decide +kernel
  have hpadding : barred.resolve "p-4" = .ok (.one "padding" "1rem") := by decide +kernel
  have hflex : barred.resolve "sm:focus:flex" =
      .ok (.within ["@media (min-width: 640px)", ":focus"] (.one "display" "flex")) := by
    decide +kernel
  have hresolve : ∀ raw ∈ ["|", "p-4", "sm:focus:flex"],
      ∃ style, barred.resolve raw = .ok style := by
    rw [List.forall_mem_cons, List.forall_mem_cons, List.forall_mem_singleton]
    exact ⟨⟨_, hbar⟩, ⟨_, hpadding⟩, ⟨_, hflex⟩⟩
  have hrank : barred.theme.rank? "hover" = none := by decide +kernel
  obtain ⟨style, hplain, hnested⟩ := resolveList_withVariant hrules (by simp)
    (fun raw hraw => noBlank_of_all (hall raw hraw)) hbars hresolve
    (by decide +kernel) (by decide) (rfl : Variant.find barred.theme "hover" = .ok _) (.inl hrank)
  have htokens : tokens "| p-4 sm:focus:flex" = ["|", "p-4", "sm:focus:flex"] := by decide +kernel
  have hordered : barred.ordered "| p-4 sm:focus:flex" = ["|", "p-4", "sm:focus:flex"] := by
    rw [ordered, htokens]
    exact Order.byScreen_eq_self (by decide +kernel)
  change barred.resolveList "| p-4 sm:focus:flex" = .ok style at hplain
  rw [resolveList, hordered, resolveAll, List.mapM_cons, hbar, List.mapM_cons, hpadding,
    List.mapM_cons, hflex] at hplain
  obtain rfl := Except.ok.inj hplain
  exact hnested

/-- Between two tokens a bar divides the list, and no component of that class applies. Behind a
variant it is a token. -/
theorem not_resolveList_withVariant :
    ¬∀ (engine : Engine) (components utilities : List Rule) (raws : List String) (name : String)
      (variant : Variant),
      Rulebook.ofRules components utilities = .ok engine.rules → raws ≠ [] →
      (∀ raw ∈ raws, ∀ c ∈ raw.toList, Text.isBlank c = false) →
      (∀ raw ∈ raws, ∃ style, engine.resolve raw = .ok style) →
      (∀ raw ∈ raws, AvoidsContainer engine.rules raw) →
      Token.isVariantName name.toList → Variant.find engine.theme name = .ok variant →
      (engine.theme.rank? name = none ∨ ∀ raw ∈ raws, ∀ token, Token.read raw = .ok token →
        ∀ other ∈ token.variants, engine.theme.rank? other = none) →
      ∃ style, engine.resolveList (" ".intercalate raws) = .ok style ∧
        engine.resolveList (" ".intercalate (raws.map (name ++ ":" ++ ·))) =
          .ok (style.within [variant.key engine.options.sassyPseudo]) := by
  intro h
  have hrules : Rulebook.ofRules [barRule] [] = .ok barred.rules := by decide +kernel
  have hblock : barred.resolve "block" = .ok (.one "display" "block") := by decide +kernel
  have hbar : barred.resolve "|" = .ok (.one "color" "red") := by decide +kernel
  have hflex : barred.resolve "flex" = .ok (.one "display" "flex") := by decide +kernel
  have hresolve : ∀ raw ∈ ["block", "|", "flex"], ∃ style, barred.resolve raw = .ok style := by
    rw [List.forall_mem_cons, List.forall_mem_cons, List.forall_mem_singleton]
    exact ⟨⟨_, hblock⟩, ⟨_, hbar⟩, ⟨_, hflex⟩⟩
  have hall : ∀ raw ∈ ["block", "|", "flex"], raw.toList.all (!Text.isBlank ·) := by decide
  have hrank : barred.theme.rank? "hover" = none := by decide +kernel
  obtain ⟨style, hplain, hnested⟩ := h barred [barRule] [] ["block", "|", "flex"] "hover" _ hrules
    (by simp) (fun raw hraw => noBlank_of_all (hall raw hraw)) hresolve (by decide +kernel)
    (by decide) rfl (.inl hrank)
  have htokens : tokens "block | flex" = ["block", "flex"] := by decide +kernel
  have hordered : barred.ordered "block | flex" = ["block", "flex"] := by
    rw [ordered, htokens]
    exact Order.byScreen_eq_self (by decide +kernel)
  have hmore : tokens "hover:block hover:| hover:flex" =
      ["hover:block", "hover:|", "hover:flex"] := by
    decide +kernel
  have hsorted : barred.ordered "hover:block hover:| hover:flex" =
      ["hover:block", "hover:|", "hover:flex"] := by
    rw [ordered, hmore]
    exact Order.byScreen_eq_self (by decide +kernel)
  change barred.resolveAll (barred.ordered "block | flex") = .ok style at hplain
  change barred.resolveAll (barred.ordered "hover:block hover:| hover:flex") = _ at hnested
  rw [hordered, resolveAll, List.mapM_cons, hblock, List.mapM_cons, hflex] at hplain
  obtain rfl := Except.ok.inj hplain
  rw [hsorted] at hnested
  revert hnested
  decide +kernel

end Engine

end UtilityStyle
