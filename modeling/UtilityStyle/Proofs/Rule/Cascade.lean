import UtilityStyle.Proofs.Engine.Success
import UtilityStyle.Proofs.Rule.Invariant
import UtilityStyle.Proofs.Rule.Named

namespace UtilityStyle

open NamedStyles

namespace Rule

def stylesOf (name : String) (rules : List Rule) : List Style :=
  (rules.filter fun rule => className? rule.selector = some name).map style

def givenTo? (className : String) (rule : Rule) : Option Style := do
  let name ← className? rule.selector
  let states ← Rulebook.states? className name
  return place (states, rule.style)

theorem givenTo?_eq_some_iff {className : String} {rule : Rule} {style : Style} :
    rule.givenTo? className = some style ↔
      ∃ states, className? rule.selector = some (className ++ states) ∧
        (states = "" ∨ states.toList.head? = some ':') ∧ place (states, rule.style) = style := by
  unfold givenTo?
  simp only [Option.bind_eq_bind, Option.bind_eq_some_iff, Rulebook.states?_eq_some_iff,
    Option.pure_def, Option.some.injEq]
  constructor
  · rintro ⟨_, hname, states, ⟨rfl, hstates⟩, hstyle⟩
    exact ⟨states, hname, hstates, hstyle⟩
  · rintro ⟨states, hname, hstates, hstyle⟩
    exact ⟨_, hname, states, ⟨rfl, hstates⟩, hstyle⟩

theorem filterMap_givenTo? (className : String) (rules : List Rule) :
    rules.filterMap (givenTo? className) = (forClass className (named rules)).map place := by
  unfold forClass named
  rw [List.filterMap_filterMap, List.map_filterMap]
  apply List.filterMap_congr
  intro rule _
  unfold givenTo?
  cases className? rule.selector with
  | none => rfl
  | some name => cases h : Rulebook.states? className name <;> simp [h]

theorem under_named (name : String) (rules : List Rule) :
    under name (named rules) = stylesOf name rules := by
  induction rules with
  | nil => rfl
  | cons rule rest ih =>
    unfold under named stylesOf at ih ⊢
    cases h : className? rule.selector with
    | none => simp [h, ih]
    | some own => by_cases hname : own = name <;> simp [h, hname, ih]

theorem plain_style {rule : Rule}
    (h : ∀ d ∈ rule.declarations, (Property.camelCase d.1).toList.head? ≠ some ':') :
    Plain rule.style :=
  style_keeps plain_empty fun _ hs d hd => plain_putText hs (h d hd) d.2

theorem plain_named {rules : List Rule}
    (h : ∀ rule ∈ rules, ∀ d ∈ rule.declarations,
      (Property.camelCase d.1).toList.head? ≠ some ':') :
    ∀ part ∈ named rules, Plain part.2 := by
  intro part hpart
  obtain ⟨rule, hrule, hstyle⟩ := exists_of_mem_named hpart
  rw [← hstyle]
  exact plain_style (h rule hrule)

theorem nodup_keys_style (rule : Rule) : rule.style.keys.Nodup :=
  Style.nodup_keys_of_wellFormed (invariant_style wellFormed_invariant rule)

end Rule

namespace Rulebook

theorem get?_gather (name key : String) (style : Style) (gathered : Entries Style) :
    Entries.get? key (gather name style gathered) =
      if name = key then some ((Entries.get? key gathered).elim style (·.merge style))
      else Entries.get? key gathered := by
  unfold gather
  by_cases h : name = key
  · subst h
    cases hold : Entries.get? name gathered <;> simp
  · cases hold : Entries.get? name gathered <;> simp [h, Ne.symm h]

theorem nodup_keys_gather {gathered : Entries Style} (h : (Entries.keys gathered).Nodup)
    (name : String) (style : Style) : (Entries.keys (gather name style gathered)).Nodup := by
  unfold gather
  split
  · exact Entries.nodup_keys_put h _ _
  · exact Entries.nodup_keys_put h _ _

theorem get?_foldl_gather (list : NamedStyles) (gathered : Entries Style) (name : String) :
    Entries.get? name
        (list.foldl (fun gathered part => gather part.1 part.2 gathered) gathered) =
      (under name list).foldl (fun old? style => some (old?.elim style (·.merge style)))
        (Entries.get? name gathered) := by
  induction list generalizing gathered with
  | nil => rfl
  | cons part rest ih =>
    rw [List.foldl_cons, ih, get?_gather]
    by_cases hname : part.1 = name <;> simp [under, hname]

theorem nodup_keys_gatherAll {rules : List Rule} {gathered : Entries Style}
    (h : gatherAll rules = .ok gathered) : (Entries.keys gathered).Nodup := by
  apply gatherFrom_keeps (P := fun gathered => (Entries.keys gathered).Nodup) _ _ h
  · exact List.nodup_nil
  · exact fun gathered hg rule name => nodup_keys_gather hg name rule.style

theorem get?_gatherAll {rules : List Rule} {gathered : Entries Style}
    (h : gatherAll rules = .ok gathered) (name : String) :
    Entries.get? name gathered = Style.mergeAll? (under name (Rule.named rules)) := by
  rw [← gatherFrom_eq_foldl h, get?_foldl_gather, Style.mergeAll?_eq_foldl]
  · rfl
  · intro style hs
    obtain ⟨rule, -, rfl⟩ := Rule.exists_of_mem_named (mem_of_mem_under hs)
    exact Rule.nodup_keys_style rule

theorem componentStyles_eq (book : Rulebook) (className : String) :
    book.componentStyles className = (forClass className book.components).map place := by
  unfold componentStyles forClass
  rw [List.map_filterMap]
  apply List.filterMap_congr
  rintro ⟨name, style⟩ -
  cases h : states? className name <;> simp [h, place]

theorem resolve_of_componentStyles {book : Rulebook} {className : String}
    (h : book.componentStyles className ≠ []) :
    book.resolve className = some (Style.mergeAll (book.componentStyles className)) := by
  unfold resolve
  split
  · rename_i hnil
    exact absurd hnil h
  · rfl

theorem covers_iff {book : Rulebook} {className : String} :
    book.covers className ↔ (book.resolve className).isSome := by
  have hnil : book.componentStyles className = [] ↔
      book.components.any (fun part => (states? className part.1).isSome) = false := by
    simp [componentStyles]
  unfold covers resolve
  cases hstyles : book.componentStyles className with
  | nil => simp [hnil.1 hstyles, Entries.has]
  | cons style rest =>
    have hany : book.components.any (fun part => (states? className part.1).isSome) = true := by
      rw [← Bool.not_eq_false, ← hnil, hstyles]
      exact List.cons_ne_nil _ _
    simp [hany]

section Gathered

variable {rules : List Rule} {gathered : Entries Style}

theorem plain_gathered (h : gatherAll rules = .ok gathered)
    (hplain : ∀ part ∈ Rule.named rules, Plain part.2) : ∀ part ∈ gathered, Plain part.2 := by
  rintro ⟨name, style⟩ hpart
  have hget := Entries.get?_eq_some_of_mem (nodup_keys_gatherAll h) hpart
  rw [get?_gatherAll h] at hget
  obtain rfl := Style.eq_mergeAll_of_mergeAll?_eq_some hget
  exact Style.mergeAll_keeps plain_empty plain_merge fun style hs =>
    hplain _ (mem_of_mem_under hs)

theorem alike_named (h : gatherAll rules = .ok gathered) : Alike gathered (Rule.named rules) := by
  have hkeys : ∀ part ∈ gathered, part.2.keys.Nodup := fun part hpart =>
    Style.nodup_keys_of_wellFormed
      (invariant_gatherFrom Rule.wellFormed_invariant (by simp) h part hpart)
  intro name
  rw [mergeAll?_under_of_nodup (nodup_keys_gatherAll h) hkeys, get?_gatherAll h]

end Gathered

section Components

variable {rules : List Rule} {book : Rulebook} (h : gatherAll rules = .ok book.components)
  (className : String)
include h

theorem componentStyles_eq_nil_iff :
    book.componentStyles className = [] ↔ rules.filterMap (Rule.givenTo? className) = [] := by
  rw [componentStyles_eq, Rule.filterMap_givenTo?, List.map_eq_nil_iff, List.map_eq_nil_iff,
    (alike_named h).forClass_eq_nil_iff]

theorem perm_mergeAll_componentStyles (hplain : ∀ part ∈ Rule.named rules, Plain part.2) :
    (Style.mergeAll (book.componentStyles className)).fields.Perm
      (Style.mergeAll (rules.filterMap (Rule.givenTo? className))).fields := by
  rw [componentStyles_eq, Rule.filterMap_givenTo?]
  have hgathered : ∀ part ∈ book.components, Plain part.2 := plain_gathered h hplain
  exact Entries.perm_of_get?_eq (nodup_keys_mergeAll_place hgathered className)
    (nodup_keys_mergeAll_place hplain className)
    ((alike_named h).get?_mergeAll hgathered hplain className)

end Components

end Rulebook

theorem Route.covers_of_find_eq_rule {rules : Rulebook} {className : String}
    (h : find rules className = .rule) : rules.covers className := by
  unfold find at h
  split at h
  · cases h
  · split at h
    · unfold ofRow at h
      split at h <;> cases h
    · split at h
      · assumption
      · cases h

theorem Engine.style_of_rule {engine : Engine} {token : Token}
    (h : Route.find engine.rules token.className = .rule) :
    ∃ style, engine.rules.resolve token.className = some style ∧
      engine.style token =
        if token.negative then .error (.unsupported token.className .negatives)
        else .ok (marked token style) := by
  obtain ⟨style, hstyle⟩ :=
    Option.isSome_iff_exists.1 (Rulebook.covers_iff.1 (Route.covers_of_find_eq_rule h))
  refine ⟨style, hstyle, ?_⟩
  unfold Engine.style
  rw [h, hstyle]
  cases hn : token.negative <;> simp [refuseNegative, hn]

namespace Rulebook

/-- The order in which a user's rules are given is that in which they win. A class has what the
component rules for it give, one after the other and each under its states, or else what the utility
rules for it have; only the order of the properties may differ. So a class that is covered has a
style, and is never reported as unknown. -/
theorem resolve_ofRules {components utilities : List Rule} {book : Rulebook}
    (h : ofRules components utilities = .ok book)
    (hproperties : ∀ rule ∈ components, ∀ d ∈ rule.declarations,
      (Property.camelCase d.1).toList.head? ≠ some ':')
    (className : String) :
    let given := components.filterMap (Rule.givenTo? className)
    (∀ rule style, Rule.givenTo? className rule = some style ↔
        ∃ states, Rule.className? rule.selector = some (className ++ states) ∧
          (states = "" ∨ states.toList.head? = some ':') ∧ place (states, rule.style) = style) ∧
      (given ≠ [] → ∃ style, book.resolve className = some style ∧
        style.fields.Perm (Style.mergeAll given).fields) ∧
      (given = [] →
        book.resolve className = Style.mergeAll? (Rule.stylesOf className utilities)) ∧
      (book.covers className ↔ (book.resolve className).isSome) ∧
      ∀ (engine : Engine) (token : Token), engine.rules = book → token.className = className →
        Route.find book className = .rule → ∃ style, book.resolve className = some style ∧
          engine.style token =
            if token.negative then .error (.unsupported className .negatives)
            else .ok (Engine.marked token style) := by
  intro given
  obtain ⟨hcomponents, hutilities⟩ := ofRules_eq_ok_iff.1 h
  have hnil : book.componentStyles className = [] ↔ given = [] :=
    componentStyles_eq_nil_iff hcomponents className
  refine ⟨fun _ _ => Rule.givenTo?_eq_some_iff, ?_, ?_, covers_iff, ?_⟩
  · intro hne
    exact ⟨_, resolve_of_componentStyles (mt hnil.1 hne),
      perm_mergeAll_componentStyles hcomponents className (Rule.plain_named hproperties)⟩
  · intro hempty
    rw [resolve, hnil.2 hempty, ← Rule.under_named]
    exact get?_gatherAll hutilities className
  · rintro engine token rfl rfl hroute
    exact Engine.style_of_rule hroute

theorem resolve_ofRules_interleaved :
    let components : List Rule :=
      [⟨".btn", [("color", "red"), ("margin", "0")]⟩, ⟨".btn:hover", [("color", "blue")]⟩,
        ⟨".btn-wide", [("width", "100%")]⟩, ⟨".btn", [("padding-top", "1px"), ("color", "green")]⟩,
        ⟨".btn:hover > a", [("margin", "1px")]⟩]
    let utilities : List Rule :=
      [⟨".btn", [("display", "none")]⟩, ⟨".skew", [("transform", "none")]⟩,
        ⟨".skew", [("margin-top", "0")]⟩]
    ∃ book, ofRules components utilities = .ok book ∧
      (∃ style, book.resolve "btn" = some style ∧
        style.fields.Perm
          [("color", .string "green"), ("margin", .string "0"),
            (":hover", .object [("color", .string "blue"), ("margin", .string "1px")]),
            ("paddingTop", .string "1px")]) ∧
      book.resolve "skew" = some ⟨[("transform", .string "none"), ("marginTop", .string "0")]⟩ ∧
      ∀ theme options, (⟨theme, options, book⟩ : Engine).style ⟨[], true, false, "btn"⟩ =
        .error (.unsupported "btn" .negatives) := by
  intro components utilities
  let book : Rulebook :=
    ⟨[("btn", ⟨[("color", .string "green"), ("margin", .string "0"),
          ("paddingTop", .string "1px")]⟩),
        ("btn:hover", ⟨[("color", .string "blue"), ("margin", .string "1px")]⟩),
        ("btn-wide", .one "width" "100%")],
      [("btn", .one "display" "none"),
        ("skew", ⟨[("transform", .string "none"), ("marginTop", .string "0")]⟩)]⟩
  have hbook : ofRules components utilities = .ok book := by decide
  have hproperties : ∀ rule ∈ components, ∀ d ∈ rule.declarations,
      (Property.camelCase d.1).toList.head? ≠ some ':' := by
    decide
  obtain ⟨-, hbtn, -, -, hstyle⟩ := resolve_ofRules hbook hproperties "btn"
  obtain ⟨-, -, hskew, -, -⟩ := resolve_ofRules hbook hproperties "skew"
  refine ⟨book, hbook, ?_, (hskew (by decide)).trans (by decide), ?_⟩
  · obtain ⟨style, hresolve, hperm⟩ := hbtn (by decide)
    exact ⟨style, hresolve, hperm.trans (List.Perm.of_eq (by decide +kernel))⟩
  · intro theme options
    obtain ⟨style, -, hfound⟩ :=
      hstyle ⟨theme, options, book⟩ ⟨[], true, false, "btn"⟩ rfl rfl (by decide)
    exact hfound

/-- A property that starts with a colon stands where the styles for states do. -/
example :
    let components : List Rule :=
      [⟨".btn", [(":", "1")]⟩, ⟨".btn:", [("color", "red")]⟩, ⟨".btn", [(":", "2")]⟩]
    (ofRules components []).toOption.bind (·.resolve "btn") ≠
      some (Style.mergeAll (components.filterMap (Rule.givenTo? "btn"))) := by
  decide +kernel

end Rulebook

end UtilityStyle
