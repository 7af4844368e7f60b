import UtilityStyle.Proofs.Engine.Success
import UtilityStyle.Proofs.Utility.Argument

namespace UtilityStyle

namespace Theme

def Lacks (theme : Theme) (rest : String) : Prop :=
  ∀ name, theme.resolve name rest = .ok none ∧ theme.resolve name ("-" ++ rest) = .ok none

end Theme

namespace Family

variable {member : Family} {r : Request} {rest : String}

theorem style_of_dropped (hk : r.key ∈ member.keys) (hc : r.className = r.key ++ "-" ++ rest)
    (ho : ¬"opacity".toList <+: rest.toList) (hd : member = .container ∨ Dropped rest)
    (style : Style) : member.style r = .ok style ↔ member.style r.bare = .ok style := by
  by_cases hm : member = .container
  · subst hm
    unfold Family.style
    rw [Container.resolve_eq_ok_iff, Container.resolve_eq_ok_iff]
    rfl
  · have hdropped := hd.resolve_left hm
    have hid : Reading.withEnd rest = id := by
      funext reading
      exact if_pos hdropped
    rw [style_eq_ok_iff hm, style_eq_ok_iff hm, readings_eq_map hk hc ho, hid, List.map_id]
    rfl

theorem style_ne_ok_of_lacks (hm : member ≠ .container) (hk : r.key ∈ member.keys)
    (hc : r.className = r.key ++ "-" ++ rest) (ho : ¬"opacity".toList <+: rest.toList)
    (hd : ¬Dropped rest) (hl : r.theme.Lacks rest) (style : Style) :
    member.style r ≠ .ok style := by
  intro h
  obtain ⟨-, h⟩ := (style_eq_ok_iff hm).1 h
  have hnone : Reading.first? r.theme (member.readings r) = .ok none := by
    apply Reading.first?_eq_ok_none_iff.2
    intro reading hr
    rw [readings_eq_map hk hc ho] at hr
    obtain ⟨before, -, rfl⟩ := List.mem_map.1 hr
    unfold Reading.withEnd
    rw [if_neg hd]
    exact (hl before.source).1
  rw [hnone] at h
  cases h

theorem style_unknown_suffix_iff (hk : r.key ∈ member.keys)
    (hc : r.className = r.key ++ "-" ++ rest) (ho : ¬"opacity".toList <+: rest.toList)
    (hl : rest = "" ∨ r.theme.Lacks rest) (style : Style) :
    member.style r = .ok style ↔
      (member = .container ∨ Dropped rest) ∧ member.style r.bare = .ok style := by
  by_cases hd : member = .container ∨ Dropped rest
  · rw [style_of_dropped hk hc ho hd, and_iff_right hd]
  · obtain ⟨hm, hkept⟩ := not_or.1 hd
    have hlacks := hl.resolve_left fun h => hkept (.inl h)
    have hne := style_ne_ok_of_lacks hm hk hc ho hkept hlacks style
    exact ⟨fun h => absurd h hne, fun h => absurd h.1 hd⟩

end Family

namespace Row

theorem style_ne_ok {row : Row} {theme : Theme} {options : Options} {token : Token} {rest : String}
    (hc : token.className = row.key ++ "-" ++ rest) (hl : rest = "" ∨ theme.Lacks rest)
    (style : Style) : row.style theme options token ≠ .ok style := by
  intro h
  obtain ⟨hdash, h⟩ := style_eq_ok_iff.1 h
  rcases hl with rfl | hl
  · apply hdash
    rw [hc]
    simp
  · have hnone : Reading.first? theme (row.readings theme token) = .ok none := by
      apply Reading.first?_eq_ok_none_iff.2
      intro reading hr
      obtain ⟨d, -, rfl⟩ := List.mem_map.1 hr
      dsimp only
      rw [hc, row.suffix_append]
      unfold Token.sign
      split
      · exact (hl _).2
      · rw [String.empty_append]
        exact (hl _).1
    rw [hnone] at h
    cases h

end Row

namespace Engine

variable {engine : Engine} {token : Token} {row : Row} {rest : String}

theorem style_of_unknown_suffix (hmem : row ∈ Utility.rows)
    (hroute : Route.find engine.rules token.className = .ofRow row)
    (hname : token.className = row.key ++ "-" ++ rest)
    (hopacity : ¬"opacity".toList <+: rest.toList)
    (hunknown : rest = "" ∨ engine.theme.Lacks rest) (style : Style) :
    engine.style token = .ok style ↔
      (∃ member, row.handler = .family member ∧ (member = .container ∨ Dropped rest)) ∧
        engine.style { token with className := row.key } = .ok style := by
  cases hm : row.handler with
  | descriptors list =>
    rw [Route.ofRow_of_descriptors hm] at hroute
    rw [style_of_reading hroute, Outcome.map_eq_ok_iff]
    constructor
    · rintro ⟨found, hfound, -⟩
      exact absurd hfound (Row.style_ne_ok hname hunknown found)
    · rintro ⟨⟨member, hfamily, -⟩, -⟩
      cases hfamily
  | family member =>
    have hfamily : member ∈ row.family? := by
      unfold Row.family?
      rw [hm]
      rfl
    have hkey := Family.key_mem_keys row hmem member hfamily
    have hbare : Route.find engine.rules row.key = .family row member := by
      obtain ⟨hfixed, hrow⟩ := Utility.find_family_key row hmem (Option.isSome_of_mem hfamily)
      rw [Route.find_eq_ofRow hfixed hrow, Route.ofRow_of_family hm]
    rw [Route.ofRow_of_family hm] at hroute
    rw [style_of_family hroute,
      @style_of_family engine { token with className := row.key } row _ hbare]
    have hsuffix := @Family.style_unknown_suffix_iff member
      ⟨engine.theme, engine.options, token, row.key⟩ rest hkey hname hopacity hunknown style
    rw [hsuffix]
    simp [Request.bare]

/-- A class name with an end that no section knows only resolves where the end is dropped, and then
as if it were not there. -/
theorem resolve_unknown_suffix_iff {engine : Engine} {raw : String} {token : Token} {row : Row}
    {rest : String} (hread : Token.read raw = .ok token)
    (hname : token.className = row.key ++ "-" ++ rest)
    (hfixed : Utility.fixed? token.className = none)
    (hrow : Row.longest Utility.rows token.className = some row)
    (hunknown : rest = "" ∨ ¬"opacity".toList <+: rest.toList ∧ engine.theme.Lacks rest)
    (style : Style) :
    engine.resolve raw = .ok style ↔
      (∃ member, row.handler = .family member ∧ (member = .container ∨ Dropped rest)) ∧
        engine.resolve ({ token with className := row.key } : Token).text = .ok style := by
  obtain ⟨hg, rfl⟩ := Token.read_eq_ok_iff.1 hread
  obtain ⟨hmem, -⟩ := Row.mem_of_longest hrow
  obtain ⟨hempty, hgroup, hcolon, hsign, hbang⟩ := Utility.grammatical_key row hmem
  have hroute : Route.find engine.rules token.className = .ofRow row :=
    Route.find_eq_ofRow hfixed hrow
  have hdash : '-' ∈ token.className.toList := by simp [hname]
  have hne : ∀ name, '-' ∉ String.toList name → token.className ≠ name := by
    rintro name hn rfl
    exact hn hdash
  have hbare : Token.Grammatical { token with className := row.key } :=
    ⟨hg.isName, hcolon, hsign, hbang⟩
  rw [resolve_text_eq_ok_iff hg (hne "group" (by decide)) (hne "" (by decide)),
    resolve_text_eq_ok_iff hbare hgroup hempty]
  have hopacity : ¬"opacity".toList <+: rest.toList := by
    rcases hunknown with rfl | ⟨ho, -⟩
    · decide
    · exact ho
  simp only [style_of_unknown_suffix hmem hroute hname hopacity (hunknown.imp_right And.right)]
  constructor
  · rintro ⟨keys, inner, hkeys, ⟨hmember, hinner⟩, rfl⟩
    exact ⟨hmember, keys, inner, hkeys, hinner, rfl⟩
  · rintro ⟨hmember, keys, inner, hkeys, hinner, rfl⟩
    exact ⟨keys, inner, hkeys, ⟨hmember, hinner⟩, rfl⟩

def centering : Theme := ⟨[("container", .object [("center", .bool true)])]⟩

theorem resolve_unknown_suffix_container :
    Token.read "container-foo" = .ok ⟨[], false, false, "container-foo"⟩ ∧
      Utility.fixed? "container-foo" = none ∧
      Row.longest Utility.rows "container-foo" = some ⟨"container", .family .container⟩ ∧
      centering.Lacks "foo" ∧
      Engine.resolve ⟨centering, {}, .empty⟩ "container-foo" =
        .ok ⟨[("width", .string "100%"), ("marginLeft", .string "auto"),
          ("marginRight", .string "auto")]⟩ := by
  have hread : Token.read "container-foo" = .ok ⟨[], false, false, "container-foo"⟩ := by
    decide
  have hfixed : Utility.fixed? "container-foo" = none := by decide
  have hrow : Row.longest Utility.rows "container-foo" =
      some ⟨"container", .family .container⟩ := by
    decide
  have hlacks : centering.Lacks "foo" := by
    intro name
    unfold Theme.resolve Theme.section? centering Entries.get?
    by_cases h : "container" = name
    · rw [if_pos h]
      decide
    · rw [if_neg h]
      exact ⟨rfl, rfl⟩
  refine ⟨hread, hfixed, hrow, hlacks, ?_⟩
  apply (resolve_unknown_suffix_iff hread rfl hfixed hrow (.inr ⟨by decide, hlacks⟩) _).2
  exact ⟨⟨.container, rfl, .inl rfl⟩, by decide⟩

theorem not_resolve_unknown_suffix :
    ¬∀ (theme : Theme) (options : Options) (raw : String) (token : Token) (row : Row)
      (rest : String), Token.read raw = .ok token → token.className = row.key ++ "-" ++ rest →
        Utility.fixed? token.className = none →
        Row.longest Utility.rows token.className = some row →
        (rest = "" ∨ ¬"opacity".toList <+: rest.toList ∧ theme.Lacks rest) →
        ∃ error, Engine.resolve ⟨theme, options, .empty⟩ raw = .error error := by
  intro h
  obtain ⟨error, he⟩ := h ⟨[("borderWidth", .object [("default", .string "1px")])]⟩ {} "border-"
    ⟨[], false, false, "border-"⟩ ⟨"border", .family .border⟩ "" (by decide) rfl
    (by decide) (by decide) (.inl rfl)
  have hresolved : Engine.resolve
      ⟨⟨[("borderWidth", .object [("default", .string "1px")])]⟩, {}, .empty⟩ "border-" =
        .ok ⟨[("borderWidth", .string "1px")]⟩ := by
    decide
  rw [hresolved] at he
  cases he

end Engine

end UtilityStyle
