import UtilityStyle.Proofs.Engine.Cascade
import UtilityStyle.Proofs.Engine.Invariant
import UtilityStyle.Proofs.Engine.Order
import UtilityStyle.Proofs.Style.Flat
import UtilityStyle.Proofs.Style.Keys

namespace UtilityStyle

namespace Utility

theorem flat_extensible : Extensible Style.Flat where
  empty := Style.flat_empty
  putText hs _ _ := hs.put rfl
  putNumber hs _ _ := hs.put rfl

end Utility

namespace Paint

theorem property_mem_colored (color property opacity mark : String) :
    property ∈ (colored color property opacity mark).keys := by
  unfold colored
  dsimp only
  split
  · simp
  · split
    · simp
    · exact Style.mem_keys_put.2 (.inl rfl)

end Paint

namespace Family

def opacityVariable (member : Family) : String := "--" ++ member.name ++ "-opacity"

def opacityKey (member : Family) : String :=
  if member = .placeholder then member.name else member.name ++ "-opacity"

end Family

namespace Utility

theorem opacity_rows : ∀ member ∈ [Family.bg, .text, .border, .divide, .placeholder],
    ∃ row ∈ rows, row.key = member.opacityKey ∧
      row.handler = (if member ∈ [.divide, .placeholder] then .family member
        else .descriptors row.descriptors) ∧
      (∀ d ∈ row.descriptors, d.properties = [member.opacityVariable]) ∧
      Row.Unextended rows row ∧
      ∀ name ∈ fixedNames, ¬Text.bytes (row.key ++ "-") <+: Text.bytes name := by
  decide +kernel

end Utility

theorem Route.find_opacity {member : Family}
    (hmember : member ∈ [.bg, .text, .border, .divide, .placeholder]) (rules : Rulebook)
    (rest : String) :
    ∃ row, row.key = member.opacityKey ∧
      (∀ d ∈ row.descriptors, d.properties = [member.opacityVariable]) ∧
      find rules (member.opacityKey ++ "-" ++ rest) =
        if member ∈ [.divide, .placeholder] then .family row member else .reading row := by
  obtain ⟨row, hrow, hkey, hhandler, hproperties, hunextended, hfixed⟩ :=
    Utility.opacity_rows member hmember
  refine ⟨row, hkey, hproperties, ?_⟩
  rw [← hkey, find_append hrow hunextended hfixed]
  split at hhandler <;> rename_i hm
  · rw [if_pos hm, ofRow_of_family hhandler]
  · rw [if_neg hm, ofRow_of_descriptors hhandler]

namespace Engine

variable {engine : Engine} {token : Token} {rest : String} {style : Style}

theorem exists_style_of_opacityRow {member : Family} (hmember : member ∈ [.bg, .text, .border])
    (hclass : token.className = member.opacityKey ++ "-" ++ rest) (hplain : token.important = false)
    (h : engine.style token = .ok style) : ∃ text, style = .one member.opacityVariable text := by
  have hreads : ∀ other ∈ [Family.bg, .text, .border],
      other ∈ [Family.bg, .text, .border, .divide, .placeholder] ∧
        other ∉ [Family.divide, .placeholder] := by
    decide
  obtain ⟨hmem, hfamily⟩ := hreads member hmember
  obtain ⟨row, -, hproperties, hfind⟩ := Route.find_opacity hmem engine.rules rest
  rw [if_neg hfamily, ← hclass] at hfind
  rw [style_of_reading hfind] at h
  obtain ⟨inner, hinner, rfl⟩ := Outcome.map_eq_ok_iff.1 h
  obtain ⟨d, hd, text, rfl⟩ := Row.exists_style_eq hinner
  refine ⟨text, ?_⟩
  rw [marked, hplain, Descriptor.style, hproperties d hd]
  rfl

theorem exists_style_of_divideOpacity (hclass : token.className = "divide-opacity" ++ "-" ++ rest)
    (h : engine.style token = .ok style) :
    ∃ text, style = .under Selector.laterSiblings (.one "--divide-opacity" text) := by
  obtain ⟨row, hkey, -, hfind⟩ := @Route.find_opacity .divide (by decide) engine.rules rest
  have hroute : Route.find engine.rules token.className = .family row .divide := hclass ▸ hfind
  rw [style_of_family hroute] at h
  obtain ⟨reading, hreading, found, rfl⟩ := Family.exists_style_eq (by decide) h
  rw [hkey] at hreading
  obtain ⟨name, -, rfl⟩ := List.mem_map.1 hreading
  exact ⟨found.text, rfl⟩

/-- A placeholder's class sets the opacity, or its end is a color all the same. -/
theorem exists_style_of_placeholder (hclass : token.className = "placeholder" ++ "-" ++ rest)
    (h : engine.style token = .ok style) :
    ∃ inner, style = .under "::placeholder" inner ∧
      ((∃ text, inner = .one "--placeholder-opacity" text) ∨
        "color" ∈ inner.keys ∧ inner.Flat) := by
  obtain ⟨row, -, -, hfind⟩ := @Route.find_opacity .placeholder (by decide) engine.rules rest
  have hroute : Route.find engine.rules token.className = .family row .placeholder :=
    hclass ▸ hfind
  rw [style_of_family hroute] at h
  obtain ⟨reading, hreading, found, rfl⟩ := Family.exists_style_eq (by decide) h
  change reading ∈ Paint.placeholderOpacityReadings _ ++ [_] at hreading
  unfold Paint.placeholderOpacityReadings at hreading
  rcases List.mem_append.1 hreading with hreading | hreading
  · split at hreading
    · obtain ⟨name, -, rfl⟩ := List.mem_map.1 hreading
      exact ⟨_, rfl, .inl ⟨found.text, rfl⟩⟩
    · cases hreading
  · obtain rfl := List.mem_singleton.1 hreading
    exact ⟨_, rfl, .inr ⟨Paint.property_mem_colored _ _ _ _,
      Paint.invariant_colored Utility.flat_extensible (by decide) (by decide) _ _⟩⟩

theorem exists_style_of_opacity {member : Family}
    (hmember : member ∈ [.bg, .text, .border, .divide, .placeholder])
    (hclass : token.className = member.name ++ "-opacity-" ++ rest)
    (hplain : token.important = false)
    (hcolor : member = .placeholder → ∀ d ∈ style.declarations, d.property ≠ "color")
    (h : engine.style token = .ok style) :
    ∃ text, style = (Style.one member.opacityVariable text).within member.selector := by
  have hrow : token.className = member.name ++ "-opacity" ++ "-" ++ rest := by
    rw [hclass, ← String.toList_inj]
    simp
  cases member with
  | container | space => exact absurd hmember (by decide)
  | bg | text | border => exact exists_style_of_opacityRow (by decide) hrow hplain h
  | divide => exact exists_style_of_divideOpacity hrow h
  | placeholder =>
    have hend : token.className = "placeholder" ++ "-" ++ ("opacity-" ++ rest) := by
      rw [hclass, ← String.toList_inj]
      simp [Family.name]
    obtain ⟨inner, rfl, ⟨text, rfl⟩ | ⟨hkey, hflat⟩⟩ := exists_style_of_placeholder hend h
    · exact ⟨text, rfl⟩
    · obtain ⟨d, hd, hproperty⟩ := (@Style.exists_declaration_within "color" inner
        ["::placeholder"]).2 ((Style.mem_keys_of_flat hflat).1 hkey)
      exact absurd hproperty (hcolor rfl d hd)

theorem style_of_plain {raw : String} (hread : Token.read raw = .ok token)
    (hvariants : token.variants = []) (h : engine.resolve raw = .ok style) :
    engine.style token = .ok style := by
  obtain ⟨-, found, keys, inner, hfound, hkeys, -, hinner, rfl⟩ := resolve_eq_ok_iff.1 h
  obtain rfl := Except.ok.inj (hread.symm.trans hfound)
  rw [hvariants] at hkeys
  obtain rfl : [] = keys := Except.ok.inj hkeys
  exact hinner

theorem resolveList_pair {raw other : String} {first second : Style} (hraw : IsWord raw)
    (hother : IsWord other) (hbefore : Order.before engine.theme raw other)
    (hnodup : first.keys.Nodup) (hfirst : engine.resolve raw = .ok first)
    (hsecond : engine.resolve other = .ok second) :
    engine.resolveList (raw ++ " " ++ other) = .ok (first.merge second) := by
  have hordered : engine.ordered (" ".intercalate [raw, other]) = [raw, other] := by
    have hsorted : [raw, other].Pairwise fun a b => Order.before engine.theme a b :=
      List.pairwise_pair.2 hbefore
    rw [ordered_intercalate engine (by simp [hraw, hother]), List.filter_eq_self.2,
      Order.byScreen_eq_self hsorted]
    simp [ne_empty_of_resolve hfirst, ne_empty_of_resolve hsecond]
  change engine.resolveAll (engine.ordered (" ".intercalate [raw, other])) = _
  rw [hordered, resolveAll, List.mapM_cons, hfirst, List.mapM_cons, hsecond]
  change Except.ok ((Style.empty.merge first).merge second) = _
  rw [Style.empty_merge hnodup]

/-- Behind a color the utility for its opacity changes the value of one variable. Everything else in
the style stays as it is and where it is. -/
theorem resolveList_opacity {theme : Theme} {options : Options} {member : Family} {row : Row}
    {raw other color opacity : String} {important : Bool} {first second : Style} {d : Declaration}
    (hmember : member ∈ [.bg, .text, .border, .divide, .placeholder])
    (hraw : IsWord raw) (hother : IsWord other)
    (hread : Token.read raw = .ok ⟨[], false, important, member.name ++ "-" ++ color⟩)
    (hopacity : Token.read other = .ok ⟨[], false, false, member.name ++ "-opacity-" ++ opacity⟩)
    (hroute : Route.find .empty (member.name ++ "-" ++ color) = .family row member)
    (hfirst : resolve ⟨theme, options, .empty⟩ raw = .ok first)
    (hstarts : ∃ e ∈ first.declarations, e.property = member.opacityVariable)
    (hsecond : resolve ⟨theme, options, .empty⟩ other = .ok second)
    (hd : d ∈ second.declarations) (hsets : d.property = member.opacityVariable)
    (hcolor : member = .placeholder → ∀ e ∈ second.declarations, e.property ≠ "color") :
    ∃ style, resolveList ⟨theme, options, .empty⟩ (raw ++ " " ++ other) = .ok style ∧
      style.paths = first.paths ∧
      style.declarations =
        first.declarations.map (.giving member.opacityVariable d.value) := by
  have hcontainer : member ≠ .container := by
    rintro rfl
    exact absurd hmember (by decide)
  have hbefore : Order.before theme raw other := by
    apply Order.before_of_rank?_eq
    rw [Order.rank?_of_read hread, Order.rank?_of_read hopacity]
  have hstyle := style_of_plain hread rfl hfirst
  rw [style_of_family hroute] at hstyle
  obtain ⟨inner, hflat, rfl⟩ :=
    Family.exists_style_eq_within Utility.flat_extensible hcontainer hstyle
  -- the first style starts the variable, so the second one only gives it another value
  have hkey : member.opacityVariable ∈ inner.keys :=
    (Style.mem_keys_of_flat hflat).2 (Style.exists_declaration_within.1 hstarts)
  obtain ⟨text, rfl⟩ :=
    exists_style_of_opacity hmember rfl rfl hcolor (style_of_plain hopacity rfl hsecond)
  have hvalue : d.value = .string text := by
    have hmem : d.value ∈ ((Style.one member.opacityVariable text).within
        member.selector).declarations.map (·.value) := List.mem_map_of_mem hd
    rw [Style.values_within] at hmem
    exact List.mem_singleton.1 hmem
  refine ⟨_, resolveList_pair hraw hother hbefore
    (Style.nodup_keys_within hflat.nodup _) hfirst hsecond, ?_⟩
  rw [Style.merge_within, Style.merge_one, hvalue]
  exact ⟨Style.paths_within_congr _ (Style.paths_put_of_flat hflat hkey rfl),
    Style.declarations_within_giving _ (Style.declarations_put_of_flat hflat hkey rfl)⟩

def painted : Theme :=
  ⟨[("colors", .object [("red", .string "#f00")]), ("opacity", .object [("50", .string "0.5")]),
    ("placeholderColor", .object [("red", .string "#f00"), ("opacity-x", .string "#000")])]⟩

theorem resolveList_opacity_divide :
    ∃ style, resolveList ⟨painted, {}, .empty⟩ "divide-red! divide-opacity-50" = .ok style ∧
      style.paths = [[Selector.laterSiblings], [Selector.laterSiblings, "--divide-opacity"],
        [Selector.laterSiblings, "borderColor"]] ∧
      style.declarations = [⟨[Selector.laterSiblings], "--divide-opacity", .string "0.5"⟩,
        ⟨[Selector.laterSiblings], "borderColor",
          .string "rgba(255, 0, 0, var(--divide-opacity)) !important"⟩] := by
  have hread : Token.read "divide-red!" = .ok ⟨[], false, true, "divide-red"⟩ := by decide
  have hopacity : Token.read "divide-opacity-50" = .ok ⟨[], false, false, "divide-opacity-50"⟩ := by
    decide
  have hroute : Route.find .empty "divide-red" = .family ⟨"divide", .family .divide⟩ .divide := by
    decide
  have hfirst : resolve ⟨painted, {}, .empty⟩ "divide-red!" =
      .ok (.under Selector.laterSiblings ⟨[("--divide-opacity", .string "1"),
        ("borderColor", .string "rgba(255, 0, 0, var(--divide-opacity)) !important")]⟩) := by
    decide +kernel
  have hsecond : resolve ⟨painted, {}, .empty⟩ "divide-opacity-50" =
      .ok (.under Selector.laterSiblings (.one "--divide-opacity" "0.5")) := by
    decide
  exact @resolveList_opacity painted {} .divide _ "divide-red!" "divide-opacity-50" "red" "50" true
    _ _ ⟨[Selector.laterSiblings], "--divide-opacity", .string "0.5"⟩ (by decide) (by decide)
    (by decide) hread hopacity hroute hfirst (by decide) hsecond (by decide) rfl
    (by decide)

/-- The color of placeholders that is named as an opacity is sets the variable too, and the color
with it. -/
theorem not_resolveList_opacity :
    ¬∀ (theme : Theme) (options : Options) (member : Family) (row : Row)
      (raw other color opacity : String) (important : Bool) (first second : Style)
      (d : Declaration),
      member ∈ [.bg, .text, .border, .divide, .placeholder] → IsWord raw → IsWord other →
      Token.read raw = .ok ⟨[], false, important, member.name ++ "-" ++ color⟩ →
      Token.read other = .ok ⟨[], false, false, member.name ++ "-opacity-" ++ opacity⟩ →
      Route.find .empty (member.name ++ "-" ++ color) = .family row member →
      resolve ⟨theme, options, .empty⟩ raw = .ok first →
      (∃ e ∈ first.declarations, e.property = member.opacityVariable) →
      resolve ⟨theme, options, .empty⟩ other = .ok second →
      d ∈ second.declarations → d.property = member.opacityVariable →
      ∃ style, resolveList ⟨theme, options, .empty⟩ (raw ++ " " ++ other) = .ok style ∧
        style.paths = first.paths ∧
        style.declarations =
          first.declarations.map (.giving member.opacityVariable d.value) := by
  intro h
  have hread : Token.read "placeholder-red" = .ok ⟨[], false, false, "placeholder-red"⟩ := by
    decide
  have hopacity : Token.read "placeholder-opacity-x" =
      .ok ⟨[], false, false, "placeholder-opacity-x"⟩ := by
    decide
  have hroute : Route.find .empty "placeholder-red" =
      .family ⟨"placeholder", .family .placeholder⟩ .placeholder := by
    decide
  have hfirst : resolve ⟨painted, {}, .empty⟩ "placeholder-red" =
      .ok (.under "::placeholder" ⟨[("--placeholder-opacity", .string "1"),
        ("color", .string "rgba(255, 0, 0, var(--placeholder-opacity))")]⟩) := by
    decide +kernel
  have hsecond : resolve ⟨painted, {}, .empty⟩ "placeholder-opacity-x" =
      .ok (.under "::placeholder" ⟨[("--placeholder-opacity", .string "1"),
        ("color", .string "rgba(0, 0, 0, var(--placeholder-opacity))")]⟩) := by
    decide +kernel
  obtain ⟨style, hstyle, -, hdeclarations⟩ := h painted {} .placeholder _ "placeholder-red"
    "placeholder-opacity-x" "red" "x" false _ _
    ⟨["::placeholder"], "--placeholder-opacity", .string "1"⟩ (by decide) (by decide) (by decide)
    hread hopacity hroute hfirst (by decide) hsecond (by decide) rfl
  have hbefore : Order.before painted "placeholder-red" "placeholder-opacity-x" := by
    decide
  have hpair := resolveList_pair (by decide) (by decide) hbefore (by decide) hfirst hsecond
  obtain rfl := Except.ok.inj (hpair.symm.trans hstyle)
  revert hdeclarations
  decide +kernel

end Engine

end UtilityStyle
