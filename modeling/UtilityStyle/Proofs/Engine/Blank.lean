import UtilityStyle.Proofs.Engine.Invariant
import UtilityStyle.Proofs.Engine.Shown
import UtilityStyle.Proofs.Engine.Sign
import UtilityStyle.Proofs.Utility.Blank

namespace UtilityStyle

theorem Style.hasBlank_setAll {properties : List String} (h : properties ≠ []) {text : String} :
    (setAll properties text).HasBlank ↔ IsBlank text := by
  have htexts : setAll properties text =
      ofTexts (properties.map fun property => (property, text)) := by
    rw [setAll, ofTexts, List.map_map]
    rfl
  rw [htexts, hasBlank_ofTexts]
  simp [List.exists_mem_of_ne_nil properties h]

theorem Utility.properties_ne_nil : ∀ row ∈ rows, ∀ d ∈ row.descriptors, d.properties ≠ [] := by
  decide

namespace Row

/-- A value of the section leaves a blank in the style of the row. A sign in front of it is seen. -/
def LeavesBlank (row : Row) (r : Request) (source : String) (found : ThemeValue) : Prop :=
  match row.handler with
  | .descriptors _ => r.token.negative = false ∧ found.Vanishes r.token.mark
  | .family member => member.LeavesBlank r source found

variable {row : Row} {r : Request} {reading : Reading} {found : ThemeValue} {theme : Theme}
  {source key : String} {token : Token}

theorem isBlank_signed_iff (hfound : theme.resolve source key = .ok (some found)) :
    Style.IsBlank (signed token found ++ token.mark) ↔
      token.negative = false ∧ found.Vanishes token.mark := by
  cases hnegative : token.negative with
  | true =>
    have hsign : '-' ∈ (signed token found ++ token.mark).toList := by
      cases found <;> simp [signed, Token.sign, hnegative]
    exact iff_of_false (Style.not_isBlank_of_mem hsign (by decide) (by decide)) (by simp)
  | false =>
    have hplain : signed token found = found.text := by
      cases found <;> simp [signed, Token.sign, hnegative, ThemeValue.text]
    rw [hplain, and_iff_right rfl]
    exact ThemeValue.isBlank_text_iff token.mark_cases hfound

theorem hasBlank_finish_iff (hrow : row ∈ Utility.rows) (hreading : reading ∈ row.tries r)
    (hfound : r.theme.resolve reading.source reading.key = .ok (some found)) :
    (row.finish r.token (reading.style found)).HasBlank ↔
      row.LeavesBlank r reading.source found := by
  unfold tries at hreading
  unfold finish LeavesBlank
  cases hhandler : row.handler with
  | descriptors list =>
    rw [hhandler] at hreading
    obtain ⟨d, hd, rfl⟩ := List.mem_map.1 hreading
    dsimp only
    rw [Descriptor.style_eq_setAll (Utility.nodup_properties row hrow d hd), Engine.marked_setAll,
      Style.hasBlank_setAll (Utility.properties_ne_nil row hrow d hd)]
    exact isBlank_signed_iff hfound
  | family member =>
    rw [hhandler] at hreading
    exact Family.hasBlank_iff hreading hfound

end Row

theorem Utility.starts_fixed : ∀ entry ∈ fixed, ∀ d ∈ entry.2.declarations,
    ∀ text ∈ d.value.string?, (Text.bytes text).head?.any Text.isVisibleByte := by
  decide +kernel

theorem Utility.not_hasBlank_fixed {entry : String × Style} (h : entry ∈ fixed) :
    ¬entry.2.HasBlank := by
  rintro ⟨d, hd, hblank⟩
  cases hvalue : d.value with
  | string text =>
    obtain ⟨c, hc, hvisible⟩ :=
      Text.exists_visible_head (starts_fixed entry h d hd text (by rw [hvalue]; rfl))
    rw [hvalue] at hblank
    exact Style.not_isBlank_of_head hc hvisible hblank
  | null | bool | number | array | object =>
    rw [hvalue] at hblank
    exact hblank

namespace Engine

variable {engine : Engine} {raw : String} {token : Token} {row : Row} {style : Style}

theorem not_hasBlank_of_fixed {name : String} {inner : Style}
    (hroute : Route.find engine.rules token.className = .fixed name inner)
    (h : engine.style token = .ok style) : ¬style.HasBlank := by
  rw [style_eq_ok_iff, hroute] at h
  obtain ⟨-, rfl⟩ := h
  have hplain : ¬inner.HasBlank :=
    Utility.not_hasBlank_fixed (Entries.mem_of_get?_eq_some (Route.fixed?_of_find hroute))
  unfold marked
  split
  · exact fun h => hplain h.of_markImportant
  · exact hplain

theorem hasBlank_of_row (hroute : Route.find engine.rules token.className = .ofRow row)
    (hne : row.handler ≠ .family .container) (h : engine.style token = .ok style) :
    style.HasBlank ↔
      ∃ reading found,
        Reading.Finds engine.theme (row.tries ⟨engine.theme, engine.options, token, row.key⟩)
          reading found ∧
        row.LeavesBlank ⟨engine.theme, engine.options, token, row.key⟩ reading.source found := by
  obtain ⟨reading, found, hfinds, rfl⟩ := exists_finds_of_style hroute hne h
  have hblank := Row.hasBlank_finish_iff (Route.mem_of_find_eq_ofRow hroute) hfinds.mem
    hfinds.resolve
  constructor
  · intro h
    exact ⟨reading, found, hfinds, hblank.1 h⟩
  · rintro ⟨other, second, hsecond, hleaves⟩
    obtain ⟨rfl, rfl⟩ := hfinds.unique hsecond
    exact hblank.2 hleaves

/-- A token that neither a rule nor the container takes has a blank declaration just if its row
finds a value that leaves one: a list in which there is nothing to be seen, a list with a blank
size or height for a font, or a text that is nothing but a mark of importance and gets no other.
Lengths in calculations and values behind a sign leave none. -/
theorem hasBlank_resolve (hread : Token.read raw = .ok token)
    (hrule : Route.find engine.rules token.className ≠ .rule)
    (hcontainer : AvoidsContainer engine.rules raw) (hresolve : engine.resolve raw = .ok style) :
    style.HasBlank ↔
      ∃ row reading found, Route.find engine.rules token.className = .ofRow row ∧
        Reading.Finds engine.theme (row.tries ⟨engine.theme, engine.options, token, row.key⟩)
          reading found ∧
        row.LeavesBlank ⟨engine.theme, engine.options, token, row.key⟩ reading.source found := by
  obtain ⟨-, other, keys, inner, hother, -, -, hinner, rfl⟩ := resolve_eq_ok_iff.1 hresolve
  obtain rfl := Except.ok.inj (hread.symm.trans hother)
  rw [Style.hasBlank_within]
  rcases Route.find_cases engine.rules token.className with
    ⟨name, fixed, hroute⟩ | ⟨row, hroute⟩ | hroute | hroute
  · refine iff_of_false (not_hasBlank_of_fixed hroute hinner) ?_
    rintro ⟨row, -, -, hrow, -⟩
    exact Route.fixed_ne_ofRow (hroute.symm.trans hrow)
  · have hne : row.handler ≠ .family .container := fun hhandler =>
      hcontainer token hread row (hroute.trans (Route.ofRow_of_family hhandler))
    rw [hasBlank_of_row hroute hne hinner]
    constructor
    · rintro ⟨reading, found, hfinds, hleaves⟩
      exact ⟨row, reading, found, hroute, hfinds, hleaves⟩
    · rintro ⟨other, reading, found, hother, hfinds, hleaves⟩
      obtain rfl := Route.eq_of_ofRow_eq (hroute.symm.trans hother)
      exact ⟨reading, found, hfinds, hleaves⟩
  · exact absurd hroute hrule
  · rw [style_eq_ok_iff, hroute] at hinner
    cases hinner

def bareHeight : Engine :=
  ⟨⟨[("fontSize", .object [("x", .array [.string "1rem", .string " "])])]⟩, {}, .empty⟩

theorem bareHeight_finds :
    Reading.Finds bareHeight.theme
      (Paint.textReadings ⟨bareHeight.theme, {}, ⟨["hover"], false, true, "text-x"⟩, "text"⟩)
      ⟨"fontSize", "x", Paint.fontSize Style.importantMark⟩ (.list ["1rem", " "]) :=
  Reading.finds_cons_iff.2 (.inr ⟨rfl, Reading.finds_cons_iff.2 (.inl ⟨rfl, rfl⟩)⟩)

theorem bareHeight_resolves :
    bareHeight.resolve "hover:text-x!" =
      .ok (.under ":hover" ⟨[("fontSize", .string "1rem !important"),
        ("lineHeight", .string "  !important")]⟩) :=
  resolve_eq_ok_iff.2 ⟨by decide, ⟨["hover"], false, true, "text-x"⟩, [":hover"], _, by decide,
    by decide, by decide, rfl, rfl⟩

theorem hasBlank_resolve_height :
    ∃ style, bareHeight.resolve "hover:text-x!" = .ok style ∧ style.HasBlank ∧
      ThemeValue.VanishesInFont Style.importantMark (.list ["1rem", " "]) := by
  have hroute : Route.find .empty "text-x" = .ofRow ⟨"text", .family .text⟩ := rfl
  have hblank := @hasBlank_resolve bareHeight "hover:text-x!" ⟨["hover"], false, true, "text-x"⟩ _
    (by decide) (by decide) (by decide) bareHeight_resolves
  refine ⟨_, bareHeight_resolves, by decide, ?_⟩
  obtain ⟨row, reading, found, hrow, hfinds, hleaves⟩ := hblank.1 (by decide)
  obtain rfl := Route.eq_of_ofRow_eq (hrow.symm.trans hroute)
  obtain ⟨rfl, rfl⟩ := hfinds.unique bareHeight_finds
  exact hleaves

/-- An empty list hides the section behind it. -/
theorem not_forall_not_hasBlank :
    ¬∀ (engine : Engine) (raw : String) (token : Token) (style : Style),
      Token.read raw = .ok token → engine.rules = .empty → AvoidsContainer engine.rules raw →
      engine.resolve raw = .ok style → ¬style.HasBlank := by
  intro h
  have hresolve : Engine.resolve
      ⟨⟨[("fontFamily", .object [("x", .array [])]),
        ("fontWeight", .object [("x", .string "700")])]⟩, {}, .empty⟩ "font-x" =
      .ok (.one "fontFamily" "") :=
    resolve_eq_ok_iff.2 ⟨by decide, ⟨[], false, false, "font-x"⟩, [], _, by decide, by decide,
      by decide, rfl, rfl⟩
  exact h _ "font-x" ⟨[], false, false, "font-x"⟩ _ (by decide) rfl (by decide) hresolve (by decide)

end Engine

end UtilityStyle
