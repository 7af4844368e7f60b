import UtilityStyle.Proofs.Engine.Success
import UtilityStyle.Proofs.Theme.Derived
import UtilityStyle.Proofs.Theme.Scale

/-!
Margins over a user's spacing. The margins of a theme are the spacing and the negative twins of its
texts. A class with a minus sign looks up the twin and sets its own sign in front of it, in place of
the sign of the twin if the twin has one. So the class turns the sign of texts that have none, of
texts that have two, and of nothing else.
-/

namespace UtilityStyle

def Style.setAll (properties : List String) (text : String) : Style :=
  ⟨properties.map fun property => (property, .string text)⟩

theorem Style.setAll_inj {properties : List String} (h : properties ≠ []) {a b : String} :
    setAll properties a = setAll properties b ↔ a = b := by
  cases properties with
  | nil => exact absurd rfl h
  | cons property rest =>
    constructor
    · intro he
      injection he with he
      injection (List.cons.inj he).1 with _ htext
      exact Json.string.inj htext
    · rintro rfl
      rfl

namespace Descriptor

theorem foldl_putText {properties : List String} {text : String} {style : Style}
    (h : properties.Nodup) (hs : ∀ property ∈ properties, property ∉ style.keys) :
    properties.foldl (fun style property => style.putText property text) style =
      ⟨style.fields ++ (Style.setAll properties text).fields⟩ := by
  induction properties generalizing style with
  | nil => simp [Style.setAll]
  | cons property rest ih =>
    obtain ⟨hfresh, hrest⟩ := List.nodup_cons.1 h
    obtain ⟨hnew, hothers⟩ := List.forall_mem_cons.1 hs
    have hput : style.putText property text = ⟨style.fields ++ [(property, .string text)]⟩ :=
      congrArg Style.mk (Entries.put_of_not_mem hnew _)
    rw [List.foldl_cons, hput, ih hrest]
    · simp [Style.setAll]
    · intro other ho
      have hne : other ≠ property := fun e => hfresh (e ▸ ho)
      simpa [Style.keys, Entries.keys, hne] using hothers other ho

theorem style_eq_setAll {d : Descriptor} (h : d.properties.Nodup) (text : String) :
    d.style text = .setAll d.properties text := by
  unfold style
  rw [foldl_putText h (by simp [Style.keys, Style.empty, Entries.keys])]
  rfl

end Descriptor

/-- A key that can end a class name and is still whole when the token is taken apart. -/
structure Scale.Ends (key : String) : Prop where
  nonempty : key ≠ ""
  noColon : ':' ∉ key.toList
  noSign : key.toList.head? ≠ some '-'
  noDash : key.toList.getLast? ≠ some '-'
  noBang : key.toList.getLast? ≠ some '!'

namespace Theme

def spacingOnly (spacing : Fields) : Overrides := ⟨[("spacing", .object spacing)], []⟩

def margins (spacing : Fields) : Fields := Scale.around [("auto", .string "auto")] spacing

theorem section?_margin (spacing : Fields) :
    (spacingOnly spacing).theme.section? "margin" = some (.object (margins spacing)) := by
  have hspacing : (spacingOnly spacing).theme.section? "spacing" = some (.object spacing) :=
    @Overrides.section?_theme (spacingOnly spacing) "spacing" (.fixed spacingScale)
      (Entries.mem_of_get?_eq_some rfl)
  have hmargin := @Overrides.section?_theme (spacingOnly spacing) "margin"
    (.around (Scale.texts [("auto", "auto")]) "spacing" true []) (Entries.mem_of_get?_eq_some rfl)
  rw [hmargin, Tokens.value_around hspacing]
  rfl

theorem resolve_margin {spacing : Fields} (hflat : Scale.Flat spacing) {key : String}
    (hk : key ≠ "") :
    (spacingOnly spacing).theme.resolve "margin" key =
      .ok (((Entries.get? key (margins spacing)).filter (!·.isEmpty)).bind fun value =>
        (Scale.text? value).map .scalar) := by
  have hauto : Scale.Flat [("auto", .string "auto")] := by
    rintro entry (_ | ⟨_, ⟨⟩⟩)
    rfl
  have hmargins : Scale.Flat (margins spacing) :=
    Scale.flat_putAll (Scale.flat_putAll hauto hflat) (Scale.flat_negated spacing)
  unfold resolve
  rw [section?_margin]
  exact Scale.inFields_of_flat hmargins hk

end Theme

namespace Row

def properties (row : Row) : List String := row.descriptors.flatMap (·.properties)

theorem style_reads {key source : String} {properties : List String} (h : properties.Nodup)
    {theme : Theme} {options : Options} {token : Token} {style : Style} :
    (Utility.reads key properties source).style theme options token = .ok style ↔
      token.className.toList.getLast? ≠ some '-' ∧ ∃ found,
        theme.resolve source
          (token.sign ++ (Utility.reads key properties source).suffix token.className) =
            .ok (some found) ∧
        .setAll properties (signed token found) = style := by
  have hsource : Descriptor.sourceIn theme ⟨properties, source, none⟩ = source := ite_self source
  have hstyle := @Descriptor.style_eq_setAll ⟨properties, source, none⟩ h
  rw [style_eq_ok_iff]
  apply and_congr_right
  intro _
  change Reading.first? theme [⟨Descriptor.sourceIn theme _, _, _⟩] = _ ↔ _
  rw [hsource, Reading.first?_cons]
  simp only [hstyle]
  cases theme.resolve source _ with
  | error cause => simp [bind, Except.bind]
  | ok found? => cases found? <;> simp [bind, Except.bind, Reading.first?]

def token (row : Row) (negative : Bool) (key : String) : Token :=
  ⟨[], negative, false, row.key ++ "-" ++ key⟩

theorem text_token (row : Row) (negative : Bool) (key : String) :
    (row.token negative key).text =
      (if negative then "-" else "") ++ (row.key ++ "-" ++ key) := by
  cases negative <;> simp [token, Token.text, Token.unscoped, Token.sign, Token.bang]

theorem getLast?_token {key : String} (h : key ≠ "") (row : Row) (negative : Bool) :
    (row.token negative key).className.toList.getLast? = key.toList.getLast? := by
  have hne : key.toList ≠ [] := by simpa using h
  unfold token
  rw [@String.toList_append (row.key ++ "-"), List.getLast?_append_of_ne_nil _ hne]

theorem grammatical_token {row : Row} (hrow : row ∈ Utility.rows) {key : String}
    (hkey : Scale.Ends key) (negative : Bool) : (row.token negative key).Grammatical where
  isName := by
    rintro name ⟨⟩
  noColon := by
    obtain ⟨-, -, hcolon, -, -⟩ := Utility.grammatical_key row hrow
    simp [token, hcolon, hkey.noColon]
  noSign := by
    obtain ⟨hne, -, -, hsign, -⟩ := Utility.grammatical_key row hrow
    have hkey : row.key.toList ≠ [] := by simpa using hne
    obtain ⟨c, rest, hc⟩ := List.exists_cons_of_ne_nil hkey
    rw [hc] at hsign
    simpa [token, hc] using hsign
  noBang := by
    rw [getLast?_token hkey.nonempty]
    exact hkey.noBang

end Row

namespace Utility

def marginKeys : List String := ["m", "mt", "mr", "mb", "ml", "mx", "my"]

/-- A margin row copies a value of the margins to its properties, and nothing else in the tables has
a name that starts as its classes do. -/
theorem margin_rows : ∀ row ∈ rows, row.key ∈ marginKeys →
    row = reads row.key row.properties "margin" ∧ row.properties ≠ [] ∧ row.properties.Nodup ∧
      Row.Unextended rows row ∧
      ∀ name ∈ fixedNames, ¬Text.bytes (row.key ++ "-") <+: Text.bytes name := by
  decide +kernel

end Utility

namespace Engine

variable {engine : Engine} {spacing : Fields} {row : Row} {key : String}

theorem find_margin {rules : Rulebook} (hrow : row ∈ Utility.rows)
    (hmargin : row.key ∈ Utility.marginKeys) (key : String) :
    Route.find rules (row.key ++ "-" ++ key) = .reading row := by
  obtain ⟨hreads, -, -, hunextended, hfixed⟩ := Utility.margin_rows row hrow hmargin
  rw [Route.find_append hrow hunextended hfixed key,
    Route.ofRow_of_descriptors (congrArg Row.handler hreads)]

theorem resolve_margin_iff (hrow : row ∈ Utility.rows) (hmargin : row.key ∈ Utility.marginKeys)
    (hkey : Scale.Ends key) (negative : Bool) {style : Style} :
    engine.resolve (row.token negative key).text = .ok style ↔
      ∃ found, engine.theme.resolve "margin" ((row.token negative key).sign ++ key) =
          .ok (some found) ∧
        .setAll row.properties (Row.signed (row.token negative key) found) = style := by
  obtain ⟨hreads, -, hnodup, -, -⟩ := Utility.margin_rows row hrow hmargin
  have hdash : '-' ∈ (row.token negative key).className.toList := by simp [Row.token]
  have hgroup : (row.token negative key).className ≠ "group" :=
    fun he => absurd (he ▸ hdash) (by decide)
  have hempty : (row.token negative key).className ≠ "" :=
    fun he => absurd (he ▸ hdash) (by decide)
  have hkeys : Variant.keys engine.theme engine.options.sassyPseudo
      (row.token negative key).variants = .ok [] := rfl
  have hengine : engine.style (row.token negative key) =
      (row.style engine.theme engine.options (row.token negative key)).map id :=
    style_of_reading (find_margin hrow hmargin key)
  have hrowStyle := @Row.style_reads row.key "margin" row.properties hnodup engine.theme
    engine.options (row.token negative key) style
  have hsuffix : row.suffix (row.token negative key).className = key := row.suffix_append key
  rw [← hreads, Row.getLast?_token hkey.nonempty, hsuffix, and_iff_right hkey.noDash] at hrowStyle
  rw [← hrowStyle, resolve_text_eq_ok_iff (Row.grammatical_token hrow hkey negative) hgroup hempty,
    hengine]
  simp [hkeys]

theorem resolve_margin_of_spacing {value : Json} {text : String}
    (htheme : engine.theme = (Theme.spacingOnly spacing).theme)
    (hnodup : (Entries.keys spacing).Nodup) (hflat : Scale.Flat spacing)
    (hvalue : Entries.get? key spacing = some value) (htext : Scale.text? value = some text)
    (hblank : Text.allBlank text = false) (hkey : Scale.Ends key) (hrow : row ∈ Utility.rows)
    (hmargin : row.key ∈ Utility.marginKeys) :
    engine.resolve (row.key ++ "-" ++ key) = .ok (.setAll row.properties text) := by
  have hget : Entries.get? key (Theme.margins spacing) = some value := by
    unfold Theme.margins
    rw [Scale.get?_around hnodup hkey.noSign, hvalue, Option.some_or]
  have hempty := Scale.isEmpty_eq_false_of_text? htext hblank
  have hresolve : engine.theme.resolve "margin" key = .ok (some (.scalar text)) := by
    rw [htheme, Theme.resolve_margin hflat hkey.nonempty, hget]
    simp [Option.filter, hempty, htext]
  have hclass := (@resolve_margin_iff engine row key hrow hmargin hkey false
    (.setAll row.properties text)).2 ⟨_, hresolve, rfl⟩
  rwa [Row.text_token] at hclass

theorem resolve_negative_margin_iff (htheme : engine.theme = (Theme.spacingOnly spacing).theme)
    (hnodup : (Entries.keys spacing).Nodup) (hflat : Scale.Flat spacing)
    (hkey : Scale.Ends key) (hrow : row ∈ Utility.rows)
    (hmargin : row.key ∈ Utility.marginKeys) {style : Style} :
    engine.resolve ("-" ++ row.key ++ "-" ++ key) = .ok style ↔
      ∃ found text, Scale.opposite? spacing key = some found ∧ found.isEmpty = false ∧
        Scale.text? found = some text ∧ style = .setAll row.properties ("-" ++ unsigned text) := by
  have htoken : "-" ++ row.key ++ "-" ++ key = (row.token true key).text := by
    rw [Row.text_token]
    simp [String.append_assoc]
  have hget : Entries.get? ("-" ++ key) (Theme.margins spacing) =
      Scale.opposite? spacing key := by
    unfold Theme.margins
    have hauto : Entries.get? ("-" ++ key) [("auto", Json.string "auto")] = none := by
      rw [Entries.get?_eq_none_iff]
      simp [Entries.keys, ← String.toList_inj]
    rw [Scale.get?_around_signed hnodup, hauto, Option.or_none]
  rw [htoken, resolve_margin_iff hrow hmargin hkey true, htheme]
  change (∃ found, Theme.resolve _ "margin" ("-" ++ key) = _ ∧ _) ↔ _
  rw [Theme.resolve_margin hflat (by simp), hget]
  constructor
  · rintro ⟨found, hfound, rfl⟩
    obtain ⟨value, hvalue, hscalar⟩ := Option.bind_eq_some_iff.1 (Except.ok.inj hfound)
    obtain ⟨text, htext, rfl⟩ := Option.map_eq_some_iff.1 hscalar
    obtain ⟨hopposite, hempty⟩ := Option.filter_eq_some_iff.1 hvalue
    exact ⟨value, text, hopposite, by simpa using hempty, htext, rfl⟩
  · rintro ⟨value, text, hopposite, hempty, htext, rfl⟩
    exact ⟨.scalar text, by simp [hopposite, Option.filter, hempty, htext], rfl⟩

/-- A margin class sets the text that the spacing has under its end, in all properties of its row.
With a minus sign it sets the opposite under a sign of its own, which makes the negated text just of
texts that turn, and there is no opposite of a number. -/
theorem margin_round_trip {engine : Engine} {spacing : Fields} {row : Row} {key text : String}
    {value : Json}
    (htheme : Theme.withOverrides (.object [("spacing", .object spacing)]) = .ok engine.theme)
    (hnodup : (Entries.keys spacing).Nodup) (hflat : Scale.Flat spacing)
    (hvalue : Entries.get? key spacing = some value) (htext : Scale.text? value = some text)
    (hblank : Text.allBlank text = false) (hzero : text ≠ "0") (hkey : Scale.Ends key)
    (hrow : row ∈ Utility.rows) (hmargin : row.key ∈ Utility.marginKeys) :
    row.properties ≠ [] ∧
      engine.resolve (row.key ++ "-" ++ key) = .ok (.setAll row.properties text) ∧
      (∀ style, engine.resolve ("-" ++ row.key ++ "-" ++ key) = .ok style ↔
        ∃ found other, Scale.opposite? spacing key = some found ∧ found.isEmpty = false ∧
          Scale.text? found = some other ∧
          style = .setAll row.properties ("-" ++ unsigned other)) ∧
      (value = .string text →
        (engine.resolve ("-" ++ row.key ++ "-" ++ key) =
            .ok (.setAll row.properties (Scale.negatedText text)) ↔ Scale.Turns text)) ∧
      (∀ number, value = .number number → Entries.get? ("-" ++ key) spacing = none →
        ∀ style, engine.resolve ("-" ++ row.key ++ "-" ++ key) ≠ .ok style) := by
  have htheme : engine.theme = (Theme.spacingOnly spacing).theme := (Except.ok.inj htheme).symm
  obtain ⟨-, hproperties, -, -, -⟩ := Utility.margin_rows row hrow hmargin
  have hnegative := fun style => @resolve_negative_margin_iff engine spacing row key htheme hnodup
    hflat hkey hrow hmargin style
  refine ⟨hproperties, resolve_margin_of_spacing htheme hnodup hflat hvalue htext hblank hkey hrow
    hmargin, hnegative, ?_, ?_⟩
  -- a text has a twin with the other sign
  · rintro rfl
    have hopposite : Scale.opposite? spacing key =
        some (.string (Scale.negatedText text)) := by
      simp [Scale.opposite?, hvalue, Scale.twin?, hzero]
    rw [hnegative, Scale.turns_iff hblank, hopposite]
    simp only [Option.some.injEq, Style.setAll_inj hproperties]
    constructor
    · rintro ⟨_, _, rfl, hempty, ⟨⟩, he⟩
      exact ⟨hempty, he⟩
    · rintro ⟨hempty, he⟩
      exact ⟨_, _, rfl, hempty, rfl, he⟩
  -- a number has none
  · rintro number rfl hnone style hstyle
    obtain ⟨found, _, hfound, -⟩ := (hnegative style).1 hstyle
    simp [Scale.opposite?, hvalue, Scale.twin?, hnone] at hfound

theorem margin_round_trip_unsigned :
    Engine.resolve ⟨(Theme.spacingOnly [("4", .string "1rem"), ("-4", .string "9px")]).theme, {},
        .empty⟩ "mx-4" =
      .ok ⟨[("marginLeft", .string "1rem"), ("marginRight", .string "1rem")]⟩ ∧
    Engine.resolve ⟨(Theme.spacingOnly [("4", .string "1rem"), ("-4", .string "9px")]).theme, {},
        .empty⟩ "-mx-4" =
      .ok ⟨[("marginLeft", .string "-1rem"), ("marginRight", .string "-1rem")]⟩ := by
  obtain ⟨-, hplain, -, hturn, -⟩ := @margin_round_trip
    ⟨(Theme.spacingOnly [("4", .string "1rem"), ("-4", .string "9px")]).theme, {}, .empty⟩
    [("4", .string "1rem"), ("-4", .string "9px")]
    (Utility.reads "mx" ["marginLeft", "marginRight"] "margin") "4" "1rem" (.string "1rem") rfl
    (by decide) (by simp [Scale.Flat, Scale.text?]) rfl rfl (by decide) (by decide)
    ⟨by decide, by decide, by decide, by decide, by decide⟩ (by decide) (by decide)
  have hunsigned : ∀ rest, "1rem" ≠ "-" ++ rest :=
    Text.afterStart_eq_none_iff.1 (by decide)
  exact ⟨hplain, (hturn rfl).2 (.inl hunsigned)⟩

/-- The sign of a text that has one is turned twice. -/
theorem not_margin_round_trip :
    ¬∀ (engine : Engine) (spacing : Fields) (row : Row) (key text : String) (value : Json),
      Theme.withOverrides (.object [("spacing", .object spacing)]) = .ok engine.theme →
        (Entries.keys spacing).Nodup → Scale.Flat spacing →
        Entries.get? key spacing = some value → Scale.text? value = some text →
        Text.allBlank text = false → text ≠ "0" → Scale.Ends key → row ∈ Utility.rows →
        row.key ∈ Utility.marginKeys →
        engine.resolve (row.key ++ "-" ++ key) = .ok (.setAll row.properties text) ∧
          engine.resolve ("-" ++ row.key ++ "-" ++ key) =
            .ok (.setAll row.properties (Scale.negatedText text)) := by
  intro h
  have hflat : Scale.Flat [("1", .string "-1rem")] := by simp [Scale.Flat, Scale.text?]
  have hends : Scale.Ends "1" := ⟨by decide, by decide, by decide, by decide, by decide⟩
  have hrow : Utility.reads "m" ["margin"] "margin" ∈ Utility.rows := by decide
  obtain ⟨-, hturned⟩ := h ⟨(Theme.spacingOnly [("1", .string "-1rem")]).theme, {}, .empty⟩
    [("1", .string "-1rem")] (Utility.reads "m" ["margin"] "margin") "1" "-1rem" (.string "-1rem")
    rfl (by decide) hflat rfl rfl (by decide) (by decide) hends hrow (by decide)
  obtain ⟨found, other, hfound, -, hother, he⟩ := (@resolve_negative_margin_iff
    ⟨(Theme.spacingOnly [("1", .string "-1rem")]).theme, {}, .empty⟩ [("1", .string "-1rem")]
    (Utility.reads "m" ["margin"] "margin") "1" rfl (by decide) hflat hends hrow (by decide) _).1
    hturned
  cases hfound
  cases hother
  exact absurd he (by decide)

end Engine

end UtilityStyle
