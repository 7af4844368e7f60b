import UtilityStyle.Proofs.Engine.Margin
import UtilityStyle.Proofs.Suggestion.Candidate

namespace UtilityStyle

/-- The text behind one minus sign, which replaces the first that it has. -/
def signedOnce (text : String) : String := "-" ++ (Text.afterStart "-" text).getD text

def DoublySigned (text : String) : Prop := ∃ rest, text = "-" ++ ("-" ++ rest)

section Signs

variable {text : String}

theorem signed_or_unsigned (text : String) :
    (∃ rest, text = "-" ++ rest) ∨ ∀ rest, text ≠ "-" ++ rest := by
  rw [← not_exists]
  exact em _

theorem signedOnce_dash_append (rest : String) : signedOnce ("-" ++ rest) = "-" ++ rest := by
  rw [signedOnce, Text.afterStart_eq_some_iff.2 rfl, Option.getD_some]

theorem signedOnce_of_unsigned (h : ∀ rest, text ≠ "-" ++ rest) :
    signedOnce text = "-" ++ text := by
  rw [signedOnce, Text.afterStart_eq_none_iff.2 h, Option.getD_none]

theorem dash_append_eq_signedOnce_iff :
    "-" ++ text = signedOnce text ↔ ∀ rest, text ≠ "-" ++ rest := by
  constructor
  · rintro h rest rfl
    rw [signedOnce_dash_append] at h
    exact Scale.ne_dash_append _ ((String.append_right_inj "-").1 h).symm
  · intro h
    exact (signedOnce_of_unsigned h).symm

theorem dash_append_unsigned (h : text ≠ "-") : "-" ++ unsigned text = signedOnce text := by
  obtain ⟨rest, rfl⟩ | hunsigned := signed_or_unsigned text
  · have hrest : rest ≠ "" := by
      rintro rfl
      exact h rfl
    rw [signedOnce_dash_append, ← Scale.eq_dash_append_unsigned_iff.2 ⟨rest, hrest, rfl⟩]
  · have hself : text = unsigned text := (eq_unsigned_or text).resolve_right (hunsigned _)
    rw [signedOnce_of_unsigned hunsigned, ← hself]

theorem doublySigned_dash_append_iff : DoublySigned ("-" ++ text) ↔ ∃ rest, text = "-" ++ rest :=
  exists_congr fun _ => String.append_right_inj "-"

theorem doublySigned_signedOnce_iff : DoublySigned (signedOnce text) ↔ DoublySigned text := by
  obtain ⟨rest, rfl⟩ | hunsigned := signed_or_unsigned text
  · rw [signedOnce_dash_append]
  · rw [signedOnce_of_unsigned hunsigned, doublySigned_dash_append_iff]
    refine iff_of_false (not_exists.2 hunsigned) ?_
    rintro ⟨rest, he⟩
    exact hunsigned _ he

end Signs

namespace Sibling

theorem withUnit_eq_append_iff {start : String} (h : ∀ c ∈ start.toList, c = '-') (text : String) :
    (∃ rest, withUnit text = start ++ rest) ↔ ∃ rest, text = start ++ rest := by
  unfold withUnit
  split
  · constructor
    · rintro ⟨rest, he⟩
      have hlists := congrArg String.toList he
      rw [String.toList_append, String.toList_append] at hlists
      rcases List.append_eq_append_iff.1 hlists with ⟨more, hstart, hunit⟩ | ⟨more, htext, -⟩
      · cases more with
        | nil => exact ⟨"", by simpa [← String.toList_inj] using hstart.symm⟩
        | cons c more =>
          -- the unit would have to go on where the start is not over
          have hdash : c = '-' := h c (by simp [hstart])
          exact absurd (hdash ▸ (List.cons.inj hunit).1) (by decide)
      · exact ⟨String.ofList more, by simpa [← String.toList_inj] using htext⟩
    · rintro ⟨rest, rfl⟩
      exact ⟨rest ++ "px", String.append_assoc⟩
  · rfl

end Sibling

def Family.sides (key : String) : Family → Sibling.Sides
  | .space => Sibling.spaceSides key
  | _ => Sibling.divideSides key

namespace Route

def GivesUp (found : ThemeValue) : Route → Prop
  | .reading _ => ∃ text, found = .scalar text ∧ text ≠ "-"
  | _ => False

def plain (found : ThemeValue) : Route → String
  | .family _ _ => Sibling.withUnit found.text
  | _ => found.text

def Writes (engine : Engine) (token : Token) (found : ThemeValue) (text : String) (style : Style) :
    Route → Prop
  | .reading row =>
    ∃ d, Descriptor.first? engine.theme (token.sign ++ row.suffix token.className)
        row.descriptors = .ok (some (d, found)) ∧
      .setAll d.properties (text ++ token.mark) = style
  | .family row member =>
    member.takesSign row.key = true ∧
      (∃ reading ∈ member.readings ⟨engine.theme, engine.options, token, row.key⟩,
        engine.theme.resolve reading.source reading.key = .ok (some found)) ∧
      Sibling.share (member.sides row.key) text token.mark = style
  | _ => False

variable {found : ThemeValue} {route : Route}

theorem plain_eq_append_iff {start : String} (h : ∀ c ∈ start.toList, c = '-') :
    (∃ rest, route.plain found = start ++ rest) ↔ ∃ rest, found.text = start ++ rest := by
  cases route with
  | family row member => exact Sibling.withUnit_eq_append_iff h found.text
  | fixed | reading | rule | unmatched => rfl

theorem plain_unsigned_iff :
    (∀ rest, route.plain found ≠ "-" ++ rest) ↔ ∀ rest, found.text ≠ "-" ++ rest := by
  simpa using not_congr (@plain_eq_append_iff found route "-" (by simp))

theorem doublySigned_plain_iff : DoublySigned (route.plain found) ↔ DoublySigned found.text := by
  unfold DoublySigned
  simpa only [String.append_assoc] using @plain_eq_append_iff found route ("-" ++ "-") (by simp)

structure Signs (route : Route) (found : ThemeValue) (text : String) : Prop where
  once : route.GivesUp found → text = signedOnce (route.plain found)
  again : ¬route.GivesUp found → text = "-" ++ route.plain found

theorem Signs.eq_signedOnce_iff {text : String} (h : route.Signs found text) :
    text = signedOnce (route.plain found) ↔
      route.GivesUp found ∨ ∀ rest, found.text ≠ "-" ++ rest := by
  by_cases hg : route.GivesUp found
  · exact iff_of_true (h.once hg) (.inl hg)
  · rw [h.again hg, dash_append_eq_signedOnce_iff, plain_unsigned_iff, or_iff_right hg]

theorem Signs.doublySigned_iff {text : String} (h : route.Signs found text) :
    DoublySigned text ↔ DoublySigned found.text ∨ text ≠ signedOnce (route.plain found) := by
  by_cases hg : route.GivesUp found
  · rw [h.once hg, doublySigned_signedOnce_iff, doublySigned_plain_iff]
    simp
  · rw [h.again hg, doublySigned_dash_append_iff, plain_eq_append_iff (by simp), Ne,
      dash_append_eq_signedOnce_iff, plain_unsigned_iff]
    constructor
    · rintro ⟨rest, he⟩
      exact .inr fun hunsigned => hunsigned rest he
    · rintro (⟨rest, he⟩ | hsigned)
      · exact ⟨_, he⟩
      · simpa using hsigned

end Route

theorem Style.markImportant_setAll (properties : List String) (text : String) :
    (setAll properties text).markImportant = setAll properties (text ++ importantMark) := by
  unfold markImportant mapValues setAll
  rw [mapMembers_eq_map, List.map_map]
  rfl

theorem Utility.nodup_properties :
    ∀ row ∈ rows, ∀ d ∈ row.descriptors, d.properties.Nodup := by
  decide

theorem Descriptor.mem_of_first? {theme : Theme} {key : String} {list : List Descriptor}
    {pair : Descriptor × ThemeValue} (h : first? theme key list = .ok (some pair)) :
    pair.1 ∈ list := by
  induction list with
  | nil => cases h
  | cons d rest ih =>
    unfold first? at h
    obtain ⟨found?, -, hrest⟩ := Outcome.bind_eq_ok_iff.1 h
    cases found? with
    | none => exact List.mem_cons_of_mem _ (ih hrest)
    | some found =>
      cases hrest
      exact List.mem_cons_self

theorem Row.style_eq_ok_setAll {row : Row} (hrow : row ∈ Utility.rows) {theme : Theme}
    {options : Options} {token : Token} {style : Style}
    (h : row.style theme options token = .ok style) :
    ∃ d found, Descriptor.first? theme (token.sign ++ row.suffix token.className)
        row.descriptors = .ok (some (d, found)) ∧
      .setAll d.properties (signed token found) = style := by
  obtain ⟨-, hfirst⟩ := style_eq_ok_iff.1 h
  rw [first?_readings, Outcome.map_eq_ok_iff] at hfirst
  obtain ⟨pair?, hpair, hstyle⟩ := hfirst
  obtain ⟨⟨d, found⟩, rfl, rfl⟩ := Option.map_eq_some_iff.1 hstyle
  have hnodup := Utility.nodup_properties row hrow d (Descriptor.mem_of_first? hpair)
  exact ⟨d, found, hpair, (Descriptor.style_eq_setAll hnodup _).symm⟩

namespace Family

theorem style_eq_ok_share {member : Family} {r : Request} {style : Style}
    (hnegative : r.token.negative = true) (h : member.style r = .ok style) :
    member.takesSign r.key = true ∧ ∃ found,
      (∃ reading ∈ member.readings r,
        r.theme.resolve reading.source reading.key = .ok (some found)) ∧
      Sibling.share (member.sides r.key) (Sibling.signedLength r found) r.token.mark = style := by
  have hmember : member ≠ .container := by
    rintro rfl
    obtain ⟨⟨-, -, hplain⟩, -⟩ := Container.resolve_eq_ok_iff.1 h
    simp [hplain] at hnegative
  obtain ⟨hsign, hfirst⟩ := (style_eq_ok_iff hmember).1 h
  have htakes := hsign hnegative
  refine ⟨htakes, ?_⟩
  obtain ⟨earlier, reading, later, found, hreadings, -, hfound, rfl⟩ :=
    Reading.first?_eq_ok_some_iff.1 hfirst
  have hmem : reading ∈ member.readings r := by simp [hreadings]
  refine ⟨found, ⟨reading, hmem, hfound⟩, ?_⟩
  cases member with
  | space =>
    obtain rfl := List.mem_singleton.1 hmem
    rfl
  | divide =>
    have hwidth : r.key = "divide-x" ∨ r.key = "divide-y" := by simpa [takesSign] using htakes
    rw [readings, if_pos (by simpa using hwidth)] at hmem
    obtain rfl := List.mem_singleton.1 hmem
    rfl
  | container | placeholder | text | bg | border => cases htakes

end Family

namespace Route

theorem signs_signed (row : Row) {token : Token} (h : token.negative = true) (found : ThemeValue) :
    (reading row).Signs found (Row.signed token found) := by
  have hsign : token.sign = "-" := if_pos h
  cases found with
  | scalar text =>
    rw [Row.signed, hsign, if_pos h]
    constructor
    · rintro ⟨_, ⟨⟩, hne⟩
      exact dash_append_unsigned hne
    · intro hkeeps
      -- nothing stands behind the sign of the value
      obtain rfl : text = "-" := of_not_not fun hne => hkeeps ⟨text, rfl, hne⟩
      rfl
  | list items =>
    rw [Row.signed, hsign]
    constructor
    · rintro ⟨_, ⟨⟩, -⟩
    · intro _
      rfl

theorem signs_signedLength (row : Row) (member : Family) {r : Request}
    (h : r.token.negative = true) (found : ThemeValue) :
    (family row member).Signs found (Sibling.signedLength r found) where
  once := False.elim
  again _ := by
    rw [Sibling.signedLength, Token.sign, if_pos h]
    rfl

end Route

namespace Engine

variable {engine : Engine} {token : Token}

theorem marked_setAll (properties : List String) (text : String) :
    marked token (.setAll properties text) = .setAll properties (text ++ token.mark) := by
  unfold marked Token.mark
  split
  · exact Style.markImportant_setAll properties text
  · rw [String.append_empty]

theorem exists_writes {style : Style} (hnegative : token.negative = true)
    (h : engine.style token = .ok style) :
    ∃ found text, (Route.find engine.rules token.className).Writes engine token found text style ∧
      (Route.find engine.rules token.className).Signs found text := by
  rw [style_eq_ok_iff] at h
  cases hroute : Route.find engine.rules token.className with
  | reading row =>
    rw [hroute] at h
    obtain ⟨inner, hinner, rfl⟩ := h
    obtain ⟨d, found, hfirst, rfl⟩ :=
      Row.style_eq_ok_setAll (Route.mem_of_find_eq_reading hroute) hinner
    exact ⟨found, Row.signed token found, ⟨d, hfirst, (marked_setAll _ _).symm⟩,
      Route.signs_signed row hnegative found⟩
  | family row member =>
    rw [hroute] at h
    obtain ⟨htakes, found, hfound, rfl⟩ := Family.style_eq_ok_share hnegative h
    exact ⟨found, _, ⟨htakes, hfound, rfl⟩, Route.signs_signedLength row member hnegative found⟩
  | fixed name inner =>
    rw [hroute] at h
    obtain ⟨hplain, -⟩ := h
    simp [hplain] at hnegative
  | rule =>
    rw [hroute] at h
    obtain ⟨hplain, -⟩ := h
    simp [hplain] at hnegative
  | unmatched =>
    rw [hroute] at h
    cases h

/-- A token with a minus sign resolves only where a value of the theme is written behind a sign, in
all properties of a descriptor or in both calculations of a family. There is one sign in front of
the value just if it has none of its own, or if a row with descriptors found it as a single value
with something behind its sign. There are two in front of it where it has two or keeps one. -/
theorem resolve_negative {engine : Engine} {raw : String} {token : Token} {route : Route}
    {style : Style} (hread : Token.read raw = .ok token) (hnegative : token.negative = true)
    (hroute : Route.find engine.rules token.className = route)
    (hresolve : engine.resolve raw = .ok style) :
    ∃ keys inner found text,
      Variant.keys engine.theme engine.options.sassyPseudo token.variants = .ok keys ∧
      inner.within keys = style ∧ route.Writes engine token found text inner ∧
      route.Signs found text ∧
      (text = signedOnce (route.plain found) ↔
        route.GivesUp found ∨ ∀ rest, found.text ≠ "-" ++ rest) ∧
      (DoublySigned text ↔ DoublySigned found.text ∨ text ≠ signedOnce (route.plain found)) := by
  subst hroute
  obtain ⟨-, other, keys, inner, hother, hkeys, -, hstyle, hinner⟩ := resolve_eq_ok_iff.1 hresolve
  obtain rfl := Except.ok.inj (hread.symm.trans hother)
  obtain ⟨found, text, hwrites, hsigns⟩ := exists_writes hnegative hstyle
  exact ⟨keys, inner, found, text, hkeys, hinner, hwrites, hsigns, hsigns.eq_signedOnce_iff,
    hsigns.doublySigned_iff⟩

theorem resolve_negative_margin :
    ∃ found text,
      (Route.reading (Utility.reads "m" ["margin"] "margin")).Writes
        ⟨⟨[("margin", .object [("-x", .string "-1rem")])]⟩, {}, .empty⟩
        ⟨[], true, false, "m-x"⟩ found text ⟨[("margin", .string "-1rem")]⟩ ∧
      found = .scalar "-1rem" ∧ text = signedOnce "-1rem" ∧ ¬DoublySigned text := by
  obtain ⟨keys, inner, found, text, hkeys, hinner, hwrites, hsigns, -, hdouble⟩ :=
    @resolve_negative ⟨⟨[("margin", .object [("-x", .string "-1rem")])]⟩, {}, .empty⟩ "-m-x"
      ⟨[], true, false, "m-x"⟩ (.reading (Utility.reads "m" ["margin"] "margin"))
      ⟨[("margin", .string "-1rem")]⟩ (by decide +kernel) rfl (by decide +kernel)
      (by decide +kernel)
  cases hkeys
  cases hinner
  have hfound : found = .scalar "-1rem" := by
    obtain ⟨d, hfirst, -⟩ := hwrites
    cases hfirst
    rfl
  subst hfound
  have hgives : (Route.reading (Utility.reads "m" ["margin"] "margin")).GivesUp
      (.scalar "-1rem") := ⟨_, rfl, by decide⟩
  have honce := hsigns.once hgives
  have hunsigned : ∀ rest, "1rem" ≠ "-" ++ rest := Text.afterStart_eq_none_iff.1 (by decide)
  refine ⟨_, text, hwrites, rfl, honce, ?_⟩
  rw [hdouble]
  rintro (⟨rest, he⟩ | hne)
  · exact hunsigned rest ((String.append_right_inj "-").1 he)
  · exact hne honce

/-- The spacing has negative twins, which keep their sign under a second one. -/
theorem not_resolve_negative :
    ¬∀ (engine : Engine) (raw : String) (token : Token) (route : Route) (style : Style),
      Token.read raw = .ok token → token.negative = true →
      Route.find engine.rules token.className = route → engine.resolve raw = .ok style →
      ∃ keys inner found text,
        Variant.keys engine.theme engine.options.sassyPseudo token.variants = .ok keys ∧
        inner.within keys = style ∧ route.Writes engine token found text inner ∧
        text = signedOnce (route.plain found) ∧
        (¬DoublySigned found.text → ¬DoublySigned text) := by
  intro h
  have hresolve : Engine.resolve ⟨.builtin, {}, .empty⟩ "-space-x--4" =
      .ok (Sibling.share (Sibling.spaceSides "space-x") "--1rem" "") := by
    decide +kernel
  have hspace : Theme.builtin.resolve "space" "-4" = .ok (some (.scalar "-1rem")) := by
    decide
  obtain ⟨keys, inner, found, text, hkeys, hinner, ⟨-, ⟨reading, hreading, hfound⟩, hshare⟩,
    rfl, -⟩ := h ⟨.builtin, {}, .empty⟩ "-space-x--4" ⟨[], true, false, "space-x--4"⟩
      (.family ⟨"space-x", .family .space⟩ .space) _ (by decide +kernel) rfl (by decide +kernel)
      hresolve
  cases hkeys
  cases hinner
  obtain rfl := List.mem_singleton.1 hreading
  obtain rfl := Option.some.inj (Except.ok.inj (hspace.symm.trans hfound))
  exact absurd hshare (by decide)

end Engine

end UtilityStyle
