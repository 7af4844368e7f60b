import UtilityStyle.Engine.Basic
import UtilityStyle.Proofs.Family
import UtilityStyle.Proofs.Token.Grammar
import UtilityStyle.Proofs.Utility.Route

namespace UtilityStyle

namespace Family

def Selects (engine : Engine) (token : Token) (key : String) : Family → Prop
  | .container => token.variants = [] ∧ token.important = false ∧ token.negative = false
  | member =>
    (token.negative → member.takesSign key) ∧
      engine.theme.Answers
        ((member.readings ⟨engine.theme, engine.options, token, key⟩).map Reading.place)

end Family

namespace Route

def Selects (engine : Engine) (token : Token) : Route → Prop
  | .fixed _ _ => token.negative = false
  | .reading row =>
    token.className.toList.getLast? ≠ some '-' ∧
      engine.theme.Answers (row.places engine.theme (token.sign ++ row.suffix token.className))
  | .family row member => member.Selects engine token row.key
  | .rule => token.negative = false ∧ (engine.rules.resolve token.className).isSome
  | .unmatched => False

end Route

namespace Container

theorem resolve_eq_ok_iff {r : Request} {found : Style} :
    resolve r = .ok found ↔
      (r.token.variants = [] ∧ r.token.important = false ∧ r.token.negative = false) ∧
        style r.theme = found := by
  unfold resolve
  cases r.token.variants <;> cases r.token.important <;> cases r.token.negative <;> simp

end Container

namespace Family

theorem style_eq_ok_iff {member : Family} (h : member ≠ .container) {r : Request} {style : Style} :
    member.style r = .ok style ↔
      (r.token.negative → member.takesSign r.key) ∧
        Reading.first? r.theme (member.readings r) = .ok (some style) := by
  rw [style_eq_read h, Outcome.bind_eq_ok_iff]
  simp only [Request.read_eq_ok_iff]
  unfold Request.refuseNegative
  cases member.takesSign r.key <;> cases r.token.negative <;> simp

theorem exists_style_eq_ok_iff {engine : Engine} {token : Token} {key : String} {member : Family} :
    (∃ style, member.style ⟨engine.theme, engine.options, token, key⟩ = .ok style) ↔
      member.Selects engine token key := by
  by_cases h : member = .container
  · rw [h]
    simp [style, Container.resolve_eq_ok_iff, Selects]
  · simp only [style_eq_ok_iff h, exists_and_left, Theme.exists_first?_iff]
    cases member with
    | container => exact absurd rfl h
    | space | divide | placeholder | text | bg | border => rfl

end Family

namespace Row

theorem style_eq_ok_iff {row : Row} {theme : Theme} {options : Options} {token : Token}
    {style : Style} :
    row.style theme options token = .ok style ↔
      token.className.toList.getLast? ≠ some '-' ∧
        Reading.first? theme (row.readings theme token) = .ok (some style) := by
  rw [style_eq, Outcome.bind_eq_ok_iff]
  simp only [Request.read_eq_ok_iff]
  by_cases h : token.className.toList.getLast? = some '-' <;> simp [h]

end Row

namespace Variant

theorem exists_keys_eq_ok_iff {theme : Theme} {sassy : Bool} {names : List String} :
    (∃ keys, Variant.keys theme sassy names = .ok keys) ↔
      ∀ name ∈ names, ∃ variant, find theme name = .ok variant := by
  unfold keys
  induction names with
  | nil => simp
  | cons name rest ih => simp [← ih]

end Variant

namespace Engine

variable {engine : Engine} {token : Token} {raw : String}

theorem refuseNegative_eq_ok_iff {x : Unit} :
    refuseNegative token = .ok x ↔ token.negative = false := by
  cases h : token.negative <;> simp [refuseNegative, h]

def Gives (engine : Engine) (token : Token) (style : Style) : Route → Prop
  | .fixed _ inner => token.negative = false ∧ marked token inner = style
  | .reading row =>
    ∃ inner, row.style engine.theme engine.options token = .ok inner ∧ marked token inner = style
  | .family row member => member.style ⟨engine.theme, engine.options, token, row.key⟩ = .ok style
  | .rule =>
    token.negative = false ∧
      ∃ inner, engine.rules.resolve token.className = some inner ∧ marked token inner = style
  | .unmatched => False

theorem style_eq_ok_iff {style : Style} :
    engine.style token = .ok style ↔
      engine.Gives token style (Route.find engine.rules token.className) := by
  unfold Engine.style
  cases Route.find engine.rules token.className with
  | fixed name inner => simp [refuseNegative_eq_ok_iff, Gives]
  | reading row => simp [Gives]
  | family row member => rfl
  | rule =>
    cases h : engine.rules.resolve token.className <;>
      simp [refuseNegative_eq_ok_iff, Gives, h]
  | unmatched => simp [Gives]

theorem exists_style_eq_ok_iff :
    (∃ style, engine.style token = .ok style) ↔
      (Route.find engine.rules token.className).Selects engine token := by
  unfold style
  cases Route.find engine.rules token.className with
  | fixed name style => simp [refuseNegative_eq_ok_iff, Route.Selects]
  | reading row =>
    simp [Route.Selects, Row.style_eq_ok_iff, Theme.exists_first?_iff, Row.map_place_readings]
  | family row member => exact Family.exists_style_eq_ok_iff
  | rule =>
    cases h : engine.rules.resolve token.className <;>
      simp [refuseNegative_eq_ok_iff, Route.Selects, h]
  | unmatched => simp [Route.Selects]

theorem style_of_family {row : Row} {member : Family}
    (h : Route.find engine.rules token.className = .family row member) :
    engine.style token = member.style ⟨engine.theme, engine.options, token, row.key⟩ := by
  rw [style, h]

theorem style_of_reading {row : Row}
    (h : Route.find engine.rules token.className = .reading row) :
    engine.style token = (row.style engine.theme engine.options token).map (marked token) := by
  rw [style, h]

theorem refuseEmpty_eq_ok_iff : refuseEmpty raw token = .ok () ↔ token.className ≠ "" := by
  rw [refuseEmpty, Ne, ← String.isEmpty_iff]
  cases token.className.isEmpty <;> simp

theorem readToken_eq_ok_iff :
    readToken raw = .ok token ↔ raw ≠ "group" ∧ Token.read raw = .ok token := by
  by_cases h : raw = "group" <;> simp [readToken, h]

theorem resolve_of_read {keys : List String} (hgroup : raw ≠ "group")
    (hread : Token.read raw = .ok token)
    (hkeys : Variant.keys engine.theme engine.options.sassyPseudo token.variants = .ok keys)
    (hname : token.className ≠ "") :
    engine.resolve raw = (engine.style token).map fun inner => inner.within keys := by
  have htoken : readToken raw = .ok token := readToken_eq_ok_iff.2 ⟨hgroup, hread⟩
  have hempty : refuseEmpty raw token = .ok () := refuseEmpty_eq_ok_iff.2 hname
  unfold resolve keyedStyle
  rw [htoken]
  simp only [bind, Except.bind, hkeys, hempty]
  cases engine.style token <;> rfl

theorem resolve_eq_ok_iff {style : Style} :
    engine.resolve raw = .ok style ↔
      raw ≠ "group" ∧ ∃ token keys inner, Token.read raw = .ok token ∧
        Variant.keys engine.theme engine.options.sassyPseudo token.variants = .ok keys ∧
        token.className ≠ "" ∧ engine.style token = .ok inner ∧ inner.within keys = style := by
  unfold resolve keyedStyle
  simp only [Outcome.map_eq_ok_iff, Outcome.bind_eq_ok_iff, Outcome.pure_eq_ok_iff,
    readToken_eq_ok_iff]
  constructor
  · rintro ⟨_, ⟨token, ⟨hgroup, hread⟩, keys, hkeys, _, hempty, inner, hstyle, rfl⟩, rfl⟩
    exact ⟨hgroup, token, keys, inner, hread, hkeys, refuseEmpty_eq_ok_iff.1 hempty, hstyle, rfl⟩
  · rintro ⟨hgroup, token, keys, inner, hread, hkeys, hname, hstyle, rfl⟩
    exact ⟨⟨keys, inner⟩, ⟨token, ⟨hgroup, hread⟩, keys, hkeys, (), refuseEmpty_eq_ok_iff.2 hname,
      inner, hstyle, rfl⟩, rfl⟩

theorem ne_empty_of_resolve {style : Style} (h : engine.resolve raw = .ok style) : raw ≠ "" := by
  rintro rfl
  obtain ⟨-, token, -, -, hread, -, hclass, -⟩ := resolve_eq_ok_iff.1 h
  have hempty : Token.read "" = .ok ⟨[], false, false, ""⟩ := by decide
  obtain rfl := Except.ok.inj (hempty.symm.trans hread)
  exact hclass rfl

def Reaches (engine : Engine) (raw : String) : Prop :=
  raw ≠ "group" ∧ ∃ token, Token.read raw = .ok token ∧
    (∀ name ∈ token.variants, ∃ variant, Variant.find engine.theme name = .ok variant) ∧
    token.className ≠ "" ∧ (Route.find engine.rules token.className).Selects engine token

theorem exists_resolve_eq_ok_iff :
    (∃ style, engine.resolve raw = .ok style) ↔ engine.Reaches raw := by
  constructor
  · rintro ⟨_, h⟩
    obtain ⟨hgroup, token, keys, inner, hread, hkeys, hname, hstyle, -⟩ := resolve_eq_ok_iff.1 h
    exact ⟨hgroup, token, hread, Variant.exists_keys_eq_ok_iff.1 ⟨keys, hkeys⟩, hname,
      exists_style_eq_ok_iff.1 ⟨inner, hstyle⟩⟩
  · rintro ⟨hgroup, token, hread, hvariants, hname, hselects⟩
    obtain ⟨keys, hkeys⟩ := Variant.exists_keys_eq_ok_iff.2 hvariants
    obtain ⟨inner, hstyle⟩ := exists_style_eq_ok_iff.2 hselects
    exact ⟨_, resolve_eq_ok_iff.2
      ⟨hgroup, token, keys, inner, hread, hkeys, hname, hstyle, rfl⟩⟩

theorem resolve_text_eq_ok_iff (h : token.Grammatical) (hg : token.className ≠ "group")
    (hn : token.className ≠ "") {style : Style} :
    engine.resolve token.text = .ok style ↔
      ∃ keys inner,
        Variant.keys engine.theme engine.options.sassyPseudo token.variants = .ok keys ∧
        engine.style token = .ok inner ∧ inner.within keys = style := by
  rw [resolve_eq_ok_iff]
  have hread : Token.read token.text = .ok token := Token.read_text h
  constructor
  · rintro ⟨-, found, keys, inner, hfound, hkeys, -, hstyle, rfl⟩
    rw [hread] at hfound
    obtain rfl := Except.ok.inj hfound
    exact ⟨keys, inner, hkeys, hstyle, rfl⟩
  · rintro ⟨keys, inner, hkeys, hstyle, rfl⟩
    refine ⟨?_, token, keys, inner, hread, hkeys, hn, hstyle, rfl⟩
    intro hgroup
    have hmarker : Token.read "group" = .ok ⟨[], false, false, "group"⟩ := by decide
    rw [hgroup, hmarker] at hread
    obtain rfl := Except.ok.inj hread
    exact hg rfl

end Engine

end UtilityStyle
