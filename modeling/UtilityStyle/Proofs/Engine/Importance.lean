import Mathlib.Data.List.Forall2
import UtilityStyle.Proofs.Engine.Success
import UtilityStyle.Proofs.Utility.Importance

namespace UtilityStyle

namespace Token

theorem text_important {token : Token} (h : token.important = false) :
    ({ token with important := true } : Token).text = token.text ++ "!" := by
  simp [text, unscoped, sign, bang, h, String.append_assoc]

theorem important_eq_false {token : Token} (h : token.text.toList.getLast? ≠ some '!') :
    token.important = false := by
  rw [Bool.eq_false_iff]
  intro hi
  apply h
  rw [toList_text, hi]
  simp

theorem read_important {raw : String} {token : Token} (hend : raw.toList.getLast? ≠ some '!')
    (h : read raw = .ok token) :
    token.important = false ∧ read (raw ++ "!") = .ok { token with important := true } := by
  obtain ⟨hg, rfl⟩ := read_eq_ok_iff.1 h
  have hi := important_eq_false hend
  refine ⟨hi, ?_⟩
  rw [← text_important hi]
  exact read_text ⟨hg.isName, hg.noColon, hg.noSign, hg.noBang⟩

end Token

theorem Family.style_marked {member : Family} (hm : member ≠ .container) {r : Request}
    (hi : r.token.important = false) {style : Style} (h : member.style r = .ok style) :
    member.style r.marked = .ok style.markProperties := by
  rw [style_eq_ok_iff hm] at h ⊢
  refine ⟨h.1, ?_⟩
  have hfirst := congrArg (Except.map (Option.map Style.markProperties)) h.2
  rw [← Reading.first?_map_marking, ← readings_marked member hi] at hfirst
  exact hfirst

theorem Row.style_important {row : Row} {theme : Theme} {options : Options} {token : Token}
    {style : Style} (h : row.style theme options token = .ok style) :
    row.style theme options { token with important := true } = .ok style := by
  rw [style_eq_ok_iff] at h ⊢
  exact h

def Route.marks : Route → String → Bool
  | .family _ _, property => !isVariable property
  | _, _ => true

namespace Engine

variable {engine : Engine} {token : Token} {raw : String} {style : Style}

theorem marked_important (token : Token) (style : Style) :
    marked { token with important := true } style = style.markWhere (fun _ => true) := by
  rw [Style.markWhere_true]
  rfl

theorem marked_plain (hi : token.important = false) (style : Style) :
    marked token style = style := by
  rw [marked, hi]
  rfl

theorem style_important (hi : token.important = false)
    (hc : ∀ row, Route.find engine.rules token.className ≠ .family row .container)
    (h : engine.style token = .ok style) :
    engine.style { token with important := true } =
      .ok (style.markWhere (Route.find engine.rules token.className).marks) := by
  rw [style_eq_ok_iff] at h ⊢
  change Gives engine _ _ (Route.find engine.rules token.className)
  cases hroute : Route.find engine.rules token.className with
  | fixed name inner =>
    rw [hroute] at h
    obtain ⟨hn, rfl⟩ := h
    exact ⟨hn, by rw [marked_important, marked_plain hi]; rfl⟩
  | reading row =>
    rw [hroute] at h
    obtain ⟨inner, hinner, rfl⟩ := h
    exact ⟨inner, Row.style_important hinner, by rw [marked_important, marked_plain hi]; rfl⟩
  | family row member =>
    rw [hroute] at h
    have hm : member ≠ .container := by
      rintro rfl
      exact hc row hroute
    exact Family.style_marked hm hi h
  | rule =>
    rw [hroute] at h
    obtain ⟨hn, inner, hinner, rfl⟩ := h
    exact ⟨hn, inner, hinner, by rw [marked_important, marked_plain hi]; rfl⟩
  | unmatched =>
    rw [hroute] at h
    cases h

theorem style_important_of_container {row : Row}
    (hc : Route.find engine.rules token.className = .family row .container)
    (h : engine.style token = .ok style) :
    engine.style { token with important := true } =
      .error (.unsupported token.className .important) := by
  rw [style_of_family hc] at h
  obtain ⟨⟨hv, -, -⟩, -⟩ := Container.resolve_eq_ok_iff.1 h
  have hmarked : engine.style { token with important := true } =
      Container.resolve ⟨engine.theme, engine.options, { token with important := true }, row.key⟩ :=
    @style_of_family engine { token with important := true } row .container hc
  rw [hmarked]
  unfold Container.resolve
  rw [show ({ token with important := true } : Token).variants = [] from hv]
  rfl

end Engine

theorem Route.isVariable_of_marks_eq_false {route : Route} {property : String}
    (h : route.marks property = false) : isVariable property = true := by
  cases route with
  | family row member => simpa [marks] using h
  | _ => cases h

theorem Route.marks_iff {route : Route} {property : String} :
    route.marks property = true ↔
      isVariable property = false ∨ ∀ row member, route ≠ .family row member := by
  cases route <;> simp [marks]

namespace Style

/-- The second style is the first with marks: on every declaration, but for some variables. -/
structure MarkedAs (plain marked : Style) : Prop where
  paths : marked.paths = plain.paths
  declarations : List.Forall₂
    (fun old new => new = old.marked ∨ isVariable old.property = true ∧ new = old)
    plain.declarations marked.declarations

def HasMark (plain marked : Style) : Prop :=
  ∃ pair ∈ plain.declarations.zip marked.declarations, pair.2 = pair.1.marked

theorem markedAs_markWhere {marks : String → Bool}
    (h : ∀ property, marks property = false → isVariable property = true) (style : Style) :
    style.MarkedAs (style.markWhere marks) := by
  refine ⟨paths_markWhere marks style, ?_⟩
  rw [declarations_markWhere, List.forall₂_map_right_iff, List.forall₂_same]
  intro d _
  unfold Declaration.markedWhere
  cases hd : marks d.property with
  | true => exact .inl rfl
  | false => exact .inr ⟨h _ hd, rfl⟩

theorem hasMark_markWhere_iff (marks : String → Bool) (style : Style) :
    style.HasMark (style.markWhere marks) ↔ ∃ d ∈ style.declarations, marks d.property = true := by
  have hzip : style.declarations.zip (style.markWhere marks).declarations =
      style.declarations.map fun d => (d, d.markedWhere marks) := by
    rw [declarations_markWhere, ← List.zip_map', List.map_id']
  unfold HasMark
  rw [hzip]
  simp [Declaration.markedWhere_eq_marked_iff]

end Style

namespace Engine

/-- A mark of importance leaves the paths of a style and their order alone. Each declaration is
marked, but for the variables that a family sets; so the mark is lost just where a family sets
nothing but variables. Only the container refuses it. -/
theorem resolve_important {engine : Engine} {raw : String} {style : Style}
    (hend : raw.toList.getLast? ≠ some '!') (h : engine.resolve raw = .ok style) :
    ∃ token, Token.read raw = .ok token ∧
      ((∃ row, Route.find engine.rules token.className = .family row .container) ∧
          engine.resolve (raw ++ "!") = .error (.unsupported token.className .important) ∨
        ∃ marked, engine.resolve (raw ++ "!") = .ok marked ∧ style.MarkedAs marked ∧
          (style.HasMark marked ↔ ∃ d ∈ style.declarations, isVariable d.property = false ∨
            ∀ row member, Route.find engine.rules token.className ≠ .family row member)) := by
  obtain ⟨hgroup, token, keys, inner, hread, hkeys, hname, hinner, rfl⟩ := resolve_eq_ok_iff.1 h
  obtain ⟨hi, hread'⟩ := Token.read_important hend hread
  have hgroup' : raw ++ "!" ≠ "group" := by
    intro he
    have hlast := congrArg (fun text => text.toList.getLast?) he
    simp at hlast
  have hresolve : engine.resolve (raw ++ "!") =
      (engine.style { token with important := true }).map fun found => found.within keys :=
    @resolve_of_read engine { token with important := true } _ keys hgroup' hread' hkeys hname
  refine ⟨token, hread, ?_⟩
  by_cases hc : ∃ row, Route.find engine.rules token.className = .family row .container
  · obtain ⟨row, hc⟩ := hc
    refine .inl ⟨⟨row, hc⟩, ?_⟩
    rw [hresolve, style_important_of_container hc hinner]
    rfl
  · have hmarked : engine.resolve (raw ++ "!") =
        .ok ((inner.within keys).markWhere (Route.find engine.rules token.className).marks) := by
      rw [hresolve, style_important hi (fun row he => hc ⟨row, he⟩) hinner, Style.markWhere_within]
      rfl
    refine .inr ⟨_, hmarked, ?_, ?_⟩
    · exact Style.markedAs_markWhere (fun _ => Route.isVariable_of_marks_eq_false) _
    · simp only [Style.hasMark_markWhere_iff, Route.marks_iff]

def dividing : Engine :=
  ⟨⟨[("divideColor", .object [("ink", .string "#000")]),
    ("divideOpacity", .object [("50", .string "0.5")])]⟩, {}, .empty⟩

theorem resolve_important_divide :
    "hover:divide-ink".toList.getLast? ≠ some '!' ∧
      dividing.resolve "hover:divide-ink" = .ok (.under ":hover" (.under Selector.laterSiblings
        ⟨[("--divide-opacity", .string "1"),
          ("borderColor", .string "rgba(0, 0, 0, var(--divide-opacity))")]⟩)) ∧
      ∃ marked, dividing.resolve ("hover:divide-ink" ++ "!") = .ok marked ∧
        Style.MarkedAs (.under ":hover" (.under Selector.laterSiblings
          ⟨[("--divide-opacity", .string "1"),
            ("borderColor", .string "rgba(0, 0, 0, var(--divide-opacity))")]⟩)) marked ∧
        Style.HasMark (.under ":hover" (.under Selector.laterSiblings
          ⟨[("--divide-opacity", .string "1"),
            ("borderColor", .string "rgba(0, 0, 0, var(--divide-opacity))")]⟩)) marked := by
  have hend : "hover:divide-ink".toList.getLast? ≠ some '!' := by decide
  have h : dividing.resolve "hover:divide-ink" = .ok (.under ":hover" (.under
      Selector.laterSiblings ⟨[("--divide-opacity", .string "1"),
        ("borderColor", .string "rgba(0, 0, 0, var(--divide-opacity))")]⟩)) := by
    decide +kernel
  refine ⟨hend, h, ?_⟩
  obtain ⟨token, hread, ⟨-, hrefused⟩ | ⟨marked, hmarked, hsame, hiff⟩⟩ := resolve_important hend h
  · have hok : (dividing.resolve ("hover:divide-ink" ++ "!")).toOption.isSome := by decide +kernel
    rw [hrefused] at hok
    cases hok
  · refine ⟨marked, hmarked, hsame, hiff.2 ⟨⟨[":hover", Selector.laterSiblings], "borderColor",
      .string "rgba(0, 0, 0, var(--divide-opacity))"⟩, by decide, .inl (by decide)⟩⟩

theorem not_resolve_important :
    ¬∀ (engine : Engine) (raw : String) (style : Style), raw.toList.getLast? ≠ some '!' →
      engine.resolve raw = .ok style →
      (∃ name modifier, engine.resolve (raw ++ "!") = .error (.unsupported name modifier)) ∨
        ∃ marked, engine.resolve (raw ++ "!") = .ok marked ∧ style.MarkedAs marked ∧
          (style.declarations ≠ [] → style.HasMark marked) := by
  intro h
  have hplain : dividing.resolve "divide-opacity-50" = .ok (.under Selector.laterSiblings
      ⟨[("--divide-opacity", .string "0.5")]⟩) := by
    decide
  have hmarked : dividing.resolve ("divide-opacity-50" ++ "!") = .ok (.under Selector.laterSiblings
      ⟨[("--divide-opacity", .string "0.5")]⟩) := by
    decide
  obtain ⟨name, modifier, he⟩ | ⟨marked, he, -, hsome⟩ :=
    h dividing "divide-opacity-50" _ (by decide) hplain
  · rw [hmarked] at he
    cases he
  · rw [hmarked] at he
    obtain rfl := Except.ok.inj he
    obtain ⟨pair, hpair, hsame⟩ := hsome (by decide)
    obtain rfl := List.mem_singleton.1 hpair
    exact Declaration.marked_ne_self _ hsame.symm

end Engine

end UtilityStyle
