import Mathlib.Data.List.Nodup
import UtilityStyle.Proofs.Engine.Cascade
import UtilityStyle.Proofs.Engine.Order
import UtilityStyle.Proofs.Engine.Success

/-!
Which of the tables has a class. The keys of rows that start a class name all start one another, so
that one of them is the longest in whatever order they are tried, and a rule never has a say in what
a table knows.
-/

namespace UtilityStyle

namespace Row

def Starts (row : Row) (className : String) : Prop :=
  className = row.key ∨ ∃ rest, className = row.key ++ "-" ++ rest

structure IsLongest (rows : List Row) (className : String) (row : Row) : Prop where
  mem : row ∈ rows
  starts : row.Starts className
  longer : ∀ other ∈ rows, other.Starts className → other ≠ row →
    other.key.length < row.key.length

variable {rows table : List Row} {className : String} {row : Row}

theorem Starts.prefix (h : row.Starts className) : row.key.toList <+: className.toList := by
  rcases h with rfl | ⟨rest, rfl⟩
  · exact List.prefix_refl _
  · rw [String.append_assoc, String.toList_append]
    exact List.prefix_append _ _

theorem isLongest_of_longest (hkeys : (rows.map key).Nodup)
    (h : longest rows className = some row) : IsLongest rows className row := by
  obtain ⟨hmem, hcovers⟩ := mem_of_longest h
  have hstarts : row.Starts className := covers_iff.1 hcovers
  refine ⟨hmem, hstarts, ?_⟩
  intro other ho hother hne
  have hkey : other.key ≠ row.key := fun e => hne (List.inj_on_of_nodup_map hkeys ho hmem e)
  rcases List.prefix_or_prefix_of_prefix hother.prefix hstarts.prefix with hp | hp
  · have hlength : other.key.toList.length ≠ row.key.toList.length :=
      fun e => hkey (String.toList_inj.1 (hp.eq_of_length e))
    rw [← String.length_toList, ← String.length_toList]
    exact Nat.lt_of_le_of_ne hp.length_le hlength
  · have hle := le_of_longest h ho (covers_iff.2 hother)
    exact absurd (Text.eq_of_prefix hp hle).symm hkey

theorem longest_eq_some_iff (hkeys : (rows.map key).Nodup) :
    longest rows className = some row ↔ IsLongest rows className row := by
  refine ⟨isLongest_of_longest hkeys, fun h => ?_⟩
  obtain ⟨found, hfound⟩ := exists_longest h.mem (covers_iff.2 h.starts)
  have hlongest := isLongest_of_longest hkeys hfound
  by_cases he : found = row
  · rw [hfound, he]
  · have hlt := h.longer found hlongest.mem hlongest.starts he
    have hgt := hlongest.longer row h.mem h.starts (Ne.symm he)
    omega

theorem longest_eq_none_iff :
    longest rows className = none ↔ ∀ row ∈ rows, ¬row.Starts className := by
  constructor
  · intro h row hm hs
    obtain ⟨found, hfound⟩ := exists_longest hm (covers_iff.2 hs)
    rw [hfound] at h
    cases h
  · intro h
    cases hfound : longest rows className with
    | none => rfl
    | some found =>
      obtain ⟨hm, hc⟩ := mem_of_longest hfound
      exact absurd (covers_iff.1 hc) (h found hm)

theorem longest_perm (h : table.Perm rows) (hkeys : (rows.map key).Nodup) (className : String) :
    longest table className = longest rows className := by
  have htable : (table.map key).Nodup := (h.map key).nodup_iff.2 hkeys
  apply Option.ext
  intro row
  rw [longest_eq_some_iff htable, longest_eq_some_iff hkeys]
  constructor
  · exact fun hl => ⟨h.mem_iff.1 hl.mem, hl.starts, fun _ ho => hl.longer _ (h.mem_iff.2 ho)⟩
  · exact fun hl => ⟨h.mem_iff.2 hl.mem, hl.starts, fun _ ho => hl.longer _ (h.mem_iff.1 ho)⟩

end Row

theorem Utility.fixed?_eq_none_iff {name : String} : fixed? name = none ↔ name ∉ fixedNames :=
  Entries.get?_eq_none_iff

namespace Route

variable {rules : Rulebook} {className : String}

theorem exists_find_eq_fixed_iff :
    (∃ name style, find rules className = .fixed name style) ↔
      className ∈ Utility.fixedNames := by
  rw [← not_iff_not, ← Utility.fixed?_eq_none_iff]
  constructor
  · intro h
    cases hfixed : Utility.fixed? className with
    | none => rfl
    | some style => exact absurd ⟨className, style, by rw [find, hfixed]⟩ h
  · rintro h ⟨name, style, hfind⟩
    rw [fixed?_of_find hfind] at h
    cases h

theorem find_eq_of_no_table (hfixed : className ∉ Utility.fixedNames)
    (hrows : ∀ row ∈ Utility.rows, ¬row.Starts className) :
    find rules className = if rules.covers className then .rule else .unmatched := by
  rw [find, Utility.fixed?_eq_none_iff.2 hfixed, Row.longest_eq_none_iff.2 hrows]

theorem find_eq_find_of_table
    (h : className ∈ Utility.fixedNames ∨ ∃ row ∈ Utility.rows, row.Starts className)
    (others : Rulebook) : find others className = find rules className := by
  unfold find
  cases hfixed : Utility.fixed? className with
  | some style => rfl
  | none =>
    cases hrow : Row.longest Utility.rows className with
    | some row => rfl
    | none =>
      rcases h with h | ⟨row, hm, hs⟩
      · exact absurd h (Utility.fixed?_eq_none_iff.1 hfixed)
      · exact absurd hs (Row.longest_eq_none_iff.1 hrow row hm)

theorem find_eq_find_empty (h : find .empty className ≠ .unmatched) :
    find rules className = find .empty className := by
  apply find_eq_find_of_table
  by_contra hno
  obtain ⟨hfixed, hrows⟩ := not_or.1 hno
  exact h (find_eq_of_no_table hfixed fun row hm hs => hrows ⟨row, hm, hs⟩)

end Route

namespace Engine

variable {theme : Theme} {options : Options} {rules : Rulebook}

theorem style_of_style_empty {token : Token} {style : Style}
    (h : Engine.style ⟨theme, options, .empty⟩ token = .ok style) :
    Engine.style ⟨theme, options, rules⟩ token = .ok style := by
  rw [style_eq_ok_iff] at h ⊢
  dsimp only at h ⊢
  have hfind : Route.find rules token.className = Route.find .empty token.className := by
    apply Route.find_eq_find_empty
    intro hunmatched
    rw [hunmatched] at h
    exact h
  rw [hfind]
  cases hroute : Route.find .empty token.className with
  | rule =>
    rw [hroute] at h
    obtain ⟨-, inner, hinner, -⟩ := h
    cases hinner
  | fixed | reading | family | unmatched =>
    rw [hroute] at h
    exact h

theorem resolve_of_resolve_empty {raw : String} {style : Style}
    (h : resolve ⟨theme, options, .empty⟩ raw = .ok style) :
    resolve ⟨theme, options, rules⟩ raw = .ok style := by
  obtain ⟨hgroup, token, keys, inner, hread, hkeys, hname, hstyle, rfl⟩ := resolve_eq_ok_iff.1 h
  exact resolve_eq_ok_iff.2
    ⟨hgroup, token, keys, inner, hread, hkeys, hname, style_of_style_empty hstyle, rfl⟩

theorem resolveList_of_resolveList_empty {classes : String} {style : Style}
    (h : resolveList ⟨theme, options, .empty⟩ classes = .ok style) :
    resolveList ⟨theme, options, rules⟩ classes = .ok style := by
  obtain ⟨styles, hstyles, rfl⟩ := resolveAll_eq_ok_iff.1 h
  exact resolveAll_eq_ok_iff.2
    ⟨styles, hstyles.imp fun _ _ hresolve => resolve_of_resolve_empty hresolve, rfl⟩

/-- A name of a fixed utility is routed to that. Any other class goes to the row that starts it with
the longest key, of which there is one and the same in every order of the rows, and to the rules
only if no row starts it. So what resolves without rules resolves to the same style with any. -/
theorem classification (rules : Rulebook) (className : String) :
    ((∃ name style, Route.find rules className = .fixed name style) ↔
        className ∈ Utility.fixedNames) ∧
      (className ∉ Utility.fixedNames → (∃ row ∈ Utility.rows, row.Starts className) →
        ∃ best, (∀ row, Row.IsLongest Utility.rows className row ↔ row = best) ∧
          Route.find rules className = .ofRow best ∧
          ∀ table : List Row, table.Perm Utility.rows →
            Row.longest table className = some best) ∧
      (className ∉ Utility.fixedNames → (∀ row ∈ Utility.rows, ¬row.Starts className) →
        Route.find rules className = if rules.covers className then .rule else .unmatched) ∧
      (className ∈ Utility.fixedNames ∨ (∃ row ∈ Utility.rows, row.Starts className) →
        ∀ others, Route.find others className = Route.find rules className) ∧
      ∀ theme options classes style, resolveList ⟨theme, options, .empty⟩ classes = .ok style →
        resolveList ⟨theme, options, rules⟩ classes = .ok style := by
  refine ⟨Route.exists_find_eq_fixed_iff, ?_, Route.find_eq_of_no_table,
    Route.find_eq_find_of_table, fun _ _ _ _ => resolveList_of_resolveList_empty⟩
  rintro hfixed ⟨row, hm, hs⟩
  obtain ⟨best, hbest⟩ := Row.exists_longest hm (Row.covers_iff.2 hs)
  have hroute : Route.find rules className = .ofRow best :=
    Route.find_eq_ofRow (Utility.fixed?_eq_none_iff.2 hfixed) hbest
  refine ⟨best, fun other => ?_, hroute, fun table hperm => ?_⟩
  · rw [← Row.longest_eq_some_iff Utility.nodup_keys, hbest, Option.some.injEq, eq_comm]
  · rw [Row.longest_perm hperm Utility.nodup_keys, hbest]

def shadowed : Rulebook := ⟨[("p-4", .one "color" "red")], [("card", .one "color" "red")]⟩

theorem classification_shadowed :
    (∃ best, Row.IsLongest Utility.rows "border-t-2" best ∧ best.key = "border-t" ∧
        Route.find shadowed "border-t-2" = .ofRow best) ∧
      Route.find shadowed "card" = .rule ∧
      resolveList ⟨twoScreens.theme, {}, shadowed⟩ "p-4 md:p-4" =
        .ok ⟨[("padding", .string "1rem"),
          ("@media (min-width: 768px)", .object [("padding", .string "1rem")])]⟩ := by
  obtain ⟨-, hrow, -, -, -⟩ := classification shadowed "border-t-2"
  obtain ⟨-, -, hrule, -, hresolve⟩ := classification shadowed "card"
  refine ⟨?_, ?_, ?_⟩
  · obtain ⟨best, hlongest, hfind, htable⟩ := hrow (by decide)
      ⟨Utility.reads "border-t" ["borderTopWidth"] "borderWidth", by decide,
        .inr ⟨"2", by decide⟩⟩
    have hbest : Row.longest Utility.rows "border-t-2" =
        some (Utility.reads "border-t" ["borderTopWidth"] "borderWidth") := by
      decide
    obtain rfl := Option.some.inj (hbest.symm.trans (htable _ (List.Perm.refl _)))
    exact ⟨_, (hlongest _).2 rfl, rfl, hfind⟩
  · have hnone : Row.longest Utility.rows "card" = none := by decide
    exact hrule (by decide) (Row.longest_eq_none_iff.1 hnone)
  · apply hresolve
    have htokens : tokens "p-4 md:p-4" = ["p-4", "md:p-4"] := by decide
    have hordered : twoScreens.ordered "p-4 md:p-4" = ["p-4", "md:p-4"] := by
      rw [ordered, htokens]
      exact Order.byScreen_eq_self (by decide)
    change twoScreens.resolveAll (twoScreens.ordered _) = _
    rw [hordered]
    decide

end Engine

end UtilityStyle
