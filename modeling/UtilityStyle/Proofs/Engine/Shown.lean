import UtilityStyle.Proofs.Engine.Failure
import UtilityStyle.Proofs.Suggestion.Shown

namespace UtilityStyle

namespace Reading

variable {theme : Theme} {readings : List Reading} {reading other : Reading}
  {found second : ThemeValue}

def Finds (theme : Theme) (readings : List Reading) (reading : Reading) (found : ThemeValue) :
    Prop :=
  ∃ earlier later, readings = earlier ++ reading :: later ∧
    (∀ before ∈ earlier, theme.resolve before.source before.key = .ok none) ∧
    theme.resolve reading.source reading.key = .ok (some found)

theorem Finds.resolve (h : Finds theme readings reading found) :
    theme.resolve reading.source reading.key = .ok (some found) := by
  obtain ⟨-, -, -, -, hfound⟩ := h
  exact hfound

theorem Finds.mem (h : Finds theme readings reading found) : reading ∈ readings := by
  obtain ⟨earlier, later, rfl, -⟩ := h
  exact List.mem_append_right earlier List.mem_cons_self

theorem not_finds_nil : ¬Finds theme [] reading found := by
  rintro ⟨earlier, later, hreadings, -⟩
  simp at hreadings

theorem finds_cons_iff :
    Finds theme (other :: readings) reading found ↔
      (other = reading ∧ theme.resolve reading.source reading.key = .ok (some found)) ∨
        theme.resolve other.source other.key = .ok none ∧ Finds theme readings reading found := by
  constructor
  · rintro ⟨earlier, later, hreadings, hnone, hfound⟩
    cases earlier with
    | nil => exact .inl ⟨(List.cons.inj hreadings).1, hfound⟩
    | cons first earlier =>
      obtain ⟨rfl, rfl⟩ := List.cons.inj hreadings
      obtain ⟨hfirst, hrest⟩ := List.forall_mem_cons.1 hnone
      exact .inr ⟨hfirst, earlier, later, rfl, hrest, hfound⟩
  · rintro (⟨rfl, hfound⟩ | ⟨hfirst, earlier, later, rfl, hrest, hfound⟩)
    · exact ⟨[], readings, rfl, by simp, hfound⟩
    · exact ⟨other :: earlier, later, rfl, List.forall_mem_cons.2 ⟨hfirst, hrest⟩, hfound⟩

theorem Finds.unique (h : Finds theme readings reading found)
    (h' : Finds theme readings other second) : reading = other ∧ found = second := by
  induction readings with
  | nil => exact absurd h not_finds_nil
  | cons head rest ih =>
    rw [finds_cons_iff] at h h'
    rcases h with ⟨rfl, hfound⟩ | ⟨hnone, h⟩ <;> rcases h' with ⟨rfl, hsecond⟩ | ⟨hnone', h'⟩
    · rw [hfound] at hsecond
      cases hsecond
      exact ⟨rfl, rfl⟩
    · rw [hfound] at hnone'
      cases hnone'
    · rw [hnone] at hsecond
      cases hsecond
    · exact ih h h'

theorem exists_finds {style : Style} (h : first? theme readings = .ok (some style)) :
    ∃ reading found, Finds theme readings reading found ∧ reading.style found = style := by
  obtain ⟨earlier, reading, later, found, hreadings, hnone, hfound, hstyle⟩ :=
    first?_eq_ok_some_iff.1 h
  exact ⟨reading, found, ⟨earlier, later, hreadings, hnone, hfound⟩, hstyle⟩

end Reading

namespace Row

def finish (row : Row) (token : Token) (style : Style) : Style :=
  match row.handler with
  | .descriptors _ => Engine.marked token style
  | .family _ => style

end Row

namespace Engine

variable {engine : Engine} {raw name : String} {token other : Token} {row : Row}
  {list : List Suggestion} {s : Suggestion} {style : Style}

theorem exists_finds_of_style (hroute : Route.find engine.rules token.className = .ofRow row)
    (hne : row.handler ≠ .family .container) (h : engine.style token = .ok style) :
    ∃ reading found,
      Reading.Finds engine.theme (row.tries ⟨engine.theme, engine.options, token, row.key⟩)
        reading found ∧ row.finish token (reading.style found) = style := by
  unfold Row.tries Row.finish
  rw [style_eq_ok_iff, hroute] at h
  cases hm : row.handler with
  | descriptors descriptors =>
    rw [Route.ofRow_of_descriptors hm] at h
    obtain ⟨inner, hinner, rfl⟩ := h
    obtain ⟨reading, found, hfinds, rfl⟩ := Reading.exists_finds (Row.style_eq_ok_iff.1 hinner).2
    exact ⟨reading, found, hfinds, rfl⟩
  | family member =>
    rw [Route.ofRow_of_family hm] at h
    have hmember : member ≠ .container := fun he => hne (he ▸ hm)
    obtain ⟨-, hfirst⟩ := (Family.style_eq_ok_iff hmember).1 h
    exact Reading.exists_finds hfirst

/-- A suggested class shows the text of the first of the best tokens that are offered for it. If it
goes to the row that suggested it, it produces the value of the token at which the row stops, in the
first section that has one. The two are the same if that token is offered as well, and nothing else
with another text; only a list with a number that is written in two ways is shown otherwise. -/
theorem suggested_value (hread : Token.read raw = .ok token)
    (hroute : Route.find engine.rules token.className = .ofRow row)
    (hcorrection : Suggestion.correction? token.className = none)
    (hfails : engine.resolve raw = .error (.unresolvable name (.ranked list))) (hs : s ∈ list)
    (hother : Token.read s.target = .ok other)
    (hsame : Route.find engine.rules other.className = .ofRow row)
    (hresolves : engine.resolve s.target = .ok style) :
    let query : Suggestion.Query :=
      ⟨row.searched ⟨engine.theme, engine.options, token, row.key⟩, row.key, token.className,
        token.negative⟩
    Suggestion.Shows engine.theme query s.target s.value ∧
      ∃ reading found keys path value,
        Reading.Finds engine.theme (row.tries ⟨engine.theme, engine.options, other, row.key⟩)
          reading found ∧
        Variant.keys engine.theme engine.options.sassyPseudo other.variants = .ok keys ∧
        (row.finish other (reading.style found)).within keys = style ∧
        engine.theme.Stops reading.source reading.key path value ∧
        ThemeValue.ofJson value = .ok found ∧
        (found.text = s.value ↔ Suggestion.Shows engine.theme query s.target found.text) ∧
        (Suggestion.WritesAlike value →
          Suggestion.Sole engine.theme query s.target reading.source path →
            found.text = s.value) := by
  intro query
  have hstyle := style_of_resolve_eq_unresolvable hread hfails
  have hsearch := suggestions_eq hroute hcorrection hstyle
  have hshows : Suggestion.Shows engine.theme query s.target s.value := by
    split at hsearch
    · exact Suggestion.shows_of_mem_ranked hsearch.symm hs
    · cases hsearch
  refine ⟨hshows, ?_⟩
  obtain ⟨-, token', keys, inner, htoken, hkeys, -, hinner, rfl⟩ := resolve_eq_ok_iff.1 hresolves
  obtain rfl := Except.ok.inj (hother.symm.trans htoken)
  -- the class sets what its row finds first, in whatever section the suggestion stood
  obtain ⟨reading, found, hfinds, rfl⟩ :=
    exists_finds_of_style hsame (notFoundIn_searched hroute hstyle).1 hinner
  obtain ⟨path, value, hstops, hvalue⟩ := Theme.exists_stops hfinds.resolve
  refine ⟨reading, found, keys, path, value, hfinds, hkeys, rfl, hstops, hvalue,
    ⟨fun h => h ▸ hshows, fun h => h.unique hshows⟩, ?_⟩
  intro halike hsole
  rw [Suggestion.text_ofJson hvalue halike]
  exact (hsole.shows hstops hshows).symm

def sharedBorder : Engine :=
  ⟨⟨[("borderWidth", .object [("x", .string "2px")]),
    ("borderColor", .object [("x", .string "red")])]⟩, {}, .empty⟩

theorem sharedBorder_fails :
    sharedBorder.resolve "border-q" =
      .error (.unresolvable "border-q" (.ranked [⟨"border-x", "red", Binary.zero false⟩])) := by
  decide

theorem sharedBorder_resolves :
    sharedBorder.resolve "border-x" = .ok (.one "borderWidth" "2px") := by
  decide +kernel

theorem route_sharedBorder :
    Route.find .empty "border-q" = .ofRow ⟨"border", .family .border⟩ ∧
      Route.find .empty "border-x" = .ofRow ⟨"border", .family .border⟩ := by
  decide

theorem sharedBorder_finds :
    Reading.Finds sharedBorder.theme
      (Paint.borderReadings ⟨sharedBorder.theme, {}, ⟨[], false, false, "border-x"⟩, "border"⟩)
      ⟨"borderWidth", "x", fun found => .one "borderWidth" (found.text ++ "")⟩ (.scalar "2px") :=
  Reading.finds_cons_iff.2 (.inl ⟨rfl, by decide⟩)

def splitBorder : Engine :=
  ⟨⟨[("borderWidth", .object [("x", .string "2px")]),
    ("borderColor", .object [("y", .string "red")])]⟩, {}, .empty⟩

theorem splitBorder_fails :
    splitBorder.resolve "border-q" = .error (.unresolvable "border-q" (.ranked
      [⟨"border-y", "red", Binary.zero false⟩, ⟨"border-x", "2px", Binary.zero false⟩])) := by
  decide

theorem splitBorder_finds :
    Reading.Finds splitBorder.theme
      (Paint.borderReadings ⟨splitBorder.theme, {}, ⟨[], false, false, "border-x"⟩, "border"⟩)
      ⟨"borderWidth", "x", fun found => .one "borderWidth" (found.text ++ "")⟩ (.scalar "2px") :=
  Reading.finds_cons_iff.2 (.inl ⟨rfl, by decide⟩)

theorem splitBorder_sole {path : String} {value : Json}
    (h : splitBorder.theme.Stops "borderWidth" "x" path value) :
    Suggestion.WritesAlike value ∧ Suggestion.Sole splitBorder.theme
      ⟨["borderColor", "borderWidth"], "border", "border-q", false⟩ "border-x" "borderWidth"
      path := by
  obtain ⟨fields, hfields, hstop, hmem⟩ := h.stop
  obtain rfl : [("x", .string "2px")] = fields := Json.object.inj (Option.some.inj hfields)
  have hwidth : Lookup.stop? "x" [("x", .string "2px")] = some (.string "2px") := by
    decide
  obtain rfl := Option.some.inj (hwidth.symm.trans hstop)
  obtain rfl : path = "x" := by
    simpa [Suggestion.fieldLeaves, Suggestion.leaves, Suggestion.shown] using hmem
  exact ⟨trivial, by simp, by decide, by decide, by decide⟩

theorem suggested_value_border :
    (∃ reading found path value,
      Reading.Finds sharedBorder.theme
        (Paint.borderReadings ⟨sharedBorder.theme, {}, ⟨[], false, false, "border-x"⟩, "border"⟩)
        reading found ∧
      sharedBorder.theme.Stops reading.source reading.key path value ∧ found.text = "2px" ∧
      Suggestion.Shows sharedBorder.theme
        ⟨["borderColor", "borderWidth"], "border", "border-q", false⟩ "border-x" "red") ∧
    ∃ reading found,
      Reading.Finds splitBorder.theme
        (Paint.borderReadings ⟨splitBorder.theme, {}, ⟨[], false, false, "border-x"⟩, "border"⟩)
        reading found ∧
      found.text = "2px" ∧
      Suggestion.Shows splitBorder.theme
        ⟨["borderColor", "borderWidth"], "border", "border-q", false⟩ "border-x" found.text := by
  constructor
  · obtain ⟨hshows, reading, found, keys, path, value, hfinds, -, -, hstops, -, -⟩ :=
      @suggested_value sharedBorder "border-q" "border-q" ⟨[], false, false, "border-q"⟩
        ⟨[], false, false, "border-x"⟩ ⟨"border", .family .border⟩ _ _ _ (by decide)
        route_sharedBorder.1 (by decide) sharedBorder_fails (List.mem_singleton_self _)
        (by decide) route_sharedBorder.2 sharedBorder_resolves
    obtain ⟨-, rfl⟩ := hfinds.unique sharedBorder_finds
    exact ⟨reading, _, path, value, hfinds, hstops, rfl, hshows⟩
  · have hresolves : splitBorder.resolve "border-x" = .ok (.one "borderWidth" "2px") := by
      decide +kernel
    obtain ⟨hshows, reading, found, keys, path, value, hfinds, -, -, hstops, -, -, hagree⟩ :=
      @suggested_value splitBorder "border-q" "border-q" ⟨[], false, false, "border-q"⟩
        ⟨[], false, false, "border-x"⟩ ⟨"border", .family .border⟩ _
        ⟨"border-x", "2px", Binary.zero false⟩ _ (by decide) route_sharedBorder.1
        (by decide +kernel) splitBorder_fails (by simp) (by decide +kernel) route_sharedBorder.2
        hresolves
    obtain ⟨rfl, -⟩ := hfinds.unique splitBorder_finds
    obtain ⟨halike, hsole⟩ := splitBorder_sole hstops
    have htext : found.text = "2px" := hagree halike hsole
    exact ⟨_, found, hfinds, htext, htext ▸ hshows⟩

theorem not_suggested_value :
    ¬∀ (engine : Engine) (raw : String) (token other : Token) (row : Row) (name : String)
      (list : List Suggestion) (s : Suggestion) (style : Style), Token.read raw = .ok token →
        Route.find engine.rules token.className = .ofRow row →
        Suggestion.correction? token.className = none →
        engine.resolve raw = .error (.unresolvable name (.ranked list)) → s ∈ list →
        Token.read s.target = .ok other → Route.find engine.rules other.className = .ofRow row →
        engine.resolve s.target = .ok style →
        ∃ reading found,
          Reading.Finds engine.theme (row.tries ⟨engine.theme, engine.options, other, row.key⟩)
            reading found ∧ found.text = s.value := by
  intro h
  obtain ⟨reading, found, hfinds, htext⟩ := h sharedBorder "border-q"
    ⟨[], false, false, "border-q"⟩ ⟨[], false, false, "border-x"⟩ ⟨"border", .family .border⟩ _ _ _
    _ (by decide) route_sharedBorder.1 (by decide) sharedBorder_fails
    (List.mem_singleton_self _) (by decide) route_sharedBorder.2 sharedBorder_resolves
  obtain ⟨-, rfl⟩ := hfinds.unique sharedBorder_finds
  exact absurd htext (by decide)

end Engine

end UtilityStyle
