import UtilityStyle.Proofs.Engine.Success

namespace UtilityStyle

namespace Request

variable {r : Request}

theorem read_eq_unresolvable {readings : List Reading} {searched : List String} {name : String}
    {suggestions : Suggestions}
    (h : r.read readings searched = .error (.unresolvable name suggestions)) :
    r.notFoundIn searched = .unresolvable name suggestions := by
  unfold read at h
  split at h
  · cases h
  · cases h
  · exact Except.error.inj h

theorem refuseNegative_ne_unresolvable {name : String} {suggestions : Suggestions} :
    r.refuseNegative ≠ .error (.unresolvable name suggestions) := by
  unfold refuseNegative refuse
  split <;> simp

end Request

namespace Row

def tries (row : Row) (r : Request) : List Reading :=
  match row.handler with
  | .descriptors _ => row.readings r.theme r.token
  | .family member => member.readings r

def searched (row : Row) (r : Request) : List String :=
  match row.handler with
  | .descriptors _ => row.sources
  | .family member => member.searched r

theorem style_eq_unresolvable {row : Row} {theme : Theme} {options : Options} {token : Token}
    {name : String} {suggestions : Suggestions}
    (h : row.style theme options token = .error (.unresolvable name suggestions)) :
    (Request.mk theme options token row.key).notFoundIn row.sources =
      .unresolvable name suggestions := by
  rw [style_eq, Outcome.bind_eq_error_iff] at h
  rcases h with h | ⟨found, -, h⟩
  · exact Request.read_eq_unresolvable h
  · split at h
    · exact Except.error.inj h
    · cases h

end Row

theorem Container.resolve_ne_unresolvable {r : Request} {name : String}
    {suggestions : Suggestions} : resolve r ≠ .error (.unresolvable name suggestions) := by
  cases hv : r.token.variants <;> cases hi : r.token.important <;> cases hn : r.token.negative <;>
    simp [resolve, Request.refuse, hv, hi, hn]

namespace Family

theorem refuseSign_ne_unresolvable {member : Family} {r : Request} {name : String}
    {suggestions : Suggestions} :
    (if member.takesSign r.key then .ok () else r.refuseNegative) ≠
      .error (.unresolvable name suggestions) := by
  split
  · exact nofun
  · exact Request.refuseNegative_ne_unresolvable

theorem style_eq_unresolvable {member : Family} {r : Request} {name : String}
    {suggestions : Suggestions} (h : member.style r = .error (.unresolvable name suggestions)) :
    member ≠ .container ∧ r.notFoundIn (member.searched r) = .unresolvable name suggestions := by
  by_cases hm : member = .container
  · subst hm
    exact absurd h Container.resolve_ne_unresolvable
  · rw [style_eq_read hm, Outcome.bind_eq_error_iff] at h
    rcases h with h | ⟨_, -, h⟩
    · exact absurd h refuseSign_ne_unresolvable
    · exact ⟨hm, Request.read_eq_unresolvable h⟩

theorem searched_ne_nil {member : Family} (h : member ≠ .container) (r : Request) :
    member.searched r ≠ [] := by
  cases member with
  | container => exact absurd rfl h
  | divide =>
    unfold searched
    dsimp only
    split
    · simp
    · split <;> simp
  | space | placeholder | text | bg | border => simp [searched]

end Family

theorem Row.searched_ne_nil {row : Row} (hmem : row ∈ Utility.rows)
    (hne : row.handler ≠ .family .container) (r : Request) : row.searched r ≠ [] := by
  unfold searched
  cases hm : row.handler with
  | descriptors list => exact Utility.sources_ne_nil row hmem (by simp [family?, hm])
  | family member =>
    apply Family.searched_ne_nil
    rintro rfl
    exact hne hm

namespace Variant

variable {theme : Theme} {name : String} {suggestions : Suggestions}

theorem find_ne_unresolvable {variant : String} :
    find theme variant ≠ .error (.unresolvable name suggestions) := by
  unfold find fromTheme
  cases Screen.query? theme variant with
  | error cause => simp
  | ok query? =>
    cases query? with
    | some query => simp
    | none => cases Selector.builtin? variant <;> simp

theorem keys_ne_unresolvable {sassy : Bool} {names : List String} :
    keys theme sassy names ≠ .error (.unresolvable name suggestions) := by
  unfold keys
  induction names with
  | nil => simp
  | cons first rest ih =>
    rw [List.mapM_cons]
    intro h
    rcases Outcome.bind_eq_error_iff.1 h with h | ⟨_, -, h⟩
    · exact find_ne_unresolvable (Outcome.map_eq_error_iff.1 h)
    · rcases Outcome.bind_eq_error_iff.1 h with h | ⟨_, -, h⟩
      · exact ih h
      · cases h

end Variant

namespace Engine

variable {engine : Engine} {raw : String} {token : Token} {row : Row} {name : String}
  {suggestions : Suggestions}

theorem readToken_ne_unresolvable : readToken raw ≠ .error (.unresolvable name suggestions) := by
  unfold readToken
  split
  · exact nofun
  · cases Token.read raw <;> exact nofun

theorem refuseEmpty_ne_unresolvable :
    refuseEmpty raw token ≠ .error (.unresolvable name suggestions) := by
  unfold refuseEmpty
  split <;> exact nofun

theorem refuseNegative_ne_unresolvable :
    refuseNegative token ≠ .error (.unresolvable name suggestions) := by
  unfold refuseNegative
  split <;> exact nofun

theorem style_of_resolve_eq_unresolvable (hread : Token.read raw = .ok token)
    (h : engine.resolve raw = .error (.unresolvable name suggestions)) :
    engine.style token = .error (.unresolvable name suggestions) := by
  unfold resolve keyedStyle at h
  rcases Outcome.bind_eq_error_iff.1 (Outcome.map_eq_error_iff.1 h) with h | ⟨found, hfound, h⟩
  · exact absurd h readToken_ne_unresolvable
  · obtain ⟨-, hfound⟩ := readToken_eq_ok_iff.1 hfound
    rw [hread] at hfound
    obtain rfl := Except.ok.inj hfound
    rcases Outcome.bind_eq_error_iff.1 h with h | ⟨_, -, h⟩
    · exact absurd h Variant.keys_ne_unresolvable
    · rcases Outcome.bind_eq_error_iff.1 h with h | ⟨_, -, h⟩
      · exact absurd h refuseEmpty_ne_unresolvable
      · rcases Outcome.bind_eq_error_iff.1 h with h | ⟨_, -, h⟩
        · exact h
        · cases h

theorem notFoundIn_searched (hroute : Route.find engine.rules token.className = .ofRow row)
    (h : engine.style token = .error (.unresolvable name suggestions)) :
    row.handler ≠ .family .container ∧
      (Request.mk engine.theme engine.options token row.key).notFoundIn
        (row.searched ⟨engine.theme, engine.options, token, row.key⟩) =
          .unresolvable name suggestions := by
  unfold Row.searched
  cases hm : row.handler with
  | descriptors list =>
    rw [Route.ofRow_of_descriptors hm] at hroute
    rw [style_of_reading hroute, Outcome.map_eq_error_iff] at h
    exact ⟨by simp, Row.style_eq_unresolvable h⟩
  | family member =>
    rw [Route.ofRow_of_family hm] at hroute
    rw [style_of_family hroute] at h
    obtain ⟨hne, hnotFound⟩ := Family.style_eq_unresolvable h
    exact ⟨by simpa using hne, hnotFound⟩

theorem suggestions_eq (hroute : Route.find engine.rules token.className = .ofRow row)
    (hcorrection : Suggestion.correction? token.className = none)
    (h : engine.style token = .error (.unresolvable name suggestions)) :
    suggestions =
      if engine.options.hasSuggestions then Suggestion.fromTheme engine.theme
        ⟨row.searched ⟨engine.theme, engine.options, token, row.key⟩, row.key, token.className,
          token.negative⟩
      else .nothing := by
  obtain ⟨hne, hnotFound⟩ := notFoundIn_searched hroute h
  have hsections := Row.searched_ne_nil (Route.mem_of_find_eq_ofRow hroute) hne
    ⟨engine.theme, engine.options, token, row.key⟩
  injection hnotFound with _ hsearch
  rw [← hsearch]
  unfold Suggestion.search
  dsimp only [Request.className]
  rw [hcorrection]
  simp [hsections]

end Engine

end UtilityStyle
