import UtilityStyle.Proofs.Engine.Failure

namespace UtilityStyle

namespace Error

def withoutSuggestions : Error → Error
  | .unresolvable className _ => .unresolvable className .nothing
  | error => error

theorem mapError_withoutSuggestions {α : Type} {x : Except Error α}
    (h : ∀ name suggestions, x ≠ .error (.unresolvable name suggestions)) :
    x.mapError withoutSuggestions = x := by
  cases x with
  | ok found => rfl
  | error error =>
    cases error with
    | unresolvable name suggestions => exact absurd rfl (h name suggestions)
    | _ => rfl

theorem noSuchClass_silent {on off : Options} (hoff : off.hasSuggestions = false) (theme : Theme)
    (token : Token) (query? : Option Suggestion.Query) :
    noSuchClass theme off token query? =
      (noSuchClass theme on token query?).withoutSuggestions := by
  unfold noSuchClass
  rw [hoff]
  rfl

end Error

namespace Request

def withOptions (r : Request) (options : Options) : Request := { r with options }

variable {off : Options}

theorem notFoundIn_silent (hoff : off.hasSuggestions = false) (r : Request)
    (sections : List String) :
    (r.withOptions off).notFoundIn sections = (r.notFoundIn sections).withoutSuggestions :=
  Error.noSuchClass_silent hoff r.theme r.token _

theorem read_silent (hoff : off.hasSuggestions = false) (r : Request) (readings : List Reading)
    (searched : List String) :
    (r.withOptions off).read readings searched =
      (r.read readings searched).mapError .withoutSuggestions := by
  have htheme : (r.withOptions off).theme = r.theme := rfl
  unfold read
  rw [htheme]
  cases Reading.first? r.theme readings with
  | error cause => rfl
  | ok style? =>
    cases style? with
    | some style => rfl
    | none => exact congrArg Except.error (notFoundIn_silent hoff r searched)

end Request

theorem Row.style_silent {on off : Options} (hoff : off.hasSuggestions = false) (row : Row)
    (theme : Theme) (token : Token) :
    row.style theme off token = (row.style theme on token).mapError .withoutSuggestions := by
  have hread := Request.read_silent hoff ⟨theme, on, token, row.key⟩
    (row.readings theme token) row.sources
  rw [style_eq, style_eq, Outcome.mapError_bind, ← hread]
  apply bind_congr
  intro found
  split
  · exact congrArg Except.error (Error.noSuchClass_silent hoff theme token _)
  · rfl

theorem Family.style_silent {off : Options} (hoff : off.hasSuggestions = false) (member : Family)
    (r : Request) :
    member.style (r.withOptions off) = (member.style r).mapError .withoutSuggestions := by
  by_cases hm : member = .container
  · subst hm
    exact (Error.mapError_withoutSuggestions fun _ _ => Container.resolve_ne_unresolvable).symm
  · have hsigned : (if member.takesSign r.key then .ok () else r.refuseNegative).mapError
        Error.withoutSuggestions =
          if member.takesSign r.key then .ok () else r.refuseNegative :=
      Error.mapError_withoutSuggestions fun _ _ => refuseSign_ne_unresolvable
    have hreadings : member.readings (r.withOptions off) = member.readings r := by
      cases member <;> rfl
    have hsearched : member.searched (r.withOptions off) = member.searched r := by
      cases member <;> rfl
    rw [style_eq_read hm, style_eq_read hm, Outcome.mapError_bind, hsigned, hreadings, hsearched]
    apply bind_congr
    intro _
    exact Request.read_silent hoff r _ _

namespace Engine

variable {theme : Theme} {on off : Options} {rules : Rulebook}

theorem style_silent (hoff : off.hasSuggestions = false) (token : Token) :
    style ⟨theme, off, rules⟩ token =
      (style ⟨theme, on, rules⟩ token).mapError .withoutSuggestions := by
  have hmissing : Error.noSuchClass theme off token none =
      (Error.noSuchClass theme on token none).withoutSuggestions :=
    Error.noSuchClass_silent hoff theme token none
  have hnegative : (refuseNegative token).mapError Error.withoutSuggestions =
      refuseNegative token :=
    Error.mapError_withoutSuggestions fun _ _ => refuseNegative_ne_unresolvable
  unfold style
  dsimp only
  cases Route.find rules token.className with
  | fixed name inner =>
    dsimp only
    rw [Outcome.mapError_bind, hnegative]
    rfl
  | reading row =>
    dsimp only
    rw [Outcome.mapError_map, Row.style_silent hoff]
  | family row member => exact Family.style_silent hoff member ⟨theme, on, token, row.key⟩
  | rule =>
    dsimp only
    rw [Outcome.mapError_bind, hnegative]
    apply bind_congr
    intro _
    cases rules.resolve token.className with
    | some inner => rfl
    | none => exact congrArg Except.error hmissing
  | unmatched => exact congrArg Except.error hmissing

theorem keyedStyle_silent (hoff : off.hasSuggestions = false)
    (hsassy : off.sassyPseudo = on.sassyPseudo) (raw : String) :
    keyedStyle ⟨theme, off, rules⟩ raw =
      (keyedStyle ⟨theme, on, rules⟩ raw).mapError .withoutSuggestions := by
  have hread : (readToken raw).mapError Error.withoutSuggestions = readToken raw :=
    Error.mapError_withoutSuggestions fun _ _ => readToken_ne_unresolvable
  unfold keyedStyle
  rw [Outcome.mapError_bind, hread]
  apply bind_congr
  intro token
  have hkeys : (Variant.keys theme on.sassyPseudo token.variants).mapError
      Error.withoutSuggestions = Variant.keys theme on.sassyPseudo token.variants :=
    Error.mapError_withoutSuggestions fun _ _ => Variant.keys_ne_unresolvable
  have hempty : (refuseEmpty raw token).mapError Error.withoutSuggestions =
      refuseEmpty raw token :=
    Error.mapError_withoutSuggestions fun _ _ => refuseEmpty_ne_unresolvable
  rw [Outcome.mapError_bind, hkeys, hsassy]
  apply bind_congr
  intro keys
  rw [Outcome.mapError_bind, hempty]
  apply bind_congr
  intro _
  rw [Outcome.mapError_bind, ← style_silent hoff]
  rfl

theorem resolveList_eq_mapError (hoff : off.hasSuggestions = false)
    (hsassy : off.sassyPseudo = on.sassyPseudo) (classes : String) :
    resolveList ⟨theme, off, rules⟩ classes =
      (resolveList ⟨theme, on, rules⟩ classes).mapError .withoutSuggestions := by
  have hresolve : resolve ⟨theme, off, rules⟩ = fun raw =>
      (resolve ⟨theme, on, rules⟩ raw).mapError .withoutSuggestions := by
    funext raw
    unfold resolve
    rw [keyedStyle_silent hoff hsassy, Outcome.mapError_map]
  unfold resolveList resolveAll
  rw [hresolve, Outcome.mapM_mapError, Outcome.mapError_map]
  rfl

/-- What is logged makes no difference to a class list. Without suggestions it resolves to the same
style, or fails with the same error, which then suggests nothing. -/
theorem resolveList_silent (theme : Theme) (options : Options) (rules : Rulebook) (debug : Bool)
    (classes : String) :
    resolveList ⟨theme, { options with debug }, rules⟩ classes =
        resolveList ⟨theme, options, rules⟩ classes ∧
      resolveList ⟨theme, { options with debug, hasSuggestions := false }, rules⟩ classes =
        (resolveList ⟨theme, options, rules⟩ classes).mapError .withoutSuggestions := by
  constructor
  · rfl
  · apply resolveList_eq_mapError
    · rfl
    · rfl

example :
    resolve ⟨⟨[]⟩, {}, .empty⟩ "hover:flex-column!" =
        .error (.unresolvable "flex-column!" (.single "flex-col")) ∧
      resolve ⟨⟨[]⟩, { hasSuggestions := false }, .empty⟩ "hover:flex-column!" =
        .error (.unresolvable "flex-column!" .nothing) := by
  decide

end Engine

end UtilityStyle
