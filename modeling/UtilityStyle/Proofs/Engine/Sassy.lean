import Mathlib.Data.List.Nodup
import UtilityStyle.Proofs.Engine.Cascade
import UtilityStyle.Proofs.Engine.Invariant
import UtilityStyle.Proofs.Engine.Order
import UtilityStyle.Proofs.Style.Rename

namespace UtilityStyle

namespace Selector

def selectors : List String := builtin.map Prod.snd

def sassyKey (key : String) : String := if key ∈ selectors then sassy key else key

def IsLoose (key : String) : Prop := key.toList.head? ≠ some '&'

instance (key : String) : Decidable (IsLoose key) := inferInstanceAs (Decidable (_ ≠ _))

structure IsForeign (key : String) : Prop where
  loose : IsLoose key
  notBuiltin : key ∉ selectors

instance (key : String) : Decidable (IsForeign key) :=
  decidable_of_iff (IsLoose key ∧ key ∉ selectors)
    ⟨fun h => ⟨h.1, h.2⟩, fun h => ⟨h.loose, h.notBuiltin⟩⟩

theorem mem_selectors {name selector : String} (h : builtin? name = some selector) :
    selector ∈ selectors :=
  List.mem_map_of_mem (Entries.mem_of_get?_eq_some h)

variable {key : String}

theorem sassyKey_of_isForeign (h : IsForeign key) : sassyKey key = key := if_neg h.notBuiltin

theorem isForeign_of_not_isScope (h : isScope key = false) : IsForeign key := by
  constructor
  · intro hself
    rw [isScope, hself] at h
    exact absurd h (by decide)
  · intro hk
    obtain ⟨entry, he, rfl⟩ := List.mem_map.1 hk
    rw [(Variant.isScope_builtin entry he).1] at h
    cases h

theorem isForeign_of_isMedia (h : Screen.IsMedia key) : IsForeign key := by
  constructor
  · obtain ⟨rest, hrest⟩ := h
    rw [IsLoose, ← hrest]
    exact fun hself => nomatch hself
  · intro hk
    obtain ⟨entry, he, rfl⟩ := List.mem_map.1 hk
    exact (Variant.not_isMedia_builtin entry he).1 h

theorem sassy_selectors : ∀ selector ∈ selectors,
    IsLoose selector ∧ (sassy selector = selector ∨ ¬IsLoose (sassy selector)) := by
  decide

theorem nodup_sassy_selectors : (selectors.map sassy).Nodup := by
  decide

theorem injOn_sassyKey : Set.InjOn sassyKey {key | IsLoose key} := by
  have hmixed : ∀ {selector key : String}, selector ∈ selectors → IsLoose key →
      sassy selector = key → selector = key := by
    intro selector key hs hk h
    rcases (sassy_selectors selector hs).2 with hsame | htied
    · exact hsame.symm.trans h
    · exact absurd (h.symm ▸ hk) htied
  intro a ha b hb h
  unfold sassyKey at h
  split at h <;> split at h <;> rename_i hsa hsb
  · exact List.inj_on_of_nodup_map nodup_sassy_selectors hsa hsb h
  · exact hmixed hsa hb h
  · exact (hmixed hsb ha h.symm).symm
  · exact h

end Selector

namespace Variant

variable {theme : Theme} {name : String} {variant : Variant}

theorem key_sassy (h : find theme name = .ok variant) :
    variant.key true = Selector.sassyKey (variant.key false) := by
  obtain ⟨query, hquery, rfl⟩ | ⟨-, selector, hselector, rfl⟩ := find_eq_ok_iff.1 h
  · have hforeign := Selector.isForeign_of_isMedia (Screen.isMedia_of_query? hquery)
    exact (Selector.sassyKey_of_isForeign hforeign).symm
  · exact (if_pos (Selector.mem_selectors hselector)).symm

theorem isLoose_key (h : find theme name = .ok variant) :
    Selector.IsLoose (variant.key false) := by
  obtain ⟨query, hquery, rfl⟩ | ⟨-, selector, hselector, rfl⟩ := find_eq_ok_iff.1 h
  · have hforeign := Selector.isForeign_of_isMedia (Screen.isMedia_of_query? hquery)
    exact hforeign.loose
  · exact (Selector.sassy_selectors selector (Selector.mem_selectors hselector)).1

theorem keys_sassy (theme : Theme) (names : List String) :
    keys theme true names = (keys theme false names).map (List.map Selector.sassyKey) := by
  apply Outcome.mapM_eq_map
  intro name _
  cases h : find theme name with
  | error e => rfl
  | ok variant => exact congrArg Except.ok (key_sassy h)

theorem isLoose_keys {names keys : List String} (h : Variant.keys theme false names = .ok keys) :
    ∀ key ∈ keys, Selector.IsLoose key := by
  intro key hk
  obtain ⟨name, variant, hvariant, rfl⟩ := exists_of_mem_keys h key hk
  exact isLoose_key hvariant

end Variant

namespace Utility

theorem isForeign_invariant : Invariant (Style.KeysAmong Selector.IsForeign) where
  empty := Style.keysAmong_empty
  putText hs hk _ := hs.put (Selector.isForeign_of_not_isScope hk) rfl
  putNumber hs hk _ := hs.put (Selector.isForeign_of_not_isScope hk) rfl
  under {_ member _} hi hk := by
    have hselector : ∀ key ∈ member.selector, Selector.IsForeign key := by
      cases member <;> decide
    exact hi.under (hselector _ hk)
  markImportant hs := hs.markImportant
  fixed := by decide +kernel

end Utility

namespace Engine

variable {theme : Theme} {options : Options} {rules : Rulebook} {token : Token} {raw : String}

theorem style_of_hasSuggestions {a b : Options} (h : a.hasSuggestions = b.hasSuggestions) :
    style ⟨theme, a, rules⟩ token = style ⟨theme, b, rules⟩ token := by
  obtain ⟨_, _, _⟩ := a
  obtain ⟨_, _, _⟩ := b
  obtain rfl : _ = _ := h
  rfl

theorem keyedStyle_sassy (raw : String) :
    keyedStyle ⟨theme, { options with sassyPseudo := true }, rules⟩ raw =
      (keyedStyle ⟨theme, { options with sassyPseudo := false }, rules⟩ raw).map fun keyed =>
        { keyed with keys := keyed.keys.map Selector.sassyKey } := by
  unfold keyedStyle
  cases readToken raw with
  | error e => rfl
  | ok token =>
    have hstyle : style ⟨theme, { options with sassyPseudo := true }, rules⟩ token =
        style ⟨theme, { options with sassyPseudo := false }, rules⟩ token :=
      style_of_hasSuggestions rfl
    dsimp only [bind, Except.bind]
    rw [Variant.keys_sassy, hstyle]
    cases Variant.keys theme false token.variants with
    | error e => rfl
    | ok keys =>
      dsimp only [Except.map]
      cases refuseEmpty raw token with
      | error e => rfl
      | ok _ => cases style ⟨theme, { options with sassyPseudo := false }, rules⟩ token <;> rfl

theorem isForeign_keyedStyle {keyed : KeyedStyle} (hroute : AvoidsContainer .empty raw)
    (h : keyedStyle ⟨theme, { options with sassyPseudo := false }, .empty⟩ raw = .ok keyed) :
    (∀ key ∈ keyed.keys, Selector.IsLoose key) ∧ keyed.style.KeysAmong Selector.IsForeign := by
  simp only [keyedStyle, Outcome.bind_eq_ok_iff, Outcome.pure_eq_ok_iff] at h
  obtain ⟨token, htoken, keys, hkeys, _, -, inner, hinner, rfl⟩ := h
  have hfind := hroute token (readToken_eq_ok_iff.1 htoken).2
  exact ⟨Variant.isLoose_keys hkeys,
    invariant_style Utility.isForeign_invariant (fun _ hrule => by cases hrule) hfind hinner⟩

theorem isLoose_resolve {style : Style} (hroute : AvoidsContainer .empty raw)
    (h : resolve ⟨theme, { options with sassyPseudo := false }, .empty⟩ raw = .ok style) :
    style.KeysAmong Selector.IsLoose := by
  obtain ⟨keyed, hkeyed, rfl⟩ := Outcome.map_eq_ok_iff.1 h
  obtain ⟨hkeys, hstyle⟩ := isForeign_keyedStyle hroute hkeyed
  have hloose := hstyle.mono fun _ hk => hk.loose
  exact hloose.within hkeys

theorem resolve_sassy (hroute : AvoidsContainer .empty raw) :
    resolve ⟨theme, { options with sassyPseudo := true }, .empty⟩ raw =
      (resolve ⟨theme, { options with sassyPseudo := false }, .empty⟩ raw).map
        (Style.renameKeys Selector.sassyKey) := by
  unfold resolve
  rw [keyedStyle_sassy]
  cases hkeyed : keyedStyle ⟨theme, { options with sassyPseudo := false }, .empty⟩ raw with
  | error e => rfl
  | ok keyed =>
    have hsame : keyed.style.renameKeys Selector.sassyKey = keyed.style :=
      Style.renameKeys_eq_self (fun _ => Selector.sassyKey_of_isForeign)
        (isForeign_keyedStyle hroute hkeyed).2
    change Except.ok (keyed.style.within (keyed.keys.map Selector.sassyKey)) =
      .ok ((keyed.style.within keyed.keys).renameKeys Selector.sassyKey)
    rw [Style.renameKeys_within, hsame]

theorem resolveAll_sassy {raws : List String} (hroute : ∀ raw ∈ raws, AvoidsContainer .empty raw) :
    resolveAll ⟨theme, { options with sassyPseudo := true }, .empty⟩ raws =
      (resolveAll ⟨theme, { options with sassyPseudo := false }, .empty⟩ raws).map
        (Style.renameKeys Selector.sassyKey) := by
  unfold resolveAll
  rw [Outcome.mapM_eq_map fun raw hraw => resolve_sassy (hroute raw hraw)]
  cases h : raws.mapM (resolve ⟨theme, { options with sassyPseudo := false }, .empty⟩) with
  | error e => rfl
  | ok styles =>
    have hloose : ∀ style ∈ styles, style.KeysAmong Selector.IsLoose := by
      intro style hs
      obtain ⟨raw, hraw, hresolve⟩ := (mem_of_mapM_resolve h).1 hs
      exact isLoose_resolve (hroute raw hraw) hresolve
    exact congrArg Except.ok (Style.renameKeys_mergeAll Selector.injOn_sassyKey hloose).symm

/-- With the sassy form asked for, a class list fails with the same error, or resolves to the same
style but for the selectors of built-in variants, which are in that form wherever they are keys. -/
theorem resolveList_sassy {classes : String}
    (hroute : ∀ raw ∈ tokens classes, AvoidsContainer .empty raw) :
    resolveList ⟨theme, { options with sassyPseudo := true }, .empty⟩ classes =
      (resolveList ⟨theme, { options with sassyPseudo := false }, .empty⟩ classes).map
        (Style.renameKeys Selector.sassyKey) := by
  apply resolveAll_sassy
  intro raw hraw
  exact hroute raw ((Order.byScreen_perm theme _).mem_iff.1 hraw)

theorem resolveList_sassy_hover :
    resolveList ⟨twoScreens.theme, { sassyPseudo := true }, .empty⟩
        "hover:p-4 group-hover:flex hover:block sm:hocus:flex" =
      .ok ⟨[("&:hover", .object [("padding", .string "1rem"), ("display", .string "block")]),
        (".group:hover &", .object [("display", .string "flex")]),
        ("@media (min-width: 640px)",
          .object [("&:hover, &:focus", .object [("display", .string "flex")])])]⟩ := by
  have htokens : tokens "hover:p-4 group-hover:flex hover:block sm:hocus:flex" =
      ["hover:p-4", "group-hover:flex", "hover:block", "sm:hocus:flex"] := by
    decide
  have hroute : ∀ raw ∈ ["hover:p-4", "group-hover:flex", "hover:block", "sm:hocus:flex"],
      AvoidsContainer .empty raw := by
    decide
  have hordered : twoScreens.ordered "hover:p-4 group-hover:flex hover:block sm:hocus:flex" =
      ["hover:p-4", "group-hover:flex", "hover:block", "sm:hocus:flex"] := by
    rw [ordered, htokens]
    exact Order.byScreen_eq_self (by decide)
  rw [← htokens] at hroute
  refine (@resolveList_sassy twoScreens.theme {} _ hroute).trans ?_
  change (twoScreens.resolveAll (twoScreens.ordered _)).map _ = _
  rw [hordered]
  decide +kernel

end Engine

end UtilityStyle
