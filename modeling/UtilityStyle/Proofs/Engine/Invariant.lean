import UtilityStyle.Proofs.Engine.Success
import UtilityStyle.Proofs.Rule.Invariant
import UtilityStyle.Proofs.Utility.Invariant

namespace UtilityStyle

namespace Family

variable {P : Style → Prop} {member : Family} {r : Request} {style : Style}

theorem exists_style_eq (hm : member ≠ .container) (h : member.style r = .ok style) :
    ∃ reading ∈ member.readings r, ∃ found, style = reading.style found := by
  obtain ⟨-, hfirst⟩ := (style_eq_ok_iff hm).1 h
  obtain ⟨_, reading, _, found, hreadings, -, -, rfl⟩ := Reading.first?_eq_ok_some_iff.1 hfirst
  exact ⟨reading, by simp [hreadings], found, rfl⟩

theorem exists_style_eq_within (hP : Utility.Extensible P) (hm : member ≠ .container)
    (h : member.style r = .ok style) : ∃ inner, P inner ∧ style = inner.within member.selector := by
  obtain ⟨reading, hreading, found, rfl⟩ := exists_style_eq hm h
  exact layers_readings hP member r reading hreading found

theorem invariant_style (hP : Utility.Invariant P) (hm : member ≠ .container)
    (h : member.style r = .ok style) : P style := by
  obtain ⟨inner, hinner, rfl⟩ := exists_style_eq_within hP.toExtensible hm h
  apply Style.within_keeps _ hinner
  exact fun key hk inner hi => hP.under hi hk

end Family

namespace Variant

theorem isScope_builtin : ∀ entry ∈ Selector.builtin,
    isScope entry.2 = true ∧ isScope (Selector.sassy entry.2) = true := by
  decide

theorem isScope_key {theme : Theme} {name : String} {variant : Variant}
    (h : find theme name = .ok variant) (sassy : Bool) : isScope (variant.key sassy) = true := by
  obtain ⟨query, hquery, rfl⟩ | ⟨-, selector, hselector, rfl⟩ := find_eq_ok_iff.1 h
  · exact isScope_of_isMedia (Screen.isMedia_of_query? hquery)
  · obtain ⟨hplain, hsassy⟩ := isScope_builtin _ (Entries.mem_of_get?_eq_some hselector)
    unfold key
    dsimp only
    split
    · exact hsassy
    · exact hplain

theorem exists_of_mem_keys {theme : Theme} {sassy : Bool} {names keys : List String}
    (h : Variant.keys theme sassy names = .ok keys) :
    ∀ key ∈ keys, ∃ name variant, find theme name = .ok variant ∧ variant.key sassy = key := by
  induction names generalizing keys with
  | nil =>
    obtain rfl : [] = keys := Except.ok.inj h
    simp
  | cons name rest ih =>
    simp only [Variant.keys, List.mapM_cons, Outcome.bind_eq_ok_iff, Outcome.map_eq_ok_iff,
      Outcome.pure_eq_ok_iff] at h
    obtain ⟨_, ⟨variant, hvariant, rfl⟩, others, hothers, rfl⟩ := h
    exact List.forall_mem_cons.2 ⟨⟨name, variant, hvariant, rfl⟩, ih hothers⟩

theorem isScope_keys {theme : Theme} {sassy : Bool} {names keys : List String}
    (h : Variant.keys theme sassy names = .ok keys) : ∀ key ∈ keys, isScope key = true := by
  intro key hk
  obtain ⟨name, variant, hvariant, rfl⟩ := exists_of_mem_keys h key hk
  exact isScope_key hvariant sassy

end Variant

namespace Utility

theorem scoped_invariant : Invariant Style.Scoped where
  empty := Style.scoped_empty
  putText hs hk text := hs.putText hk text
  putNumber hs hk _ := hs.put hk rfl rfl
  under hi hk := hi.under (Family.isScope_selector _ _ hk).1
  markImportant hs := hs.markImportant
  fixed := by decide +kernel

theorem wellFormed_invariant : Invariant fun style => style.value.wellFormed where
  empty := rfl
  putText hs _ _ := Json.fieldsWellFormed_put hs rfl
  putNumber hs _ _ := Json.fieldsWellFormed_put hs rfl
  under hi _ := Style.wellFormed_under _ hi
  markImportant hs := Json.wellFormed_mapValue_markValue hs
  fixed := fun entry he => (scoped_invariant.fixed entry he).wellFormed

end Utility

namespace Route

def isContainer : Route → Bool
  | .family _ .container => true
  | _ => false

theorem isContainer_eq_false_iff {route : Route} :
    route.isContainer = false ↔ ∀ row, route ≠ .family row .container := by
  cases route with
  | family row member => cases member <;> simp [isContainer]
  | _ => simp [isContainer]

end Route

namespace Engine

def AvoidsContainer (rules : Rulebook) (raw : String) : Prop :=
  ∀ token, Token.read raw = .ok token →
    ∀ row, Route.find rules token.className ≠ .family row .container

instance (rules : Rulebook) (raw : String) : Decidable (AvoidsContainer rules raw) :=
  match h : Token.read raw with
  | .ok token =>
    decidable_of_iff ((Route.find rules token.className).isContainer = false) (by
      simp [AvoidsContainer, h, Route.isContainer_eq_false_iff])
  | .error _ => isTrue (by simp [AvoidsContainer, h])

variable {engine : Engine} {token : Token} {style : Style}

theorem invariant_marked {P : Style → Prop} (hP : Utility.Invariant P) (hs : P style)
    (token : Token) : P (marked token style) := by
  unfold marked
  split
  · exact hP.markImportant hs
  · exact hs

theorem invariant_style {P : Style → Prop} (hP : Utility.Invariant P)
    (hrules : ∀ inner, engine.rules.resolve token.className = some inner → P inner)
    (hroute : ∀ row, Route.find engine.rules token.className ≠ .family row .container)
    (h : engine.style token = .ok style) : P style := by
  rw [style_eq_ok_iff] at h
  cases hfind : Route.find engine.rules token.className with
  | fixed name inner =>
    rw [hfind] at h
    obtain ⟨-, rfl⟩ := h
    have hfixed := Entries.mem_of_get?_eq_some (Route.fixed?_of_find hfind)
    exact invariant_marked hP (hP.fixed _ hfixed) token
  | reading row =>
    rw [hfind] at h
    obtain ⟨inner, hinner, rfl⟩ := h
    have hrow := Route.mem_of_find_eq_reading hfind
    exact invariant_marked hP (Row.invariant_style hP.toExtensible hrow hinner) token
  | family row member =>
    rw [hfind] at h
    have hm : member ≠ .container := by
      rintro rfl
      exact hroute row hfind
    exact Family.invariant_style hP hm h
  | rule =>
    rw [hfind] at h
    obtain ⟨-, inner, hinner, rfl⟩ := h
    exact invariant_marked hP (hrules inner hinner) token
  | unmatched =>
    rw [hfind] at h
    cases h

theorem scoped_resolve {raw : String} (hrules : engine.rules = .empty)
    (hroute : AvoidsContainer engine.rules raw) (h : engine.resolve raw = .ok style) :
    style.Scoped := by
  obtain ⟨-, token, keys, inner, hread, hkeys, -, hinner, rfl⟩ := resolve_eq_ok_iff.1 h
  have hscoped : inner.Scoped := by
    apply invariant_style Utility.scoped_invariant _ (hroute token hread) hinner
    intro found hfound
    rw [hrules] at hfound
    cases hfound
  exact hscoped.within (Variant.isScope_keys hkeys)

theorem wellFormed_resolve {components utilities : List Rule} {raw : String}
    (hrules : Rulebook.ofRules components utilities = .ok engine.rules)
    (hroute : AvoidsContainer engine.rules raw) (h : engine.resolve raw = .ok style) :
    style.value.wellFormed := by
  obtain ⟨-, token, keys, inner, hread, hkeys, -, hinner, rfl⟩ := resolve_eq_ok_iff.1 h
  have hbook := Rulebook.invariant_ofRules Rule.wellFormed_invariant hrules
  apply Style.wellFormed_within
  exact invariant_style Utility.wellFormed_invariant
    (fun _ => Rulebook.invariant_resolve Rule.wellFormed_invariant hbook) (hroute token hread)
    hinner

end Engine

end UtilityStyle
