import UtilityStyle.Json.WellFormed
import UtilityStyle.Style

/-!
What merging does to a key, to the order of the keys, and to a path. Merging acts on each key by
itself, so every law here comes from `get?_mergeFields_of_some` and `get?_mergeFields_of_none`.
-/

namespace UtilityStyle

namespace Json

/-- The value has something at the path, or on the way to it something that is no object. -/
def Settles (path : List String) (value : Json) : Prop :=
  (value.at? path).isSome ∨
    ∃ before, before <+: path ∧ before ≠ path ∧ ∃ x, value.at? before = some x ∧ x.isObject = false

theorem eq_object_of_isObject {value : Json} (h : value.isObject = true) :
    ∃ fields, value = .object fields := by
  cases value with
  | object fields => exact ⟨fields, rfl⟩
  | _ => cases h

theorem settles_nil (value : Json) : Settles [] value := .inl rfl

theorem settles_of_isObject_eq_false {value : Json} (h : value.isObject = false) :
    ∀ path, Settles path value
  | [] => settles_nil value
  | _ :: _ => .inr ⟨[], List.nil_prefix, by simp, value, rfl, h⟩

theorem not_settles_cons {key : String} {path : List String} {fields : Fields}
    (h : Entries.get? key fields = none) : ¬Settles (key :: path) (.object fields) := by
  rintro (hs | ⟨before, hp, hne, x, hx, hl⟩)
  · simp [member?, fields?, h] at hs
  · cases before with
    | nil => cases hx; cases hl
    | cons first rest =>
      obtain rfl : first = key := (List.cons_prefix_cons.1 hp).1
      simp [member?, fields?, h] at hx

theorem settles_cons {key : String} {path : List String} {fields : Fields} {value : Json}
    (h : Entries.get? key fields = some value) :
    Settles (key :: path) (.object fields) ↔ Settles path value := by
  constructor
  · rintro (hs | ⟨before, hp, hne, x, hx, hl⟩)
    · exact .inl (by simpa [member?, fields?, h] using hs)
    · cases before with
      | nil => cases hx; cases hl
      | cons first rest =>
        obtain ⟨rfl, hr⟩ := List.cons_prefix_cons.1 hp
        refine .inr ⟨rest, hr, fun e => hne (by rw [e]), x, ?_, hl⟩
        simpa [member?, fields?, h] using hx
  · rintro (hs | ⟨before, hp, hne, x, hx, hl⟩)
    · exact .inl (by simpa [member?, fields?, h] using hs)
    · refine .inr ⟨key :: before, List.cons_prefix_cons.2 ⟨rfl, hp⟩, by simpa using hne, x, ?_, hl⟩
      simpa [member?, fields?, h] using hx

end Json

namespace Style

def mergeValue (old? : Option Json) : Json → Json
  | .object more =>
    match old? with
    | some (.object old) => .object (mergeFields old more)
    | _ => .object more
  | value => value

theorem mergeMember_eq_put (fields : Fields) (key : String) (value : Json) :
    mergeMember fields key value =
      Entries.put key (mergeValue (Entries.get? key fields) value) fields := by
  cases value with
  | object more =>
    cases h : Entries.get? key fields with
    | none => simp [mergeMember, mergeValue, h]
    | some old => cases old <;> simp [mergeMember, mergeValue, h]
  | _ => rfl

theorem mergeFields_cons (fields : Fields) (key : String) (value : Json) (rest : Fields) :
    mergeFields fields ((key, value) :: rest) =
      mergeFields (Entries.put key (mergeValue (Entries.get? key fields) value) fields) rest := by
  rw [mergeFields, mergeMember_eq_put]

theorem get?_mergeFields_of_none {key : String} {more : Fields}
    (h : Entries.get? key more = none) (fields : Fields) :
    Entries.get? key (mergeFields fields more) = Entries.get? key fields := by
  induction more generalizing fields with
  | nil => rfl
  | cons entry rest ih =>
    obtain ⟨first, value⟩ := entry
    by_cases hk : first = key
    · simp [Entries.get?, hk] at h
    · simp only [Entries.get?, hk, if_false] at h
      rw [mergeFields_cons, ih h, Entries.get?_put_of_ne (Ne.symm hk)]

theorem get?_mergeFields_of_some {key : String} {more : Fields} {value : Json}
    (hw : Json.fieldsWellFormed more) (h : Entries.get? key more = some value) (fields : Fields) :
    Entries.get? key (mergeFields fields more) =
      some (mergeValue (Entries.get? key fields) value) := by
  induction more generalizing fields with
  | nil => cases h
  | cons entry rest ih =>
    obtain ⟨first, old⟩ := entry
    obtain ⟨hf, -, hr⟩ := Json.fieldsWellFormed_cons.1 hw
    rw [mergeFields_cons]
    by_cases hk : first = key
    · subst hk
      obtain rfl : old = value := by simpa [Entries.get?] using h
      rw [get?_mergeFields_of_none hf, Entries.get?_put_self]
    · simp only [Entries.get?, hk, if_false] at h
      rw [ih hr h, Entries.get?_put_of_ne (Ne.symm hk)]

theorem keys_mergeFields {more : Fields} (hw : Json.fieldsWellFormed more) (fields : Fields) :
    Entries.keys (mergeFields fields more) =
      Entries.keys fields ++ (Entries.keys more).removeAll (Entries.keys fields) := by
  induction more generalizing fields with
  | nil => simp [mergeFields, Entries.keys, List.removeAll]
  | cons entry rest ih =>
    obtain ⟨key, value⟩ := entry
    obtain ⟨hf, -, hr⟩ := Json.fieldsWellFormed_cons.1 hw
    have hnew : key ∉ Entries.keys rest := Entries.get?_eq_none_iff.1 hf
    rw [mergeFields_cons, ih hr, Entries.keys_put]
    change _ = _ ++ (key :: Entries.keys rest).removeAll _
    rw [List.cons_removeAll]
    by_cases hk : key ∈ Entries.keys fields
    · simp [hk]
    · have hrest : (Entries.keys rest).removeAll (Entries.keys fields ++ [key]) =
          (Entries.keys rest).removeAll (Entries.keys fields) := by
        apply List.filter_congr
        intro other ho
        have hne : other ≠ key := fun e => hnew (e ▸ ho)
        simp [hne]
      simp [hk, hrest]

theorem mergeAll_append_singleton (styles : List Style) (last : Style) :
    mergeAll (styles ++ [last]) = (mergeAll styles).merge last := by
  simp [mergeAll]

/-- A leaf of a merged value is one of the new value, or an old one that the new value does not
settle. -/
theorem at?_mergeFields {path : List String} {x : Json} (hx : x.isObject = false)
    {fields more : Fields} (hw : Json.fieldsWellFormed more) :
    (Json.object (mergeFields fields more)).at? path = some x ↔
      (Json.object more).at? path = some x ∨
        ¬Json.Settles path (.object more) ∧ (Json.object fields).at? path = some x := by
  induction path generalizing fields more with
  | nil =>
    have hne : ∀ all : Fields, Json.object all ≠ x := fun all e => by cases e; cases hx
    simp [hne]
  | cons key path ih =>
    simp only [Json.at?_cons, Json.member?, Json.fields?, Option.bind_some]
    cases hm : Entries.get? key more with
    | none => simp [get?_mergeFields_of_none hm, Json.not_settles_cons hm]
    | some value =>
      rw [get?_mergeFields_of_some hw hm, Json.settles_cons hm, Option.bind_some, Option.bind_some]
      by_cases hv : value.isObject
      · obtain ⟨inner, rfl⟩ := Json.eq_object_of_isObject hv
        have hi : Json.fieldsWellFormed inner := Json.wellFormed_of_get? hw hm
        cases ho : Entries.get? key fields with
        | none => simp [mergeValue]
        | some old =>
          by_cases hold : old.isObject
          · obtain ⟨before, rfl⟩ := Json.eq_object_of_isObject hold
            simpa [mergeValue] using ih hi
          · -- the old leaf has only itself to offer, at a path that the new object settles
            have hkeep : mergeValue (some old) (.object inner) = .object inner := by
              cases old <;> first | rfl | simp [Json.isObject] at hold
            have hnone : ¬Json.Settles path (.object inner) → old.at? path ≠ some x := by
              intro hs ha
              cases path with
              | nil => exact hs (Json.settles_nil _)
              | cons first rest =>
                cases old <;> simp_all [Json.member?, Json.fields?, Json.isObject]
            rw [hkeep, Option.bind_some]
            exact ⟨.inl, fun h => h.elim id fun h => absurd h.2 (hnone h.1)⟩
      · have hs := Json.settles_of_isObject_eq_false (by simpa using hv) path
        have hkeep : mergeValue (Entries.get? key fields) value = value := by
          cases value <;> first | rfl | simp [Json.isObject] at hv
        simp [hkeep, hs]

end Style

end UtilityStyle
