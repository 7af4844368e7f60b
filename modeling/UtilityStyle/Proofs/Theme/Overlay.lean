import UtilityStyle.Proofs.Style.Algebra
import UtilityStyle.Theme.Extension

namespace UtilityStyle.Json

/-- The operation joins two objects name by name, the old names first, and replaces anything else.
Members under one name are joined the same way. -/
structure IsDeepMerge (join : Json → Json → Json) : Prop where
  replaces {old value : Json} : (old.isObject && value.isObject) = false → join old value = value
  joins {fields more : Fields} : fieldsWellFormed more → ∃ joined : Fields,
    join (.object fields) (.object more) = .object joined ∧
    Entries.keys joined =
      Entries.keys fields ++ (Entries.keys more).removeAll (Entries.keys fields) ∧
    ∀ key, Entries.get? key joined =
      match Entries.get? key fields, Entries.get? key more with
      | some old, some value => some (join old value)
      | some old, none => some old
      | none, value? => value?

theorem overlay_of_leaf {value : Json} (h : value.isObject = false) (old : Json) :
    old.overlay value = value := by
  cases value with
  | object fields => cases h
  | _ => rfl

theorem overlay_leaf {old : Json} (h : old.isObject = false) (value : Json) :
    old.overlay value = value := by
  cases value with
  | object more =>
    cases old with
    | object fields => cases h
    | _ => rfl
  | _ => rfl

theorem overlayFields_cons (fields : Fields) (key : String) (value : Json) (rest : Fields) :
    overlayFields fields ((key, value) :: rest) =
      overlayFields
        (Entries.put key (((Entries.get? key fields).map (overlay · value)).getD value) fields)
        rest := by
  rw [overlayFields]
  cases Entries.get? key fields <;> rfl

theorem overlayFields_eq_mergeFields {more : Fields}
    (h : ∀ entry ∈ more, ∀ old : Json,
      old.overlay entry.2 = Style.mergeValue (some old) entry.2) (fields : Fields) :
    overlayFields fields more = Style.mergeFields fields more := by
  induction more generalizing fields with
  | nil => rfl
  | cons entry rest ih =>
    obtain ⟨hentry, hrest⟩ := List.forall_mem_cons.1 h
    rw [overlayFields_cons, Style.mergeFields_cons, ih hrest]
    cases Entries.get? entry.1 fields with
    | none => rw [Style.mergeValue_none, Option.map_none, Option.getD_none]
    | some old => rw [Option.map_some, Option.getD_some, hentry]

theorem overlay_eq_mergeValue (old value : Json) :
    old.overlay value = Style.mergeValue (some old) value := by
  induction value using memberInduction generalizing old with
  | leaf value h => rw [overlay_of_leaf h, Style.mergeValue_of_leaf h]
  | object more ih =>
    cases hobject : old.isObject with
    | false => rw [overlay_leaf hobject, Style.mergeValue_some_of_leaf hobject]
    | true =>
      obtain ⟨fields, rfl⟩ := eq_object_of_isObject hobject
      exact congrArg Json.object (overlayFields_eq_mergeFields ih fields)

theorem isDeepMerge_overlay : IsDeepMerge overlay where
  replaces {old value} h := by
    cases hvalue : value.isObject with
    | false => exact overlay_of_leaf hvalue old
    | true => exact overlay_leaf (by simpa [hvalue] using h) value
  joins {fields more} hmore := by
    refine ⟨Style.mergeFields fields more, overlay_eq_mergeValue _ _,
      Style.keys_mergeFields hmore fields, fun key => ?_⟩
    rw [Style.get?_mergeFields hmore]
    cases Entries.get? key fields with
    | none => cases Entries.get? key more <;> simp [Style.mergeValue_none]
    | some old => cases Entries.get? key more <;> simp [overlay_eq_mergeValue]

/-- An object laid over another is the two merged as styles, to the order of the names. -/
theorem overlay_eq_merge (fields more : Fields) :
    (Json.object fields).overlay (.object more) = (Style.merge ⟨fields⟩ ⟨more⟩).value :=
  overlay_eq_mergeValue (.object fields) (.object more)

end UtilityStyle.Json
