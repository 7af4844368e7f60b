import Mathlib.Data.List.Basic
import UtilityStyle.Proofs.Outcome
import UtilityStyle.Proofs.Text.Start
import UtilityStyle.Theme.Lookup

/-!
What a lookup comes to. A key that is not cut names a leaf of the section or the default of an
object in it. Only where it names nothing so is it cut at a dash, and then the first object with an
entry for the rest answers. `inFields_eq` says this in one equation.
-/

namespace UtilityStyle

theorem unsigned_eq_self {text : String} (h : text.toList.head? ≠ some '-') :
    unsigned text = text := by
  have hnone : Text.afterStart "-" text = none := by
    rw [Text.afterStart_eq_none_iff]
    rintro rest rfl
    simp at h
  unfold unsigned
  rw [hnone, Option.getD_none, ite_self]

theorem unsigned_append {name : String} (hname : name ≠ "") (h : name.toList.head? ≠ some '-')
    (rest : String) : unsigned (name ++ rest) = name ++ rest := by
  apply unsigned_eq_self
  have hcs : name.toList ≠ [] := by simpa using hname
  obtain ⟨first, others, hfirst⟩ := List.exists_cons_of_ne_nil hcs
  rw [hfirst] at h
  simpa [hfirst] using h

namespace ThemeValue

theorem item_ne_tooDeep (value found : Json) : item value ≠ .error (.tooDeep found) := by
  cases value <;> simp [item]

theorem mapM_item_ne_tooDeep (items : List Json) (found : Json) :
    items.mapM item ≠ .error (.tooDeep found) := by
  induction items with
  | nil => simp
  | cons value rest ih =>
    rw [List.mapM_cons]
    intro h
    rcases Outcome.bind_eq_error_iff.1 h with h | ⟨first, -, h⟩
    · exact item_ne_tooDeep value found h
    · rcases Outcome.bind_eq_error_iff.1 h with h | ⟨others, -, h⟩
      · exact ih h
      · exact Outcome.pure_ne_error h

theorem ofJson_eq_tooDeep_iff {value found : Json} :
    ofJson value = .error (.tooDeep found) ↔ value = found ∧ found.isObject := by
  have hobject : value = found ∧ found.isObject ↔ value.isObject ∧ value = found := by
    rw [and_comm]
    exact and_congr_left fun h => by rw [h]
  rw [hobject]
  cases value <;> simp [ofJson, Json.isObject, mapM_item_ne_tooDeep]

end ThemeValue

namespace Lookup

variable {fields child : Fields} {name key : String} {found : Json}

theorem default?_eq_some_iff :
    default? fields = some found ↔
      Entries.get? "default" fields = some found ∧ found.isEmpty = false := by
  simp [default?, Option.filter_eq_some_iff]

theorem entry?_eq_some_iff :
    entry? name child key = some found ↔
      ∃ rest, rest ≠ "" ∧ key = name ++ "-" ++ rest ∧ Entries.get? rest child = some found ∧
        found.isEmpty = false := by
  unfold entry?
  simp only [bind, Option.bind_eq_some_iff, Text.afterDash_eq_some_iff]
  apply exists_congr
  intro rest
  by_cases h : rest = ""
  · simp [h]
  · simp [h, Option.filter_eq_some_iff]

def named? (key : String) (fields : Fields) : Option Json :=
  if key.isEmpty then default? fields
  else match Entries.get? key fields with
    | some (.object child) => default? child
    | some found => if isLeaf found then some found else none
    | none => none

def inChild? (key : String) (fields : Fields) : Option Json :=
  fields.findSome? fun (name, value) => value.fields?.bind fun child => entry? name child key

/-- Where a look-up stops: at what the key names as it stands, or else inside an object. -/
def stop? (key : String) (fields : Fields) : Option Json :=
  (named? key fields).or (inChild? (unsigned key) fields)

def answer (found : Json) : Except ThemeError ThemeValue :=
  if isLeaf found then ThemeValue.ofJson found else .error (.tooDeep found)

theorem answer_eq_tooDeep_iff {value : Json} :
    answer value = .error (.tooDeep found) ↔ value = found ∧ isLeaf found = false := by
  have hleaf : value = found ∧ isLeaf found = false ↔ isLeaf value = false ∧ value = found := by
    rw [and_comm]
    exact and_congr_left fun h => by rw [h]
  rw [hleaf]
  unfold answer
  cases value <;>
    simp [isLeaf, ThemeValue.ofJson, ThemeValue.mapM_item_ne_tooDeep]

theorem isLeaf_of_ofJson {own : ThemeValue} (h : ThemeValue.ofJson found = .ok own) :
    isLeaf found := by
  cases found with
  | string | number | array => rfl
  | null | bool | object => cases h

theorem answer_eq_ok_iff {own : ThemeValue} :
    answer found = .ok own ↔ ThemeValue.ofJson found = .ok own := by
  unfold answer
  by_cases hleaf : isLeaf found
  · rw [if_pos hleaf]
  · rw [if_neg hleaf]
    exact iff_of_false (by simp) fun h => hleaf (isLeaf_of_ofJson h)

theorem exists_of_inChild? (h : inChild? key fields = some found) :
    ∃ name child, (name, .object child) ∈ fields ∧ entry? name child key = some found := by
  obtain ⟨⟨name, value⟩, hm, hv⟩ := List.exists_of_findSome?_eq_some h
  obtain ⟨child, hchild, he⟩ := Option.bind_eq_some_iff.1 hv
  cases value with
  | object own =>
    cases hchild
    exact ⟨name, child, hm, he⟩
  | _ => cases hchild

theorem inChild?_eq_none_iff :
    inChild? key fields = none ↔
      ∀ name child, (name, Json.object child) ∈ fields → entry? name child key = none := by
  constructor
  · intro h name child hm
    exact List.findSome?_eq_none_iff.1 h _ hm
  · intro h
    cases hc : inChild? key fields with
    | none => rfl
    | some found =>
      obtain ⟨name, child, hm, he⟩ := exists_of_inChild? hc
      rw [h name child hm] at he
      cases he

theorem inChild?_eq_some_of_forall (hm : (name, .object child) ∈ fields)
    (he : entry? name child key = some found)
    (hunique : ∀ other, inChild? key fields = some other → other = found) :
    inChild? key fields = some found := by
  cases hc : inChild? key fields with
  | none =>
    rw [inChild?_eq_none_iff.1 hc name child hm] at he
    cases he
  | some other => rw [hunique other hc]

@[simp] theorem inChild?_empty (fields : Fields) : inChild? "" fields = none := by
  rw [inChild?_eq_none_iff]
  intro name child _
  rw [Option.eq_none_iff_forall_ne_some]
  intro found h
  obtain ⟨rest, -, he, -⟩ := entry?_eq_some_iff.1 h
  simpa using congrArg String.toList he

theorem inChildren_eq (key : String) (fields : Fields) :
    inChildren key fields = match inChild? key fields with
      | some found => (answer found).map some
      | none => .ok none := by
  induction fields with
  | nil => rfl
  | cons entry rest ih =>
    obtain ⟨name, value⟩ := entry
    cases value with
    | object child =>
      unfold inChildren inChild?
      rw [List.findSome?_cons]
      dsimp only [Json.fields?, Option.bind_some]
      cases entry? name child key with
      | none => exact ih
      | some found => by_cases h : isLeaf found <;> simp [answer, h, Except.map]
    | _ => exact ih

theorem inFields_eq (fields : Fields) (key : String) :
    inFields fields key = match named? key fields with
      | some found => if found.isEmpty then .ok none else (ThemeValue.ofJson found).map some
      | none => match inChild? (unsigned key) fields with
        | some found => (answer found).map some
        | none => .ok none := by
  have hdefault : ∀ {own : Fields} {found : Json}, default? own = some found →
      found.isEmpty = false := fun h => (default?_eq_some_iff.1 h).2
  unfold inFields named?
  by_cases hkey : key.isEmpty
  · obtain rfl := String.isEmpty_iff.1 hkey
    rw [if_pos hkey, if_pos hkey, show unsigned "" = "" from rfl, inChild?_empty]
    cases hd : default? fields with
    | none => rfl
    | some found => simp [hdefault hd]
  · rw [if_neg hkey, if_neg hkey, ← inChildren_eq]
    cases Entries.get? key fields with
    | none => rfl
    | some value =>
      cases value with
      | object child =>
        dsimp only
        cases hd : default? child with
        | none => rfl
        | some found => simp [hdefault hd]
      | _ => rfl

/-- A lookup fails for depth if a default is an object, or if the entry inside an object is no leaf
and the key names nothing as it stands. -/
theorem inFields_eq_tooDeep_iff :
    inFields fields key = .error (.tooDeep found) ↔
      (named? key fields = some found ∧ found.isObject ∧ found.isEmpty = false) ∨
        named? key fields = none ∧ inChild? (unsigned key) fields = some found ∧
          isLeaf found = false := by
  rw [inFields_eq]
  cases named? key fields with
  | some value =>
    by_cases hempty : value.isEmpty
    · have hne : ¬(value = found ∧ found.isObject ∧ found.isEmpty = false) := by
        rintro ⟨rfl, -, hfound⟩
        rw [hempty] at hfound
        cases hfound
      simpa [hempty] using hne
    · have hread : value = found ∧ found.isObject ↔
          value = found ∧ found.isObject ∧ found.isEmpty = false := by
        apply and_congr_right
        rintro rfl
        simp [hempty]
      simpa [hempty, ThemeValue.ofJson_eq_tooDeep_iff] using hread
  | none => cases inChild? (unsigned key) fields <;> simp [answer_eq_tooDeep_iff]

theorem inFields_eq_ok_none_iff :
    inFields fields key = .ok none ↔
      (∃ found, named? key fields = some found ∧ found.isEmpty) ∨
        named? key fields = none ∧ inChild? (unsigned key) fields = none := by
  rw [inFields_eq]
  cases named? key fields with
  | some value => cases hempty : value.isEmpty <;> simp [hempty]
  | none => cases inChild? (unsigned key) fields <;> simp

theorem inFields_eq_ok_some_iff {own : ThemeValue} :
    inFields fields key = .ok (some own) ↔
      ∃ found, stop? key fields = some found ∧ found.isEmpty = false ∧
        ThemeValue.ofJson found = .ok own := by
  rw [inFields_eq]
  unfold stop?
  cases named? key fields with
  | some value => cases hempty : value.isEmpty <;> simp [hempty]
  | none =>
    rw [Option.none_or]
    cases hc : inChild? (unsigned key) fields with
    | none => simp
    | some value =>
      obtain ⟨name, child, -, he⟩ := exists_of_inChild? hc
      obtain ⟨-, -, -, -, hempty⟩ := entry?_eq_some_iff.1 he
      simp [hempty, answer_eq_ok_iff]

end Lookup

end UtilityStyle
