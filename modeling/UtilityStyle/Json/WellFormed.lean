import UtilityStyle.Json.Document

/-!
Well-formed JSON values: no object has a name twice. Every value that is read is well-formed, and an
object stays so when a well-formed value is put into it.
-/

namespace UtilityStyle.Json

mutual

def wellFormed : Json → Bool
  | .array items => itemsWellFormed items
  | .object fields => fieldsWellFormed fields
  | .null | .bool _ | .number _ | .string _ => true

def itemsWellFormed : List Json → Bool
  | [] => true
  | item :: rest => wellFormed item && itemsWellFormed rest

def fieldsWellFormed : List (String × Json) → Bool
  | [] => true
  | (key, value) :: rest => !Entries.has key rest && wellFormed value && fieldsWellFormed rest

end

theorem fieldsWellFormed_cons {key : String} {value : Json} {rest : Fields} :
    fieldsWellFormed ((key, value) :: rest) ↔
      Entries.get? key rest = none ∧ value.wellFormed ∧ fieldsWellFormed rest := by
  simp [fieldsWellFormed, Entries.has, and_assoc]

theorem nodup_keys {fields : Fields} (h : fieldsWellFormed fields) :
    (Entries.keys fields).Nodup := by
  induction fields with
  | nil => simp [Entries.keys]
  | cons entry rest ih =>
    obtain ⟨hk, _, hr⟩ := fieldsWellFormed_cons.1 h
    exact List.nodup_cons.2 ⟨Entries.get?_eq_none_iff.1 hk, ih hr⟩

theorem wellFormed_of_get? {key : String} {value : Json} {fields : Fields}
    (h : fieldsWellFormed fields) (hv : Entries.get? key fields = some value) :
    value.wellFormed := by
  induction fields with
  | nil => simp [Entries.get?] at hv
  | cons entry rest ih =>
    obtain ⟨_, he, hr⟩ := fieldsWellFormed_cons.1 h
    unfold Entries.get? at hv
    split at hv
    · exact Option.some.inj hv ▸ he
    · exact ih hr hv

theorem fieldsWellFormed_put {key : String} {value : Json} {fields : Fields}
    (h : fieldsWellFormed fields) (hv : value.wellFormed) :
    fieldsWellFormed (Entries.put key value fields) := by
  induction fields with
  | nil => simp [Entries.put, fieldsWellFormed, Entries.has, Entries.get?, hv]
  | cons entry rest ih =>
    obtain ⟨hk, he, hr⟩ := fieldsWellFormed_cons.1 h
    unfold Entries.put
    split
    · exact fieldsWellFormed_cons.2 ⟨hk, hv, hr⟩
    · rename_i hne
      exact fieldsWellFormed_cons.2 ⟨by rw [Entries.get?_put_of_ne hne, hk], he, ih hr⟩

theorem fieldsWellFormed_putAll {fields more : Fields} (h : fieldsWellFormed fields)
    (hm : ∀ entry ∈ more, entry.2.wellFormed) :
    fieldsWellFormed (Entries.putAll fields more) := by
  induction more generalizing fields with
  | nil => exact h
  | cons entry rest ih =>
    have hr := List.forall_mem_cons.1 hm
    exact ih (fieldsWellFormed_put h hr.1) hr.2

end UtilityStyle.Json

namespace UtilityStyle.Document

mutual

theorem wellFormed_of_json? (room : Nat) : (document : Document) → {value : Json} →
    document.json? room = some value → value.wellFormed
  | .null, _, h | .bool _, _, h => by simp [json?] at h; subst h; rfl
  | .number _, _, h | .string _, _, h => by
    simp only [json?, Option.map_eq_some_iff] at h
    obtain ⟨_, _, rfl⟩ := h
    rfl
  | .array items, _, h => by
    unfold json? at h
    split at h
    · simp at h
    · obtain ⟨_, hi, rfl⟩ := Option.map_eq_some_iff.1 h
      exact itemsWellFormed_of_json? _ items hi
  | .object members, _, h => by
    unfold json? at h
    split at h
    · simp at h
    · obtain ⟨_, hm, rfl⟩ := Option.map_eq_some_iff.1 h
      exact Json.fieldsWellFormed_putAll rfl (memberWellFormed_of_json? _ members hm)

theorem itemsWellFormed_of_json? (room : Nat) : (items : List Document) → {values : List Json} →
    itemsJson? room items = some values → Json.itemsWellFormed values
  | [], _, h => by simp [itemsJson?] at h; subst h; rfl
  | item :: rest, _, h => by
    simp only [itemsJson?, bind, Option.bind_eq_some_iff, pure, Option.some.injEq] at h
    obtain ⟨_, hi, _, hr, rfl⟩ := h
    simp [Json.itemsWellFormed, wellFormed_of_json? room item hi,
      itemsWellFormed_of_json? room rest hr]

theorem memberWellFormed_of_json? (room : Nat) : (members : List (Option String × Document)) →
    {fields : Fields} → membersJson? room members = some fields →
    ∀ entry ∈ fields, entry.2.wellFormed
  | [], _, h => by simp [membersJson?] at h; simp [h]
  | (_, value) :: rest, _, h => by
    simp only [membersJson?, bind, Option.bind_eq_some_iff, pure, Option.some.injEq] at h
    obtain ⟨_, _, _, hv, _, hr, rfl⟩ := h
    exact List.forall_mem_cons.2
      ⟨wellFormed_of_json? room value hv, memberWellFormed_of_json? room rest hr⟩

end

end UtilityStyle.Document

namespace UtilityStyle.Json

theorem wellFormed_of_read? {text : String} {value : Json} (h : read? text = some value) :
    value.wellFormed := by
  obtain ⟨document, _, hj⟩ := Option.bind_eq_some_iff.1 h
  exact document.wellFormed_of_json? 127 hj

end UtilityStyle.Json
