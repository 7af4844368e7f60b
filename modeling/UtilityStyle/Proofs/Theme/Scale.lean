import Mathlib.Data.List.Nodup
import UtilityStyle.Proofs.Text.Start
import UtilityStyle.Theme.Lookup
import UtilityStyle.Theme.Scale

namespace UtilityStyle

namespace Scale

def text? : Json → Option String
  | .string text => some text
  | .number number => some number.styled
  | _ => none

def Flat (fields : Fields) : Prop := ∀ entry ∈ fields, (text? entry.2).isSome

def twin? : Json → Option Json
  | .string text => if text = "0" then none else some (.string (negatedText text))
  | _ => none

theorem flat_putAll {fields more : Fields} (h : Flat fields) (hm : Flat more) :
    Flat (Entries.putAll fields more) :=
  fun entry he => (Entries.mem_of_mem_putAll he).elim (hm entry) (h entry)

theorem inChildren_of_flat {fields : Fields} (h : Flat fields) (key : String) :
    Lookup.inChildren key fields = .ok none := by
  induction fields with
  | nil => rfl
  | cons entry rest ih =>
    obtain ⟨name, value⟩ := entry
    obtain ⟨hvalue, hrest⟩ := List.forall_mem_cons.1 h
    cases value with
    | object child => cases hvalue
    | _ => exact ih hrest

theorem inFields_of_flat {fields : Fields} (h : Flat fields) {key : String} (hk : key ≠ "") :
    Lookup.inFields fields key =
      .ok (((Entries.get? key fields).filter (!·.isEmpty)).bind fun value =>
        (text? value).map .scalar) := by
  have hkey : key.isEmpty = false := by simpa using hk
  unfold Lookup.inFields
  rw [hkey]
  cases hg : Entries.get? key fields with
  | none => exact inChildren_of_flat h (unsigned key)
  | some value =>
    have hvalue := h _ (Entries.mem_of_get?_eq_some hg)
    cases value with
    | string text =>
      cases hempty : Json.isEmpty (.string text) <;>
        simp [Lookup.isLeaf, ThemeValue.ofJson, text?, Except.map, Option.filter, hempty]
    | number number =>
      simp [Lookup.isLeaf, ThemeValue.ofJson, text?, Except.map, Option.filter, Json.isEmpty]
    | _ => cases hvalue

theorem negated?_eq_map (key : String) (value : Json) :
    negated? (key, value) = (twin? value).map fun twin => ("-" ++ key, twin) := by
  cases value with
  | string text => by_cases h : text = "0" <;> simp [negated?, twin?, h]
  | _ => rfl

theorem negated_cons (key : String) (value : Json) (rest : Fields) :
    negated ((key, value) :: rest) =
      ((twin? value).map fun twin => ("-" ++ key, twin)).toList ++ negated rest := by
  unfold negated
  rw [List.filterMap_cons, negated?_eq_map]
  cases twin? value <;> rfl

theorem keys_negated_sublist (fields : Fields) :
    (Entries.keys (negated fields)).Sublist ((Entries.keys fields).map ("-" ++ ·)) := by
  induction fields with
  | nil => exact .slnil
  | cons entry rest ih =>
    rw [negated_cons]
    cases twin? entry.2 with
    | none => exact ih.cons _
    | some twin => exact ih.cons_cons _

theorem nodup_keys_negated {fields : Fields} (h : (Entries.keys fields).Nodup) :
    (Entries.keys (negated fields)).Nodup := by
  apply List.Nodup.sublist (keys_negated_sublist fields)
  exact List.Nodup.map (fun a b he => (String.append_right_inj "-").1 he) h

theorem get?_negated_of_unsigned {key : String} (h : key.toList.head? ≠ some '-')
    (fields : Fields) : Entries.get? key (negated fields) = none := by
  rw [Entries.get?_eq_none_iff]
  intro hm
  obtain ⟨bare, -, rfl⟩ := List.mem_map.1 ((keys_negated_sublist fields).subset hm)
  simp at h

theorem get?_negated {fields : Fields} (h : (Entries.keys fields).Nodup) (key : String) :
    Entries.get? ("-" ++ key) (negated fields) = (Entries.get? key fields).bind twin? := by
  induction fields with
  | nil => rfl
  | cons entry rest ih =>
    obtain ⟨name, value⟩ := entry
    obtain ⟨hname, hrest⟩ := List.nodup_cons.1 h
    rw [negated_cons]
    by_cases hk : name = key
    · subst hk
      cases ht : twin? value with
      | none => simpa [Entries.get?, ht, Entries.get?_eq_none_iff.2 hname] using ih hrest
      | some twin => simp [Entries.get?, ht]
    · have hne : "-" ++ name ≠ "-" ++ key := fun he => hk ((String.append_right_inj "-").1 he)
      cases ht : twin? value with
      | none => simpa [Entries.get?, hk] using ih hrest
      | some twin => simpa [Entries.get?, hk, hne] using ih hrest

theorem flat_negated (fields : Fields) : Flat (negated fields) := by
  intro entry he
  obtain ⟨⟨key, value⟩, -, h⟩ := List.mem_filterMap.1 he
  rw [negated?_eq_map] at h
  cases value with
  | string text =>
    by_cases hz : text = "0"
    · simp [twin?, hz] at h
    · simp only [twin?, hz, if_false, Option.map_some, Option.some.injEq] at h
      subst h
      rfl
  | _ => cases h

def opposite? (fields : Fields) (key : String) : Option Json :=
  ((Entries.get? key fields).bind twin?).or (Entries.get? ("-" ++ key) fields)

/-- The text has no sign, or it has two with something behind them. -/
def Turns (text : String) : Prop :=
  (∀ rest, text ≠ "-" ++ rest) ∨ ∃ rest, rest ≠ "" ∧ text = "--" ++ rest

def around (first fields : Fields) : Fields :=
  Entries.putAll (Entries.putAll first fields) (negated fields)

variable {first fields : Fields} {key : String}

theorem get?_around (h : (Entries.keys fields).Nodup) (hk : key.toList.head? ≠ some '-') :
    Entries.get? key (around first fields) =
      (Entries.get? key fields).or (Entries.get? key first) := by
  unfold around
  rw [Entries.get?_putAll (nodup_keys_negated h), get?_negated_of_unsigned hk,
    Entries.get?_putAll h, Option.none_or]

theorem get?_around_signed (h : (Entries.keys fields).Nodup) :
    Entries.get? ("-" ++ key) (around first fields) =
      (opposite? fields key).or (Entries.get? ("-" ++ key) first) := by
  unfold around opposite?
  rw [Entries.get?_putAll (nodup_keys_negated h), get?_negated h, Entries.get?_putAll h,
    Option.or_assoc]

theorem isEmpty_eq_false_of_text? {value : Json} {text : String} (h : text? value = some text)
    (hb : Text.allBlank text = false) : value.isEmpty = false := by
  cases value with
  | string own => cases h; exact hb
  | number => rfl
  | _ => cases h

theorem ne_dash_append (text : String) : text ≠ "-" ++ text := by
  intro he
  have hlength := congrArg String.length he
  rw [String.length_append, show "-".length = 1 from rfl] at hlength
  omega

theorem eq_dash_append_unsigned_iff {text : String} :
    text = "-" ++ unsigned text ↔ ∃ rest, rest ≠ "" ∧ text = "-" ++ rest := by
  unfold unsigned
  constructor
  · intro h
    split at h
    · rename_i hsize
      cases hafter : Text.afterStart "-" text with
      | none =>
        rw [hafter] at h
        exact absurd h (ne_dash_append text)
      | some rest =>
        obtain rfl := Text.afterStart_eq_some_iff.1 hafter
        refine ⟨rest, ?_, rfl⟩
        rintro rfl
        exact absurd hsize (by decide)
    · exact absurd h (ne_dash_append text)
  · rintro ⟨rest, hrest, rfl⟩
    have hsize : 1 < ("-" ++ rest).utf8ByteSize := by
      have hpos : rest.utf8ByteSize ≠ 0 := by simpa using hrest
      rw [String.utf8ByteSize_append, show "-".utf8ByteSize = 1 from rfl]
      omega
    rw [if_pos hsize, Text.afterStart_eq_some_iff.2 rfl]
    rfl

theorem allBlank_dash_append (rest : String) : Text.allBlank ("-" ++ rest) = false := by
  simp [Text.allBlank, show Text.isBlank '-' = false by decide]

theorem negatedText_dash_append (rest : String) : negatedText ("-" ++ rest) = rest := by
  rw [negatedText, Text.afterStart_eq_some_iff.2 rfl, Option.getD_some]

theorem negatedText_of_unsigned {text : String} (h : ∀ rest, text ≠ "-" ++ rest) :
    negatedText text = "-" ++ text := by
  rw [negatedText, Text.afterStart_eq_none_iff.2 h, Option.getD_none]

/-- The sign of the twin and the sign of the class make the negated text just if the text turns. -/
theorem turns_iff {text : String} (hb : Text.allBlank text = false) :
    Turns text ↔ Text.allBlank (negatedText text) = false ∧
      negatedText text = "-" ++ unsigned (negatedText text) := by
  rw [eq_dash_append_unsigned_iff]
  by_cases hsign : ∃ rest, text = "-" ++ rest
  · obtain ⟨inner, rfl⟩ := hsign
    rw [negatedText_dash_append]
    constructor
    · rintro (hunsigned | ⟨rest, hrest, he⟩)
      · exact absurd rfl (hunsigned inner)
      · obtain rfl : inner = "-" ++ rest := (String.append_right_inj "-").1 he
        exact ⟨allBlank_dash_append rest, rest, hrest, rfl⟩
    · rintro ⟨-, rest, hrest, rfl⟩
      exact .inr ⟨rest, hrest, rfl⟩
  · have hunsigned : ∀ rest, text ≠ "-" ++ rest := fun rest he => hsign ⟨rest, he⟩
    have hne : text ≠ "" := by
      rintro rfl
      cases hb
    rw [negatedText_of_unsigned hunsigned]
    exact iff_of_true (.inl hunsigned) ⟨allBlank_dash_append text, text, hne, rfl⟩

end Scale

theorem Tokens.value_around {first resolved fields : Fields} {base : String}
    (h : Entries.get? base resolved = some (.object fields)) :
    (Tokens.around first base true []).value resolved = .object (Scale.around first fields) := by
  simp [Tokens.value, Scale.around, h, Json.fields?, Entries.putAll]

end UtilityStyle
