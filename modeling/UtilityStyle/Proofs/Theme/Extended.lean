import UtilityStyle.Proofs.Theme.Lookup
import UtilityStyle.Theme.Extension

namespace UtilityStyle

namespace Entries

variable {α : Type}

theorem get?_append (key : String) (entries more : Entries α) :
    get? key (entries ++ more) = (get? key entries).or (get? key more) := by
  induction entries with
  | nil => rfl
  | cons entry rest ih =>
    rw [List.cons_append]
    by_cases h : entry.1 = key <;> simp [get?, h, ih]

end Entries

namespace Lookup

variable {fields more : Fields} {name key : String} {value : Json}

def nameOf (key : String) : String := if key.isEmpty then "default" else key

theorem named?_congr {other : Fields}
    (h : Entries.get? (nameOf key) fields = Entries.get? (nameOf key) other) :
    named? key fields = named? key other := by
  unfold nameOf at h
  unfold named? default?
  split at h
  · rename_i hempty
    rw [if_pos hempty, if_pos hempty, h]
  · rename_i hempty
    rw [if_neg hempty, if_neg hempty, h]

theorem named?_eq_none_of_not_mem (h : nameOf key ∉ Entries.keys more) :
    named? key more = none := by
  have hempty : named? key more = named? key [] :=
    named?_congr (Entries.get?_eq_none_iff.2 h)
  rw [hempty]
  simp [named?, default?, Entries.get?]

theorem named?_append (h : nameOf key ∉ Entries.keys more) :
    named? key (fields ++ more) = named? key fields := by
  apply named?_congr
  rw [Entries.get?_append, Entries.get?_eq_none_iff.2 h, Option.or_none]

theorem inChild?_append (key : String) (fields more : Fields) :
    inChild? key (fields ++ more) = (inChild? key fields).or (inChild? key more) :=
  List.findSome?_append

/-- Entries that the key does not name as it stands only answer where the others find nothing. If
the key names an empty entry, it is not looked for any further. -/
theorem inFields_append (h : nameOf key ∉ Entries.keys more) :
    inFields (fields ++ more) key = match inFields fields key with
      | .ok none => if (named? key fields).isSome then .ok none else inFields more key
      | settled => settled := by
  rw [inFields_eq, inFields_eq, inFields_eq, named?_append h, inChild?_append,
    named?_eq_none_of_not_mem h]
  cases named? key fields with
  | some found =>
    dsimp only
    split
    · rfl
    · cases ThemeValue.ofJson found <;> rfl
  | none =>
    cases inChild? (unsigned key) fields with
    | some found =>
      dsimp only [Option.some_or]
      cases answer found <;> rfl
    | none => rfl

theorem nameOf_ne (hkey : name ≠ key) (hdefault : ¬(key = "" ∧ name = "default")) :
    nameOf key ≠ name := by
  unfold nameOf
  split
  · rename_i hempty
    exact fun he => hdefault ⟨String.isEmpty_iff.1 hempty, he.symm⟩
  · exact Ne.symm hkey

/-- Laying one new entry over a section appends it. No value and no error that the section gave for
another key changes by that, and where it gave nothing, the entry answers as if it were alone. -/
theorem lookup_extended (hnew : name ∉ Entries.keys fields) (hkey : name ≠ key)
    (hdefault : ¬(key = "" ∧ name = "default")) :
    (Json.object fields).overlay (.object [(name, value)]) =
        .object (fields ++ [(name, value)]) ∧
      (lookup (some (.object fields)) key ≠ .ok none →
        lookup (some (.object (fields ++ [(name, value)]))) key =
          lookup (some (.object fields)) key) ∧
      (lookup (some (.object fields)) key = .ok none →
        lookup (some (.object (fields ++ [(name, value)]))) key =
          if (named? key fields).isSome then .ok none
          else lookup (some (.object [(name, value)])) key) := by
  have hmore : nameOf key ∉ Entries.keys [(name, value)] := by
    simpa [Entries.keys] using nameOf_ne hkey hdefault
  have hlookup : lookup (some (.object (fields ++ [(name, value)]))) key =
      match lookup (some (.object fields)) key with
      | .ok none =>
        if (named? key fields).isSome then .ok none
        else lookup (some (.object [(name, value)])) key
      | settled => settled :=
    inFields_append hmore
  refine ⟨?_, fun hsettled => ?_, fun hnothing => ?_⟩
  · simp only [Json.overlay, Json.overlayFields, Entries.get?_eq_none_iff.2 hnew,
      Entries.put_of_not_mem hnew]
  · rw [hlookup]
    split
    · rename_i hnothing
      exact absurd hnothing hsettled
    · rfl
  · rw [hlookup, hnothing]

def blues : Fields :=
  [("brand", .object [("blue-500", .string "#00f")]), ("ash-500", .string " "),
    ("sign", .object [("500", .bool true)])]

theorem lookup_extended_blue :
    lookup (some (.object (blues ++ [("brand-blue", .object [("500", .string "#000")])])))
        "brand-blue-500" = .ok (some (.scalar "#00f")) ∧
      lookup (some (.object (blues ++ [("sign-500", .string "#000")]))) "-sign-500" =
        .error (.tooDeep (.bool true)) ∧
      lookup (some (.object (blues ++ [("ash", .object [("500", .string "#000")])]))) "ash-500" =
        .ok none ∧
      lookup (some (.object (blues ++ [("ink", .object [("500", .string "#000")])]))) "ink-500" =
        .ok (some (.scalar "#000")) := by
  refine ⟨?_, ?_, ?_, ?_⟩
  · exact (lookup_extended (by decide) (by decide) (by decide)).2.1 (by decide)
  · exact (lookup_extended (by decide) (by decide) (by decide)).2.1 (by decide)
  · exact (lookup_extended (by decide) (by decide) (by decide)).2.2 (by decide)
  · exact (lookup_extended (by decide) (by decide) (by decide)).2.2 (by decide)

end Lookup

end UtilityStyle
