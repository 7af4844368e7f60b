import Mathlib.Data.List.Forall2
import Mathlib.Data.Option.Basic
import UtilityStyle.Json.WellFormed
import UtilityStyle.Proofs.Theme.Lookup

namespace UtilityStyle

namespace Json

/-- The values are the same down to so many levels of members, with the same names in the same
order. An object that lies below is empty in both or in neither. -/
def AgreeTo : Nat → Json → Json → Prop
  | 0, .object a, .object b => a.isEmpty = b.isEmpty
  | depth + 1, .object a, .object b =>
    List.Forall₂ (fun x y => x.1 = y.1 ∧ AgreeTo depth x.2 y.2) a b
  | _, a, b => a = b

namespace AgreeTo

variable {depth : Nat} {a b : Json} {x y : Fields}

theorem leaf_or_objects (h : AgreeTo depth a b) :
    a.isObject = false ∧ a = b ∨ ∃ x y, a = .object x ∧ b = .object y := by
  cases a with
  | object x =>
    cases b with
    | object y => exact .inr ⟨x, y, rfl, rfl⟩
    | _ => cases depth <;> cases h
  | _ => cases depth <;> exact .inl ⟨rfl, h⟩

theorem members (h : AgreeTo (depth + 1) (.object x) (.object y)) :
    List.Forall₂ (fun a b => a.1 = b.1 ∧ AgreeTo depth a.2 b.2) x y :=
  h

theorem of_leaf (h : a.isObject = false) : AgreeTo depth a a := by
  cases a with
  | object x => cases h
  | _ => cases depth <;> rfl

theorem shallow (h : AgreeTo depth a b) : AgreeTo 0 a b := by
  obtain ⟨hleaf, rfl⟩ | ⟨x, y, rfl, rfl⟩ := h.leaf_or_objects
  · exact of_leaf hleaf
  · cases depth with
    | zero => exact h
    | succ depth =>
      change x.isEmpty = y.isEmpty
      cases h.members <;> rfl

theorem isEmpty_eq (h : AgreeTo depth a b) : a.isEmpty = b.isEmpty := by
  obtain ⟨-, rfl⟩ | ⟨x, y, rfl, rfl⟩ := h.leaf_or_objects
  · rfl
  · exact h.shallow

theorem get? (h : AgreeTo (depth + 1) (.object x) (.object y)) (key : String) :
    Option.Rel (AgreeTo depth) (Entries.get? key x) (Entries.get? key y) := by
  induction h.members with
  | nil => exact .none
  | @cons first other rest more hfirst hrest ih =>
    obtain ⟨name, value⟩ := first
    obtain ⟨_, found⟩ := other
    obtain ⟨rfl, hvalue⟩ := hfirst
    unfold Entries.get?
    by_cases hk : name = key
    · simpa [hk] using hvalue
    · simpa [hk] using ih hrest

theorem none_or_some {a? b? : Option Json} (h : Option.Rel (AgreeTo depth) a? b?) :
    a? = none ∧ b? = none ∨ ∃ a b, a? = some a ∧ b? = some b ∧ AgreeTo depth a b := by
  cases h with
  | none => exact .inl ⟨rfl, rfl⟩
  | some h => exact .inr ⟨_, _, rfl, rfl, h⟩

theorem filter {a? b? : Option Json} (h : Option.Rel (AgreeTo depth) a? b?) :
    Option.Rel (AgreeTo 0) (a?.filter fun a => !a.isEmpty) (b?.filter fun b => !b.isEmpty) := by
  obtain ⟨rfl, rfl⟩ | ⟨a, b, rfl, rfl, hvalue⟩ := none_or_some h
  · exact .none
  · rw [Option.filter_some, Option.filter_some, hvalue.isEmpty_eq]
    cases b.isEmpty with
    | true => exact .none
    | false => exact .some hvalue.shallow

end AgreeTo

end Json

namespace Lookup

open Json (AgreeTo)

variable {depth : Nat} {a b : Fields}

theorem default?_agree (h : AgreeTo (depth + 1) (.object a) (.object b)) :
    Option.Rel (AgreeTo 0) (default? a) (default? b) :=
  AgreeTo.filter (h.get? "default")

theorem entry?_agree (h : AgreeTo (depth + 1) (.object a) (.object b)) (name key : String) :
    Option.Rel (AgreeTo 0) ( entry? name a key) ( entry? name b key) := by
  unfold entry?
  cases Text.afterDash name key with
  | none => exact .none
  | some rest =>
    simp only [bind, Option.bind_some]
    split
    · exact .none
    · exact AgreeTo.filter (h.get? rest)

theorem named?_agree (h : AgreeTo (depth + 2) (.object a) (.object b)) (key : String) :
    Option.Rel (AgreeTo 0) (named? key a) (named? key b) := by
  unfold named?
  split
  · exact default?_agree h
  · obtain ⟨ha, hb⟩ | ⟨x, y, ha, hb, hvalue⟩ := AgreeTo.none_or_some (h.get? key)
    · rw [ha, hb]
      exact .none
    · rw [ha, hb]
      obtain ⟨hleaf, rfl⟩ | ⟨child, other, rfl, rfl⟩ := hvalue.leaf_or_objects
      · cases x with
        | object child => cases hleaf
        | string | number | array => exact .some rfl
        | null | bool => exact .none
      · exact default?_agree hvalue

theorem inChild?_agree (h : AgreeTo (depth + 2) (.object a) (.object b)) (key : String) :
    Option.Rel (AgreeTo 0) (inChild? key a) (inChild? key b) := by
  induction h.members with
  | nil => exact .none
  | @cons first other rest more hfirst hrest ih =>
    obtain ⟨name, value⟩ := first
    obtain ⟨_, found⟩ := other
    obtain ⟨rfl, hvalue⟩ := hfirst
    unfold inChild?
    rw [List.findSome?_cons, List.findSome?_cons]
    obtain ⟨hleaf, rfl⟩ | ⟨child, inner, rfl, rfl⟩ := hvalue.leaf_or_objects
    · cases value with
      | object child => cases hleaf
      | _ => exact ih hrest
    · dsimp only [Json.fields?, Option.bind_some]
      obtain ⟨ha, hb⟩ | ⟨x, y, ha, hb, hentry⟩ :=
        AgreeTo.none_or_some (entry?_agree hvalue name key)
      · rw [ha, hb]
        exact ih hrest
      · rw [ha, hb]
        exact .some hentry

def Alike (first second : Except ThemeError (Option ThemeValue)) : Prop :=
  first = second ∨ ∃ x y, first = .error (.tooDeep x) ∧ second = .error (.tooDeep y)

theorem alike_of_agreeTo {read : Json → Except ThemeError ThemeValue}
    (hread : ∀ fields, read (.object fields) = .error (.tooDeep (.object fields))) {x y : Json}
    (h : AgreeTo depth x y) : Alike ((read x).map some) ((read y).map some) := by
  obtain ⟨-, rfl⟩ | ⟨child, other, rfl, rfl⟩ := h.leaf_or_objects
  · exact .inl rfl
  · rw [hread, hread]
    exact .inr ⟨_, _, rfl, rfl⟩

theorem alike_inFields (h : AgreeTo (depth + 2) (.object a) (.object b)) (key : String) :
    Alike (inFields a key) (inFields b key) := by
  rw [inFields_eq, inFields_eq]
  obtain ⟨ha, hb⟩ | ⟨x, y, ha, hb, hnamed⟩ := AgreeTo.none_or_some (named?_agree h key)
  · rw [ha, hb]
    obtain ⟨ha, hb⟩ | ⟨x, y, ha, hb, hentry⟩ :=
      AgreeTo.none_or_some (inChild?_agree h (unsigned key))
    · rw [ha, hb]
      exact .inl rfl
    · rw [ha, hb]
      exact alike_of_agreeTo (fun _ => rfl) hentry
  · rw [ha, hb]
    dsimp only
    rw [hnamed.isEmpty_eq]
    split
    · exact .inl rfl
    · exact alike_of_agreeTo (fun _ => rfl) hnamed

/-- Sections that agree to the members of their objects give the same for every key, or fail for
depth both. -/
theorem lookup_of_agreeTo {a b : Json} (h : AgreeTo 2 a b) (key : String) :
    lookup (some a) key = lookup (some b) key ∨
      ∃ x y, lookup (some a) key = .error (.tooDeep x) ∧
        lookup (some b) key = .error (.tooDeep y) := by
  obtain ⟨-, rfl⟩ | ⟨x, y, rfl, rfl⟩ := h.leaf_or_objects
  · exact .inl rfl
  · exact alike_inFields h key

def shaded (below : Fields) : Json :=
  .object [("red", .object [("default", .string "#f00"), ("500", .object below)])]

theorem lookup_of_agreeTo_shaded :
    shaded [("light", .string "#f00")] ≠ shaded [("dark", .null), ("light", .object [])] ∧
      lookup (some (shaded [("dark", .null), ("light", .object [])])) "red" =
        .ok (some (.scalar "#f00")) ∧
      ∃ x y, lookup (some (shaded [("light", .string "#f00")])) "red-500" = .error (.tooDeep x) ∧
        lookup (some (shaded [("dark", .null), ("light", .object [])])) "red-500" =
          .error (.tooDeep y) := by
  have hagree : AgreeTo 2 (shaded [("light", .string "#f00")])
      (shaded [("dark", .null), ("light", .object [])]) :=
    .cons ⟨rfl, .cons ⟨rfl, rfl⟩ (.cons ⟨rfl, rfl⟩ .nil)⟩ .nil
  refine ⟨by decide, ?_, (lookup_of_agreeTo hagree "red-500").resolve_left (by decide)⟩
  have hred : lookup (some (shaded [("light", .string "#f00")])) "red" =
      .ok (some (.scalar "#f00")) := by
    decide
  obtain he | ⟨x, y, hx, -⟩ := lookup_of_agreeTo hagree "red"
  · rw [← he, hred]
  · rw [hred] at hx
    cases hx

section Nested

variable {fields child inner : Fields} {name key start : String} {found : Json}

def OnlyStart (name key : String) (fields : Fields) : Prop :=
  ∀ other ∈ Entries.keys fields, other ≠ name →
    other ≠ key ∧ ¬(other ++ "-").toList <+: key.toList

instance (name key : String) (fields : Fields) : Decidable (OnlyStart name key fields) :=
  inferInstanceAs (Decidable (∀ other ∈ Entries.keys fields, _ → _))

theorem inChild?_of_onlyStart (hnodup : (Entries.keys fields).Nodup)
    (hchild : Entries.get? name fields = some (.object child))
    (honly : OnlyStart name key fields) (hstart : start.toList <+: key.toList) :
    inChild? start fields = entry? name child start := by
  have hentry : ∀ other more found, (other, Json.object more) ∈ fields →
      entry? other more start = some found → entry? name child start = some found := by
    intro other more found hm he
    obtain ⟨rest, -, hrest, -⟩ := entry?_eq_some_iff.1 he
    have hprefix : (other ++ "-").toList <+: key.toList := by
      refine .trans ⟨rest.toList, ?_⟩ hstart
      rw [hrest, @String.toList_append (other ++ "-")]
    have hname : other = name := by
      by_contra hne
      exact (honly other (List.mem_map_of_mem hm) hne).2 hprefix
    rw [← hname, Entries.get?_eq_some_of_mem hnodup hm] at hchild
    cases hchild
    rwa [← hname]
  cases he : entry? name child start with
  | some found =>
    apply inChild?_eq_some_of_forall (Entries.mem_of_get?_eq_some hchild) he
    intro other ho
    obtain ⟨_, _, hm, hother⟩ := exists_of_inChild? ho
    exact Option.some.inj ((hentry _ _ _ hm hother).symm.trans he)
  | none =>
    rw [inChild?_eq_none_iff]
    intro other more hm
    rw [Option.eq_none_iff_forall_ne_some]
    intro found hother
    rw [hentry _ _ _ hm hother] at he
    cases he

theorem named?_eq_none (hkey : key ≠ "") (h : key ∉ Entries.keys fields) :
    named? key fields = none := by
  have hempty : key.isEmpty = false := by simpa using hkey
  rw [named?, hempty, Entries.get?_eq_none_iff.2 h]
  rfl

/-- A key that ends at an object below an object fails for depth. With a name of that object behind
it the key finds nothing, so what is nested too deep is not reported where it is asked for. -/
theorem lookup_nested {fields child inner : Fields} {a b c : String} {leaf : Json}
    (hnodup : (Entries.keys fields).Nodup) (ha : a ≠ "") (hsign : a.toList.head? ≠ some '-')
    (hb : b ≠ "") (hchild : Entries.get? a fields = some (.object child))
    (hinner : Entries.get? b child = some (.object inner))
    (hleaf : Entries.get? c inner = some leaf)
    (honly : OnlyStart a (a ++ "-" ++ b ++ "-" ++ c) fields)
    (hcut : Entries.get? (b ++ "-" ++ c) child = none) :
    lookup (some (.object fields)) (a ++ "-" ++ b) = .error (.tooDeep (.object inner)) ∧
      lookup (some (.object fields)) (a ++ "-" ++ b ++ "-" ++ c) = .ok none := by
  have hunsigned : ∀ rest, unsigned (a ++ "-" ++ rest) = a ++ "-" ++ rest := by
    intro rest
    rw [String.append_assoc, unsigned_append ha hsign]
  have hne : ∀ rest, a ++ "-" ++ rest ≠ a := by
    intro rest he
    have hlength := congrArg String.length he
    rw [String.length_append, String.length_append, show "-".length = 1 from rfl] at hlength
    omega
  have hkey : a ++ "-" ++ b ++ "-" ++ c = a ++ "-" ++ (b ++ "-" ++ c) := by
    simp [String.append_assoc]
  rw [hkey] at honly ⊢
  constructor
  -- the child has an object under the second name
  · have hstart : (a ++ "-" ++ b ++ "-").toList <+: (a ++ "-" ++ (b ++ "-" ++ c)).toList :=
      ⟨c.toList, by simp⟩
    have hnamed : named? (a ++ "-" ++ b) fields = none := by
      apply named?_eq_none (by simp)
      intro hm
      exact (honly _ hm (hne b)).2 hstart
    apply inFields_eq_tooDeep_iff.2
    refine .inr ⟨hnamed, ?_, rfl⟩
    rw [hunsigned, inChild?_of_onlyStart hnodup hchild honly]
    · refine entry?_eq_some_iff.2 ⟨b, hb, rfl, hinner, ?_⟩
      cases inner with
      | nil => cases hleaf
      | cons => rfl
    · exact .trans ⟨['-'], by simp⟩ hstart
  -- the child has nothing under the last two names, and is not opened further
  · have hnamed : named? (a ++ "-" ++ (b ++ "-" ++ c)) fields = none := by
      apply named?_eq_none (by simp)
      intro hm
      exact (honly _ hm (hne _)).1 rfl
    apply inFields_eq_ok_none_iff.2
    refine .inr ⟨hnamed, ?_⟩
    rw [hunsigned, inChild?_of_onlyStart hnodup hchild honly (List.prefix_refl _),
      Option.eq_none_iff_forall_ne_some]
    intro found he
    obtain ⟨rest, -, hrest, hfound, -⟩ := entry?_eq_some_iff.1 he
    obtain rfl := (String.append_right_inj (a ++ "-")).1 hrest
    rw [hcut] at hfound
    cases hfound

def carded : Fields :=
  [("4", .string "1rem"), ("cart", .object [("inner-x", .string "2rem")]),
    ("card", .object [("inner", .object [("x", .string "3rem")]), ("x", .string "4rem")])]

theorem lookup_nested_card :
    OnlyStart "card" "card-inner-x" carded ∧
      lookup (some (.object carded)) "card-inner" =
        .error (.tooDeep (.object [("x", .string "3rem")])) ∧
      lookup (some (.object carded)) "card-inner-x" = .ok none :=
  ⟨by decide, @lookup_nested carded
    [("inner", .object [("x", .string "3rem")]), ("x", .string "4rem")] [("x", .string "3rem")]
    "card" "inner" "x" (.string "3rem") (by decide) (by decide) (by decide) (by decide) rfl rfl rfl
    (by decide) rfl⟩

theorem not_lookup_nested :
    ¬∀ (fields child inner : Fields) (a b c : String) (leaf : Json),
      Json.fieldsWellFormed fields → a ≠ "" → b ≠ "" → c ≠ "" →
        '-' ∉ a.toList → '-' ∉ b.toList → '-' ∉ c.toList →
        Entries.get? a fields = some (.object child) →
        Entries.get? b child = some (.object inner) →
        Entries.get? c inner = some leaf → isLeaf leaf → leaf.isEmpty = false →
        OnlyStart a (a ++ "-" ++ b ++ "-" ++ c) fields →
        Entries.get? (b ++ "-" ++ c) child = none →
        (∃ value, lookup (some (.object fields)) (a ++ "-" ++ b) = .error (.tooDeep value)) ∧
          ∃ value, lookup (some (.object fields)) (a ++ "-" ++ b ++ "-" ++ c) =
            .error (.tooDeep value) := by
  intro h
  obtain ⟨-, value, hvalue⟩ := h [("card", .object [("inner", .object [("x", .string "1rem")])])]
    [("inner", .object [("x", .string "1rem")])] [("x", .string "1rem")] "card" "inner" "x"
    (.string "1rem") (by decide) (by decide) (by decide) (by decide) (by decide) (by decide)
    (by decide) rfl rfl rfl rfl (by decide) (by decide) rfl
  have hnone : lookup (some (.object [("card", .object [("inner", .object
      [("x", .string "1rem")])])])) ("card" ++ "-" ++ "inner" ++ "-" ++ "x") = .ok none := by
    decide
  rw [hnone] at hvalue
  cases hvalue

end Nested

end Lookup

end UtilityStyle
