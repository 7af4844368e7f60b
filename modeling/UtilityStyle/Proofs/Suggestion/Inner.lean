import UtilityStyle.Proofs.Suggestion.Shown

/-!
The tokens of a section, read off the tree of its values: the texts, numbers and lists at the ends
of the names, in the order in which they stand. Flattening a section finds these and nothing else.
-/

namespace UtilityStyle

theorem forall₂_iff_eq_map {α β : Type} {related : α → β → Prop} {f : α → β} {xs : List α}
    {ys : List β} (h : ∀ x ∈ xs, ∀ y, related x y ↔ y = f x) :
    List.Forall₂ related xs ys ↔ ys = xs.map f := by
  induction xs generalizing ys with
  | nil => simp
  | cons x rest ih =>
    obtain ⟨hx, hrest⟩ := List.forall_mem_cons.1 h
    cases ys with
    | nil => simp
    | cons y ys => rw [List.forall₂_cons, hx, ih hrest, List.map_cons, List.cons.injEq]

/-- A value inside another, with the places and the names on the way down to it. -/
structure Inner where
  places : List Nat
  names : List String
  value : Json

namespace Inner

def under (n : Nat) (key : String) (inner : Inner) : Inner :=
  ⟨n :: inner.places, key :: inner.names, inner.value⟩

/-- The names with dashes between them. Empty names count only behind one that is not. -/
def path (inner : Inner) : String := "-".intercalate (inner.names.dropWhile (·.isEmpty))

/-- The inner values of a kind, each of them once, in the order in which they stand. -/
structure InOrder (wanted : Inner → Prop) (list : List Inner) : Prop where
  mem_iff : ∀ inner, inner ∈ list ↔ wanted inner
  ordered : list.Pairwise fun a b => a.places < b.places

theorem InOrder.nodup {wanted : Inner → Prop} {list : List Inner} (h : InOrder wanted list) :
    list.Nodup := by
  refine h.ordered.imp ?_
  rintro a b hlt rfl
  exact List.lt_irrefl _ hlt

theorem InOrder.unique {wanted : Inner → Prop} {list other : List Inner} (h : InOrder wanted list)
    (h' : InOrder wanted other) : list = other := by
  have hperm : list.Perm other := (List.perm_ext_iff_of_nodup h.nodup h'.nodup).2 fun inner =>
    (h.mem_iff inner).trans (h'.mem_iff inner).symm
  refine hperm.eq_of_pairwise ?_ h.ordered h'.ordered
  intro a b _ _ hab hba
  exact absurd hba (List.lt_asymm hab)

end Inner

namespace Json

/-- The value has the inner one at its places. Only objects have anything inside. -/
inductive Holds : Json → Inner → Prop
  | here (value : Json) : Holds value ⟨[], [], value⟩
  | inside {fields : Fields} {n : Nat} {key : String} {child : Json} {inner : Inner} :
      fields[n]? = some (key, child) → Holds child inner →
        Holds (.object fields) (inner.under n key)

inductive ItemWritten : Json → String → Prop
  | string (text : String) : ItemWritten (.string text) text
  | other {value : Json} : (∀ text, value ≠ .string text) → ItemWritten value value.text

inductive Written : Json → String → Prop
  | string (text : String) : Written (.string text) text
  | number (number : Number) : Written (.number number) number.styled
  | array {items : List Json} {texts : List String} :
      List.Forall₂ ItemWritten items texts → Written (.array items) (", ".intercalate texts)

mutual

def tokens : Json → List Inner
  | .object fields => tokensFrom 0 fields
  | .string text => [⟨[], [], .string text⟩]
  | .number n => [⟨[], [], .number n⟩]
  | .array items => [⟨[], [], .array items⟩]
  | .bool _ | .null => []

def tokensFrom (n : Nat) : List (String × Json) → List Inner
  | [] => []
  | (key, value) :: rest => (tokens value).map (.under n key) ++ tokensFrom (n + 1) rest

end

variable {value : Json} {fields : Fields} {inner : Inner}

theorem holds_object_iff :
    (Json.object fields).Holds inner ↔
      inner = ⟨[], [], .object fields⟩ ∨ ∃ (n : Nat) (key : String) (child : Json) (lower : Inner),
        fields[n]? = some (key, child) ∧ child.Holds lower ∧ inner = lower.under n key := by
  constructor
  · intro h
    cases h with
    | here => exact .inl rfl
    | inside hget hlower => exact .inr ⟨_, _, _, _, hget, hlower, rfl⟩
  · rintro (rfl | ⟨n, key, child, lower, hget, hlower, rfl⟩)
    · exact .here _
    · exact .inside hget hlower

theorem holds_iff_of_not_object (h : value.isObject = false) :
    value.Holds inner ↔ inner = ⟨[], [], value⟩ := by
  constructor
  · intro hholds
    cases hholds with
    | here => rfl
    | inside => cases h
  · rintro rfl
    exact .here value

mutual

theorem mem_tokens_iff : (value : Json) → (inner : Inner) →
    (inner ∈ value.tokens ↔ value.Holds inner ∧ Lookup.isLeaf inner.value)
  | .object fields, inner => by
    rw [tokens, mem_tokensFrom_iff 0 fields inner, holds_object_iff]
    constructor
    · rintro ⟨n, key, child, lower, hget, hlower, hleaf, rfl⟩
      rw [Nat.zero_add]
      exact ⟨.inr ⟨n, key, child, lower, hget, hlower, rfl⟩, hleaf⟩
    · rintro ⟨rfl | ⟨n, key, child, lower, hget, hlower, rfl⟩, hleaf⟩
      -- an object is inside itself, but is no token
      · cases hleaf
      · exact ⟨n, key, child, lower, hget, hlower, hleaf, by rw [Nat.zero_add]⟩
  | .string _, inner | .number _, inner | .array _, inner => by
    rw [tokens, List.mem_singleton, holds_iff_of_not_object rfl]
    exact ⟨fun h => ⟨h, h ▸ rfl⟩, fun h => h.1⟩
  | .bool _, inner | .null, inner => by
    rw [tokens, holds_iff_of_not_object rfl]
    exact ⟨nofun, fun h => by cases h.1 ▸ h.2⟩

theorem mem_tokensFrom_iff (n : Nat) : (fields : List (String × Json)) → (inner : Inner) →
    (inner ∈ tokensFrom n fields ↔ ∃ (k : Nat) (key : String) (child : Json) (lower : Inner),
      fields[k]? = some (key, child) ∧ child.Holds lower ∧ Lookup.isLeaf lower.value ∧
        inner = lower.under (n + k) key)
  | [], inner => by simp [tokensFrom]
  | (key, value) :: rest, inner => by
    rw [tokensFrom, List.mem_append, List.mem_map, mem_tokensFrom_iff (n + 1) rest inner]
    constructor
    · rintro (⟨lower, hlower, rfl⟩ | ⟨k, name, child, lower, hget, hholds, hleaf, rfl⟩)
      · obtain ⟨hholds, hleaf⟩ := (mem_tokens_iff value lower).1 hlower
        exact ⟨0, key, value, lower, rfl, hholds, hleaf, rfl⟩
      · refine ⟨k + 1, name, child, lower, hget, hholds, hleaf, ?_⟩
        rw [Nat.add_assoc, Nat.add_comm 1 k]
    · rintro ⟨k, name, child, lower, hget, hholds, hleaf, rfl⟩
      cases k with
      | zero =>
        cases hget
        exact .inl ⟨lower, (mem_tokens_iff value lower).2 ⟨hholds, hleaf⟩, rfl⟩
      | succ k =>
        refine .inr ⟨k, name, child, lower, hget, hholds, hleaf, ?_⟩
        rw [Nat.add_assoc, Nat.add_comm 1 k]

end

mutual

theorem ordered_tokens : (value : Json) → value.tokens.Pairwise fun a b => a.places < b.places
  | .object fields => by
    rw [tokens]
    exact ordered_tokensFrom 0 fields
  | .string _ | .number _ | .array _ => by simp [tokens]
  | .bool _ | .null => by simp [tokens]

theorem ordered_tokensFrom (n : Nat) : (fields : List (String × Json)) →
    (tokensFrom n fields).Pairwise fun a b => a.places < b.places
  | [] => by simp [tokensFrom]
  | (key, value) :: rest => by
    rw [tokensFrom, List.pairwise_append, List.pairwise_map]
    refine ⟨?_, ordered_tokensFrom (n + 1) rest, ?_⟩
    · exact (ordered_tokens value).imp fun hlt => List.cons_lt_cons_iff.2 (.inr ⟨rfl, hlt⟩)
    · intro a ha b hb
      obtain ⟨lower, -, rfl⟩ := List.mem_map.1 ha
      obtain ⟨k, name, child, other, -, -, -, rfl⟩ := (mem_tokensFrom_iff (n + 1) rest b).1 hb
      exact List.cons_lt_cons_iff.2 (.inl (by omega))

end

theorem itemWritten_iff {item : Json} {text : String} :
    item.ItemWritten text ↔ text = Suggestion.itemText item := by
  constructor
  · intro h
    cases h with
    | string => rfl
    | other hne =>
      cases item with
      | string text => exact absurd rfl (hne text)
      | null | bool | number | array | object => rfl
  · rintro rfl
    cases item with
    | string text => exact .string text
    | null | bool | number | array | object => exact .other nofun

theorem forall₂_itemWritten_iff {items : List Json} {texts : List String} :
    List.Forall₂ ItemWritten items texts ↔ texts = items.map Suggestion.itemText :=
  forall₂_iff_eq_map fun _ _ _ => itemWritten_iff

theorem written_iff {text : String} :
    value.Written text ↔ Lookup.isLeaf value ∧ text = Suggestion.shown value := by
  constructor
  · intro h
    cases h with
    | string | number => exact ⟨rfl, rfl⟩
    | array hitems =>
      rw [forall₂_itemWritten_iff.1 hitems]
      exact ⟨rfl, rfl⟩
  · rintro ⟨hleaf, rfl⟩
    cases value with
    | string text => exact .string text
    | number n => exact .number n
    | array items =>
      exact .array (forall₂_itemWritten_iff.2 rfl)
    | null | bool | object => cases hleaf

end Json

namespace Suggestion

variable {path : String}

def joined (path name : String) : String := if path.isEmpty then name else path ++ "-" ++ name

theorem foldl_joined_of_ne (names : List String) (h : path ≠ "") :
    names.foldl joined path = "-".intercalate (path :: names) := by
  induction names generalizing path with
  | nil => simp
  | cons name rest ih =>
    have hjoined : joined path name = path ++ "-" ++ name := if_neg (by simpa using h)
    rw [List.foldl_cons, hjoined, ih (by simp [h])]
    cases rest with
    | nil => simp
    | cons next rest => simp [String.intercalate_cons_of_ne_nil, String.append_assoc]

theorem foldl_joined (names : List String) :
    names.foldl joined "" = "-".intercalate (names.dropWhile (·.isEmpty)) := by
  induction names with
  | nil => rfl
  | cons name rest ih =>
    have hjoined : joined "" name = name := rfl
    rw [List.foldl_cons, hjoined]
    -- empty names leave the path empty, so that the next name starts it
    by_cases hname : name = ""
    · subst hname
      rw [ih, List.dropWhile_cons_of_pos rfl]
    · rw [foldl_joined_of_ne rest hname, List.dropWhile_cons_of_neg (by simpa using hname)]

mutual

theorem leaves_eq (path : String) : (value : Json) →
    leaves path value =
      value.tokens.map fun inner => (inner.names.foldl joined path, shown inner.value)
  | .object fields => by
    rw [leaves, Json.tokens]
    exact fieldLeaves_eq path 0 fields
  | .string _ | .number _ | .array _ => by simp [leaves, Json.tokens, shown]
  | .bool _ | .null => by simp [leaves, Json.tokens]

theorem fieldLeaves_eq (path : String) (n : Nat) : (fields : List (String × Json)) →
    fieldLeaves path fields =
      (Json.tokensFrom n fields).map fun inner =>
        (inner.names.foldl joined path, shown inner.value)
  | [] => by simp [fieldLeaves, Json.tokensFrom]
  | (key, value) :: rest => by
    rw [fieldLeaves, Json.tokensFrom, leaves_eq _ value, fieldLeaves_eq path (n + 1) rest,
      List.map_append, List.map_map]
    rfl

end

end Suggestion

namespace Theme

def HasToken (theme : Theme) (name : String) (inner : Inner) : Prop :=
  inner.names ≠ [] ∧ ∃ value, theme.section? name = some value ∧ value.Holds inner ∧
    ∃ text, inner.value.Written text

def tokens (theme : Theme) (name : String) : List Inner :=
  match theme.section? name with
  | some (.object fields) => Json.tokensFrom 0 fields
  | _ => []

theorem hasToken_iff {theme : Theme} {name : String} {inner : Inner} :
    theme.HasToken name inner ↔ ∃ fields, theme.section? name = some (.object fields) ∧
      (Json.object fields).Holds inner ∧ Lookup.isLeaf inner.value := by
  constructor
  · rintro ⟨hnames, value, hvalue, hholds, text, htext⟩
    have hleaf := (Json.written_iff.1 htext).1
    cases hholds with
    | here => exact absurd rfl hnames
    | inside hget hlower => exact ⟨_, hvalue, .inside hget hlower, hleaf⟩
  · rintro ⟨fields, hfields, hholds, hleaf⟩
    refine ⟨?_, _, hfields, hholds, _, Json.written_iff.2 ⟨hleaf, rfl⟩⟩
    cases hholds with
    | here => cases hleaf
    | inside => exact nofun

theorem inOrder_tokens (theme : Theme) (name : String) :
    Inner.InOrder (theme.HasToken name) (theme.tokens name) := by
  unfold tokens
  split
  · rename_i fields hfields
    refine ⟨fun inner => ?_, Json.ordered_tokensFrom 0 fields⟩
    rw [hasToken_iff, hfields]
    have hmem := Json.mem_tokens_iff (.object fields) inner
    rw [Json.tokens] at hmem
    simpa using hmem
  · rename_i hnone
    refine ⟨fun inner => ?_, .nil⟩
    rw [hasToken_iff]
    exact ⟨nofun, fun ⟨fields, hfields, _⟩ => absurd hfields (hnone fields)⟩

theorem sectionLeaves_eq (theme : Theme) (name : String) :
    ((theme.section? name).map Suggestion.sectionLeaves).getD [] =
      (theme.tokens name).map fun inner => (inner.path, Suggestion.shown inner.value) := by
  unfold tokens
  split
  · rename_i fields hfields
    rw [hfields]
    simp only [Option.map_some, Option.getD_some, Suggestion.sectionLeaves,
      Suggestion.fieldLeaves_eq "" 0, Suggestion.foldl_joined]
    rfl
  · rename_i hnone
    cases hvalue : theme.section? name with
    | none => rfl
    | some value =>
      cases value with
      | object fields => exact absurd hvalue (hnone fields)
      | null | bool | number | string | array => rfl

end Theme

end UtilityStyle
