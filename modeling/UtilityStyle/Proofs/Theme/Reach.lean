import UtilityStyle.Json.WellFormed
import UtilityStyle.Proofs.Theme.Lookup
import UtilityStyle.Proofs.Theme.Scale

/-!
Sections of two levels, whose objects hold leaves only. If no two leaves are selected by the same
end of a class name, every leaf is found under its end. A key that holds dashes can be cut at each
of them, and whichever cut or name answers first has a leaf with just that end.
-/

namespace UtilityStyle.Lookup

def topEnd (name : String) : String := if name = "default" then "" else name

def innerEnd (name key : String) : String := if key = "default" then name else name ++ "-" ++ key

def leaves : Fields → Entries Json
  | [] => []
  | (name, .object child) :: rest =>
    child.map (fun (key, value) => (innerEnd name key, value)) ++ leaves rest
  | (name, value) :: rest => (topEnd name, value) :: leaves rest

def names (fields : Fields) : List String :=
  Entries.keys fields ++ fields.flatMap fun entry => Entries.keys (entry.2.fields?.getD [])

def isToken : Json → Bool
  | .string text => !Text.allBlank text
  | .number _ => true
  | .array items => items.all fun item => (Scale.text? item).isSome
  | .null | .bool _ | .object _ => false

/-- The section has tokens and objects of tokens, and no end of a class name selects two of them. -/
structure TwoLevel (fields : Fields) : Prop where
  wellFormed : Json.fieldsWellFormed fields
  tokens : ∀ leaf ∈ leaves fields, isToken leaf.2
  nonempty : ∀ name ∈ names fields, name ≠ ""
  noSign : ∀ entry ∈ fields, entry.2.isObject → entry.1.toList.head? ≠ some '-'
  noDefaultEnd : ∀ name ∈ names fields, ¬"-default".toList <:+ name.toList
  distinct : (Entries.keys (leaves fields)).Nodup

variable {fields child : Fields} {name key : String} {found leaf : Json}

theorem mem_leaves_iff :
    (key, leaf) ∈ leaves fields ↔
      (∃ name, (name, leaf) ∈ fields ∧ leaf.isObject = false ∧ topEnd name = key) ∨
        ∃ name child inner, (name, Json.object child) ∈ fields ∧ (inner, leaf) ∈ child ∧
          innerEnd name inner = key := by
  induction fields with
  | nil => simp [leaves]
  | cons entry rest ih =>
    obtain ⟨name, value⟩ := entry
    cases value with
    | object child =>
      unfold leaves
      rw [List.mem_append, ih]
      simp only [List.mem_map, List.mem_cons, Prod.mk.injEq]
      constructor
      · rintro (⟨⟨inner, _⟩, hm, rfl, rfl⟩ | ⟨other, hm, hleaf, rfl⟩ |
          ⟨other, more, inner, hm, hi, rfl⟩)
        · exact .inr ⟨name, child, inner, .inl ⟨rfl, rfl⟩, hm, rfl⟩
        · exact .inl ⟨other, .inr hm, hleaf, rfl⟩
        · exact .inr ⟨other, more, inner, .inr hm, hi, rfl⟩
      · rintro (⟨other, ⟨rfl, rfl⟩ | hm, hleaf, rfl⟩ |
          ⟨other, more, inner, ⟨rfl, he⟩ | hm, hi, rfl⟩)
        · cases hleaf
        · exact .inr (.inl ⟨other, hm, hleaf, rfl⟩)
        · cases he
          exact .inl ⟨(inner, leaf), hi, rfl, rfl⟩
        · exact .inr (.inr ⟨other, more, inner, hm, hi, rfl⟩)
    | _ =>
      unfold leaves
      rw [List.mem_cons, ih]
      simp only [List.mem_cons, Prod.mk.injEq, reduceCtorEq, and_false, false_or]
      constructor
      · rintro (⟨rfl, rfl⟩ | ⟨other, hm, hleaf, rfl⟩ | h)
        · exact .inl ⟨name, .inl ⟨rfl, rfl⟩, rfl, rfl⟩
        · exact .inl ⟨other, .inr hm, hleaf, rfl⟩
        · exact .inr h
      · rintro (⟨other, ⟨rfl, rfl⟩ | hm, hleaf, rfl⟩ | h)
        · exact .inl ⟨rfl, rfl⟩
        · exact .inr (.inl ⟨other, hm, hleaf, rfl⟩)
        · exact .inr (.inr h)

theorem mem_names (hm : (name, found) ∈ fields) : name ∈ names fields :=
  List.mem_append_left _ (List.mem_map_of_mem hm)

theorem mem_names_inner (hm : (name, .object child) ∈ fields) (hk : (key, leaf) ∈ child) :
    key ∈ names fields :=
  List.mem_append_right _ (List.mem_flatMap.2 ⟨_, hm, List.mem_map_of_mem hk⟩)

theorem exists_mapM_item {items : List Json} (h : ∀ item ∈ items, (Scale.text? item).isSome) :
    ∃ texts, items.mapM ThemeValue.item = .ok texts := by
  induction items with
  | nil => exact ⟨[], rfl⟩
  | cons item rest ih =>
    obtain ⟨hitem, hrest⟩ := List.forall_mem_cons.1 h
    obtain ⟨texts, htexts⟩ := ih hrest
    have hfirst : ∃ text, ThemeValue.item item = .ok text := by
      cases item with
      | string text => exact ⟨text, rfl⟩
      | number number => exact ⟨number.styled, rfl⟩
      | _ => cases hitem
    obtain ⟨text, htext⟩ := hfirst
    exact ⟨text :: texts, by simp [htext, htexts]⟩

theorem exists_ofJson (h : isToken leaf) : ∃ value, ThemeValue.ofJson leaf = .ok value := by
  cases leaf with
  | string text => exact ⟨.scalar text, rfl⟩
  | number number => exact ⟨.scalar number.styled, rfl⟩
  | array items =>
    obtain ⟨texts, htexts⟩ := exists_mapM_item (List.all_eq_true.1 h)
    exact ⟨.list texts, by simp [ThemeValue.ofJson, htexts]⟩
  | null | bool | object => cases h

theorem isLeaf_of_isToken (h : isToken leaf) : isLeaf leaf := by
  cases leaf <;> first | rfl | cases h

theorem isEmpty_of_isToken (h : isToken leaf) : leaf.isEmpty = false := by
  cases leaf with
  | string text => simpa [isToken, Json.isEmpty] using h
  | number | array => rfl
  | null | bool | object => cases h

theorem mem_leaves_of_named? (hdash : '-' ∈ key.toList) (h : named? key fields = some found) :
    (key, found) ∈ leaves fields := by
  have hne : ∀ other : String, '-' ∉ other.toList → key ≠ other := by
    rintro other ho rfl
    exact ho hdash
  have hempty : key.isEmpty = false := by simpa using hne "" (by decide)
  unfold named? at h
  rw [hempty] at h
  rw [mem_leaves_iff]
  cases hg : Entries.get? key fields with
  | none => simp [hg] at h
  | some value =>
    have hm := Entries.mem_of_get?_eq_some hg
    rw [hg] at h
    cases value with
    | object child =>
      obtain ⟨hdefault, -⟩ := default?_eq_some_iff.1 h
      exact .inr ⟨key, child, "default", hm, Entries.mem_of_get?_eq_some hdefault, rfl⟩
    | string | number | array =>
      cases h
      exact .inl ⟨key, hm, rfl, if_neg (hne "default" (by decide))⟩
    | null | bool => cases h

theorem mem_leaves_of_inChild? (hend : ¬"-default".toList <:+ key.toList)
    (h : inChild? key fields = some found) : (key, found) ∈ leaves fields := by
  obtain ⟨name, child, hm, he⟩ := exists_of_inChild? h
  obtain ⟨rest, -, rfl, hfound, -⟩ := entry?_eq_some_iff.1 he
  have hrest : rest ≠ "default" := by
    rintro rfl
    exact hend ⟨name.toList, by simp⟩
  exact mem_leaves_iff.2
    (.inr ⟨name, child, rest, hm, Entries.mem_of_get?_eq_some hfound, if_neg hrest⟩)

theorem not_suffix_append_dash (hkey : key ≠ "default") (h : ¬"-default".toList <:+ key.toList)
    (name : String) : ¬"-default".toList <:+ (name ++ "-" ++ key).toList := by
  have hne : '-' :: key.toList ≠ "-default".toList := by
    intro he
    exact hkey (String.toList_inj.1 (List.cons.inj he).2)
  have hsuffix : '-' :: key.toList <:+ (name ++ "-" ++ key).toList := ⟨name.toList, by simp⟩
  intro hend
  rcases List.suffix_or_suffix_of_suffix hend hsuffix with hs | hs
  · exact (List.suffix_cons_iff.1 hs).elim (fun he => hne he.symm) h
  · rcases List.suffix_cons_iff.1 hs with he | hs
    · exact hne he
    · exact absurd (hs.subset List.mem_cons_self) (by decide)

theorem exists_inFields_of_named? (hleaf : isToken leaf) (h : named? key fields = some leaf) :
    ∃ value, ThemeValue.ofJson leaf = .ok value ∧ inFields fields key = .ok (some value) := by
  obtain ⟨value, hvalue⟩ := exists_ofJson hleaf
  exact ⟨value, hvalue, by simp [inFields_eq, h, isEmpty_of_isToken hleaf, hvalue, Except.map]⟩

namespace TwoLevel

theorem eq_of_mem_leaves (h : TwoLevel fields) (hf : (key, found) ∈ leaves fields)
    (hl : (key, leaf) ∈ leaves fields) : found = leaf :=
  Option.some.inj ((Entries.get?_eq_some_of_mem h.distinct hf).symm.trans
    (Entries.get?_eq_some_of_mem h.distinct hl))

theorem get? (h : TwoLevel fields) (hm : (name, found) ∈ fields) :
    Entries.get? name fields = some found :=
  Entries.get?_eq_some_of_mem (Json.nodup_keys h.wellFormed) hm

theorem get?_inner (h : TwoLevel fields) (hm : (name, .object child) ∈ fields)
    (hk : (key, leaf) ∈ child) : Entries.get? key child = some leaf :=
  have hchild : Json.fieldsWellFormed child := Json.wellFormed_of_get? h.wellFormed (h.get? hm)
  Entries.get?_eq_some_of_mem (Json.nodup_keys hchild) hk

theorem named?_topEnd (h : TwoLevel fields) (hm : (name, leaf) ∈ fields) (hleaf : isToken leaf) :
    named? (topEnd name) fields = some leaf := by
  have hget := h.get? hm
  unfold topEnd named?
  split
  · rename_i hname
    subst hname
    exact default?_eq_some_iff.2 ⟨hget, isEmpty_of_isToken hleaf⟩
  · have hempty : name.isEmpty = false := by simpa using h.nonempty name (mem_names hm)
    rw [hempty, hget]
    cases leaf with
    | string | number | array => rfl
    | null | bool | object => cases hleaf

theorem named?_of_default (h : TwoLevel fields) (hm : (name, .object child) ∈ fields)
    (hk : ("default", leaf) ∈ child) (hleaf : isToken leaf) : named? name fields = some leaf := by
  have hempty : name.isEmpty = false := by simpa using h.nonempty name (mem_names hm)
  unfold named?
  rw [hempty, h.get? hm]
  exact default?_eq_some_iff.2 ⟨h.get?_inner hm hk, isEmpty_of_isToken hleaf⟩

/-- A leaf of an object is what the key with its name comes to, wherever else the key can be cut. -/
theorem exists_inFields_inner (h : TwoLevel fields) (hm : (name, .object child) ∈ fields)
    (hk : (key, leaf) ∈ child) (hdefault : key ≠ "default") (hleaf : isToken leaf) :
    ∃ value, ThemeValue.ofJson leaf = .ok value ∧
      inFields fields (name ++ "-" ++ key) = .ok (some value) := by
  have hl : (name ++ "-" ++ key, leaf) ∈ leaves fields :=
    mem_leaves_iff.2 (.inr ⟨name, child, key, hm, hk, if_neg hdefault⟩)
  have hmem := mem_names_inner hm hk
  have hend : ¬"-default".toList <:+ (name ++ "-" ++ key).toList :=
    not_suffix_append_dash hdefault (h.noDefaultEnd key hmem) name
  have hunsigned : unsigned (name ++ "-" ++ key) = name ++ "-" ++ key := by
    rw [String.append_assoc, unsigned_append (h.nonempty name (mem_names hm)) (h.noSign _ hm rfl)]
  cases hn : named? (name ++ "-" ++ key) fields with
  | some found =>
    obtain rfl := h.eq_of_mem_leaves (mem_leaves_of_named? (by simp) hn) hl
    exact exists_inFields_of_named? hleaf hn
  | none =>
    have hentry : entry? name child (name ++ "-" ++ key) = some leaf :=
      entry?_eq_some_iff.2 ⟨key, h.nonempty key hmem, rfl, h.get?_inner hm hk,
        isEmpty_of_isToken hleaf⟩
    have hc : inChild? (name ++ "-" ++ key) fields = some leaf :=
      inChild?_eq_some_of_forall hm hentry fun other ho =>
        h.eq_of_mem_leaves (mem_leaves_of_inChild? hend ho) hl
    obtain ⟨value, hvalue⟩ := exists_ofJson hleaf
    refine ⟨value, hvalue, ?_⟩
    simp [inFields_eq, hn, hunsigned, hc, answer, isLeaf_of_isToken hleaf, hvalue, Except.map]

end TwoLevel

/-- Every leaf of a section of two levels is found under the end that selects it. -/
theorem lookup_of_mem_leaves {fields : Fields} (h : TwoLevel fields) {key : String} {leaf : Json}
    (hm : (key, leaf) ∈ leaves fields) :
    ∃ value, ThemeValue.ofJson leaf = .ok value ∧
      lookup (some (.object fields)) key = .ok (some value) := by
  have hleaf : isToken leaf := h.tokens _ hm
  obtain ⟨name, hn, -, rfl⟩ | ⟨name, child, inner, hn, hk, rfl⟩ := mem_leaves_iff.1 hm
  · exact exists_inFields_of_named? hleaf (h.named?_topEnd hn hleaf)
  · unfold innerEnd
    split
    · rename_i hdefault
      subst hdefault
      exact exists_inFields_of_named? hleaf (h.named?_of_default hn hk hleaf)
    · rename_i hdefault
      exact h.exists_inFields_inner hn hk hdefault hleaf

def brands : Fields :=
  [("default", .string "black"),
    ("brand", .object [("default", .string "teal"), ("blue", .string "blue"),
      ("blue-dark-2", .array [.string "navy", .number (.whole 2)])]),
    ("brand-blue", .object [("dark", .string "navy"), ("5", .string "#00f")])]

theorem lookup_of_mem_leaves_brands :
    TwoLevel brands ∧
      lookup (some (.object brands)) "brand-blue-dark-2" =
        .ok (some (.list ["navy", "2"])) := by
  have h : TwoLevel brands :=
    ⟨by decide, by decide, by decide, by decide, by decide, by decide⟩
  have hm : ("brand-blue-dark-2", Json.array [.string "navy", .number (.whole 2)]) ∈
      leaves brands := by
    decide
  obtain ⟨value, hvalue, hlookup⟩ := lookup_of_mem_leaves h hm
  have hlist : ThemeValue.ofJson (.array [.string "navy", .number (.whole 2)]) =
      .ok (.list ["navy", "2"]) := by
    decide
  rw [hlist] at hvalue
  cases hvalue
  exact ⟨h, hlookup⟩

end UtilityStyle.Lookup
