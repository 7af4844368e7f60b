import UtilityStyle.Proofs.Style.Rename

namespace UtilityStyle

namespace Style

theorem mergeFields_eq_self {fields more : Fields}
    (h : ∀ entry ∈ more, ∃ old, Entries.get? entry.1 fields = some old ∧
      mergeValue (some old) entry.2 = old) : mergeFields fields more = fields := by
  induction more with
  | nil => rfl
  | cons entry rest ih =>
    obtain ⟨⟨old, hold, hkeep⟩, hrest⟩ := List.forall_mem_cons.1 h
    rw [mergeFields_cons, hold, hkeep, Entries.put_eq_self hold, ih hrest]

theorem mergeValue_mergeValue {value : Json} (hw : value.wellFormed) (old? : Option Json) :
    mergeValue (some (mergeValue old? value)) value = mergeValue old? value := by
  induction value using Json.memberInduction generalizing old? with
  | leaf value hleaf => rw [mergeValue_of_leaf hleaf, mergeValue_of_leaf hleaf]
  | object more ih =>
    obtain ⟨hnodup, hmembers⟩ := Json.fieldsWellFormed_iff.1 hw
    have htwice : ∀ fields : Fields,
        mergeFields (mergeFields fields more) more = mergeFields fields more := by
      intro fields
      apply mergeFields_eq_self
      intro entry he
      have hget := Entries.get?_eq_some_of_mem hnodup he
      exact ⟨_, get?_mergeFields_of_some hw hget fields, ih entry he (hmembers entry he) _⟩
    have hnew : mergeFields [] more = more :=
      mergeFields_of_disjoint hnodup (by simp [Entries.keys])
    have hself : mergeFields more more = more := by
      have h := htwice []
      rwa [hnew] at h
    cases old? with
    | none => exact congrArg Json.object hself
    | some old =>
      cases hobject : old.isObject with
      | false =>
        rw [mergeValue_some_of_leaf hobject]
        exact congrArg Json.object hself
      | true =>
        obtain ⟨fields, rfl⟩ := Json.eq_object_of_isObject hobject
        exact congrArg Json.object (htwice fields)

theorem merge_merge_self (first : Style) {second : Style} (hs : second.value.wellFormed) :
    (first.merge second).merge second = first.merge second :=
  congrArg mk (Json.object.inj (mergeValue_mergeValue hs (some first.value)))

section MapValues

variable {f : Json → Json}

theorem get?_mapMembers (key : String) (fields : Fields) :
    Entries.get? key (mapMembers f fields) = (Entries.get? key fields).map (mapValue f) := by
  rw [mapMembers_eq_map]
  exact @Entries.get?_map _ _ id key fields (fun _ _ he => he) _

theorem mapMembers_put (key : String) (value : Json) (fields : Fields) :
    mapMembers f (Entries.put key value fields) =
      Entries.put key (mapValue f value) (mapMembers f fields) := by
  rw [mapMembers_eq_map, mapMembers_eq_map]
  exact @Entries.map_put _ _ id key fields (fun _ _ he => he) _ value

theorem mapMembers_mergeFields {fields more : Fields}
    (hmember : ∀ entry ∈ more, ∀ old? : Option Json, mapValue f (mergeValue old? entry.2) =
      mergeValue (old?.map (mapValue f)) (mapValue f entry.2)) :
    mapMembers f (mergeFields fields more) =
      mergeFields (mapMembers f fields) (mapMembers f more) := by
  induction more generalizing fields with
  | nil => rfl
  | cons entry rest ih =>
    obtain ⟨hentry, hrest⟩ := List.forall_mem_cons.1 hmember
    rw [mergeFields_cons, ih hrest, mapMembers_put, hentry, mapMembers, mergeFields_cons,
      get?_mapMembers]

theorem mapValue_mergeValue (hf : ∀ value, value.isObject = false → (f value).isObject = false)
    (old? : Option Json) (value : Json) :
    mapValue f (mergeValue old? value) = mergeValue (old?.map (mapValue f)) (mapValue f value) := by
  induction value using Json.memberInduction generalizing old? with
  | leaf value hleaf =>
    rw [mergeValue_of_leaf hleaf, Json.mapValue_of_leaf hleaf, mergeValue_of_leaf (hf value hleaf)]
  | object more ih =>
    cases old? with
    | none => rw [Option.map_none, mergeValue_none, mergeValue_none]
    | some old =>
      cases hobject : old.isObject with
      | false =>
        rw [Option.map_some, Json.mapValue_of_leaf hobject, mergeValue_some_of_leaf hobject,
          mergeValue_some_of_leaf (hf old hobject)]
      | true =>
        obtain ⟨fields, rfl⟩ := Json.eq_object_of_isObject hobject
        exact congrArg Json.object (mapMembers_mergeFields fun entry he old? => ih entry he old?)

theorem mapValues_merge (hf : ∀ value, value.isObject = false → (f value).isObject = false)
    (first second : Style) :
    (first.merge second).mapValues f = (first.mapValues f).merge (second.mapValues f) :=
  congrArg mk (Json.object.inj (mapValue_mergeValue hf (some first.value) second.value))

end MapValues

theorem markImportant_merge (first second : Style) :
    (first.merge second).markImportant = first.markImportant.merge second.markImportant :=
  mapValues_merge (fun value _ => markValue_isObject value) first second

theorem markImportant_within (path : List String) (style : Style) :
    (style.within path).markImportant = style.markImportant.within path := by
  rw [← markWhere_true, ← markWhere_true, markWhere_within]

/-- A style may be merged in twice, marks and keys around styles may be put on before or after a
merge, and of three merges either may come first, unless the first style has a nested style where
the second has a value or the other way round. -/
theorem merge_laws {first second third : Style} (hf : first.value.wellFormed)
    (hs : second.value.wellFormed) (ht : third.value.wellFormed) (path : List String) :
    (first.merge second).merge second = first.merge second ∧
      (first.merge second).markImportant = first.markImportant.merge second.markImportant ∧
      (first.merge second).within path = (first.within path).merge (second.within path) ∧
      (first.within path).markImportant = first.markImportant.within path ∧
      (first.value.Agree second.value →
        (first.merge second).merge third = first.merge (second.merge third)) :=
  ⟨merge_merge_self first hs, markImportant_merge first second, (merge_within path _ _).symm,
    markImportant_within path first, fun h => (merge_assoc hf hs ht h).symm⟩

theorem merge_laws_overlapping :
    let first : Style := ⟨[("a", .string "1"), (":b", .object [("c", .number (.whole 1))])]⟩
    let second : Style :=
      ⟨[("d", .string "2"), (":b", .object [("e", .string "2"), ("c", .string "2")])]⟩
    let third : Style := ⟨[("e", .null), (":b", .object [("e", .string "3")]), ("a", .string "3")]⟩
    (first.merge second).merge second =
        ⟨[("a", .string "1"), (":b", .object [("c", .string "2"), ("e", .string "2")]),
          ("d", .string "2")]⟩ ∧
      (first.markImportant.merge second.markImportant).fields =
        [("a", .string "1 !important"),
          (":b", .object [("c", .string "2 !important"), ("e", .string "2 !important")]),
          ("d", .string "2 !important")] ∧
      first.merge (second.merge third) =
        ⟨[("a", .string "3"), (":b", .object [("c", .string "2"), ("e", .string "3")]),
          ("d", .string "2"), ("e", .null)]⟩ := by
  intro first second third
  have hshape : first.Scoped ∧ second.Scoped := by decide
  obtain ⟨htwice, hmark, -, -, hassoc⟩ :=
    @merge_laws first second third (by decide) (by decide) (by decide) [":hover"]
  refine ⟨htwice.trans (by decide), ?_, ?_⟩
  · rw [← hmark]
    decide
  · rw [← hassoc (agree_of_scoped hshape.1 hshape.2)]
    decide

/-- A value in the place of a nested style hides that from a later one. -/
example :
    let first : Style := .under "a" (.one "b" "1")
    let second : Style := .one "a" "2"
    let third : Style := .under "a" (.one "c" "3")
    (first.merge second).merge third ≠ first.merge (second.merge third) := by
  decide

end Style

end UtilityStyle
