import Mathlib.Data.List.Basic
import Mathlib.Data.List.Induction
import Mathlib.Data.List.Nodup
import Mathlib.Tactic.Tauto
import UtilityStyle.Proofs.Style.Merge

namespace UtilityStyle

namespace Entries

variable {α : Type}

theorem ext_of_keys_eq {a b : Entries α} (hkeys : keys a = keys b) (hnodup : (keys a).Nodup)
    (h : ∀ key, get? key a = get? key b) : a = b := by
  induction a generalizing b with
  | nil =>
    cases b with
    | nil => rfl
    | cons entry rest => cases hkeys
  | cons entry rest ih =>
    cases b with
    | nil => cases hkeys
    | cons other more =>
      obtain ⟨key, value⟩ := entry
      obtain ⟨_, found⟩ := other
      obtain ⟨rfl, hrest⟩ : key = _ ∧ keys rest = keys more := List.cons.inj hkeys
      obtain ⟨hnew, hnodup⟩ := List.nodup_cons.1 hnodup
      obtain rfl : value = found := by simpa [get?] using h key
      have hmore : rest = more := by
        apply ih hrest hnodup
        intro name
        by_cases hname : key = name
        · subst hname
          rw [get?_eq_none_iff.2 hnew, get?_eq_none_iff.2 (hrest ▸ hnew)]
        · simpa [get?, hname] using h name
      rw [hmore]

theorem perm_of_get?_eq {a b : Entries α} (ha : (keys a).Nodup) (hb : (keys b).Nodup)
    (h : ∀ key, get? key a = get? key b) : a.Perm b := by
  rw [List.perm_ext_iff_of_nodup (List.Nodup.of_map _ ha) (List.Nodup.of_map _ hb)]
  rintro ⟨key, value⟩
  constructor
  · exact fun hm => mem_of_get?_eq_some ((h key).symm.trans (get?_eq_some_of_mem ha hm))
  · exact fun hm => mem_of_get?_eq_some ((h key).trans (get?_eq_some_of_mem hb hm))

end Entries

namespace Json

mutual

theorem memberInduction {P : Json → Prop} (leaf : ∀ value, value.isObject = false → P value)
    (object : ∀ fields : Fields, (∀ entry ∈ fields, P entry.2) → P (.object fields)) :
    (value : Json) → P value
  | .object fields => object fields (forall_memberInduction leaf object fields)
  | .null | .bool _ | .number _ | .string _ | .array _ => leaf _ rfl

theorem forall_memberInduction {P : Json → Prop} (leaf : ∀ value, value.isObject = false → P value)
    (object : ∀ fields : Fields, (∀ entry ∈ fields, P entry.2) → P (.object fields)) :
    (fields : List (String × Json)) → ∀ entry ∈ fields, P entry.2
  | [] => by simp
  | (_, value) :: rest =>
    List.forall_mem_cons.2
      ⟨memberInduction leaf object value, forall_memberInduction leaf object rest⟩

end

theorem fieldsWellFormed_iff {fields : Fields} :
    fieldsWellFormed fields ↔
      (Entries.keys fields).Nodup ∧ ∀ entry ∈ fields, entry.2.wellFormed := by
  induction fields with
  | nil => simp [fieldsWellFormed, Entries.keys]
  | cons entry rest ih =>
    obtain ⟨key, value⟩ := entry
    rw [fieldsWellFormed_cons, ih, Entries.get?_eq_none_iff, List.forall_mem_cons]
    change _ ↔ (key :: Entries.keys rest).Nodup ∧ _
    rw [List.nodup_cons]
    tauto

/-- No path leads to an object in one of the values and to anything else in the other. -/
def Agree (a b : Json) : Prop :=
  ∀ path x y, a.at? path = some x → b.at? path = some y → x.isObject = y.isObject

theorem Agree.member {a b : Fields} (h : Agree (.object a) (.object b)) {key : String} {x y : Json}
    (hx : Entries.get? key a = some x) (hy : Entries.get? key b = some y) : Agree x y := by
  intro path u v hu hv
  apply h (key :: path)
  · simpa [member?, fields?, hx] using hu
  · simpa [member?, fields?, hy] using hv

end Json

namespace Style

theorem mergeValue_none (value : Json) : mergeValue none value = value := by
  cases value <;> rfl

theorem mergeValue_of_leaf {value : Json} (h : value.isObject = false) (old? : Option Json) :
    mergeValue old? value = value := by
  cases value with
  | object fields => cases h
  | _ => rfl

theorem mergeValue_some_of_leaf {old : Json} (h : old.isObject = false) (value : Json) :
    mergeValue (some old) value = value := by
  cases value with
  | object fields =>
    cases old with
    | object more => cases h
    | _ => rfl
  | _ => rfl

theorem get?_mergeFields {more : Fields} (hw : Json.fieldsWellFormed more) (key : String)
    (fields : Fields) :
    Entries.get? key (mergeFields fields more) =
      ((Entries.get? key more).map (mergeValue (Entries.get? key fields))).or
        (Entries.get? key fields) := by
  cases h : Entries.get? key more with
  | none => exact get?_mergeFields_of_none h fields
  | some value => exact get?_mergeFields_of_some hw h fields

theorem get?_merge {second : Style} (hs : second.value.wellFormed) (first : Style) (key : String) :
    (first.merge second).get? key =
      ((second.get? key).map (mergeValue (first.get? key))).or (first.get? key) :=
  get?_mergeFields hs key first.fields

theorem get?_under_self (key : String) (inner : Style) :
    (under key inner).get? key = some inner.value :=
  get?_put_self key inner.value empty

theorem get?_under_of_ne {key other : String} (h : other ≠ key) (inner : Style) :
    (under key inner).get? other = none :=
  get?_put_of_ne h inner.value empty

theorem nodup_keys_of_wellFormed {style : Style} (h : style.value.wellFormed) :
    style.keys.Nodup :=
  (Json.fieldsWellFormed_iff.1 h).1

theorem mergeFields_keeps {P : Fields → Prop} {fields more : Fields} (h : P fields)
    (hput : ∀ fields, P fields → ∀ entry ∈ more,
      P (Entries.put entry.1 (mergeValue (Entries.get? entry.1 fields) entry.2) fields)) :
    P (mergeFields fields more) := by
  induction more generalizing fields with
  | nil => exact h
  | cons entry rest ih =>
    rw [mergeFields_cons]
    apply ih (hput fields h entry List.mem_cons_self)
    intro fields hf other ho
    exact hput fields hf other (List.mem_cons_of_mem _ ho)

theorem isObject_mergeValue (old? : Option Json) (value : Json) :
    (mergeValue old? value).isObject = value.isObject := by
  cases h : value.isObject with
  | false => rw [mergeValue_of_leaf h, h]
  | true =>
    obtain ⟨more, rfl⟩ := Json.eq_object_of_isObject h
    rcases old? with _ | ⟨_ | _ | _ | _ | _ | fields⟩ <;> rfl

theorem mergeValue_keeps {P : Json → Prop}
    (hmember : ∀ fields : Fields, P (.object fields) → ∀ entry ∈ fields, P entry.2)
    (hput : ∀ fields more : Fields, P (.object fields) → P (.object more) → ∀ entry ∈ more,
      ∀ value, P value → value.isObject = entry.2.isObject →
        P (.object (Entries.put entry.1 value fields)))
    {value : Json} (hv : P value) {old? : Option Json} (ho : ∀ old ∈ old?, P old) :
    P (mergeValue old? value) := by
  induction value using Json.memberInduction generalizing old? with
  | leaf value h => rwa [mergeValue_of_leaf h]
  | object more ih =>
    cases old? with
    | none => rwa [mergeValue_none]
    | some old =>
      cases hobject : old.isObject with
      | false => rwa [mergeValue_some_of_leaf hobject]
      | true =>
        obtain ⟨fields, rfl⟩ := Json.eq_object_of_isObject hobject
        apply mergeFields_keeps (P := fun fields => P (.object fields)) (ho _ rfl)
        intro fields hf entry he
        apply hput fields more hf hv entry he
        · apply ih entry he (hmember more hv entry he)
          intro old hold
          exact hmember fields hf _ (Entries.mem_of_get?_eq_some hold)
        · exact isObject_mergeValue _ _

theorem wellFormed_mergeValue {value : Json} (hv : value.wellFormed) {old? : Option Json}
    (ho : ∀ old ∈ old?, old.wellFormed) : (mergeValue old? value).wellFormed := by
  apply mergeValue_keeps (P := fun value => value.wellFormed) _ _ hv ho
  · exact fun fields hf => (Json.fieldsWellFormed_iff.1 hf).2
  · exact fun fields more hf _ entry _ value hvalue _ => Json.fieldsWellFormed_put hf hvalue

theorem wellFormed_merge {first second : Style} (hf : first.value.wellFormed)
    (hs : second.value.wellFormed) : (first.merge second).value.wellFormed :=
  @wellFormed_mergeValue second.value hs (some first.value) (by simpa using hf)

theorem mergeAll_keeps {P : Style → Prop} (hempty : P empty)
    (hmerge : ∀ {first second : Style}, P first → P second → P (first.merge second))
    {styles : List Style} (h : ∀ style ∈ styles, P style) : P (mergeAll styles) := by
  induction styles using List.reverseRecOn with
  | nil => exact hempty
  | append_singleton init last ih =>
    rw [mergeAll_append_singleton]
    exact hmerge (ih fun style hs => h style (List.mem_append_left _ hs)) (h last (by simp))

theorem within_keeps {P : Style → Prop} {path : List String} {style : Style}
    (hunder : ∀ key ∈ path, ∀ inner : Style, P inner → P (under key inner)) (h : P style) :
    P (style.within path) := by
  induction path with
  | nil => exact h
  | cons key path ih =>
    obtain ⟨hkey, hpath⟩ := List.forall_mem_cons.1 hunder
    exact hkey _ (ih hpath)

theorem wellFormed_under (key : String) {inner : Style} (h : inner.value.wellFormed) :
    (under key inner).value.wellFormed :=
  Json.fieldsWellFormed_put rfl h

theorem wellFormed_within {style : Style} (h : style.value.wellFormed) (path : List String) :
    (style.within path).value.wellFormed := by
  apply within_keeps (P := fun style => style.value.wellFormed) _ h
  exact fun key _ inner hi => wellFormed_under key hi

/-- New keys come in one after the other, whichever two of the three are merged first. -/
theorem removeAll_append_removeAll (a b c : List String) :
    a ++ (b ++ c.removeAll b).removeAll a =
      a ++ b.removeAll a ++ c.removeAll (a ++ b.removeAll a) := by
  have hnew : (c.removeAll b).removeAll a = c.removeAll (a ++ b.removeAll a) := by
    unfold List.removeAll
    rw [List.filter_filter]
    apply List.filter_congr
    intro key _
    by_cases ha : key ∈ a <;> by_cases hb : key ∈ b <;> simp [ha, hb]
  rw [List.append_assoc, ← hnew]
  unfold List.removeAll
  rw [List.filter_append]

theorem mergeValue_assoc {first second third : Json} (hf : first.wellFormed)
    (hs : second.wellFormed) (ht : third.wellFormed) (h : first.Agree second) :
    mergeValue (some first) (mergeValue (some second) third) =
      mergeValue (some (mergeValue (some first) second)) third := by
  induction third using Json.memberInduction generalizing first second with
  | leaf third hleaf =>
    rw [mergeValue_of_leaf hleaf, mergeValue_of_leaf hleaf, mergeValue_of_leaf hleaf]
  | object c ih =>
    have hkind : first.isObject = second.isObject := h [] first second rfl rfl
    cases hobject : second.isObject with
    | false =>
      -- a value replaces whatever is there, and is replaced itself
      rw [hobject] at hkind
      rw [mergeValue_some_of_leaf hobject, mergeValue_some_of_leaf hkind,
        mergeValue_of_leaf hobject, mergeValue_some_of_leaf hobject]
    | true =>
      obtain ⟨b, rfl⟩ := Json.eq_object_of_isObject hobject
      obtain ⟨a, rfl⟩ := Json.eq_object_of_isObject (hkind.trans hobject)
      have hbc : Json.fieldsWellFormed (mergeFields b c) :=
        @wellFormed_mergeValue (.object c) ht (some (.object b)) (by simpa using hs)
      have habc : Json.fieldsWellFormed (mergeFields a (mergeFields b c)) :=
        @wellFormed_mergeValue (.object (mergeFields b c)) hbc (some (.object a))
          (by simpa using hf)
      change Json.object (mergeFields a (mergeFields b c)) =
        .object (mergeFields (mergeFields a b) c)
      congr 1
      apply Entries.ext_of_keys_eq _ (Json.nodup_keys habc)
      · intro key
        rw [get?_mergeFields hbc, get?_mergeFields ht, get?_mergeFields ht, get?_mergeFields hs]
        cases hc : Entries.get? key c with
        | none => cases Entries.get? key b <;> simp
        | some z =>
          cases hb : Entries.get? key b with
          | none => simp [mergeValue_none]
          | some y =>
            cases ha : Entries.get? key a with
            | none => simp [mergeValue_none]
            | some x =>
              have hxyz := ih (key, z) (Entries.mem_of_get?_eq_some hc)
                (Json.wellFormed_of_get? hf ha) (Json.wellFormed_of_get? hs hb)
                (Json.wellFormed_of_get? ht hc) (h.member ha hb)
              simp [hxyz]
      · rw [keys_mergeFields hbc, keys_mergeFields ht, keys_mergeFields ht, keys_mergeFields hs]
        exact removeAll_append_removeAll _ _ _

theorem merge_assoc {first second third : Style} (hf : first.value.wellFormed)
    (hs : second.value.wellFormed) (ht : third.value.wellFormed)
    (h : first.value.Agree second.value) :
    first.merge (second.merge third) = (first.merge second).merge third :=
  congrArg mk (Json.object.inj (mergeValue_assoc hf hs ht h))

theorem merge_under (key : String) (first second : Style) :
    (under key first).merge (under key second) = under key (first.merge second) := by
  simp [merge, under, putNested, put, empty, value, Entries.put, Entries.get?, mergeFields,
    mergeMember]

theorem merge_within (path : List String) (first second : Style) :
    (first.within path).merge (second.within path) = (first.merge second).within path := by
  induction path with
  | nil => rfl
  | cons key path ih => rw [within_cons, within_cons, merge_under, ih, within_cons]

theorem nodup_keys_within {style : Style} (h : style.keys.Nodup) (path : List String) :
    (style.within path).keys.Nodup := by
  cases path with
  | nil => exact h
  | cons key path => exact List.pairwise_singleton _ key

theorem merge_one (style : Style) (key text : String) :
    style.merge (one key text) = style.putText key text := rfl

theorem mergeFields_of_disjoint {fields more : Fields} (hnodup : (Entries.keys more).Nodup)
    (h : ∀ key ∈ Entries.keys more, key ∉ Entries.keys fields) :
    mergeFields fields more = fields ++ more := by
  induction more generalizing fields with
  | nil => simp [mergeFields]
  | cons entry rest ih =>
    obtain ⟨hnew, hnodup⟩ := List.nodup_cons.1 hnodup
    obtain ⟨hentry, hrest⟩ := List.forall_mem_cons.1 h
    rw [mergeFields_cons, Entries.get?_eq_none_iff.2 hentry, mergeValue_none,
      Entries.put_of_not_mem hentry, ih hnodup, List.append_assoc, List.singleton_append]
    intro key hk
    have hne : key ≠ entry.1 := fun e => hnew (e ▸ hk)
    simpa [Entries.keys, hne] using hrest key hk

theorem empty_merge {style : Style} (h : style.keys.Nodup) : empty.merge style = style :=
  congrArg mk (@mergeFields_of_disjoint [] style.fields h (by simp [Entries.keys]))

theorem mergeAll_map_under (key : String) {first : Style} (h : first.keys.Nodup)
    (rest : List Style) :
    mergeAll ((first :: rest).map (under key)) = under key (mergeAll (first :: rest)) := by
  have hfold : ∀ start : Style,
      (rest.map (under key)).foldl merge (under key start) =
        under key (rest.foldl merge start) := by
    induction rest with
    | nil => exact fun start => rfl
    | cons style rest ih =>
      intro start
      rw [List.map_cons, List.foldl_cons, List.foldl_cons, merge_under, ih]
  have hunder : (under key first).keys.Nodup := List.pairwise_singleton _ key
  unfold mergeAll
  rw [List.map_cons, List.foldl_cons, List.foldl_cons, empty_merge hunder, empty_merge h, hfold]

end Style

end UtilityStyle
