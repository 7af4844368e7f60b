import Mathlib.Data.Set.Function
import UtilityStyle.Proofs.Style.Scope

namespace UtilityStyle

namespace Entries

variable {α β : Type} {f : String → String} {key : String} {entries : Entries α}

theorem get?_map (hf : ∀ other ∈ keys entries, f other = f key → other = key) (g : α → β) :
    get? (f key) (entries.map (Prod.map f g)) = (get? key entries).map g := by
  induction entries with
  | nil => rfl
  | cons entry rest ih =>
    obtain ⟨hentry, hrest⟩ := List.forall_mem_cons.1 hf
    by_cases hk : entry.1 = key
    · simp [get?, hk]
    · simpa [get?, hk, mt hentry hk] using ih hrest

theorem map_put (hf : ∀ other ∈ keys entries, f other = f key → other = key) (g : α → β)
    (value : α) :
    (put key value entries).map (Prod.map f g) =
      put (f key) (g value) (entries.map (Prod.map f g)) := by
  induction entries with
  | nil => rfl
  | cons entry rest ih =>
    obtain ⟨hentry, hrest⟩ := List.forall_mem_cons.1 hf
    by_cases hk : entry.1 = key
    · simp [put, hk]
    · simp [put, hk, mt hentry hk, ih hrest, Prod.map]

end Entries

namespace Json

mutual

def keysAmong (p : String → Prop) [DecidablePred p] : Json → Bool
  | .object fields => fieldsKeysAmong p fields
  | .null | .bool _ | .number _ | .string _ | .array _ => true

def fieldsKeysAmong (p : String → Prop) [DecidablePred p] : List (String × Json) → Bool
  | [] => true
  | (key, value) :: rest => p key && keysAmong p value && fieldsKeysAmong p rest

end

mutual

def renameKeys (f : String → String) : Json → Json
  | .object fields => .object (renameFields f fields)
  | leaf => leaf

def renameFields (f : String → String) : List (String × Json) → Fields
  | [] => []
  | (key, value) :: rest => (f key, renameKeys f value) :: renameFields f rest

end

theorem renameFields_eq_map (f : String → String) (fields : Fields) :
    renameFields f fields = fields.map (Prod.map f (renameKeys f)) := by
  induction fields with
  | nil => rfl
  | cons entry rest ih => rw [renameFields, ih]; rfl

theorem renameKeys_of_leaf {value : Json} (h : value.isObject = false) (f : String → String) :
    renameKeys f value = value := by
  cases value with
  | object fields => cases h
  | _ => rfl

variable {p q : String → Prop} [DecidablePred p] [DecidablePred q]

theorem keysAmong_of_leaf {value : Json} (h : value.isObject = false) : value.keysAmong p := by
  cases value with
  | object fields => cases h
  | _ => rfl

theorem fieldsKeysAmong_iff {fields : Fields} :
    fieldsKeysAmong p fields ↔ ∀ entry ∈ fields, p entry.1 ∧ entry.2.keysAmong p := by
  induction fields with
  | nil => simp [fieldsKeysAmong]
  | cons entry rest ih =>
    simp only [fieldsKeysAmong, Bool.and_eq_true, decide_eq_true_eq, List.forall_mem_cons]
    rw [ih]

theorem mem_of_fieldsKeysAmong {fields : Fields} (h : fieldsKeysAmong p fields) :
    ∀ key ∈ Entries.keys fields, p key :=
  List.forall_mem_map.2 fun entry he => (fieldsKeysAmong_iff.1 h entry he).1

theorem fieldsKeysAmong_put {key : String} {value : Json} {fields : Fields}
    (h : fieldsKeysAmong p fields) (hk : p key) (hv : value.keysAmong p) :
    fieldsKeysAmong p (Entries.put key value fields) := by
  rw [fieldsKeysAmong_iff] at h ⊢
  intro entry he
  rcases Entries.mem_of_mem_put he with rfl | he
  · exact ⟨hk, hv⟩
  · exact h entry he

theorem keysAmong_mergeValue {value : Json} (hv : value.keysAmong p) {old? : Option Json}
    (ho : ∀ old ∈ old?, old.keysAmong p) : (Style.mergeValue old? value).keysAmong p := by
  apply Style.mergeValue_keeps (P := fun value => value.keysAmong p) _ _ hv ho
  · exact fun fields hf entry he => (fieldsKeysAmong_iff.1 hf entry he).2
  · intro fields more hf hm entry he value hvalue _
    exact fieldsKeysAmong_put hf (fieldsKeysAmong_iff.1 hm entry he).1 hvalue

theorem keysAmong_mono (hpq : ∀ key, p key → q key) {value : Json} (h : value.keysAmong p) :
    value.keysAmong q := by
  induction value using memberInduction with
  | leaf value hleaf => exact keysAmong_of_leaf hleaf
  | object fields ih =>
    have hfields := fieldsKeysAmong_iff.1 h
    exact fieldsKeysAmong_iff.2 fun entry he =>
      ⟨hpq _ (hfields entry he).1, ih entry he (hfields entry he).2⟩

theorem keysAmong_mapValue_markValue {value : Json} (h : value.keysAmong p) :
    (Style.mapValue Style.markValue value).keysAmong p := by
  induction value using memberInduction with
  | leaf value hleaf =>
    rw [mapValue_of_leaf hleaf]
    exact keysAmong_of_leaf (Style.markValue_isObject value)
  | object fields ih =>
    change fieldsKeysAmong p (Style.mapMembers _ fields)
    rw [fieldsKeysAmong_iff, Style.mapMembers_eq_map, List.forall_mem_map]
    intro entry he
    obtain ⟨hkey, hmember⟩ := fieldsKeysAmong_iff.1 h entry he
    exact ⟨hkey, ih entry he hmember⟩

variable {f : String → String}

theorem renameKeys_eq_self (hf : ∀ key, p key → f key = key) {value : Json}
    (h : value.keysAmong p) : value.renameKeys f = value := by
  induction value using memberInduction with
  | leaf value hleaf => exact renameKeys_of_leaf hleaf f
  | object fields ih =>
    have hfields := fieldsKeysAmong_iff.1 h
    have hmap : fields.map (Prod.map f (renameKeys f)) = fields.map id := by
      apply List.map_congr_left
      intro entry he
      exact Prod.ext (hf _ (hfields entry he).1) (ih entry he (hfields entry he).2)
    rw [renameKeys, renameFields_eq_map, hmap, List.map_id]

theorem get?_renameFields (hf : Set.InjOn f {key | p key}) {key : String} {fields : Fields}
    (hk : p key) (h : fieldsKeysAmong p fields) :
    Entries.get? (f key) (renameFields f fields) =
      (Entries.get? key fields).map (renameKeys f) := by
  rw [renameFields_eq_map]
  exact Entries.get?_map (fun other ho he => hf (mem_of_fieldsKeysAmong h other ho) hk he) _

theorem renameFields_put (hf : Set.InjOn f {key | p key}) {key : String} {fields : Fields}
    (hk : p key) (h : fieldsKeysAmong p fields) (value : Json) :
    renameFields f (Entries.put key value fields) =
      Entries.put (f key) (value.renameKeys f) (renameFields f fields) := by
  rw [renameFields_eq_map, renameFields_eq_map]
  exact Entries.map_put (fun other ho he => hf (mem_of_fieldsKeysAmong h other ho) hk he) _ value

/-- Renaming goes through a merge if it goes through the merge of every member. -/
theorem renameFields_mergeFields (hf : Set.InjOn f {key | p key}) {fields more : Fields}
    (h : fieldsKeysAmong p fields) (hm : fieldsKeysAmong p more)
    (hmember : ∀ entry ∈ more, ∀ old? : Option Json, (∀ old ∈ old?, old.keysAmong p) →
      (Style.mergeValue old? entry.2).renameKeys f =
        Style.mergeValue (old?.map (renameKeys f)) (entry.2.renameKeys f)) :
    renameFields f (Style.mergeFields fields more) =
      Style.mergeFields (renameFields f fields) (renameFields f more) := by
  induction more generalizing fields with
  | nil => rfl
  | cons entry rest ih =>
    obtain ⟨key, value⟩ := entry
    obtain ⟨⟨hkey, hvalue⟩, hrest⟩ := List.forall_mem_cons.1 (fieldsKeysAmong_iff.1 hm)
    obtain ⟨hentry, hmember⟩ := List.forall_mem_cons.1 hmember
    have hold : ∀ old ∈ Entries.get? key fields, old.keysAmong p := fun old ho =>
      (fieldsKeysAmong_iff.1 h _ (Entries.mem_of_get?_eq_some ho)).2
    have hput := fieldsKeysAmong_put h hkey (keysAmong_mergeValue hvalue hold)
    rw [Style.mergeFields_cons, ih hput (fieldsKeysAmong_iff.2 hrest) hmember,
      renameFields_put hf hkey h, hentry _ hold, renameFields, Style.mergeFields_cons,
      get?_renameFields hf hkey h]

theorem renameKeys_mergeValue (hf : Set.InjOn f {key | p key}) {value : Json}
    (hv : value.keysAmong p) {old? : Option Json} (ho : ∀ old ∈ old?, old.keysAmong p) :
    (Style.mergeValue old? value).renameKeys f =
      Style.mergeValue (old?.map (renameKeys f)) (value.renameKeys f) := by
  induction value using memberInduction generalizing old? with
  | leaf value hleaf =>
    rw [Style.mergeValue_of_leaf hleaf, renameKeys_of_leaf hleaf, Style.mergeValue_of_leaf hleaf]
  | object more ih =>
    cases old? with
    | none => rw [Option.map_none, Style.mergeValue_none, Style.mergeValue_none]
    | some old =>
      cases hobject : old.isObject with
      | false =>
        rw [Option.map_some, renameKeys_of_leaf hobject, Style.mergeValue_some_of_leaf hobject,
          Style.mergeValue_some_of_leaf hobject]
      | true =>
        obtain ⟨fields, rfl⟩ := eq_object_of_isObject hobject
        apply congrArg object
        apply renameFields_mergeFields hf (ho _ rfl) hv
        intro entry he old? hold
        exact ih entry he (fieldsKeysAmong_iff.1 hv entry he).2 hold

end Json

namespace Style

def renameKeys (f : String → String) (style : Style) : Style :=
  ⟨Json.renameFields f style.fields⟩

def KeysAmong (p : String → Prop) [DecidablePred p] (style : Style) : Prop :=
  style.value.keysAmong p

instance (p : String → Prop) [DecidablePred p] (style : Style) : Decidable (style.KeysAmong p) :=
  inferInstanceAs (Decidable (style.value.keysAmong p = true))

variable {f : String → String} {p q : String → Prop} [DecidablePred p] [DecidablePred q]
  {key : String} {style more : Style}

theorem keysAmong_empty : empty.KeysAmong p := rfl

theorem KeysAmong.put {value : Json} (h : style.KeysAmong p) (hk : p key)
    (hv : value.keysAmong p) : (style.put key value).KeysAmong p :=
  Json.fieldsKeysAmong_put h hk hv

theorem KeysAmong.under (h : style.KeysAmong p) (hk : p key) : (under key style).KeysAmong p :=
  keysAmong_empty.put hk h

theorem KeysAmong.within {path : List String} (h : style.KeysAmong p)
    (hp : ∀ key ∈ path, p key) : (style.within path).KeysAmong p :=
  within_keeps (fun key hk _ hi => hi.under (hp key hk)) h

theorem KeysAmong.merge (hs : style.KeysAmong p) (hm : more.KeysAmong p) :
    (style.merge more).KeysAmong p := by
  apply @Json.keysAmong_mergeValue p _ more.value hm (some style.value)
  rintro _ ⟨⟩
  exact hs

theorem keysAmong_mergeAll {styles : List Style} (h : ∀ style ∈ styles, style.KeysAmong p) :
    (mergeAll styles).KeysAmong p :=
  mergeAll_keeps keysAmong_empty (fun hs hm => hs.merge hm) h

theorem KeysAmong.markImportant (h : style.KeysAmong p) : style.markImportant.KeysAmong p :=
  Json.keysAmong_mapValue_markValue h

theorem KeysAmong.mono (h : style.KeysAmong p) (hpq : ∀ key, p key → q key) :
    style.KeysAmong q :=
  Json.keysAmong_mono hpq h

theorem renameKeys_eq_self (hf : ∀ key, p key → f key = key) (h : style.KeysAmong p) :
    style.renameKeys f = style :=
  congrArg mk (Json.object.inj (Json.renameKeys_eq_self hf h))

theorem renameKeys_within (f : String → String) (path : List String) (style : Style) :
    (style.within path).renameKeys f = (style.renameKeys f).within (path.map f) := by
  induction path with
  | nil => rfl
  | cons key path ih =>
    rw [within_cons, List.map_cons, within_cons, ← ih]
    rfl

theorem renameKeys_merge (hf : Set.InjOn f {key | p key}) (hs : style.KeysAmong p)
    (hm : more.KeysAmong p) :
    (style.merge more).renameKeys f = (style.renameKeys f).merge (more.renameKeys f) := by
  apply congrArg mk
  apply Json.object.inj
  apply @Json.renameKeys_mergeValue p _ f hf more.value hm (some style.value)
  rintro _ ⟨⟩
  exact hs

theorem renameKeys_mergeAll (hf : Set.InjOn f {key | p key}) {styles : List Style}
    (h : ∀ style ∈ styles, style.KeysAmong p) :
    (mergeAll styles).renameKeys f = mergeAll (styles.map (renameKeys f)) := by
  induction styles using List.reverseRecOn with
  | nil => rfl
  | append_singleton init last ih =>
    obtain ⟨hinit, hlast⟩ := List.forall_mem_append.1 h
    rw [mergeAll_append_singleton, renameKeys_merge hf (keysAmong_mergeAll hinit)
      (hlast last (List.mem_singleton_self last)), ih hinit, List.map_append, List.map_singleton,
      mergeAll_append_singleton]

end Style

end UtilityStyle
