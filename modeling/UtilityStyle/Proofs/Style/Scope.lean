import UtilityStyle.Proofs.Style.Algebra
import UtilityStyle.Proofs.Style.Declaration

/-!
Scopes and properties. A selector or a media query has a nested style, and any other key a value.
Styles that keep to this agree on every path, so a merge of many of them can be cut anywhere.
-/

namespace UtilityStyle

def isScope (key : String) : Bool :=
  key.toList.head?.any fun c => [':', '@', '>', '.', '&'].contains c

namespace Json

mutual

/-- Scopes have objects in the value, and properties anything else. -/
def wellScoped : Json → Bool
  | .object fields => fieldsWellScoped fields
  | .null | .bool _ | .number _ | .string _ | .array _ => true

def fieldsWellScoped : List (String × Json) → Bool
  | [] => true
  | (key, value) :: rest =>
    (isScope key == value.isObject) && wellScoped value && fieldsWellScoped rest

end

theorem wellScoped_of_leaf {value : Json} (h : value.isObject = false) : value.wellScoped := by
  cases value with
  | object fields => cases h
  | _ => rfl

theorem fieldsWellScoped_iff {fields : Fields} :
    fieldsWellScoped fields ↔
      ∀ entry ∈ fields, isScope entry.1 = entry.2.isObject ∧ entry.2.wellScoped := by
  induction fields with
  | nil => simp [fieldsWellScoped]
  | cons entry rest ih =>
    simp only [fieldsWellScoped, Bool.and_eq_true, beq_iff_eq, List.forall_mem_cons]
    rw [ih]

theorem fieldsWellScoped_put {key : String} {value : Json} {fields : Fields}
    (h : fieldsWellScoped fields) (hk : isScope key = value.isObject) (hv : value.wellScoped) :
    fieldsWellScoped (Entries.put key value fields) := by
  rw [fieldsWellScoped_iff] at h ⊢
  intro entry he
  rcases Entries.mem_of_mem_put he with rfl | he
  · exact ⟨hk, hv⟩
  · exact h entry he

theorem wellScoped_mergeValue {value : Json} (hv : value.wellScoped) {old? : Option Json}
    (ho : ∀ old ∈ old?, old.wellScoped) : (Style.mergeValue old? value).wellScoped := by
  apply Style.mergeValue_keeps (P := fun value => value.wellScoped) _ _ hv ho
  · exact fun fields hf entry he => (fieldsWellScoped_iff.1 hf entry he).2
  · intro fields more hf hm entry he value hvalue hkind
    have hentry := (fieldsWellScoped_iff.1 hm entry he).1
    exact fieldsWellScoped_put hf (hentry.trans hkind.symm) hvalue

theorem wellScoped_of_member? {key : String} {value member : Json} (h : value.wellScoped)
    (hm : value.member? key = some member) :
    isScope key = member.isObject ∧ member.wellScoped := by
  cases value with
  | object fields => exact fieldsWellScoped_iff.1 h (key, member) (Entries.mem_of_get?_eq_some hm)
  | _ => cases hm

theorem agree_of_wellScoped {a b : Json} (hkind : a.isObject = b.isObject) (ha : a.wellScoped)
    (hb : b.wellScoped) : Agree a b := by
  intro path
  induction path generalizing a b with
  | nil =>
    rintro x y ⟨⟩ ⟨⟩
    exact hkind
  | cons key path ih =>
    intro x y hx hy
    obtain ⟨u, hu, hx⟩ := Option.bind_eq_some_iff.1 hx
    obtain ⟨v, hv, hy⟩ := Option.bind_eq_some_iff.1 hy
    obtain ⟨hukind, hu⟩ := wellScoped_of_member? ha hu
    obtain ⟨hvkind, hv⟩ := wellScoped_of_member? hb hv
    exact ih (hukind.symm.trans hvkind) hu hv x y hx hy

theorem mapValue_of_leaf {f : Json → Json} {value : Json} (h : value.isObject = false) :
    Style.mapValue f value = f value := by
  cases value with
  | object fields => cases h
  | _ => rfl

theorem isObject_mapValue_markValue (value : Json) :
    (Style.mapValue Style.markValue value).isObject = value.isObject := by
  cases h : value.isObject with
  | false => rw [mapValue_of_leaf h, Style.markValue_isObject]
  | true =>
    obtain ⟨fields, rfl⟩ := eq_object_of_isObject h
    rfl

theorem wellFormed_markValue (value : Json) : (Style.markValue value).wellFormed := by
  cases value <;> rfl

theorem wellFormed_mapValue_markValue {value : Json} (h : value.wellFormed) :
    (Style.mapValue Style.markValue value).wellFormed := by
  induction value using memberInduction with
  | leaf value hleaf =>
    rw [mapValue_of_leaf hleaf]
    exact wellFormed_markValue value
  | object fields ih =>
    obtain ⟨hnodup, hfields⟩ := fieldsWellFormed_iff.1 h
    change fieldsWellFormed (Style.mapMembers _ fields)
    rw [fieldsWellFormed_iff, Style.mapMembers_eq_map]
    constructor
    · simpa [Entries.keys, Function.comp_def] using hnodup
    · rw [List.forall_mem_map]
      exact fun entry he => ih entry he (hfields entry he)

theorem wellScoped_mapValue_markValue {value : Json} (h : value.wellScoped) :
    (Style.mapValue Style.markValue value).wellScoped := by
  induction value using memberInduction with
  | leaf value hleaf =>
    rw [mapValue_of_leaf hleaf]
    exact wellScoped_of_leaf (Style.markValue_isObject value)
  | object fields ih =>
    change fieldsWellScoped (Style.mapMembers _ fields)
    rw [fieldsWellScoped_iff, Style.mapMembers_eq_map, List.forall_mem_map]
    intro entry he
    obtain ⟨hkind, hmember⟩ := fieldsWellScoped_iff.1 h entry he
    exact ⟨hkind.trans (isObject_mapValue_markValue entry.2).symm, ih entry he hmember⟩

end Json

namespace Style

/-- No key is there twice, scopes have nested styles, and properties have values. -/
structure Scoped (style : Style) : Prop where
  wellFormed : style.value.wellFormed
  wellScoped : style.value.wellScoped

instance (style : Style) : Decidable style.Scoped :=
  decidable_of_iff (style.value.wellFormed ∧ style.value.wellScoped)
    ⟨fun h => ⟨h.1, h.2⟩, fun h => ⟨h.wellFormed, h.wellScoped⟩⟩

variable {key text : String} {value : Json} {style more : Style}

theorem scoped_empty : empty.Scoped := ⟨rfl, rfl⟩

theorem Scoped.put (hs : style.Scoped) (hk : isScope key = value.isObject)
    (hf : value.wellFormed) (hv : value.wellScoped) : (style.put key value).Scoped :=
  ⟨Json.fieldsWellFormed_put hs.wellFormed hf, Json.fieldsWellScoped_put hs.wellScoped hk hv⟩

theorem Scoped.putText (hs : style.Scoped) (hk : isScope key = false) (text : String) :
    (style.putText key text).Scoped :=
  hs.put hk rfl rfl

theorem Scoped.under (hs : style.Scoped) (hk : isScope key = true) : (under key style).Scoped :=
  scoped_empty.put hk hs.wellFormed hs.wellScoped

theorem Scoped.within {path : List String} (hs : style.Scoped)
    (hp : ∀ key ∈ path, isScope key = true) : (style.within path).Scoped :=
  within_keeps (fun key hk _ hi => hi.under (hp key hk)) hs

theorem Scoped.merge (hs : style.Scoped) (hm : more.Scoped) : (style.merge more).Scoped := by
  constructor
  · exact wellFormed_merge hs.wellFormed hm.wellFormed
  · exact @Json.wellScoped_mergeValue more.value hm.wellScoped (some style.value)
      (by simpa using hs.wellScoped)

theorem scoped_mergeAll {styles : List Style} (h : ∀ style ∈ styles, style.Scoped) :
    (mergeAll styles).Scoped :=
  mergeAll_keeps scoped_empty (fun hf hs => hf.merge hs) h

theorem Scoped.markImportant (hs : style.Scoped) : style.markImportant.Scoped :=
  ⟨Json.wellFormed_mapValue_markValue hs.wellFormed,
    Json.wellScoped_mapValue_markValue hs.wellScoped⟩

theorem agree_of_scoped (hs : style.Scoped) (hm : more.Scoped) : style.value.Agree more.value :=
  Json.agree_of_wellScoped rfl hs.wellScoped hm.wellScoped

theorem mergeAll_append {earlier later : List Style} (he : ∀ style ∈ earlier, style.Scoped)
    (hl : ∀ style ∈ later, style.Scoped) :
    mergeAll (earlier ++ later) = (mergeAll earlier).merge (mergeAll later) := by
  induction later using List.reverseRecOn with
  | nil => rw [List.append_nil]; exact (merge_empty _).symm
  | append_singleton init last ih =>
    have hinit : ∀ style ∈ init, style.Scoped :=
      fun style hs => hl style (List.mem_append_left _ hs)
    have hlast : last.Scoped := hl last (by simp)
    have hfirst := scoped_mergeAll he
    have hsecond := scoped_mergeAll hinit
    calc
      mergeAll (earlier ++ (init ++ [last]))
        = (mergeAll (earlier ++ init)).merge last := by
          rw [← List.append_assoc, mergeAll_append_singleton]
      _ = ((mergeAll earlier).merge (mergeAll init)).merge last := by rw [ih hinit]
      _ = (mergeAll earlier).merge ((mergeAll init).merge last) :=
          (merge_assoc hfirst.wellFormed hsecond.wellFormed hlast.wellFormed
            (agree_of_scoped hfirst hsecond)).symm
      _ = (mergeAll earlier).merge (mergeAll (init ++ [last])) := by
          rw [mergeAll_append_singleton]

end Style

end UtilityStyle
