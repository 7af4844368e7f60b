import UtilityStyle.Json.Printer

/-!
Styles: properties with values, and nested styles under selectors and media queries. Merging follows
the cascade. A later value replaces an earlier one in its place, and two nested styles under one key
are merged.
-/

namespace UtilityStyle

structure Style where
  fields : Fields
  deriving DecidableEq, Inhabited

namespace Style

def empty : Style := ⟨[]⟩

def ofFields (fields : Fields) : Style := ⟨Entries.putAll [] fields⟩

def value (style : Style) : Json := .object style.fields

def text (style : Style) : String := style.value.text

def get? (style : Style) (key : String) : Option Json := Entries.get? key style.fields

def nested? (style : Style) (key : String) : Option Style :=
  (style.get? key).bind fun value => value.fields?.map Style.mk

def has (style : Style) (key : String) : Bool := Entries.has key style.fields

def keys (style : Style) : List String := Entries.keys style.fields

def put (style : Style) (key : String) (value : Json) : Style :=
  ⟨Entries.put key value style.fields⟩

def putText (style : Style) (key text : String) : Style := style.put key (.string text)

def putNested (style : Style) (key : String) (inner : Style) : Style := style.put key inner.value

def one (key text : String) : Style := empty.putText key text

def under (key : String) (inner : Style) : Style := empty.putNested key inner

mutual

def mergeFields (fields : Fields) : Fields → Fields
  | [] => fields
  | (key, value) :: rest => mergeFields (mergeMember fields key value) rest

def mergeMember (fields : Fields) (key : String) : Json → Fields
  | .object more =>
    match Entries.get? key fields with
    | some (.object old) => Entries.put key (.object (mergeFields old more)) fields
    | _ => Entries.put key (.object more) fields
  | value => Entries.put key value fields

end

def merge (style more : Style) : Style := ⟨mergeFields style.fields more.fields⟩

def mergeAll (styles : List Style) : Style := styles.foldl merge empty

/-- Puts the style under a path of keys, the outermost first. -/
def within (path : List String) (style : Style) : Style := path.foldr under style

mutual

def mapValue (f : Json → Json) : Json → Json
  | .object fields => .object (mapMembers f fields)
  | leaf => f leaf

def mapMembers (f : Json → Json) : List (String × Json) → Fields
  | [] => []
  | (key, value) :: rest => (key, mapValue f value) :: mapMembers f rest

end

def mapValues (f : Json → Json) (style : Style) : Style := ⟨mapMembers f style.fields⟩

def importantMark : String := " !important"

def markValue : Json → Json
  | .string text => .string (text ++ importantMark)
  | leaf => .string (leaf.text ++ importantMark)

def markImportant (style : Style) : Style := style.mapValues markValue

@[simp] theorem get?_put_self (key : String) (value : Json) (style : Style) :
    (style.put key value).get? key = some value := by
  simp [get?, put]

@[simp] theorem get?_put_of_ne {key other : String} (h : other ≠ key) (value : Json)
    (style : Style) : (style.put key value).get? other = style.get? other := by
  simp [get?, put, h]

@[simp] theorem merge_empty (style : Style) : style.merge empty = style := by
  simp [merge, empty, mergeFields]

@[simp] theorem within_nil (style : Style) : style.within [] = style := rfl

@[simp] theorem within_cons (key : String) (path : List String) (style : Style) :
    style.within (key :: path) = under key (style.within path) := rfl

theorem mapMembers_eq_map (f : Json → Json) (fields : Fields) :
    mapMembers f fields = fields.map fun (key, value) => (key, mapValue f value) := by
  induction fields with
  | nil => rfl
  | cons entry rest ih => simp [mapMembers, ih]

@[simp] theorem keys_mapValues (f : Json → Json) (style : Style) :
    (style.mapValues f).keys = style.keys := by
  simp [keys, mapValues, mapMembers_eq_map, Entries.keys, Function.comp_def]

@[simp] theorem keys_markImportant (style : Style) : style.markImportant.keys = style.keys :=
  keys_mapValues markValue style

end Style

end UtilityStyle
