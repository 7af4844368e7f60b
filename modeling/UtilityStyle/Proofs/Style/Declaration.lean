import UtilityStyle.Style

namespace UtilityStyle

structure Declaration where
  path : List String
  property : String
  value : Json
  deriving DecidableEq

def isVariable (property : String) : Bool := "--".toList.isPrefixOf property.toList

namespace Declaration

def within (key : String) (d : Declaration) : Declaration := { d with path := key :: d.path }

def marked (d : Declaration) : Declaration := { d with value := Style.markValue d.value }

def markedWhere (marks : String → Bool) (d : Declaration) : Declaration :=
  if marks d.property then d.marked else d

@[simp] theorem property_within (key : String) (d : Declaration) :
    (d.within key).property = d.property := rfl

theorem markedWhere_within (marks : String → Bool) (key : String) (d : Declaration) :
    (d.within key).markedWhere marks = (d.markedWhere marks).within key := by
  unfold markedWhere
  rw [property_within]
  split <;> rfl

theorem marked_ne_self (d : Declaration) : d.marked ≠ d := by
  intro h
  have hvalue : Style.markValue d.value = d.value := congrArg value h
  cases hd : d.value with
  | string text =>
    rw [hd] at hvalue
    injection hvalue with htext
    have hlength := congrArg String.length htext
    rw [String.length_append] at hlength
    have hmark : 0 < Style.importantMark.length := by decide
    omega
  | _ => rw [hd] at hvalue; cases hvalue

theorem markedWhere_eq_marked_iff {marks : String → Bool} {d : Declaration} :
    d.markedWhere marks = d.marked ↔ marks d.property = true := by
  unfold markedWhere
  split
  · rename_i h
    exact iff_of_true rfl h
  · rename_i h
    exact iff_of_false (Ne.symm d.marked_ne_self) h

end Declaration

namespace Style

mutual

def declarationsOf (key : String) : Json → List Declaration
  | .object fields => (declarationsIn fields).map (.within key)
  | leaf => [⟨[], key, leaf⟩]

def declarationsIn : List (String × Json) → List Declaration
  | [] => []
  | (key, value) :: rest => declarationsOf key value ++ declarationsIn rest

end

def declarations (style : Style) : List Declaration := declarationsIn style.fields

mutual

def pathsOf (key : String) : Json → List (List String)
  | .object fields => [key] :: (pathsIn fields).map (key :: ·)
  | _ => [[key]]

def pathsIn : List (String × Json) → List (List String)
  | [] => []
  | (key, value) :: rest => pathsOf key value ++ pathsIn rest

end

def paths (style : Style) : List (List String) := pathsIn style.fields

mutual

def markValueWhere (marks : String → Bool) (key : String) : Json → Json
  | .object fields => .object (markFieldsWhere marks fields)
  | leaf => if marks key then markValue leaf else leaf

def markFieldsWhere (marks : String → Bool) : List (String × Json) → Fields
  | [] => []
  | (key, value) :: rest => (key, markValueWhere marks key value) :: markFieldsWhere marks rest

end

def markWhere (marks : String → Bool) (style : Style) : Style :=
  ⟨markFieldsWhere marks style.fields⟩

def markProperties (style : Style) : Style := style.markWhere (!isVariable ·)

theorem markValue_isObject (value : Json) : (markValue value).isObject = false := by
  cases value <;> rfl

variable {marks : String → Bool}

theorem markValueWhere_of_leaf {value : Json} (h : value.isObject = false) (key : String) :
    markValueWhere marks key value = if marks key then markValue value else value := by
  cases value with
  | object fields => cases h
  | _ => rfl

theorem declarationsOf_of_leaf {value : Json} (h : value.isObject = false) (key : String) :
    declarationsOf key value = [⟨[], key, value⟩] := by
  cases value with
  | object fields => cases h
  | _ => rfl

theorem pathsOf_of_leaf {value : Json} (h : value.isObject = false) (key : String) :
    pathsOf key value = [[key]] := by
  cases value with
  | object fields => cases h
  | _ => rfl

theorem isObject_markValueWhere (key : String) {value : Json} (h : value.isObject = false) :
    (markValueWhere marks key value).isObject = false := by
  rw [markValueWhere_of_leaf h]
  split
  · exact markValue_isObject value
  · exact h

mutual

theorem declarationsOf_markValueWhere (key : String) : (value : Json) →
    declarationsOf key (markValueWhere marks key value) =
      (declarationsOf key value).map (.markedWhere marks)
  | .object fields => by
    have hin := declarationsIn_markFieldsWhere fields
    simp only [markValueWhere, declarationsOf, hin, List.map_map]
    apply List.map_congr_left
    intro d _
    exact (Declaration.markedWhere_within marks key d).symm
  | .null | .bool _ | .number _ | .string _ | .array _ => by
    rw [declarationsOf_of_leaf (isObject_markValueWhere key rfl), declarationsOf_of_leaf rfl,
      markValueWhere_of_leaf rfl, List.map_singleton]
    unfold Declaration.markedWhere
    split <;> rfl

theorem declarationsIn_markFieldsWhere : (fields : List (String × Json)) →
    declarationsIn (markFieldsWhere marks fields) =
      (declarationsIn fields).map (.markedWhere marks)
  | [] => rfl
  | (key, value) :: rest => by
    rw [markFieldsWhere, declarationsIn, declarationsIn, List.map_append,
      declarationsOf_markValueWhere key value, declarationsIn_markFieldsWhere rest]

end

mutual

theorem pathsOf_markValueWhere (key : String) : (value : Json) →
    pathsOf key (markValueWhere marks key value) = pathsOf key value
  | .object fields => by
    simp only [markValueWhere, pathsOf, pathsIn_markFieldsWhere fields]
  | .null | .bool _ | .number _ | .string _ | .array _ => by
    rw [pathsOf_of_leaf (isObject_markValueWhere key rfl), pathsOf_of_leaf rfl]

theorem pathsIn_markFieldsWhere : (fields : List (String × Json)) →
    pathsIn (markFieldsWhere marks fields) = pathsIn fields
  | [] => rfl
  | (key, value) :: rest => by
    rw [markFieldsWhere, pathsIn, pathsIn, pathsOf_markValueWhere key value,
      pathsIn_markFieldsWhere rest]

end

theorem declarations_markWhere (marks : String → Bool) (style : Style) :
    (style.markWhere marks).declarations = style.declarations.map (.markedWhere marks) :=
  declarationsIn_markFieldsWhere style.fields

theorem paths_markWhere (marks : String → Bool) (style : Style) :
    (style.markWhere marks).paths = style.paths :=
  pathsIn_markFieldsWhere style.fields

mutual

theorem markValueWhere_true (key : String) : (value : Json) →
    markValueWhere (fun _ => true) key value = mapValue markValue value
  | .object fields => by rw [markValueWhere, mapValue, markFieldsWhere_true fields]
  | .null | .bool _ | .number _ | .string _ | .array _ => by rfl

theorem markFieldsWhere_true : (fields : List (String × Json)) →
    markFieldsWhere (fun _ => true) fields = mapMembers markValue fields
  | [] => rfl
  | (key, value) :: rest => by
    rw [markFieldsWhere, mapMembers, markValueWhere_true key value, markFieldsWhere_true rest]

end

theorem markWhere_true (style : Style) : style.markWhere (fun _ => true) = style.markImportant :=
  congrArg mk (markFieldsWhere_true style.fields)

@[simp] theorem markWhere_under (key : String) (inner : Style) :
    (under key inner).markWhere marks = under key (inner.markWhere marks) := rfl

@[simp] theorem markWhere_within (path : List String) (style : Style) :
    (style.within path).markWhere marks = (style.markWhere marks).within path := by
  induction path with
  | nil => rfl
  | cons key path ih => rw [within_cons, markWhere_under, ih, within_cons]

theorem markFieldsWhere_put (key : String) (value : Json) (fields : Fields) :
    markFieldsWhere marks (Entries.put key value fields) =
      Entries.put key (markValueWhere marks key value) (markFieldsWhere marks fields) := by
  induction fields with
  | nil => rfl
  | cons entry rest ih =>
    obtain ⟨first, old⟩ := entry
    by_cases h : first = key
    · subst h
      simp [Entries.put, markFieldsWhere]
    · simp [Entries.put, markFieldsWhere, h, ih]

theorem markWhere_put (key : String) (value : Json) (style : Style) :
    (style.put key value).markWhere marks =
      (style.markWhere marks).put key (markValueWhere marks key value) :=
  congrArg mk (markFieldsWhere_put key value style.fields)

end Style

end UtilityStyle
