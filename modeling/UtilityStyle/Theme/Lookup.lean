import UtilityStyle.Theme.Basic

/-!
Looking up what the end of a class name stands for in a section of the theme. An end such as
`red-500` names an entry of the section itself or, cut at one dash, an entry of one of its objects.
Nothing below that is looked at.
-/

namespace UtilityStyle

inductive ThemeValue
  | scalar (text : String)
  | list (items : List String)
  deriving DecidableEq

namespace ThemeValue

def text : ThemeValue → String
  | .scalar text => text
  | .list items => ", ".intercalate items

def scalar? : ThemeValue → Option String
  | .scalar text => some text
  | .list _ => none

def item : Json → Except ThemeError String
  | .string text => .ok text
  | .number number => .ok number.styled
  | other => .error (.unusable other)

def ofJson : Json → Except ThemeError ThemeValue
  | .string text => .ok (.scalar text)
  | .number number => .ok (.scalar number.styled)
  | .array items => (items.mapM item).map .list
  | .object fields => .error (.tooDeep (.object fields))
  | other => .error (.unusable other)

end ThemeValue

/-- The text without its minus sign. A sign alone is kept. -/
def unsigned (text : String) : String :=
  if 1 < text.utf8ByteSize then (Text.afterStart "-" text).getD text else text

namespace Lookup

def isLeaf : Json → Bool
  | .string _ | .number _ | .array _ => true
  | _ => false

/-- What `key` names inside `child`, if `key` is the child's name, a dash and an entry that is not
empty. -/
def entry? (name : String) (child : Fields) (key : String) : Option Json := do
  let rest ← Text.afterDash name key
  if rest.isEmpty then none else (Entries.get? rest child).filter fun found => !found.isEmpty

def inChildren (key : String) : Fields → Except ThemeError (Option ThemeValue)
  | [] => .ok none
  | (name, .object child) :: rest =>
    match entry? name child key with
    | some found =>
      if isLeaf found then (ThemeValue.ofJson found).map some else .error (.tooDeep found)
    | none => inChildren key rest
  | _ :: rest => inChildren key rest

def default? (fields : Fields) : Option Json :=
  (Entries.get? "default" fields).filter fun found => !found.isEmpty

/-- Looks up `key` among the members of a section: the empty key is the default of the section, any
other an entry, the default of an object, or an entry of an object. -/
def inFields (fields : Fields) (key : String) : Except ThemeError (Option ThemeValue) :=
  if key.isEmpty then
    match default? fields with
    | some found => (ThemeValue.ofJson found).map some
    | none => .ok none
  else
    match Entries.get? key fields with
    | some (.object child) =>
      match default? child with
      | some found => (ThemeValue.ofJson found).map some
      | none => inChildren (unsigned key) fields
    | some found =>
      if isLeaf found then
        if found.isEmpty then .ok none else (ThemeValue.ofJson found).map some
      else inChildren (unsigned key) fields
    | none => inChildren (unsigned key) fields

end Lookup

def lookup (section? : Option Json) (key : String) : Except ThemeError (Option ThemeValue) :=
  match section? with
  | some (.object fields) => Lookup.inFields fields key
  | _ => .ok none

namespace Theme

def resolve (theme : Theme) (name key : String) : Except ThemeError (Option ThemeValue) :=
  lookup (theme.section? name) key

def resolveFirst (theme : Theme) (key : String) :
    List String → Except ThemeError (Option ThemeValue)
  | [] => .ok none
  | name :: rest => do
    match ← theme.resolve name key with
    | some found => return some found
    | none => resolveFirst theme key rest

end Theme

end UtilityStyle
