import UtilityStyle.Entries
import UtilityStyle.Number.Decimal
import UtilityStyle.Text.Blank

namespace UtilityStyle

inductive Number
  | whole (value : Int)
  | double (value : Double)
  deriving DecidableEq

inductive Json
  | null
  | bool (value : Bool)
  | number (value : Number)
  | string (value : String)
  | array (items : List Json)
  | object (fields : List (String × Json))
  deriving Inhabited

abbrev Fields := Entries Json

namespace Json

mutual

def decEq : (a b : Json) → Decidable (a = b)
  | .null, b => match b with
    | .null => isTrue rfl
    | .bool _ | .number _ | .string _ | .array _ | .object _ => isFalse (by simp)
  | .bool x, b => match b with
    | .bool y => decidable_of_iff (x = y) (by simp)
    | .null | .number _ | .string _ | .array _ | .object _ => isFalse (by simp)
  | .number x, b => match b with
    | .number y => decidable_of_iff (x = y) (by simp)
    | .null | .bool _ | .string _ | .array _ | .object _ => isFalse (by simp)
  | .string x, b => match b with
    | .string y => decidable_of_iff (x = y) (by simp)
    | .null | .bool _ | .number _ | .array _ | .object _ => isFalse (by simp)
  | .array xs, b => match b with
    | .array ys => have := decEqItems xs ys; decidable_of_iff (xs = ys) (by simp)
    | .null | .bool _ | .number _ | .string _ | .object _ => isFalse (by simp)
  | .object xs, b => match b with
    | .object ys => have := decEqFields xs ys; decidable_of_iff (xs = ys) (by simp)
    | .null | .bool _ | .number _ | .string _ | .array _ => isFalse (by simp)

def decEqItems : (xs ys : List Json) → Decidable (xs = ys)
  | [], [] => isTrue rfl
  | [], _ :: _ => isFalse (by simp)
  | _ :: _, [] => isFalse (by simp)
  | x :: xs, y :: ys =>
    have := decEq x y
    have := decEqItems xs ys
    decidable_of_iff (x = y ∧ xs = ys) (by simp)

def decEqFields : (xs ys : List (String × Json)) → Decidable (xs = ys)
  | [], [] => isTrue rfl
  | [], _ :: _ => isFalse (by simp)
  | _ :: _, [] => isFalse (by simp)
  | (k, x) :: xs, (l, y) :: ys =>
    have := decEq x y
    have := decEqFields xs ys
    decidable_of_iff ((k = l ∧ x = y) ∧ xs = ys) (by simp)

end

instance : DecidableEq Json := decEq

def isObject : Json → Bool
  | .object _ => true
  | _ => false

def fields? : Json → Option Fields
  | .object fields => some fields
  | _ => none

def string? : Json → Option String
  | .string text => some text
  | _ => none

def member? (key : String) (value : Json) : Option Json := value.fields?.bind (Entries.get? key)

def at? : List String → Json → Option Json
  | [], value => some value
  | key :: path, value => (value.member? key).bind (at? path)

@[simp] theorem at?_nil (value : Json) : value.at? [] = some value := rfl

@[simp] theorem at?_cons (key : String) (path : List String) (value : Json) :
    value.at? (key :: path) = (value.member? key).bind (at? path) := rfl

end Json

namespace Number

def text : Number → String
  | .whole value => toString value
  | .double value => value.text

/-- The number as it stands in a style sheet: whole doubles below `10 ^ 15` lose their point. -/
def styled : Number → String
  | .whole value => toString value
  | .double value =>
    match Binary.toInt? value with
    | some n => if n.natAbs < Nat.pow 10 15 then toString n else value.text
    | none => value.text

def isZero : Number → Bool
  | .whole value => value = 0
  | .double value => Binary.isZero value

end Number

namespace Json

/-- Nothing can come of the value: it is null, an empty object or blank text. -/
def isEmpty : Json → Bool
  | .null => true
  | .object fields => fields.isEmpty
  | .string text => Text.allBlank text
  | _ => false

end Json

end UtilityStyle
