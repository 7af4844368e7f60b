import UtilityStyle.Error
import UtilityStyle.Screen

namespace UtilityStyle

inductive Variant
  | screen (name query : String)
  | pseudo (name selector : String)
  deriving DecidableEq

namespace Variant

def name : Variant → String
  | .screen name _ => name
  | .pseudo name _ => name

def key (sassy : Bool) : Variant → String
  | .screen _ query => query
  | .pseudo _ selector => if sassy then Selector.sassy selector else selector

/-- The variant of a name. A screen hides a built-in variant of its name. -/
def find (theme : Theme) (name : String) : Except Error Variant := do
  match ← fromTheme (Screen.query? theme name) with
  | some query => return .screen name query
  | none =>
    match Selector.builtin? name with
    | some selector => return .pseudo name selector
    | none => .error (.unknownVariant name theme.screenNames)

def keys (theme : Theme) (sassy : Bool) (names : List String) : Except Error (List String) :=
  names.mapM fun name => (find theme name).map (key sassy)

end Variant

end UtilityStyle
