import UtilityStyle.Theme.Basic

namespace UtilityStyle.Screen

def bound? (key feature : String) (range : Json) : Option String :=
  ((range.member? key).bind Json.string?).map fun width =>
    "(" ++ feature ++ ": " ++ width ++ ")"

def range (range : Json) : String :=
  " and ".intercalate [bound? "min" "min-width" range, bound? "max" "max-width" range].reduceOption

def rangeList (list : List Json) : String :=
  ", ".intercalate ((list.map range).filter (!·.isEmpty))

def condition : Json → Except ThemeError String
  | .string width => .ok ("(min-width: " ++ width ++ ")")
  | .object fields =>
    match (Entries.get? "raw" fields).bind Json.string? with
    | some raw => .ok raw
    | none => .ok (rangeList [.object fields])
  | .array list => .ok (rangeList list)
  | other => .error (.unusable other)

def media (condition : String) : String := "@media " ++ condition

def query? (theme : Theme) (name : String) : Except ThemeError (Option String) :=
  match Entries.get? name theme.screens with
  | none => .ok none
  | some screen => do
    let condition ← condition screen
    if condition.isEmpty then .error (.invalid (.screenWithoutWidth name))
    else return some (media condition)

/-- The least width of a screen that has one and is not a query as it stands. -/
def minWidth? : Json → Option String
  | .string width => some width
  | .object fields =>
    if Entries.has "raw" fields then none else (Entries.get? "min" fields).bind Json.string?
  | _ => none

end UtilityStyle.Screen
