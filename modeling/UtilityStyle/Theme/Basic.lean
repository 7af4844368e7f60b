import UtilityStyle.Json.Printer
import UtilityStyle.Text.Pieces

namespace UtilityStyle

inductive ThemeFault
  | notAnObject (found : Json)
  | overridesNotAnObject
  | extensionNotAnObject
  | screenWithoutWidth (name : String)
  deriving DecidableEq

inductive ThemeError
  | tooDeep (value : Json)
  | unusable (value : Json)
  | invalid (fault : ThemeFault)
  deriving DecidableEq

namespace ThemeFault

def message : ThemeFault → String
  | .notAnObject found => "expected an object at the top level, found " ++ found.text
  | .overridesNotAnObject => "the user theme must be an object"
  | .extensionNotAnObject => "`extend` must be an object"
  | .screenWithoutWidth name => "The screen \"" ++ name ++ "\" needs a min or max width"

end ThemeFault

namespace ThemeError

def message : ThemeError → String
  | .tooDeep value =>
    "The theme config is nested too deep\n" ++
      "Replace this with a string, number or array:\n" ++ value.text
  | .unusable value =>
    "The config value \"" ++ value.text ++ "\" is unsupported - try a string, array or number"
  | .invalid fault => "Invalid theme config: " ++ fault.message

end ThemeError

/-- The order of the members matters: a screen ranks by its position among the screens. -/
structure Theme where
  sections : Fields
  deriving DecidableEq, Inhabited

namespace Theme

def ofJson : Json → Except ThemeError Theme
  | .object sections => .ok ⟨sections⟩
  | found => .error (.invalid (.notAnObject found))

def value (theme : Theme) : Json := .object theme.sections

def section? (theme : Theme) (name : String) : Option Json := Entries.get? name theme.sections

def has (theme : Theme) (name : String) : Bool := (theme.section? name).isSome

def get? (theme : Theme) (path : String) : Option Json :=
  theme.value.at? ((Text.pieces (· == '.') path.toList).map String.ofList)

def screens (theme : Theme) : Fields := ((theme.section? "screens").bind Json.fields?).getD []

def screenNames (theme : Theme) : List String := Entries.keys theme.screens

def rank? (theme : Theme) (name : String) : Option Nat := theme.screenNames.idxOf? name

end Theme

end UtilityStyle
