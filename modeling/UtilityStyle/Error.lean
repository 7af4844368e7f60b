import UtilityStyle.Selector
import UtilityStyle.Suggestion.Basic
import UtilityStyle.Theme.Basic
import UtilityStyle.Token

namespace UtilityStyle

inductive Malformed
  | token (fault : Token.Fault)
  | groupMarker
  | classMissing
  | nothingLeft
  | selectorList
  deriving DecidableEq

def Malformed.message (raw : String) : Malformed → String
  | .token fault => fault.message raw
  | .groupMarker =>
    "\"group\" must be added as className:\n\nBad: tw`group`\nGood: <div className=\"group\">"
  | .classMissing => "\"" ++ raw ++ "\" needs a class added on the end"
  | .nothingLeft => "That class was not found"
  | .selectorList => "Only a single selector is supported: \"" ++ raw ++ "\""

inductive Modifier
  | variants (names : List String)
  | important
  | negatives
  deriving DecidableEq

def Modifier.text : Modifier → String
  | .variants names => String.join (names.map (· ++ ":")) ++ " or any other variants"
  | .important => "!important"
  | .negatives => "negatives"

inductive Error
  | malformed (token : String) (cause : Malformed)
  /-- A variant that is neither a screen, listed in rank order, nor built in. -/
  | unknownVariant (variant : String) (screens : List String)
  | unresolvable (className : String) (suggestions : Suggestions)
  | unsupported (className : String) (modifier : Modifier)
  | theme (cause : ThemeError)
  deriving DecidableEq

namespace Error

/-- Names with colons, six to a line, from the given column on. -/
def menuFrom (column : Nat) : List String → String
  | [] => ""
  | [last] => last ++ ":"
  | name :: rest =>
    if column = 6 then name ++ ":\n" ++ menuFrom 1 rest
    else name ++ ": / " ++ menuFrom (column + 1) rest

def menu (names : List String) : String := menuFrom 1 names

def unknownVariantText (variant : String) (screens : List String) : String :=
  let heading := "The variant “" ++ variant ++ ":” was not found"
  let screenMenu := if screens.isEmpty then "" else "\n\nScreen breakpoints\n" ++ menu screens
  heading ++ screenMenu ++ "\n\nBuilt-in variants\n" ++ menu (Selector.builtin.map Prod.fst)

def notFoundText (className : String) (suggestions : Suggestions) : String :=
  let heading := (if className.isEmpty then "Class" else className) ++ " was not found"
  match suggestions with
  | .nothing => heading
  | .single target => heading ++ "\n\nDid you mean " ++ target ++ "?"
  | .ranked [only] => heading ++ "\n\nDid you mean " ++ only.target ++ "?"
  | .ranked list => heading ++ "\n\nTry one of these classes:\n" ++ Suggestion.listText list

def message : Error → String
  | .malformed token cause => cause.message token
  | .unknownVariant variant screens => unknownVariantText variant screens
  | .unresolvable className suggestions => notFoundText className suggestions
  | .unsupported className modifier => className ++ " doesn’t support " ++ modifier.text
  | .theme cause => cause.message

end Error

def fromTheme (result : Except ThemeError α) : Except Error α := result.mapError .theme

end UtilityStyle
