import UtilityStyle.Json.Document
import UtilityStyle.Json.Printer

namespace UtilityStyle

structure Options where
  debug : Bool := false
  hasSuggestions : Bool := true
  /-- Write `&` before pseudo selectors. -/
  sassyPseudo : Bool := false
  deriving DecidableEq, Inhabited

namespace Options

def value (options : Options) : Json :=
  .object [
    ("debug", .bool options.debug),
    ("hasSuggestions", .bool options.hasSuggestions),
    ("sassyPseudo", .bool options.sassyPseudo)]

def flag? (key : String) (default : Bool) (members : List (Option String × Document)) :
    Option Bool :=
  match members.filter fun member => member.1 = some key with
  | [] => some default
  | [(_, .bool value)] => some value
  | _ => none

def ofMembers? (members : List (Option String × Document)) : Option Options := do
  if members.all fun member => member.1.isSome then
    return {
      debug := ← flag? "debug" false members
      hasSuggestions := ← flag? "hasSuggestions" true members
      sassyPseudo := ← flag? "sassyPseudo" false members }
  else none

/-- The flags by name, unknown names being skipped, or up to three of them in order. -/
def ofDocument? : Document → Option Options
  | .object members => ofMembers? members
  | .array [] => some {}
  | .array [.bool debug] => some { debug }
  | .array [.bool debug, .bool hasSuggestions] => some { debug, hasSuggestions }
  | .array [.bool debug, .bool hasSuggestions, .bool sassyPseudo] =>
    some { debug, hasSuggestions, sassyPseudo }
  | _ => none

def read? (text : String) : Option Options := (Document.read? text).bind ofDocument?

end Options

end UtilityStyle
