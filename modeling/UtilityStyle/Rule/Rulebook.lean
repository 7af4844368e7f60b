import UtilityStyle.Error
import UtilityStyle.Json.Document
import UtilityStyle.Rule.Property
import UtilityStyle.Style

namespace UtilityStyle

structure Rule where
  selector : String
  declarations : Entries String
  deriving DecidableEq

namespace Rule

/-- The class that a selector names, with the states behind it: all up to the first blank, if the
selector is one line after the blanks that follow. Nothing if the selector starts with no class. -/
def className? (selector : String) : Option String :=
  match (Text.trim selector).toList with
  | '.' :: rest =>
    let name := rest.takeWhile (!Text.isBlank ·)
    let others := Text.dropBlanks (rest.dropWhile (!Text.isBlank ·))
    if name.isEmpty || others.contains '\n' then none else some (String.ofList name)
  | _ => none

def style (rule : Rule) : Style :=
  rule.declarations.foldl
    (fun style (property, value) => style.putText (Property.camelCase property) value)
    .empty

def ofParts? (selector declarations : Document) : Option Rule :=
  match selector, declarations with
  | .string (some selector), .object members => do
    let pairs ← members.mapM fun
      | (some property, .string (some value)) => some (property, value)
      | _ => none
    return ⟨selector, Entries.putAll [] pairs⟩
  | _, _ => none

def part? (key : String) (members : List (Option String × Document)) : Option Document :=
  match members.filter fun member => member.1 = some key with
  | [(_, part)] => some part
  | _ => none

def ofDocument? : Document → Option Rule
  | .object members =>
    if members.all fun member => member.1.isSome then do
      ofParts? (← part? "selector" members) (← part? "declarations" members)
    else none
  | .array [selector, declarations] => ofParts? selector declarations
  | _ => none

def listOfDocument? : Document → Option (List Rule)
  | .array items => items.mapM ofDocument?
  | _ => none

def readList? (text : String) : Option (List Rule) := (Document.read? text).bind listOfDocument?

end Rule

structure Rulebook where
  components : Entries Style
  utilities : Entries Style
  deriving DecidableEq

namespace Rulebook

def empty : Rulebook := ⟨[], []⟩

def gather (name : String) (style : Style) (gathered : Entries Style) : Entries Style :=
  match Entries.get? name gathered with
  | some old => Entries.put name (old.merge style) gathered
  | none => Entries.put name style gathered

def gatherFrom (gathered : Entries Style) : List Rule → Except Error (Entries Style)
  | [] => .ok gathered
  | rule :: rest =>
    if rule.selector.toList.contains ',' then .error (.malformed rule.selector .selectorList)
    else match Rule.className? rule.selector with
      | some name => gatherFrom (gather name rule.style gathered) rest
      | none => gatherFrom gathered rest

/-- Gathers rules by class. Rules for anything else are skipped, lists of selectors refused. -/
def gatherAll (rules : List Rule) : Except Error (Entries Style) := gatherFrom [] rules

def ofRules (components utilities : List Rule) : Except Error Rulebook := do
  return ⟨← gatherAll components, ← gatherAll utilities⟩

def isEmpty (book : Rulebook) : Bool := book.components.isEmpty && book.utilities.isEmpty

/-- What a component's name adds to a class: nothing, or states from a colon on. -/
def states? (className name : String) : Option String :=
  (Text.afterStart className name).filter fun rest => rest.isEmpty || rest.toList.head? = some ':'

def componentStyles (book : Rulebook) (className : String) : List Style :=
  book.components.filterMap fun (name, style) =>
    (states? className name).map fun states =>
      if states.isEmpty then style else .under states style

/-- The style of a class: of its components, or else of the utility of that name. -/
def resolve (book : Rulebook) (className : String) : Option Style :=
  match book.componentStyles className with
  | [] => Entries.get? className book.utilities
  | styles => some (Style.mergeAll styles)

def covers (book : Rulebook) (className : String) : Bool :=
  book.components.any (fun (name, _) => (states? className name).isSome) ||
    Entries.has className book.utilities

end Rulebook

end UtilityStyle
