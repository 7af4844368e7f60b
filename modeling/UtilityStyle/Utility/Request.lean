import UtilityStyle.Options
import UtilityStyle.Suggestion.Search
import UtilityStyle.Style
import UtilityStyle.Variant

namespace UtilityStyle

def Error.noSuchClass (theme : Theme) (options : Options) (token : Token)
    (query? : Option Suggestion.Query) : Error :=
  .unresolvable token.unscoped
    (if options.hasSuggestions then Suggestion.search theme token.className query? else .nothing)

structure Request where
  theme : Theme
  options : Options
  token : Token
  key : String
  deriving DecidableEq

namespace Request

def className (r : Request) : String := r.token.className

/-- What follows `start` and a dash in the class name, if that is a line of its own. -/
def argument? (r : Request) (start : String) : Option String :=
  (Text.afterDash start r.className).filter fun rest =>
    !rest.isEmpty && !rest.toList.contains '\n'

def value (r : Request) (name key : String) : Except Error (Option ThemeValue) :=
  fromTheme (r.theme.resolve name key)

def firstValue (r : Request) (names : List String) (key : String) :
    Except Error (Option ThemeValue) :=
  fromTheme (r.theme.resolveFirst key names)

def notFoundIn (r : Request) (sections : List String) : Error :=
  .noSuchClass r.theme r.options r.token
    (some ⟨sections, r.key, r.className, r.token.negative⟩)

def opacitySection (r : Request) (own : String) : String :=
  if r.theme.has own then own else "opacity"

def refuse (r : Request) (modifier : Modifier) : Error := .unsupported r.className modifier

def refuseNegative (r : Request) : Except Error Unit :=
  if r.token.negative then .error (r.refuse .negatives) else .ok ()

end Request

namespace Descriptor

def section? (d : Descriptor) (theme : Theme) : Option Json :=
  match theme.section? d.source with
  | some found => some found
  | none => d.fallback.bind theme.section?

def first? (theme : Theme) (key : String) :
    List Descriptor → Except ThemeError (Option (Descriptor × ThemeValue))
  | [] => .ok none
  | d :: rest => do
    match ← lookup (d.section? theme) key with
    | some found => return some (d, found)
    | none => first? theme key rest

def style (d : Descriptor) (text : String) : Style :=
  d.properties.foldl (fun style property => style.putText property text) .empty

end Descriptor

namespace Row

def suffix (row : Row) (className : String) : String :=
  String.ofList (Text.dropBytes (row.key.utf8ByteSize + 1) className.toList)

/-- The text of a value under the sign of a token. The sign replaces that of a single value. -/
def signed (token : Token) : ThemeValue → String
  | .scalar text => token.sign ++ (if token.negative then unsigned text else text)
  | .list items => token.sign ++ (ThemeValue.list items).text

/-- The style of a token whose class name the row covers. A class name that ends with a dash has
none. -/
def style (row : Row) (theme : Theme) (options : Options) (token : Token) :
    Except Error Style := do
  let key := token.sign ++ row.suffix token.className
  match ← fromTheme (Descriptor.first? theme key row.descriptors) with
  | some (d, found) =>
    if token.className.toList.getLast? = some '-' then .error missing
    else return d.style (signed token found)
  | none => .error missing
where
  missing : Error :=
    (Request.mk theme options token row.key).notFoundIn row.sources

end Row

end UtilityStyle
