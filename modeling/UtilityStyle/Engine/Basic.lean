import UtilityStyle.Engine.Order
import UtilityStyle.Family
import UtilityStyle.Utility.Route

/-!
Resolving class lists to styles. Each token is taken apart, its variants are found, its class is
routed to a table, family or rule, and its style is put under the keys of its variants; the styles
of a list are merged in screen order.
-/

namespace UtilityStyle

structure Engine where
  theme : Theme
  options : Options := {}
  rules : Rulebook := .empty
  deriving DecidableEq

namespace Engine

def refuseNegative (token : Token) : Except Error Unit :=
  if token.negative then .error (.unsupported token.className .negatives) else .ok ()

def marked (token : Token) (style : Style) : Style :=
  if token.important then style.markImportant else style

/-- The style of a token, its variants aside. Families mark their styles themselves. -/
def style (engine : Engine) (token : Token) : Except Error Style :=
  match Route.find engine.rules token.className with
  | .fixed _ style => do
    refuseNegative token
    return marked token style
  | .reading row => (row.style engine.theme engine.options token).map (marked token)
  | .family row family => family.style ⟨engine.theme, engine.options, token, row.key⟩
  | .rule => do
    refuseNegative token
    match engine.rules.resolve token.className with
    | some style => return marked token style
    | none => .error (.noSuchClass engine.theme engine.options token none)
  | .unmatched => .error (.noSuchClass engine.theme engine.options token none)

def readToken (raw : String) : Except Error Token :=
  if raw = "group" then .error (.malformed raw .groupMarker)
  else (Token.read raw).mapError fun fault => .malformed raw (.token fault)

def refuseEmpty (raw : String) (token : Token) : Except Error Unit :=
  if token.className.isEmpty then
    .error (.malformed raw (if token.variants.isEmpty then .nothingLeft else .classMissing))
  else .ok ()

structure KeyedStyle where
  keys : List String
  style : Style
  deriving DecidableEq

def KeyedStyle.nested (keyed : KeyedStyle) : Style := keyed.style.within keyed.keys

def keyedStyle (engine : Engine) (raw : String) : Except Error KeyedStyle := do
  let token ← readToken raw
  let keys ← Variant.keys engine.theme engine.options.sassyPseudo token.variants
  refuseEmpty raw token
  return ⟨keys, ← engine.style token⟩

def resolve (engine : Engine) (raw : String) : Except Error Style :=
  (engine.keyedStyle raw).map KeyedStyle.nested

/-- A space with a bar between two spaces only divides a list for the eye. -/
def withoutDividers : List Char → List Char
  | ' ' :: '|' :: ' ' :: rest => ' ' :: withoutDividers rest
  | c :: rest => c :: withoutDividers rest
  | [] => []

def tokens (classes : String) : List String :=
  Text.words (String.ofList (withoutDividers classes.toList))

def ordered (engine : Engine) (classes : String) : List String :=
  Order.byScreen engine.theme (tokens classes)

def resolveAll (engine : Engine) (raws : List String) : Except Error Style :=
  (raws.mapM engine.resolve).map Style.mergeAll

def resolveList (engine : Engine) (classes : String) : Except Error Style :=
  engine.resolveAll (engine.ordered classes)

@[simp] theorem resolveAll_nil (engine : Engine) : engine.resolveAll [] = .ok .empty := rfl

end Engine

end UtilityStyle
