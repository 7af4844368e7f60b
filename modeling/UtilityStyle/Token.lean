import UtilityStyle.Text.Pieces

/-!
Tokens of a class list: variants, a sign, a class name and a mark of importance, as in
`md:hover:-mt-4!`. `Token.text` writes a token and `Token.read` takes it apart. Names of variants
stand at the front, so reading never leaves a sign, mark or variant inside the class name.
-/

namespace UtilityStyle

structure Token where
  variants : List String
  negative : Bool
  important : Bool
  className : String
  deriving DecidableEq

namespace Token

def sign (token : Token) : String := if token.negative then "-" else ""

def bang (token : Token) : String := if token.important then "!" else ""

def mark (token : Token) : String := if token.important then " !important" else ""

def unscoped (token : Token) : String := token.sign ++ token.className ++ token.bang

def text (token : Token) : String :=
  String.join (token.variants.map (· ++ ":")) ++ token.unscoped

inductive Fault
  | misplacedNegative (repaired : String)
  | unreadableVariant
  | repeatedNegative
  | repeatedImportant
  deriving DecidableEq

def Fault.message (raw : String) : Fault → String
  | .misplacedNegative repaired =>
    "The negative in \"" ++ raw ++ "\" must come after the variants: \"" ++ repaired ++ "\""
  | .unreadableVariant =>
    "\"" ++ raw ++ "\" has a variant that can't be read, variants are lowercase and end with \":\""
  | .repeatedNegative => "\"" ++ raw ++ "\" can only have one negative sign"
  | .repeatedImportant => "\"" ++ raw ++ "\" can only have one \"!\" at the end"

def isNameStart (c : Char) : Bool := ('a' ≤ c && c ≤ 'z') || ('0' ≤ c && c ≤ '9')

def isNameChar (c : Char) : Bool := isNameStart c || c = '_' || c = '-'

def isVariantName : List Char → Bool
  | [] => false
  | c :: rest => isNameStart c && rest.all isNameChar

def cutVariants (cs : List Char) : List (List Char) × List Char :=
  let pieces := Text.pieces (· == ':') cs
  let names := pieces.dropLast.takeWhile isVariantName
  (names, Text.join ':' (pieces.drop names.length))

def cutSign : List Char → Bool × List Char
  | '-' :: rest => (true, rest)
  | rest => (false, rest)

def cutBang (cs : List Char) : Bool × List Char :=
  if cs.getLast? = some '!' then (true, cs.dropLast) else (false, cs)

def fault? (negative important : Bool) (body : List Char) : Option Fault :=
  match Text.cutLast ':' body with
  | some (before, after) =>
    if negative && isVariantName (before.takeWhile (· ≠ ':')) then
      let bang := if important then ['!'] else []
      some (.misplacedNegative (String.ofList (before ++ ':' :: '-' :: after ++ bang)))
    else some .unreadableVariant
  | none =>
    if body.head? = some '-' then some .repeatedNegative
    else if body.getLast? = some '!' then some .repeatedImportant
    else none

def read (raw : String) : Except Fault Token :=
  let (names, rest) := cutVariants raw.toList
  let (negative, rest) := cutSign rest
  let (important, body) := cutBang rest
  match fault? negative important body with
  | some fault => .error fault
  | none => .ok ⟨names.map String.ofList, negative, important, String.ofList body⟩

end Token

end UtilityStyle
