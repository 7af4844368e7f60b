import UtilityStyle.Color.Lexeme
import UtilityStyle.Color.Named
import UtilityStyle.Text.Pieces

namespace UtilityStyle

structure Color where
  red : Nat
  green : Nat
  blue : Nat
  alpha : Single
  deriving DecidableEq

namespace Color

def one : Single := Binary.ofNat 1

def ofByte (n : Nat) : Single := Binary.ofNat n

def byte (value : Single) : Nat := value.toNatClamped 255

def unitClamp (value : Single) : Single := value.clamp (Binary.zero false) one

/-- The color of hexadecimal digits: one or two for each channel, alpha included or not. -/
def ofHex? (digits : List Char) : Option Color :=
  match digits.mapM hexValue? with
  | some [r, g, b] => some ⟨17 * r, 17 * g, 17 * b, one⟩
  | some [r, g, b, a] => some ⟨17 * r, 17 * g, 17 * b, Binary.ofRatio (17 * a) 255⟩
  | some [r, r', g, g', b, b'] => some ⟨16 * r + r', 16 * g + g', 16 * b + b', one⟩
  | some [r, r', g, g', b, b', a, a'] =>
    some ⟨16 * r + r', 16 * g + g', 16 * b + b', Binary.ofRatio (16 * a + a') 255⟩
  | _ => none

/-- Two names are one in CSS if they differ only in the case of ASCII letters. -/
def sameName (a b : String) : Bool := a.map Char.toLower = b.map Char.toLower

def ofName? (name : String) : Option Color :=
  if sameName name "transparent" then some ⟨0, 0, 0, Binary.zero false⟩
  else (named.find? fun entry => sameName name entry.1).map fun (_, code) =>
    ⟨code / 65536, code / 256 % 256, code % 256, one⟩

def channel? : Lexeme → Option Nat
  | .number value => some (byte value)
  | .percentage value => some (byte (value * ofByte 255))
  | _ => none

def alpha? : Lexeme → Option Single
  | .number value | .percentage value => some (unitClamp value)
  | _ => none

def percent? : Lexeme → Option Single
  | .percentage value => some (unitClamp value)
  | _ => none

def degrees? : Lexeme → Option Single
  | .number value => some value
  | .dimension value unit => if sameName unit "deg" then some value else none
  | _ => none

/-- The three arguments of a color function and its alpha: all with commas between, or with blanks
and a slash before alpha. -/
def arguments? : List Lexeme → Option (Lexeme × Lexeme × Lexeme × Option Lexeme)
  | [a, .comma, b, .comma, c] => some (a, b, c, none)
  | [a, .comma, b, .comma, c, .comma, d] => some (a, b, c, some d)
  | [a, b, c] => some (a, b, c, none)
  | [a, b, c, .slash, d] => some (a, b, c, some d)
  | _ => none

def wrap (x : Single) (n : Nat) : Single :=
  let r := x.remainder n
  if r < Binary.zero false then r + ofByte n else r

/-- One channel of a color of the given saturation and lightness, whose hue is `t` turns away. -/
def hueChannel (saturation lightness t : Single) : Nat :=
  let two := ofByte 2
  let six := ofByte 6
  let high :=
    if lightness ≤ (Binary.ofRatio 1 2 : Single) then lightness * (saturation + one)
    else lightness + saturation - lightness * saturation
  let low := lightness * two - high
  let t := wrap t 1
  let value :=
    if t * six < one then low + (high - low) * t * six
    else if t * two < one then high
    else if t * ofByte 3 < two then low + (high - low) * (Binary.ofRatio 2 3 - t) * six
    else low
  byte (value * ofByte 255)

def ofHsl (degrees saturation lightness alpha : Single) : Color :=
  let hue := wrap degrees 360 / ofByte 360
  let third : Single := Binary.ofRatio 1 3
  let channel := hueChannel saturation lightness
  ⟨channel (hue + third), channel hue, channel (hue - third), alpha⟩

def alphaOr1? : Option Lexeme → Option Single
  | none => some one
  | some lexeme => alpha? lexeme

/-- The color of a function with its arguments. The last parenthesis may be missing. -/
def ofFunction? (name : String) (lexemes : List Lexeme) : Option Color := do
  let inside := if lexemes.getLast? = some .close then lexemes.dropLast else lexemes
  let (a, b, c, d?) ← arguments? inside
  let alpha ← alphaOr1? d?
  if sameName name "rgb" || sameName name "rgba" then
    return ⟨← channel? a, ← channel? b, ← channel? c, alpha⟩
  else if sameName name "hsl" || sameName name "hsla" then
    return ofHsl (← degrees? a) (← percent? b) (← percent? c) alpha
  else none

def ofLexemes? : List Lexeme → Option Color
  | [.hash name] => ofHex? name.toList
  | [.ident name] => ofName? name
  | .function name :: rest => ofFunction? name rest
  | _ => none

def read? (text : String) : Option Color :=
  (Lexeme.readAll (Text.trim text).toList).bind ofLexemes?

/-- A color brings an alpha channel of its own if it is written with one, whatever its value, or is
not fully opaque. -/
def hasAlpha (text : String) : Bool :=
  let text := Text.trim text
  let lower := text.map Char.toLower
  (Text.afterStart "rgba(" lower).isSome || (Text.afterStart "hsla(" lower).isSome ||
    (Text.afterStart "#" text).isSome && (text.utf8ByteSize = 5 || text.utf8ByteSize = 9) ||
    (read? text).any fun color => color.alpha < one

end Color

end UtilityStyle
