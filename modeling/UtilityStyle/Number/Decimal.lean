import UtilityStyle.Number.Binary
import UtilityStyle.Number.Digit

namespace UtilityStyle

/-- Decimal digits with the weight of the first: `d.ddd * 10 ^ exponent`. -/
structure Digits where
  digits : List Char
  exponent : Int
  deriving DecidableEq

namespace Digits

def zeros (n : Int) : List Char := List.replicate n.toNat '0'

/-- Positional from `10 ^ -5` up to below `10 ^ 16`, with a digit on both sides of the point;
scientific with a signed exponent elsewhere. -/
def layout (d : Digits) : List Char :=
  let size : Int := d.digits.length
  if d.exponent < -5 ∨ 15 < d.exponent then
    let point := if size = 1 then [] else ['.']
    let sign := if d.exponent < 0 then '-' else '+'
    d.digits.take 1 ++ point ++ d.digits.drop 1 ++ 'e' :: sign :: Nat.toDigits 10 d.exponent.natAbs
  else if d.exponent < 0 then '0' :: '.' :: zeros (-d.exponent - 1) ++ d.digits
  else if size ≤ d.exponent + 1 then d.digits ++ zeros (d.exponent + 1 - size) ++ ['.', '0']
  else
    let whole := (d.exponent + 1).toNat
    d.digits.take whole ++ '.' :: d.digits.drop whole

def ofNat (n : Nat) (exponent : Int) : Digits :=
  let all := Nat.toDigits 10 n
  ⟨(all.reverse.dropWhile (· = '0')).reverse, exponent + (all.length - 1)⟩

end Digits

namespace Double

def floorLog10 (m : Nat) (q : Int) : Int :=
  let reaches (e : Int) : Bool :=
    Nat.pow 10 e.toNat <<< (-q).toNat ≤ (m <<< q.toNat) * Nat.pow 10 (-e).toNat
  -- 30103 / 100000 is just above the logarithm of 2
  let guess := ((m.log2 : Int) + q) * 30103 / 100000
  if reaches (guess + 1) then guess + 1 else if reaches guess then guess else guess - 1

/-- The multiple of `10 ^ k` nearest to `m * 2 ^ q` among its two neighbours, if one of them rounds
to that double; of two equally near the even one. `narrow` says that the number below is only half
as far as the number above. -/
def neighbour? (m : Nat) (q : Int) (narrow : Bool) (k : Int) : Option Nat :=
  -- in units of a quarter of the last place, both sides brought to whole numbers
  let grid := Nat.pow 10 k.toNat <<< (2 - q).toNat
  let unit := Nat.pow 10 (-k).toNat <<< (q - 2).toNat
  let low := (4 * m - (if narrow then 1 else 2)) * unit
  let high := (4 * m + 2) * unit
  let exact := 4 * m * unit
  let within (c : Nat) : Bool :=
    if m % 2 = 0 then low ≤ c * grid && c * grid ≤ high else low < c * grid && c * grid < high
  let below := exact / grid
  let above := below + 1
  match within below, within above with
  | false, false => none
  | true, false => some below
  | false, true => some above
  | true, true =>
    let down := exact - below * grid
    let up := above * grid - exact
    if down < up then some below
    else if up < down then some above
    else some (if below % 2 = 0 then below else above)

/-- The fewest digits that read back as `m * 2 ^ q`, and of those the nearest. -/
def shortest (m : Nat) (q : Int) : Digits :=
  let top := floorLog10 m q
  let narrow := m = Format.double.unit && Format.double.minExponent < q
  let found? := (List.range 17).findSome? fun (n : Nat) =>
    (neighbour? m q narrow (top - n)).map fun c => Digits.ofNat c (top - n)
  found?.getD ⟨['0'], 0⟩

def text (x : Double) : String :=
  match x.view with
  | .finite negative m q =>
    let body := if m = 0 then ['0', '.', '0'] else (shortest m q).layout
    String.ofList (if negative then '-' :: body else body)
  | _ => "null"

end Double

structure Numeral where
  digits : List Char
  exponent : Int
  deriving DecidableEq

namespace Numeral

def readExponent? : List Char → Option Int
  | [] => some 0
  | mark :: rest =>
    let (negative, ds) := match rest with
      | '-' :: ds => (true, ds)
      | '+' :: ds => (false, ds)
      | ds => (false, ds)
    if (mark = 'e' || mark = 'E') && !ds.isEmpty && ds.all isDigit then
      some (if negative then -(digitsValue ds : Int) else digitsValue ds)
    else none

/-- Reads `12`, `12.`, `.5`, `1.5e-3`, with at least one digit before the exponent. -/
def read? (cs : List Char) : Option Numeral :=
  let whole := cs.takeWhile isDigit
  let (fraction, rest) := match cs.dropWhile isDigit with
    | '.' :: rest => (rest.takeWhile isDigit, rest.dropWhile isDigit)
    | rest => ([], rest)
  if (whole ++ fraction).isEmpty then none
  else (readExponent? rest).map fun e => ⟨whole ++ fraction, e - fraction.length⟩

def roundsToZero (n : Numeral) : Bool :=
  let significand := digitsValue n.digits
  let size : Int := n.digits.length + n.exponent
  if significand = 0 then true
  -- below `10 ^ -330` no double is near, and above it the power that follows stays small
  else if size < -330 then true
  else if 0 ≤ n.exponent then false
  else (Binary.ofRatio significand (Nat.pow 10 (-n.exponent).toNat) : Double).isZero

end Numeral

end UtilityStyle
