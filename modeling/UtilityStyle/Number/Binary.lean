/-!
Binary floating-point numbers kept as their bits. Every operation is the exact result on
significand and exponent, rounded once to the nearest number of the format with ties to the even
significand, so that order, equality and arithmetic are plain integer facts.
-/

namespace UtilityStyle

/-- A binary interchange format: the bits of a significand with its leading one, and of an
exponent field. -/
structure Format where
  precision : Nat
  exponentBits : Nat
  deriving DecidableEq

namespace Format

def single : Format := ⟨24, 8⟩

def double : Format := ⟨53, 11⟩

def bias (f : Format) : Nat := (1 <<< (f.exponentBits - 1)) - 1

def minExponent (f : Format) : Int := 2 - (f.bias : Int) - (f.precision : Int)

def topField (f : Format) : Nat := (1 <<< f.exponentBits) - 1

def signWeight (f : Format) : Nat := 1 <<< (f.precision + f.exponentBits - 1)

def unit (f : Format) : Nat := 1 <<< (f.precision - 1)

end Format

structure Binary (f : Format) where
  bits : Nat
  deriving DecidableEq

abbrev Single := Binary .single

abbrev Double := Binary .double

namespace Binary

/-- What the bits of a number say. A finite number is `± significand * 2 ^ exponent`. -/
inductive View
  | finite (negative : Bool) (significand : Nat) (exponent : Int)
  | infinite (negative : Bool)
  | undefined
  deriving DecidableEq

variable {f : Format}

def negative (x : Binary f) : Bool := f.signWeight ≤ x.bits

def magnitude (x : Binary f) : Nat := if x.negative then x.bits - f.signWeight else x.bits

def view (x : Binary f) : View :=
  let field := x.magnitude / f.unit
  let fraction := x.magnitude % f.unit
  if field = f.topField then
    if fraction = 0 then .infinite x.negative else .undefined
  else if field = 0 then .finite x.negative fraction f.minExponent
  else .finite x.negative (f.unit + fraction) (f.minExponent + (field - 1))

def ofSignMagnitude (negative : Bool) (magnitude : Nat) : Binary f :=
  ⟨if negative then f.signWeight + magnitude else magnitude⟩

def infinity (negative : Bool) : Binary f :=
  ofSignMagnitude negative (f.topField * f.unit)

def undefined : Binary f :=
  ofSignMagnitude true (f.topField * f.unit + f.unit / 2)

def zero (negative : Bool) : Binary f := ofSignMagnitude negative 0

def outward (x : Binary f) : Binary f := ofSignMagnitude x.negative (x.magnitude + 1)

/-- The nearest integer to `n / d`, a tie going to the even neighbour. -/
def divideToEven (n d : Nat) : Nat :=
  let q := n / d
  let twice := 2 * (n % d)
  if twice < d then q
  else if d < twice then q + 1
  else if q % 2 = 0 then q else q + 1

def inUnits (n d : Nat) (e : Int) : Nat × Nat :=
  if 0 ≤ e then (n, d <<< e.toNat) else (n <<< (-e).toNat, d)

def floorLog2 (n d : Nat) : Int :=
  let e : Int := (n.log2 : Int) - (d.log2 : Int)
  let (n', d') := inUnits n d e
  if d' ≤ n' then e else e - 1

/-- The number of the format nearest to `± (n / d) * 2 ^ e`. -/
def round (negative : Bool) (n d : Nat) (e : Int) : Binary f :=
  if n = 0 then zero negative
  else
    let top := floorLog2 n d + e
    let last := max (top - (f.precision - 1)) f.minExponent
    let (n', d') := inUnits n d (last - e)
    let significand := divideToEven n' d'
    -- a carry out of the significand runs on into the exponent field
    let magnitude := (last - f.minExponent).toNat * f.unit + significand
    if f.topField * f.unit ≤ magnitude then infinity negative
    else ofSignMagnitude negative magnitude

def ofNat (n : Nat) : Binary f := round false n 1 0

def ofRatio (n d : Nat) : Binary f := round false n d 0

def convert {g : Format} (x : Binary f) : Binary g :=
  match x.view with
  | .finite negative m e => round negative m 1 e
  | .infinite negative => infinity negative
  | .undefined => undefined

def neg (x : Binary f) : Binary f := ofSignMagnitude (!x.negative) x.magnitude

/-- The exact sum of two finite numbers; a sum of zero is negative only if both terms are. -/
def addFinite (s : Bool) (m : Nat) (e : Int) (t : Bool) (n : Nat) (d : Int) : Binary f :=
  let low := min e d
  let signed (s : Bool) (m : Nat) (e : Int) : Int :=
    let shifted := m <<< (e - low).toNat
    if s then -(shifted : Int) else shifted
  let total := signed s m e + signed t n d
  if total = 0 then zero (s && t) else round (total < 0) total.natAbs 1 low

def add (x y : Binary f) : Binary f :=
  match x.view, y.view with
  | .finite s m e, .finite t n d => addFinite s m e t n d
  | .infinite s, .infinite t => if s = t then infinity s else undefined
  | .infinite s, .finite .. => infinity s
  | .finite .., .infinite t => infinity t
  | _, _ => undefined

def mul (x y : Binary f) : Binary f :=
  match x.view, y.view with
  | .finite s m e, .finite t n d => round (s != t) (m * n) 1 (e + d)
  | .infinite s, .infinite t => infinity (s != t)
  | .infinite s, .finite t n _ => if n = 0 then undefined else infinity (s != t)
  | .finite s m _, .infinite t => if m = 0 then undefined else infinity (s != t)
  | _, _ => undefined

def div (x y : Binary f) : Binary f :=
  match x.view, y.view with
  | .finite s m e, .finite t n d =>
    if n = 0 then if m = 0 then undefined else infinity (s != t)
    else round (s != t) m n (e - d)
  | .infinite s, .finite t .. => infinity (s != t)
  | .finite s .., .infinite t => zero (s != t)
  | _, _ => undefined

instance : Neg (Binary f) := ⟨neg⟩
instance : Add (Binary f) := ⟨add⟩
instance : Sub (Binary f) := ⟨fun x y => x + -y⟩
instance : Mul (Binary f) := ⟨mul⟩
instance : Div (Binary f) := ⟨div⟩

def remainder (x : Binary f) (n : Nat) : Binary f :=
  match x.view with
  | .finite s m e =>
    if 0 ≤ e then round s ((m <<< e.toNat) % n) 1 0
    else round s (m % (n <<< (-e).toNat)) 1 e
  | _ => undefined

def isUndefined (x : Binary f) : Bool := x.view = .undefined

/-- The position of a number in the total order in which zeros differ by their sign and what is not
a number comes before or after all others. -/
def totalKey (x : Binary f) : Int := if x.negative then -1 - x.magnitude else x.magnitude

def key (x : Binary f) : Int := if x.negative then -(x.magnitude : Int) else x.magnitude

def lt (x y : Binary f) : Bool := !x.isUndefined && !y.isUndefined && x.key < y.key

def le (x y : Binary f) : Bool := !x.isUndefined && !y.isUndefined && x.key ≤ y.key

instance : LT (Binary f) := ⟨fun x y => lt x y = true⟩
instance : LE (Binary f) := ⟨fun x y => le x y = true⟩
instance (x y : Binary f) : Decidable (x < y) := inferInstanceAs (Decidable (lt x y = true))
instance (x y : Binary f) : Decidable (x ≤ y) := inferInstanceAs (Decidable (le x y = true))

def clamp (x low high : Binary f) : Binary f :=
  if x < low then low else if high < x then high else x

/-- The nearest whole number within `0 … limit`, a half going up. -/
def toNatClamped (x : Binary f) (limit : Nat) : Nat :=
  match x.view with
  | .finite true .. => 0
  | .finite false m e =>
    if 0 ≤ e then min limit (m <<< e.toNat)
    else min limit ((2 * m + (1 <<< (-e).toNat)) / (2 <<< (-e).toNat))
  | .infinite negative => if negative then 0 else limit
  | .undefined => 0

def isZero (x : Binary f) : Bool := x.magnitude = 0

def toInt? (x : Binary f) : Option Int :=
  match x.view with
  | .finite s m e =>
    let whole? : Option Nat :=
      if 0 ≤ e then some (m <<< e.toNat)
      else if m % (1 <<< (-e).toNat) = 0 then some (m >>> (-e).toNat) else none
    whole?.map fun n => if s then -(n : Int) else n
  | _ => none

def tenPow (n : Nat) : Binary f := round false (Nat.pow 10 n) 1 0

end Binary

end UtilityStyle
