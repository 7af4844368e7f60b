import UtilityStyle.Json.Basic

/-!
JSON text as written, before it is judged. A `Document` keeps number literals, repeated names and
any nesting; `Document.json?` gives the value it stands for, or nothing where a number is too large,
an escape is half of a pair or the nesting too deep. Readers of particular shapes work on documents,
because a repeated name matters to them and a part they skip is never judged.
-/

namespace UtilityStyle

structure Literal where
  negative : Bool
  whole : List Char
  fraction : Option (List Char)
  exponent : Option Int
  deriving DecidableEq

namespace Literal

structure Gathered where
  significand : Nat
  exponent : Int
  full : Bool

/-- Adds a digit unless the significand would outgrow 64 bits. From then on digits before the point
only count as places. -/
def Gathered.add (beforePoint : Bool) (g : Gathered) (digit : Char) : Gathered :=
  let next := 10 * g.significand + digitValue digit
  if g.full || Nat.pow 2 64 ≤ next then
    ⟨g.significand, if beforePoint then g.exponent + 1 else g.exponent, true⟩
  else ⟨next, if beforePoint then g.exponent else g.exponent - 1, false⟩

/-- Divides by ten to the power `n`, in steps of at most `10 ^ 308`. -/
def scaleDown (x : Double) (n : Nat) : Double :=
  if n ≤ 308 then x / Binary.tenPow n
  else if Binary.isZero x then x
  else scaleDown (x / Binary.tenPow 308) (n - 308)
termination_by n

/-- Scales by a power of ten, rounding once for the significand and once for the scaling. Nothing if
the result is too large. -/
def scale? (x : Double) (exponent : Int) : Option Double :=
  if exponent < 0 then some (scaleDown x exponent.natAbs)
  else if Binary.isZero x then some x
  else if 308 < exponent then none
  else
    let y := x * Binary.tenPow exponent.toNat
    if y.view = .infinite false then none else some y

def double? (l : Literal) : Option Number :=
  let whole := l.whole.foldl (Gathered.add true) ⟨0, 0, false⟩
  let all := (l.fraction.getD []).foldl (Gathered.add false) { whole with full := false }
  (scale? (Binary.ofNat all.significand) (all.exponent + l.exponent.getD 0)).map fun x =>
    .double (if l.negative then -x else x)

/-- A literal without point and exponent is whole if it fits 64 bits, signed if it is negative.
Any other is a double, and so is `-0`. -/
def number? (l : Literal) : Option Number :=
  let n := digitsValue l.whole
  if l.fraction.isNone && l.exponent.isNone then
    if l.negative then
      if 0 < n && n ≤ Nat.pow 2 63 then some (.whole (-(n : Int))) else l.double?
    else if n < Nat.pow 2 64 then some (.whole n)
    else l.double?
  else l.double?

end Literal

/-- A JSON text as written. A string is missing if it holds half of a surrogate pair. -/
inductive Document
  | null
  | bool (value : Bool)
  | number (literal : Literal)
  | string (text : Option String)
  | array (items : List Document)
  | object (members : List (Option String × Document))

namespace Document

def isSpace (c : Char) : Bool := c = ' ' || c = '\t' || c = '\n' || c = '\r'

def skip (cs : List Char) : List Char := cs.dropWhile isSpace

def hex4? (a b c d : Char) : Option Nat := do
  return 4096 * (← hexValue? a) + 256 * (← hexValue? b) + 16 * (← hexValue? c) + (← hexValue? d)

def simpleEscape? : Char → Option Char
  | '"' => some '"'
  | '\\' => some '\\'
  | '/' => some '/'
  | 'b' => some '\x08'
  | 'f' => some '\x0c'
  | 'n' => some '\n'
  | 'r' => some '\r'
  | 't' => some '\t'
  | _ => none

/-- The units of a string up to its closing quote: code points, with halves of surrogate pairs left
as they are. -/
def units : List Char → Option (List Nat × List Char)
  | [] => none
  | '"' :: rest => some ([], rest)
  | '\\' :: 'u' :: a :: b :: c :: d :: rest => do
    let unit ← hex4? a b c d
    let (more, rest) ← units rest
    return (unit :: more, rest)
  | '\\' :: e :: rest => do
    let c ← simpleEscape? e
    let (more, rest) ← units rest
    return (c.toNat :: more, rest)
  | c :: rest =>
    if c.toNat < 0x20 || c = '\\' then none
    else do
      let (more, rest) ← units rest
      return (c.toNat :: more, rest)

def paired : List Nat → Option (List Char)
  | [] => some []
  | [unit] => if 0xD800 ≤ unit && unit < 0xE000 then none else some [Char.ofNat unit]
  | high :: low :: rest =>
    if 0xD800 ≤ high && high < 0xDC00 then
      if 0xDC00 ≤ low && low < 0xE000 then
        (paired rest).map (Char.ofNat (0x10000 + (high - 0xD800) * 0x400 + (low - 0xDC00)) :: ·)
      else none
    else if 0xDC00 ≤ high && high < 0xE000 then none
    else (paired (low :: rest)).map (Char.ofNat high :: ·)

def readString (cs : List Char) : Option (Option String × List Char) :=
  (units cs).map fun (us, rest) => ((paired us).map String.ofList, rest)

def readDigits (cs : List Char) : Option (List Char × List Char) :=
  let digits := cs.takeWhile isDigit
  if digits.isEmpty then none else some (digits, cs.dropWhile isDigit)

def readFraction : List Char → Option (Option (List Char) × List Char)
  | '.' :: rest => (readDigits rest).map fun (digits, rest) => (some digits, rest)
  | rest => some (none, rest)

def readExponent : List Char → Option (Option Int × List Char)
  | mark :: rest =>
    if mark = 'e' || mark = 'E' then
      let (negative, rest) := match rest with
        | '-' :: rest => (true, rest)
        | '+' :: rest => (false, rest)
        | rest => (false, rest)
      (readDigits rest).map fun (digits, rest) =>
        let n : Int := digitsValue digits
        (some (if negative then -n else n), rest)
    else some (none, mark :: rest)
  | [] => some (none, [])

def readNumber (cs : List Char) : Option (Literal × List Char) := do
  let (negative, cs) := match cs with
    | '-' :: rest => (true, rest)
    | rest => (false, rest)
  let (whole, rest) ← readDigits cs
  if whole.head? = some '0' && whole.length ≠ 1 then none
  else
    let (fraction, rest) ← readFraction rest
    let (exponent, rest) ← readExponent rest
    return (⟨negative, whole, fraction, exponent⟩, rest)

mutual

def readValue : (fuel : Nat) → List Char → Option (Document × List Char)
  | 0, _ => none
  | fuel + 1, cs =>
    match skip cs with
    | 'n' :: 'u' :: 'l' :: 'l' :: rest => some (.null, rest)
    | 't' :: 'r' :: 'u' :: 'e' :: rest => some (.bool true, rest)
    | 'f' :: 'a' :: 'l' :: 's' :: 'e' :: rest => some (.bool false, rest)
    | '"' :: rest => (readString rest).map fun (text, rest) => (.string text, rest)
    | '[' :: rest =>
      match skip rest with
      | ']' :: rest => some (.array [], rest)
      | rest => (readItems fuel rest).map fun (items, rest) => (.array items, rest)
    | '\x7b' :: rest =>
      match skip rest with
      | '\x7d' :: rest => some (.object [], rest)
      | rest => (readMembers fuel rest).map fun (members, rest) => (.object members, rest)
    | rest => (readNumber rest).map fun (literal, rest) => (.number literal, rest)

def readItems : (fuel : Nat) → List Char → Option (List Document × List Char)
  | 0, _ => none
  | fuel + 1, cs => do
    let (item, rest) ← readValue fuel cs
    match skip rest with
    | ',' :: rest =>
      let (items, rest) ← readItems fuel rest
      return (item :: items, rest)
    | ']' :: rest => return ([item], rest)
    | _ => none

def readMembers : (fuel : Nat) → List Char → Option (List (Option String × Document) × List Char)
  | 0, _ => none
  | fuel + 1, cs => do
    let '"' :: rest := skip cs | none
    let (key, rest) ← readString rest
    let ':' :: rest := skip rest | none
    let (value, rest) ← readValue fuel rest
    match skip rest with
    | ',' :: rest =>
      let (members, rest) ← readMembers fuel rest
      return ((key, value) :: members, rest)
    | '\x7d' :: rest => return ([(key, value)], rest)
    | _ => none

end

/-- Reads a whole text. Every call but the last of a list takes a character, so twice the length is
fuel enough. -/
def read? (text : String) : Option Document := do
  let (document, rest) ← readValue (2 * text.length + 2) text.toList
  if (skip rest).isEmpty then some document else none

mutual

/-- The value of a document with at most `room` arrays and objects inside one another. A repeated
name keeps its first position and takes its last value. -/
def json? (room : Nat) : Document → Option Json
  | .null => some .null
  | .bool value => some (.bool value)
  | .number literal => literal.number?.map .number
  | .string text => text.map .string
  | .array items => if room = 0 then none else (itemsJson? (room - 1) items).map .array
  | .object members =>
    if room = 0 then none
    else (membersJson? (room - 1) members).map fun all => .object (Entries.putAll [] all)

def itemsJson? (room : Nat) : List Document → Option (List Json)
  | [] => some []
  | item :: rest => do return (← json? room item) :: (← itemsJson? room rest)

def membersJson? (room : Nat) : List (Option String × Document) → Option Fields
  | [] => some []
  | (key, value) :: rest => do return (← key, ← json? room value) :: (← membersJson? room rest)

end

end Document

namespace Json

def read? (text : String) : Option Json := (Document.read? text).bind (·.json? 127)

def readFields? (text : String) : Option Fields := (read? text).bind fields?

end Json

end UtilityStyle
