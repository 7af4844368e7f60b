import UtilityStyle.Number.Binary
import UtilityStyle.Number.Digit

/-!
The lexemes of CSS that colors are made of. Blanks and comments between them are skipped, names may
hold escapes, and numbers are summed digit by digit in double precision and kept in single.
-/

namespace UtilityStyle.Color

inductive Lexeme
  | ident (name : String)
  | function (name : String)
  | hash (name : String)
  | number (value : Single)
  | percentage (value : Single)
  | dimension (value : Single) (unit : String)
  | comma
  | slash
  | close
  deriving DecidableEq

namespace Lexeme

def isNewline (c : Char) : Bool := c = '\n' || c = '\r' || c = '\x0c'

def isSpace (c : Char) : Bool := c = ' ' || c = '\t' || isNewline c

def isAsciiLetter (c : Char) : Bool := ('a' ≤ c && c ≤ 'z') || ('A' ≤ c && c ≤ 'Z')

def isNameStart (c : Char) : Bool := isAsciiLetter c || c = '_' || c = '\x00' || 0x80 ≤ c.toNat

def isNameChar (c : Char) : Bool := isNameStart c || isDigit c || c = '-'

def startsEscape : List Char → Bool
  | '\\' :: c :: _ => !isNewline c
  | ['\\'] => true
  | _ => false

def startsName : List Char → Bool
  | '-' :: c :: rest => isNameStart c || c = '-' || c = '\\' && startsEscape (c :: rest)
  | c :: rest => isNameStart c || startsEscape (c :: rest)
  | [] => false

def startsNumber : List Char → Bool
  | c :: d :: e :: _ =>
    isDigit c || c = '.' && isDigit d ||
      (c = '+' || c = '-') && (isDigit d || d = '.' && isDigit e)
  | [c, d] => isDigit c || c = '.' && isDigit d || (c = '+' || c = '-') && isDigit d
  | [c] => isDigit c
  | [] => false

def replacement : Char := '\uFFFD'

def skipOneSpace : List Char → List Char
  | '\r' :: '\n' :: rest => rest
  | c :: rest => if isSpace c then rest else c :: rest
  | [] => []

def readEscape (cs : List Char) : Char × List Char :=
  let digits := (cs.take 6).takeWhile isHexDigit
  if digits.isEmpty then
    match cs with
    | [] => (replacement, [])
    | c :: rest => (if c = '\x00' then replacement else c, rest)
  else
    let n := digits.foldl (fun n c => 16 * n + (hexValue? c).getD 0) 0
    let c := if n ≠ 0 && n.isValidChar then Char.ofNat n else replacement
    (c, skipOneSpace (cs.drop digits.length))

/-- Reads a name. Each character or escape uses a unit of `fuel`. -/
def nameFrom : (fuel : Nat) → List Char → List Char × List Char
  | 0, cs => ([], cs)
  | _ + 1, [] => ([], [])
  | fuel + 1, c :: rest =>
    if isNameChar c then
      let (name, rest) := nameFrom fuel rest
      ((if c = '\x00' then replacement else c) :: name, rest)
    else if startsEscape (c :: rest) then
      let (d, rest) := readEscape rest
      let (name, rest) := nameFrom fuel rest
      (d :: name, rest)
    else ([], c :: rest)

def readName (cs : List Char) : String × List Char :=
  let (name, rest) := nameFrom (cs.length + 1) cs
  (String.ofList name, rest)

def addDigit (n : Double) (c : Char) : Double :=
  n * Binary.ofNat 10 + Binary.ofNat (digitValue c)

/-- Sums the digits behind a point, each times its own power of a tenth. -/
def fraction (digits : List Char) : Double :=
  let tenth : Double := Binary.ofRatio 1 10
  let step (acc : Double × Double) (c : Char) : Double × Double :=
    (acc.1 + Binary.ofNat (digitValue c) * acc.2, acc.2 * tenth)
  (digits.foldl step (Binary.zero false, tenth)).1

/-- Powers of ten close to the middle between two doubles, for which the upper one is taken. -/
def raisedPowers : List Nat := [23, 210]

def tenPow (n : Nat) : Double :=
  if raisedPowers.contains n then (Binary.tenPow n).outward else Binary.tenPow n

def power (negative : Bool) (digits : List Char) : Double :=
  let n := digitsValue digits
  if 400 < n then if negative then Binary.zero false else Binary.infinity false
  else if negative then Binary.ofRatio 1 (Nat.pow 10 n)
  else tenPow n

def readSign : List Char → Bool × List Char
  | '-' :: rest => (true, rest)
  | '+' :: rest => (false, rest)
  | rest => (false, rest)

def readPower (cs : List Char) : Option Double × List Char :=
  match cs with
  | mark :: rest =>
    let (negative, rest) := readSign rest
    let digits := rest.takeWhile isDigit
    if (mark = 'e' || mark = 'E') && !digits.isEmpty then
      (some (power negative digits), rest.dropWhile isDigit)
    else (none, cs)
  | [] => (none, [])

def readFraction (cs : List Char) : List Char × List Char :=
  match cs with
  | '.' :: rest =>
    let digits := rest.takeWhile isDigit
    if digits.isEmpty then ([], cs) else (digits, rest.dropWhile isDigit)
  | _ => ([], cs)

def readValue (cs : List Char) : Double × List Char :=
  let (negative, cs) := readSign cs
  let whole := (cs.takeWhile isDigit).foldl addDigit (Binary.zero false)
  let (digits, rest) := readFraction (cs.dropWhile isDigit)
  let sum := whole + fraction digits
  let signed := if negative then -sum else sum
  match readPower rest with
  | (some power, rest) => (signed * power, rest)
  | (none, rest) => (signed, rest)

def readNumber (cs : List Char) : Lexeme × List Char :=
  let (value, rest) := readValue cs
  match rest with
  | '%' :: rest => (.percentage (value / Binary.ofNat 100).convert, rest)
  | _ =>
    if startsName rest then
      let (unit, rest) := readName rest
      (.dimension value.convert unit, rest)
    else (.number value.convert, rest)

/-- What follows a comment. One that is never closed ends with the text. -/
def skipComment : List Char → List Char
  | '*' :: '/' :: rest => rest
  | _ :: rest => skipComment rest
  | [] => []

def readFrom : (fuel : Nat) → List Char → Option (List Lexeme)
  | _, [] => some []
  | 0, _ :: _ => none
  | fuel + 1, c :: rest =>
    let cs := c :: rest
    if isSpace c then readFrom fuel rest
    else if startsNumber cs then
      let (lexeme, rest) := readNumber cs
      (readFrom fuel rest).map (lexeme :: ·)
    else if startsName cs then
      match readName cs with
      | (name, '(' :: rest) => (readFrom fuel rest).map (.function name :: ·)
      | (name, rest) => (readFrom fuel rest).map (.ident name :: ·)
    else match cs with
      | '#' :: d :: rest =>
        if startsName (d :: rest) || isDigit d || d = '-' then
          let (name, rest) := readName (d :: rest)
          (readFrom fuel rest).map (.hash name :: ·)
        else none
      | '/' :: '*' :: rest => readFrom fuel (skipComment rest)
      | '/' :: rest => (readFrom fuel rest).map (.slash :: ·)
      | ',' :: rest => (readFrom fuel rest).map (.comma :: ·)
      | ')' :: rest => (readFrom fuel rest).map (.close :: ·)
      | _ => none

def readAll (cs : List Char) : Option (List Lexeme) := readFrom cs.length cs

end Lexeme

end UtilityStyle.Color
