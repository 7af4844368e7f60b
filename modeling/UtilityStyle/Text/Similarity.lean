import UtilityStyle.Number.Binary
import UtilityStyle.Text.Blank

namespace UtilityStyle.Text

def bigrams : List Char → List (Char × Char)
  | a :: b :: rest => (a, b) :: bigrams (b :: rest)
  | _ => []

def sharedCount [DecidableEq α] (xs : List α) : List α → Nat
  | [] => 0
  | y :: ys => if y ∈ xs then sharedCount (xs.erase y) ys + 1 else sharedCount xs ys

def byteCount : List Char → Nat
  | [] => 0
  | c :: rest => c.utf8Size + byteCount rest

def visible (text : String) : List Char := text.toList.filter (!isBlank ·)

/-- Twice the shared pairs over the pairs of both texts, where a text has as many pairs as it has
bytes but one. Equal texts are fully alike, and a text of one byte or none is like no other. -/
def similarity (a b : String) : Double :=
  let xs := visible a
  let ys := visible b
  if xs = ys then Binary.ofNat 1
  else if byteCount xs < 2 || byteCount ys < 2 then Binary.zero false
  else Binary.ofRatio (2 * sharedCount (bigrams xs) (bigrams ys)) (byteCount xs + byteCount ys - 2)

end UtilityStyle.Text
