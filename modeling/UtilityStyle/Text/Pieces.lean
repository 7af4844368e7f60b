import UtilityStyle.Text.Blank

namespace UtilityStyle.Text

/-- The pieces between separators. There is always at least one. -/
def pieces (isSeparator : Char → Bool) : List Char → List (List Char)
  | [] => [[]]
  | c :: rest =>
    if isSeparator c then [] :: pieces isSeparator rest
    else match pieces isSeparator rest with
      | [] => [[c]]
      | piece :: others => (c :: piece) :: others

def join (separator : Char) : List (List Char) → List Char
  | [] => []
  | [piece] => piece
  | piece :: other :: others => piece ++ separator :: join separator (other :: others)

theorem pieces_ne_nil (isSeparator : Char → Bool) (cs : List Char) :
    pieces isSeparator cs ≠ [] := by
  cases cs with
  | nil => simp [pieces]
  | cons c rest =>
    unfold pieces
    split
    · simp
    · split <;> simp

theorem join_pieces (separator : Char) (cs : List Char) :
    join separator (pieces (· == separator) cs) = cs := by
  induction cs with
  | nil => rfl
  | cons c rest ih =>
    unfold pieces
    split <;> rename_i h
    · have hc : c = separator := by simpa using h
      cases hp : pieces (· == separator) rest with
      | nil => exact absurd hp (pieces_ne_nil _ rest)
      | cons piece others => rw [hp] at ih; simp [join, ih, hc]
    · cases hp : pieces (· == separator) rest with
      | nil => exact absurd hp (pieces_ne_nil _ rest)
      | cons piece others =>
        rw [hp] at ih
        cases others with
        | nil => simpa [join] using ih
        | cons other others => simpa [join] using ih

theorem not_mem_of_mem_pieces {isSeparator : Char → Bool} {cs piece : List Char}
    (h : piece ∈ pieces isSeparator cs) : ∀ c ∈ piece, isSeparator c = false := by
  induction cs generalizing piece with
  | nil => simp [pieces] at h; simp [h]
  | cons c rest ih =>
    unfold pieces at h
    split at h <;> rename_i hc
    · rcases List.mem_cons.1 h with rfl | h
      · simp
      · exact ih h
    · cases hp : pieces isSeparator rest with
      | nil => exact absurd hp (pieces_ne_nil _ rest)
      | cons first others =>
        rw [hp] at h ih
        rcases List.mem_cons.1 h with rfl | h
        · intro d hd
          rcases List.mem_cons.1 hd with rfl | hd
          · simpa using hc
          · exact ih (List.mem_cons_self ..) d hd
        · exact ih (List.mem_cons_of_mem _ h)

def words (text : String) : List String :=
  ((pieces isBlank text.toList).filter (!·.isEmpty)).map String.ofList

def cutLast (separator : Char) : List Char → Option (List Char × List Char)
  | [] => none
  | c :: rest =>
    match cutLast separator rest with
    | some (before, after) => some (c :: before, after)
    | none => if c = separator then some ([], rest) else none

def afterStart (start text : String) : Option String :=
  (start.toList.isPrefixOf? text.toList).map String.ofList

def beforeEnd (finish text : String) : Option String :=
  (finish.toList.isSuffixOf? text.toList).map String.ofList

def afterDash (name text : String) : Option String := afterStart (name ++ "-") text

/-- What follows the first `n` bytes, or nothing if they end inside a character. -/
def dropBytes : (n : Nat) → List Char → List Char
  | 0, cs => cs
  | _ + 1, [] => []
  | n + 1, c :: rest => if c.utf8Size ≤ n + 1 then dropBytes (n + 1 - c.utf8Size) rest else []

end UtilityStyle.Text
