import UtilityStyle.Text.Pieces

namespace UtilityStyle.Text

theorem pieces_eq_singleton {isSeparator : Char → Bool} {cs : List Char}
    (h : ∀ c ∈ cs, isSeparator c = false) : pieces isSeparator cs = [cs] := by
  induction cs with
  | nil => rfl
  | cons c rest ih =>
    obtain ⟨hc, hr⟩ := List.forall_mem_cons.1 h
    simp [pieces, hc, ih hr]

theorem pieces_of_not_mem {separator : Char} {cs : List Char} (h : separator ∉ cs) :
    pieces (· == separator) cs = [cs] :=
  pieces_eq_singleton fun c hc => by simpa using fun e : c = separator => h (e ▸ hc)

theorem pieces_append_separator {isSeparator : Char → Bool} {piece : List Char} {separator : Char}
    (h : ∀ c ∈ piece, isSeparator c = false) (hs : isSeparator separator) (rest : List Char) :
    pieces isSeparator (piece ++ separator :: rest) = piece :: pieces isSeparator rest := by
  induction piece with
  | nil => simp [pieces, hs]
  | cons c piece ih =>
    obtain ⟨hc, hr⟩ := List.forall_mem_cons.1 h
    simp [pieces, hc, ih hr]

theorem pieces_append_cons {isSeparator : Char → Bool} {separator : Char}
    (hs : isSeparator separator) (before after : List Char) :
    pieces isSeparator (before ++ separator :: after) =
      pieces isSeparator before ++ pieces isSeparator after := by
  induction before with
  | nil => simp [pieces, hs]
  | cons c before ih =>
    rw [List.cons_append, pieces, pieces, ih]
    split
    · rfl
    · cases hp : pieces isSeparator before with
      | nil => exact absurd hp (pieces_ne_nil _ before)
      | cons piece others => rfl

theorem pieces_join {isSeparator : Char → Bool} {separator : Char} (hs : isSeparator separator)
    {ps : List (List Char)} (h : ∀ piece ∈ ps, ∀ c ∈ piece, isSeparator c = false) (hne : ps ≠ []) :
    pieces isSeparator (join separator ps) = ps := by
  induction ps with
  | nil => exact absurd rfl hne
  | cons piece others ih =>
    obtain ⟨hp, ho⟩ := List.forall_mem_cons.1 h
    cases others with
    | nil => exact pieces_eq_singleton hp
    | cons other others => rw [join, pieces_append_separator hp hs, ih ho (by simp)]

theorem join_cons (separator : Char) (piece : List Char) (others : List (List Char)) :
    join separator (piece :: others) = piece ++ others.flatMap (separator :: ·) := by
  induction others generalizing piece with
  | nil => simp [join]
  | cons other others ih => rw [join, ih, List.flatMap_cons, List.cons_append]

theorem join_eq_intercalate (separator : Char) (ps : List (List Char)) :
    join separator ps = [separator].intercalate ps := by
  induction ps with
  | nil => rfl
  | cons piece others ih =>
    cases others with
    | nil => simp [join]
    | cons other others => rw [join, ih, List.intercalate_cons_cons]; simp

theorem toList_intercalate {separator : String} {c : Char} (h : separator.toList = [c])
    (texts : List String) :
    (separator.intercalate texts).toList = join c (texts.map String.toList) := by
  rw [String.toList_intercalate, h, join_eq_intercalate]

theorem pieces_flatMap_append {separator : Char} {names : List (List Char)}
    (h : ∀ name ∈ names, separator ∉ name) (rest : List Char) :
    pieces (· == separator) (names.flatMap (· ++ [separator]) ++ rest) =
      names ++ pieces (· == separator) rest := by
  induction names with
  | nil => rfl
  | cons name names ih =>
    obtain ⟨hn, hr⟩ := List.forall_mem_cons.1 h
    have hfree : ∀ c ∈ name, (c == separator) = false := by
      intro c hc
      simpa using fun e : c = separator => hn (e ▸ hc)
    have hcons : (name :: names).flatMap (· ++ [separator]) ++ rest =
        name ++ separator :: (names.flatMap (· ++ [separator]) ++ rest) := by simp
    rw [hcons, pieces_append_separator hfree (by simp), ih hr, List.cons_append]

theorem join_eq_flatMap_append (separator : Char) {ps : List (List Char)} {n : Nat}
    (h : n < ps.length) :
    join separator ps =
      (ps.take n).flatMap (· ++ [separator]) ++ join separator (ps.drop n) := by
  induction n generalizing ps with
  | zero => rfl
  | succ n ih =>
    cases ps with
    | nil => cases h
    | cons piece others =>
      cases others with
      | nil => simp at h
      | cons other others =>
        have hr : n < (other :: others).length := by simpa using h
        simp [join, ih hr]

theorem cutLast_eq_none_iff {separator : Char} {cs : List Char} :
    cutLast separator cs = none ↔ separator ∉ cs := by
  induction cs with
  | nil => simp [cutLast]
  | cons c rest ih =>
    unfold cutLast
    cases h : cutLast separator rest with
    | some cut => simp [← ih, h]
    | none =>
      have hr := ih.1 h
      by_cases hc : c = separator
      · simp [hc]
      · simp [hc, hr, Ne.symm hc]

theorem cutLast_append {separator : Char} {after : List Char} (h : separator ∉ after)
    (before : List Char) :
    cutLast separator (before ++ separator :: after) = some (before, after) := by
  induction before with
  | nil => simp [cutLast, cutLast_eq_none_iff.2 h]
  | cons c before ih => simp [cutLast, ih]

theorem cutLast_eq_some_iff {separator : Char} {cs before after : List Char} :
    cutLast separator cs = some (before, after) ↔
      cs = before ++ separator :: after ∧ separator ∉ after := by
  constructor
  · intro h
    induction cs generalizing before with
    | nil => cases h
    | cons c rest ih =>
      unfold cutLast at h
      split at h
      · rename_i front back hcut
        cases h
        obtain ⟨rfl, hafter⟩ := ih hcut
        exact ⟨rfl, hafter⟩
      · rename_i hcut
        split at h <;> cases h
        rename_i hc
        exact ⟨by rw [hc, List.nil_append], cutLast_eq_none_iff.1 hcut⟩
  · rintro ⟨rfl, h⟩
    exact cutLast_append h before

theorem join_append_separator (separator : Char) {ps : List (List Char)} (h : ps ≠ [])
    (rest : List Char) :
    join separator ps ++ separator :: rest = ps.flatMap (· ++ [separator]) ++ rest := by
  induction ps with
  | nil => exact absurd rfl h
  | cons piece others ih =>
    cases others with
    | nil => simp [join]
    | cons other others => simpa [join] using ih (by simp)

theorem pieces_eq_takeWhile_cons (separator : Char) (cs : List Char) :
    ∃ others, pieces (· == separator) cs = cs.takeWhile (· ≠ separator) :: others := by
  induction cs with
  | nil => exact ⟨[], rfl⟩
  | cons c rest ih =>
    obtain ⟨others, ho⟩ := ih
    by_cases hc : c = separator
    · exact ⟨_, by simp [pieces, hc]; rfl⟩
    · exact ⟨others, by simp [pieces, hc, ho]⟩

end UtilityStyle.Text
