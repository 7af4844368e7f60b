import Mathlib.Algebra.GroupWithZero.Nat
import Mathlib.Data.List.Induction
import UtilityStyle.Suggestion.Basic

namespace UtilityStyle

namespace Text

theorem exists_trimEnd (text : String) :
    ∃ blanks, text = trimEnd text ++ blanks ∧ allBlank blanks ∧
      ∀ c ∈ (trimEnd text).toList.getLast?, isBlank c = false := by
  refine ⟨.ofList (text.toList.reverse.takeWhile isBlank).reverse, ?_, ?_, ?_⟩
  · apply String.toList_inj.1
    rw [String.toList_append, trimEnd, String.toList_ofList, String.toList_ofList, dropBlanksEnd,
      dropBlanks, ← List.reverse_append, List.takeWhile_append_dropWhile, List.reverse_reverse]
  · simp only [allBlank, String.toList_ofList, List.all_reverse, List.all_takeWhile]
  · intro c hc
    rw [trimEnd, String.toList_ofList, dropBlanksEnd, List.getLast?_reverse] at hc
    have hdrop := List.head?_dropWhile_not isBlank text.toList.reverse
    rw [dropBlanks] at hc
    rw [Option.mem_def.1 hc] at hdrop
    simpa using hdrop

end Text

namespace Suggestion

/-- The lines hold the suggestions of a list in their order, and each but the last ends behind the
first that takes it past 60 bytes of classes and values. -/
structure Lines (list : List Suggestion) (lines : List (List Suggestion)) : Prop where
  flatten : lines.flatten = list
  nonempty : ∀ line ∈ lines, line ≠ []
  fits : ∀ line ∈ lines,
    (line.dropLast.map fun s => s.target.utf8ByteSize + s.value.utf8ByteSize).sum ≤ 60
  full : ∀ line ∈ lines.dropLast,
    60 < (line.map fun s => s.target.utf8ByteSize + s.value.utf8ByteSize).sum

def lineWidth (line : List Suggestion) : Nat := (line.map width).sum

def lineText (line : List Suggestion) : String := " / ".intercalate (line.map label)

theorem lineWidth_cons (s : Suggestion) (rest : List Suggestion) :
    lineWidth (s :: rest) = s.width + lineWidth rest :=
  rfl

theorem label_eq (s : Suggestion) :
    s.label = if s.value = "" then s.target else s.target ++ " [" ++ s.value ++ "]" := by
  simp only [label, String.isEmpty_iff]

variable {s : Suggestion} {list line : List Suggestion} {lines : List (List Suggestion)}

theorem Lines.append_singleton (h : Lines list lines) (s : Suggestion) :
    ∃ more, Lines (list ++ [s]) more := by
  induction lines using List.reverseRecOn with
  | nil =>
    obtain rfl : [] = list := h.flatten
    exact ⟨[[s]], rfl, by simp, by simp, by simp⟩
  | append_singleton init last =>
    obtain ⟨hflatten, hnonempty, hfits, hfull⟩ := h
    rw [List.dropLast_concat] at hfull
    rw [List.forall_mem_append, List.forall_mem_singleton] at hnonempty hfits
    -- a last line that is full is over, any other takes the new item
    by_cases hlast : lineLength < lineWidth last
    · refine ⟨init ++ [last] ++ [[s]], ?_, ?_, ?_, ?_⟩
      · rw [List.flatten_append, hflatten]
        rfl
      · simpa [List.forall_mem_append, or_imp, forall_and] using hnonempty
      · simpa [List.forall_mem_append, or_imp, forall_and, lineWidth] using hfits
      · rw [List.dropLast_concat, List.forall_mem_append, List.forall_mem_singleton]
        exact ⟨hfull, hlast⟩
    · refine ⟨init ++ [last ++ [s]], ?_, ?_, ?_, ?_⟩
      · rw [← hflatten]
        simp
      · rw [List.forall_mem_append, List.forall_mem_singleton]
        exact ⟨hnonempty.1, by simp⟩
      · rw [List.forall_mem_append, List.forall_mem_singleton, List.dropLast_concat]
        exact ⟨hfits.1, Nat.not_lt.1 hlast⟩
      · rwa [List.dropLast_concat]

theorem exists_lines (list : List Suggestion) : ∃ lines, Lines list lines := by
  induction list using List.reverseRecOn with
  | nil => exact ⟨[], rfl, by simp, by simp, by simp⟩
  | append_singleton init s ih =>
    obtain ⟨lines, h⟩ := ih
    exact h.append_singleton s

def cut (used : Nat) : List Suggestion → List (List Suggestion)
  | [] => []
  | s :: rest =>
    if lineLength < used + s.width then [s] :: cut 0 rest
    else match cut (used + s.width) rest with
      | [] => [[s]]
      | line :: more => (s :: line) :: more

theorem cut_last {used : Nat} (hline : line ≠ [])
    (hfits : used + lineWidth line.dropLast ≤ lineLength) : cut used line = [line] := by
  induction line generalizing used with
  | nil => exact absurd rfl hline
  | cons s rest ih =>
    cases rest with
    | nil =>
      unfold cut
      split <;> rfl
    | cons other rest =>
      rw [List.dropLast_cons_cons, lineWidth_cons] at hfits
      have hmore : cut (used + s.width) (other :: rest) = [other :: rest] :=
        ih (by simp) (by omega)
      have hopen : ¬lineLength < used + s.width := by omega
      rw [cut, if_neg hopen, hmore]

theorem cut_append {used : Nat} (hline : line ≠ [])
    (hfits : used + lineWidth line.dropLast ≤ lineLength)
    (hfull : lineLength < used + lineWidth line) (rest : List Suggestion) :
    cut used (line ++ rest) = line :: cut 0 rest := by
  induction line generalizing used with
  | nil => exact absurd rfl hline
  | cons s line ih =>
    rw [lineWidth_cons] at hfull
    cases line with
    | nil =>
      rw [show lineWidth [] = 0 from rfl, Nat.add_zero] at hfull
      rw [List.singleton_append, cut, if_pos hfull]
    | cons other line =>
      rw [List.dropLast_cons_cons, lineWidth_cons] at hfits
      have hmore : cut (used + s.width) (other :: line ++ rest) = (other :: line) :: cut 0 rest :=
        ih (by simp) (by omega) (by omega)
      have hopen : ¬lineLength < used + s.width := by omega
      rw [List.cons_append, cut, if_neg hopen, hmore]

theorem Lines.eq_cut (h : Lines list lines) : lines = cut 0 list := by
  induction lines generalizing list with
  | nil =>
    obtain rfl : [] = list := h.flatten
    rfl
  | cons line more ih =>
    obtain ⟨rfl, hnonempty, hfits, hfull⟩ := h
    obtain ⟨hline, hnonempty⟩ := List.forall_mem_cons.1 hnonempty
    obtain ⟨(hlast : lineWidth line.dropLast ≤ lineLength), hfits⟩ :=
      List.forall_mem_cons.1 hfits
    cases more with
    | nil =>
      rw [List.flatten_singleton]
      exact (cut_last hline (by omega)).symm
    | cons next more =>
      rw [List.dropLast_cons_cons] at hfull
      obtain ⟨(hpast : lineLength < lineWidth line), hfull⟩ := List.forall_mem_cons.1 hfull
      rw [List.flatten_cons, cut_append hline (by omega) (by omega),
        ← ih ⟨rfl, hnonempty, hfits, hfull⟩]

theorem exists_cut_eq_cons (used : Nat) (h : list ≠ []) :
    ∃ line more, line ≠ [] ∧ cut used list = line :: more := by
  cases list with
  | nil => exact absurd rfl h
  | cons s rest =>
    unfold cut
    split
    · exact ⟨[s], _, by simp, rfl⟩
    · split
      · exact ⟨[s], [], by simp, rfl⟩
      · exact ⟨_, _, by simp, rfl⟩

theorem lineText_cons (s : Suggestion) (h : line ≠ []) :
    lineText (s :: line) = s.label ++ " / " ++ lineText line := by
  unfold lineText
  rw [List.map_cons, String.intercalate_cons_of_ne_nil (by simpa using h)]

/-- What is laid out are the lines. The last one needs no end, and gets none where it is full. -/
theorem layout_eq (used : Nat) (list : List Suggestion) :
    layout used list = "\n".intercalate ((cut used list).map lineText) := by
  fun_induction layout used list with
  | case1 used => rfl
  | case2 used last =>
    have hcut : cut used [last] = [[last]] := by
      unfold cut
      split <;> rfl
    simp [hcut, lineText]
  | case3 used s rest hrest hfull ih =>
    obtain ⟨line, more, -, hcut⟩ := exists_cut_eq_cons 0 hrest
    rw [ih, cut, if_pos hfull, List.map_cons, String.intercalate_cons_of_ne_nil (by simp [hcut])]
    simp [lineText]
  | case4 used s rest hrest hopen ih =>
    obtain ⟨line, more, hline, hcut⟩ := exists_cut_eq_cons (used + s.width) hrest
    rw [ih, cut, if_neg hopen, hcut]
    dsimp only
    rw [List.map_cons, List.map_cons, lineText_cons s hline]
    cases more with
    | nil => simp
    | cons next more =>
      rw [String.intercalate_cons_of_ne_nil (by simp), String.intercalate_cons_of_ne_nil (by simp)]
      simp [String.append_assoc]

/-- Every list of suggestions has one cut into lines. Its text is made of the lines of that cut,
each item with its value in brackets if it has one, without the blanks at the end. -/
theorem listText_lines (list : List Suggestion) :
    ∃ lines, Lines list lines ∧ (∀ other, Lines list other → other = lines) ∧
      ∃ blanks, "\n".intercalate (lines.map fun line => " / ".intercalate (line.map fun s =>
          if s.value = "" then s.target else s.target ++ " [" ++ s.value ++ "]")) =
            listText list ++ blanks ∧
        Text.allBlank blanks ∧
        ∀ c ∈ (listText list).toList.getLast?, Text.isBlank c = false ∧ c.isWhitespace = false := by
  obtain ⟨lines, hlines⟩ := exists_lines list
  have hcut := hlines.eq_cut
  obtain ⟨blanks, htext, hblanks, hlast⟩ := Text.exists_trimEnd (layout 0 list)
  refine ⟨lines, hlines, fun other hother => hother.eq_cut.trans hcut.symm, blanks, ?_, hblanks, ?_⟩
  · simp only [← label_eq]
    rw [hcut]
    exact (layout_eq 0 list).symm.trans htext
  · intro c hc
    have hseen := hlast c hc
    refine ⟨hseen, ?_⟩
    cases hspace : c.isWhitespace with
    | false => rfl
    | true => exact absurd (Text.isBlank_of_isWhitespace hspace) (by simp [hseen])

def faces : List Suggestion := [
  ⟨"font-sans", "", Binary.zero false⟩,
  ⟨"font-mono", "Menlo, Monaco, Consolas, Liberation Mono, Courier New", Binary.zero false⟩,
  ⟨"font-serif ", "", Binary.zero false⟩]

theorem listText_lines_faces :
    ∃ first second, Lines faces [first, second] ∧ first.length = 2 ∧ second.length = 1 ∧
      listText faces =
        "font-sans / font-mono [Menlo, Monaco, Consolas, Liberation Mono, Courier New]\n" ++
          "font-serif" := by
  obtain ⟨lines, hlines, hunique, -⟩ := listText_lines faces
  have hfaces : Lines faces [faces.take 2, faces.drop 2] :=
    ⟨rfl, by decide, by decide, by decide⟩
  obtain rfl := hunique _ hfaces
  exact ⟨_, _, hlines, rfl, rfl, by decide⟩

end Suggestion

end UtilityStyle
