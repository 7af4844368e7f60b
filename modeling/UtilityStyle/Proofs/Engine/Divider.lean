import Mathlib.Algebra.Ring.Parity
import UtilityStyle.Proofs.Engine.Cascade
import UtilityStyle.Proofs.Engine.Order
import UtilityStyle.Proofs.Engine.Success

/-!
Dividers of class lists. A divider takes the spaces on both sides of its bar, so of two bars with
one space between them only the first divides, and the second is a token. What a divider does to a
list is hence decided by how many bars stand in a row: the divider goes unseen if their number is
odd, and leaves one more bar behind if it is even.
-/

namespace UtilityStyle

namespace Text

theorem words_append_cons {c : Char} (h : isBlank c) (before after : List Char) :
    words (String.ofList (before ++ c :: after)) =
      words (String.ofList before) ++ words (String.ofList after) := by
  unfold words
  rw [String.toList_ofList, String.toList_ofList, String.toList_ofList, pieces_append_cons h,
    List.filter_append, List.map_append]

theorem words_cons {c : Char} (h : isBlank c) (cs : List Char) :
    words (String.ofList (c :: cs)) = words (String.ofList cs) :=
  words_append_cons h [] cs

end Text

namespace Engine

def leadingBars : List Char → Nat
  | '|' :: ' ' :: rest => leadingBars rest + 1
  | _ => 0

def trailingBars (cs : List Char) : Nat := leadingBars cs.reverse

def barsBeside (a b : String) : Nat := trailingBars a.toList + leadingBars b.toList

theorem withoutDividers_cons {c : Char} {cs : List Char}
    (h : ∀ rest, c :: cs ≠ ' ' :: '|' :: ' ' :: rest) :
    withoutDividers (c :: cs) = c :: withoutDividers cs := by
  rw [withoutDividers]
  rintro rest rfl rfl
  exact h rest rfl

theorem withoutDividers_bar (cs : List Char) :
    withoutDividers ('|' :: cs) = '|' :: withoutDividers cs :=
  withoutDividers_cons fun _ he => absurd (List.cons.inj he).1 (by decide)

theorem exists_withoutDividers_space (cs : List Char) :
    ∃ rest, withoutDividers (' ' :: cs) = ' ' :: rest := by
  unfold withoutDividers
  split
  · exact ⟨_, rfl⟩
  · rename_i he
    cases he
    exact ⟨_, rfl⟩
  · rename_i he
    cases he

theorem withoutDividers_append {cs : List Char} (h : ∀ before, cs ≠ before ++ [' ', '|'])
    (rest : List Char) :
    withoutDividers (cs ++ ' ' :: rest) = withoutDividers cs ++ withoutDividers (' ' :: rest) := by
  fun_induction withoutDividers cs with
  | case1 cs ih =>
    have hcs : ∀ before, cs ≠ before ++ [' ', '|'] := by
      rintro before rfl
      exact h (' ' :: '|' :: ' ' :: before) rfl
    exact congrArg (' ' :: ·) (ih hcs)
  | case2 c cs hfree ih =>
    have hcs : ∀ before, cs ≠ before ++ [' ', '|'] := by
      rintro before rfl
      exact h (c :: before) rfl
    have hcons : ∀ more, c :: (cs ++ ' ' :: rest) ≠ ' ' :: '|' :: ' ' :: more := by
      intro more he
      obtain ⟨rfl, hbar⟩ := List.cons.inj he
      cases cs with
      | nil => exact absurd (List.cons.inj hbar).1 (by decide)
      | cons d cs =>
        obtain ⟨rfl, hspace⟩ := List.cons.inj hbar
        cases cs with
        | nil => exact h [] rfl
        | cons d cs =>
          obtain ⟨rfl, -⟩ := List.cons.inj hspace
          exact hfree cs rfl rfl
    rw [List.cons_append, withoutDividers_cons hcons, ih hcs, List.cons_append]
  | case3 => rfl

/-- What a text leaves of what follows it: an odd number of bars at its end takes the space that
the next divider would need. -/
theorem exists_withoutDividers_append (cs : List Char) :
    ∃ front, ∀ rest, withoutDividers (cs ++ ' ' :: rest) = front ++
      if Even (trailingBars cs) then withoutDividers (' ' :: rest)
      else ' ' :: withoutDividers rest := by
  unfold trailingBars
  generalize hr : cs.reverse = reversed
  obtain rfl : cs = reversed.reverse := by rw [← hr, List.reverse_reverse]
  clear hr
  fun_induction leadingBars reversed with
  | case1 reversed ih =>
    obtain ⟨front, hfront⟩ := ih
    have hcs : ∀ rest, ('|' :: ' ' :: reversed).reverse ++ ' ' :: rest =
        reversed.reverse ++ ' ' :: '|' :: ' ' :: rest := by
      simp
    simp only [hcs, hfront, Nat.even_add_one]
    by_cases heven : Even (leadingBars reversed)
    · exact ⟨front, fun rest => by simp [heven, withoutDividers]⟩
    · exact ⟨front ++ [' ', '|'], fun rest => by simp [heven, withoutDividers_bar]⟩
  | case2 reversed hfree =>
    refine ⟨withoutDividers reversed.reverse, fun rest => ?_⟩
    rw [if_pos Even.zero]
    apply withoutDividers_append
    intro before he
    apply hfree before.reverse
    rw [← List.reverse_reverse reversed, he]
    simp

theorem words_bar (cs : List Char) :
    Text.words (String.ofList (withoutDividers ('|' :: ' ' :: cs))) =
      "|" :: Text.words (String.ofList (withoutDividers (' ' :: cs))) := by
  obtain ⟨rest, hrest⟩ := exists_withoutDividers_space cs
  have hbar : Text.words (String.ofList ['|']) = ["|"] := by decide
  have hwords := Text.words_append_cons Text.isBlank_space ['|'] rest
  rw [hbar] at hwords
  rw [withoutDividers_bar, hrest, Text.words_cons Text.isBlank_space]
  exact hwords

theorem words_divider (cs : List Char) :
    Text.words (String.ofList (withoutDividers (' ' :: '|' :: ' ' :: cs))) =
      Text.words (String.ofList (withoutDividers cs)) :=
  Text.words_cons Text.isBlank_space _

theorem words_withoutDividers (cs : List Char) :
    Text.words (String.ofList (withoutDividers cs)) =
      (if Even (leadingBars cs) then [] else ["|"]) ++
        Text.words (String.ofList (withoutDividers (' ' :: cs))) := by
  fun_induction leadingBars cs with
  | case1 cs ih =>
    rw [words_bar, words_divider, ih]
    by_cases heven : Even (leadingBars cs) <;> simp [heven, Nat.even_add_one]
  | case2 cs hfree =>
    have hcons : withoutDividers (' ' :: cs) = ' ' :: withoutDividers cs :=
      withoutDividers_cons fun rest he => hfree rest (List.cons.inj he).2
    rw [hcons, Text.words_cons Text.isBlank_space, if_pos Even.zero, List.nil_append]

theorem exists_tokens_append (a : String) :
    ∃ before, ∀ rest : String, tokens (a ++ " " ++ rest) = before ++
      if Even (trailingBars a.toList) then
        Text.words (String.ofList (withoutDividers (' ' :: rest.toList)))
      else tokens rest := by
  obtain ⟨front, hfront⟩ := exists_withoutDividers_append a.toList
  refine ⟨Text.words (String.ofList front), fun rest => ?_⟩
  have htext : (a ++ " " ++ rest).toList = a.toList ++ ' ' :: rest.toList := by simp
  unfold tokens
  rw [htext, hfront]
  split
  · obtain ⟨more, hmore⟩ := exists_withoutDividers_space rest.toList
    rw [hmore, Text.words_append_cons Text.isBlank_space, Text.words_cons Text.isBlank_space]
  · rw [Text.words_append_cons Text.isBlank_space]

theorem tokens_divider (a b : String) :
    (Even (barsBeside a b) → tokens (a ++ " | " ++ b) = tokens (a ++ " " ++ b)) ∧
      (Odd (barsBeside a b) → ∃ before after, tokens (a ++ " " ++ b) = before ++ after ∧
        tokens (a ++ " | " ++ b) = before ++ "|" :: after) := by
  obtain ⟨before, hbefore⟩ := exists_tokens_append a
  have hdivider : a ++ " | " ++ b = a ++ " " ++ ("| " ++ b) := by
    apply String.toList_inj.1
    simp
  have hcons : ("| " ++ b).toList = '|' :: ' ' :: b.toList := by simp
  have hbar := words_bar b.toList
  have hplain := words_withoutDividers b.toList
  rw [hdivider, hbefore, hbefore]
  unfold tokens barsBeside
  rw [hcons, words_divider, hbar, hplain]
  by_cases ha : Even (trailingBars a.toList) <;> by_cases hb : Even (leadingBars b.toList)
  · simp [ha, hb, Nat.even_add, ← Nat.not_even_iff_odd]
  · simpa [ha, hb, Nat.even_add, ← Nat.not_even_iff_odd] using ⟨before, _, rfl, rfl⟩
  · simpa [ha, hb, Nat.even_add, ← Nat.not_even_iff_odd] using ⟨before, _, rfl, rfl⟩
  · simp [ha, hb, Nat.even_add, ← Nat.not_even_iff_odd]

variable {engine : Engine}

theorem find_bar {rules : Rulebook} (h : rules.covers "|" = false) :
    Route.find rules "|" = .unmatched := by
  have hfixed : Utility.fixed? "|" = none := by decide
  have hrow : Row.longest Utility.rows "|" = none := by decide
  simp [Route.find, hfixed, hrow, h]

theorem resolve_bar_ne_ok (h : engine.rules.covers "|" = false) (style : Style) :
    engine.resolve "|" ≠ .ok style := by
  intro hresolve
  obtain ⟨-, token, hread, -, -, hselects⟩ := exists_resolve_eq_ok_iff.1 ⟨style, hresolve⟩
  have hbar : Token.read "|" = .ok ⟨[], false, false, "|"⟩ := by decide
  obtain rfl := Except.ok.inj (hbar.symm.trans hread)
  rw [find_bar h] at hselects
  exact hselects

theorem exists_error_of_bar {classes : String} (h : engine.rules.covers "|" = false)
    (hbar : "|" ∈ tokens classes) : ∃ error, engine.resolveList classes = .error error := by
  cases hresolve : engine.resolveList classes with
  | error error => exact ⟨error, rfl⟩
  | ok style =>
    obtain ⟨styles, hstyles, -⟩ := resolveAll_eq_ok_iff.1 hresolve
    obtain ⟨found, hfound⟩ := exists_resolved_iff.1 ⟨styles, hstyles⟩ "|" (mem_ordered.2 hbar)
    exact absurd hfound (resolve_bar_ne_ok h found)

/-- A divider makes no difference where the bars beside it are even in number. Where they are odd,
it comes down to one more bar among the tokens, for which there is no style unless a rule gives
one. -/
theorem resolveList_divider (engine : Engine) (a b : String) :
    (Even (barsBeside a b) →
      engine.resolveList (a ++ " | " ++ b) = engine.resolveList (a ++ " " ++ b)) ∧
    (Odd (barsBeside a b) →
      (∃ before after, tokens (a ++ " " ++ b) = before ++ after ∧
        tokens (a ++ " | " ++ b) = before ++ "|" :: after) ∧
      (engine.rules.covers "|" = false →
        ∃ error, engine.resolveList (a ++ " | " ++ b) = .error error)) := by
  obtain ⟨heven, hodd⟩ := tokens_divider a b
  constructor
  · intro h
    unfold resolveList ordered
    rw [heven h]
  · intro h
    refine ⟨hodd h, fun hrules => ?_⟩
    obtain ⟨before, after, -, hbar⟩ := hodd h
    exact exists_error_of_bar hrules (by simp [hbar])

theorem resolveList_divider_repeated :
    twoScreens.resolveList "flex | | | block" = twoScreens.resolveList "flex | | block" ∧
      ∃ error, twoScreens.resolveList "flex | | block" = .error error := by
  constructor
  · exact (resolveList_divider twoScreens "flex |" "| block").1 (by decide)
  · exact ((resolveList_divider twoScreens "flex |" "block").2 (by decide)).2 (by decide)

theorem not_resolveList_divider :
    ¬∀ (engine : Engine) (a b : String),
      engine.resolveList (a ++ " | " ++ b) = engine.resolveList (a ++ " " ++ b) := by
  intro h
  obtain ⟨error, he⟩ := @exists_error_of_bar twoScreens ("flex |" ++ " | " ++ "block") (by decide)
    (by decide)
  have hordered : twoScreens.ordered ("flex |" ++ " " ++ "block") = ["flex", "block"] :=
    Order.byScreen_eq_self (by decide)
  have hresolved : twoScreens.resolveAll ["flex", "block"] =
      .ok ⟨[("display", .string "block")]⟩ := by
    decide
  rw [h, resolveList, hordered, hresolved] at he
  cases he

end Engine

end UtilityStyle
