import UtilityStyle.Theme.Basic

namespace UtilityStyle.Order

/-- The rank of the first screen among the variants that a token is written with. -/
def rank? (theme : Theme) (raw : String) : Option Nat :=
  (Text.pieces (· == ':') raw.toList).dropLast.findSome? fun name =>
    theme.rank? (String.ofList name)

def place : Option Nat → Nat
  | none => 0
  | some rank => rank + 1

def before (theme : Theme) (a b : String) : Bool :=
  place (rank? theme a) ≤ place (rank? theme b)

def byScreen (theme : Theme) (tokens : List String) : List String :=
  tokens.mergeSort (before theme)

theorem byScreen_perm (theme : Theme) (tokens : List String) :
    (byScreen theme tokens).Perm tokens :=
  List.mergeSort_perm ..

theorem before_trans {theme : Theme} (a b c : String) (hab : before theme a b)
    (hbc : before theme b c) : before theme a c := by
  simp only [before, decide_eq_true_eq] at *
  omega

theorem before_total {theme : Theme} (a b : String) : before theme a b || before theme b a := by
  simp only [before, Bool.or_eq_true, decide_eq_true_eq]
  omega

theorem byScreen_pairwise (theme : Theme) (tokens : List String) :
    (byScreen theme tokens).Pairwise fun a b => before theme a b :=
  List.pairwise_mergeSort before_trans before_total tokens

end UtilityStyle.Order
