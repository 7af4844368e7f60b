import UtilityStyle.Proofs.Engine.Cascade
import UtilityStyle.Proofs.Engine.Invariant
import UtilityStyle.Proofs.Engine.Order

namespace UtilityStyle

namespace Order

variable {theme : Theme}

theorem ofRank_append (rank : Option Nat) (a b : List String) :
    ofRank theme rank (a ++ b) = ofRank theme rank a ++ ofRank theme rank b :=
  List.filter_append ..

theorem byScreen_append {a b : List String} (h : ∀ x ∈ a, ∀ y ∈ b, before theme x y) :
    byScreen theme (a ++ b) = byScreen theme a ++ byScreen theme b := by
  apply eq_of_ofRank_eq (byScreen_pairwise theme (a ++ b))
  · rw [List.pairwise_append]
    refine ⟨byScreen_pairwise theme a, byScreen_pairwise theme b, ?_⟩
    intro x hx y hy
    exact h x ((byScreen_perm theme a).mem_iff.1 hx) y ((byScreen_perm theme b).mem_iff.1 hy)
  · intro rank
    rw [ofRank_append, ofRank_byScreen, ofRank_byScreen, ofRank_byScreen, ofRank_append]

end Order

namespace Engine

variable {engine : Engine}

theorem scoped_of_mapM_resolve {raws : List String} {styles : List Style}
    (hscoped : ∀ raw ∈ raws, ∀ style, engine.resolve raw = .ok style → style.Scoped)
    (h : raws.mapM engine.resolve = .ok styles) : ∀ style ∈ styles, style.Scoped := by
  intro style hs
  obtain ⟨raw, hraw, hresolve⟩ := (mem_of_mapM_resolve h).1 hs
  exact hscoped raw hraw style hresolve

theorem resolveAll_append {a b : List String}
    (ha : ∀ raw ∈ a, ∀ style, engine.resolve raw = .ok style → style.Scoped)
    (hb : ∀ raw ∈ b, ∀ style, engine.resolve raw = .ok style → style.Scoped) :
    engine.resolveAll (a ++ b) = do
      let first ← engine.resolveAll a
      let second ← engine.resolveAll b
      return first.merge second := by
  unfold resolveAll
  rw [List.mapM_append]
  cases hfirst : a.mapM engine.resolve with
  | error e => rfl
  | ok earlier =>
    cases hsecond : b.mapM engine.resolve with
    | error e => rfl
    | ok later =>
      have hmerge := Style.mergeAll_append (scoped_of_mapM_resolve ha hfirst)
        (scoped_of_mapM_resolve hb hsecond)
      exact congrArg Except.ok hmerge

/-- Two lists, the first of which has no token for a wider screen than one of the second, resolve
together to the merge of their styles, or fail as the first of them that fails. -/
theorem resolveList_append {theme : Theme} {options : Options} {a b : List String}
    (ha : ∀ raw ∈ a, IsWord raw) (hb : ∀ raw ∈ b, IsWord raw)
    (hroute : ∀ raw ∈ a ++ b, AvoidsContainer .empty raw)
    (hranks : ∀ x ∈ a, ∀ y ∈ b, ∀ i, Order.rank? theme x = some i →
      ∃ j, Order.rank? theme y = some j ∧ i ≤ j) :
    resolveList ⟨theme, options, .empty⟩ (" ".intercalate (a ++ b)) = do
      let first ← resolveList ⟨theme, options, .empty⟩ (" ".intercalate a)
      let second ← resolveList ⟨theme, options, .empty⟩ (" ".intercalate b)
      return first.merge second := by
  have hwords : ∀ raw ∈ a ++ b, IsWord raw := List.forall_mem_append.2 ⟨ha, hb⟩
  have hbefore : ∀ x ∈ a.filter (!·.isEmpty), ∀ y ∈ b.filter (!·.isEmpty),
      Order.before theme x y := by
    intro x hx y hy
    exact Order.before_iff.2 (hranks x (List.mem_filter.1 hx).1 y (List.mem_filter.1 hy).1)
  have hscoped : ∀ raw ∈ a ++ b, ∀ style,
      resolve ⟨theme, options, .empty⟩ raw = .ok style → style.Scoped :=
    fun raw hraw style h => scoped_resolve rfl (hroute raw hraw) h
  have hsorted : ∀ {raws : List String} {raw : String},
      raw ∈ Order.byScreen theme (raws.filter (!·.isEmpty)) → raw ∈ raws := fun hraw =>
    (List.mem_filter.1 ((Order.byScreen_perm theme _).mem_iff.1 hraw)).1
  unfold resolveList
  rw [ordered_intercalate _ hwords, ordered_intercalate _ ha, ordered_intercalate _ hb,
    List.filter_append, Order.byScreen_append hbefore]
  apply resolveAll_append
  · exact fun raw hraw => hscoped raw (List.mem_append_left _ (hsorted hraw))
  · exact fun raw hraw => hscoped raw (List.mem_append_right _ (hsorted hraw))

theorem resolveList_append_nested :
    twoScreens.resolveList "p-4 sm:hover:flex sm:hover:block md:p-4" =
      .ok ⟨[("padding", .string "1rem"),
        ("@media (min-width: 640px)", .object [(":hover", .object [("display", .string "block")])]),
        ("@media (min-width: 768px)", .object [("padding", .string "1rem")])]⟩ := by
  have hranks : ∀ x ∈ ["p-4", "sm:hover:flex"], ∀ y ∈ ["sm:hover:block", "md:p-4"],
      ∀ i, Order.rank? twoScreens.theme x = some i →
        ∃ j, Order.rank? twoScreens.theme y = some j ∧ i ≤ j := by
    intro x hx y hy
    rw [← Order.before_iff]
    revert x hx y hy
    decide
  have hfirst : twoScreens.ordered "p-4 sm:hover:flex" = ["p-4", "sm:hover:flex"] :=
    (@ordered_intercalate twoScreens ["p-4", "sm:hover:flex"] (by decide)).trans
      (Order.byScreen_eq_self (by decide))
  have hsecond : twoScreens.ordered "sm:hover:block md:p-4" = ["sm:hover:block", "md:p-4"] :=
    (@ordered_intercalate twoScreens ["sm:hover:block", "md:p-4"] (by decide)).trans
      (Order.byScreen_eq_self (by decide))
  have happend := @resolveList_append twoScreens.theme {} ["p-4", "sm:hover:flex"]
    ["sm:hover:block", "md:p-4"] (by decide) (by decide) (by decide) hranks
  refine happend.trans ?_
  change (do
    let first ← twoScreens.resolveAll (twoScreens.ordered "p-4 sm:hover:flex")
    let second ← twoScreens.resolveAll (twoScreens.ordered "sm:hover:block md:p-4")
    return first.merge second) = _
  rw [hfirst, hsecond]
  decide +kernel

end Engine

end UtilityStyle
