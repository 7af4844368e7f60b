import UtilityStyle.Proofs.Engine.ClassList
import UtilityStyle.Proofs.Sorted

namespace UtilityStyle

namespace Order

variable {theme : Theme}

def ofRank (theme : Theme) (rank : Option Nat) (raws : List String) : List String :=
  raws.filter fun raw => rank? theme raw = rank

theorem before_iff {a b : String} :
    before theme a b ↔ ∀ i, rank? theme a = some i → ∃ j, rank? theme b = some j ∧ i ≤ j := by
  unfold before place
  cases rank? theme a <;> cases rank? theme b <;> simp

theorem before_of_rank?_eq {a b : String} (h : rank? theme a = rank? theme b) :
    before theme a b := by
  simp [before, h]

theorem rank?_eq_of_before {a b : String} (hab : before theme a b) (hba : before theme b a) :
    rank? theme a = rank? theme b := by
  revert hab hba
  unfold before place
  cases rank? theme a <;> cases rank? theme b <;> simp
  omega

theorem mem_ofRank {rank : Option Nat} {raw : String} {raws : List String} :
    raw ∈ ofRank theme rank raws ↔ raw ∈ raws ∧ rank? theme raw = rank := by
  simp [ofRank]

theorem ofRank_cons_self (raw : String) (raws : List String) :
    ofRank theme (rank? theme raw) (raw :: raws) = raw :: ofRank theme (rank? theme raw) raws := by
  simp [ofRank]

theorem ofRank_filter (keep : String → Bool) (rank : Option Nat) (raws : List String) :
    ofRank theme rank (raws.filter keep) = (ofRank theme rank raws).filter keep := by
  simp [ofRank, Bool.and_comm]

theorem ofRank_byScreen (theme : Theme) (rank : Option Nat) (raws : List String) :
    ofRank theme rank (byScreen theme raws) = ofRank theme rank raws := by
  apply filter_mergeSort before_trans before_total
  intro a b ha hb
  exact before_of_rank?_eq ((of_decide_eq_true ha).trans (of_decide_eq_true hb).symm)

theorem before_of_mem_cons {x y : String} {ys : List String}
    (h : (y :: ys).Pairwise fun a b => before theme a b) (hx : x ∈ y :: ys) : before theme y x := by
  rcases List.mem_cons.1 hx with rfl | hx
  · exact before_of_rank?_eq rfl
  · exact (List.pairwise_cons.1 h).1 x hx

theorem ofRank_eq_of_cons {x : String} {xs ys : List String} {rank : Option Nat}
    (h : ofRank theme rank (x :: xs) = ofRank theme rank (x :: ys)) :
    ofRank theme rank xs = ofRank theme rank ys := by
  by_cases hr : rank? theme x = rank <;> simpa [ofRank, hr] using h

theorem eq_of_ofRank_eq {a b : List String} (ha : a.Pairwise fun x y => before theme x y)
    (hb : b.Pairwise fun x y => before theme x y)
    (h : ∀ rank, ofRank theme rank a = ofRank theme rank b) : a = b := by
  induction a generalizing b with
  | nil =>
    cases b with
    | nil => rfl
    | cons y ys =>
      have hy := h (rank? theme y)
      rw [ofRank_cons_self] at hy
      cases hy
  | cons x xs ih =>
    have hx := h (rank? theme x)
    rw [ofRank_cons_self] at hx
    cases b with
    | nil => cases hx
    | cons y ys =>
      -- each head comes before the other, so both are first among the tokens of one rank
      have hy := h (rank? theme y)
      rw [ofRank_cons_self y] at hy
      have hxb : x ∈ y :: ys := (mem_ofRank.1 (hx ▸ List.mem_cons_self)).1
      have hya : y ∈ x :: xs := (mem_ofRank.1 (hy ▸ List.mem_cons_self)).1
      have hranks := rank?_eq_of_before (before_of_mem_cons ha hya) (before_of_mem_cons hb hxb)
      rw [hranks, ofRank_cons_self] at hx
      obtain rfl := (List.cons.inj hx).1
      rw [ih (List.pairwise_cons.1 ha).2 (List.pairwise_cons.1 hb).2 fun rank =>
        ofRank_eq_of_cons (h rank)]

theorem byScreen_eq_of_ofRank_eq {a b : List String}
    (h : ∀ rank, ofRank theme rank a = ofRank theme rank b) : byScreen theme a = byScreen theme b :=
  eq_of_ofRank_eq (byScreen_pairwise theme a) (byScreen_pairwise theme b) fun rank => by
    rw [ofRank_byScreen, ofRank_byScreen, h rank]

theorem byScreen_eq_self {raws : List String} (h : raws.Pairwise fun a b => before theme a b) :
    byScreen theme raws = raws :=
  List.mergeSort_of_pairwise h

end Order

namespace Engine

theorem ordered_intercalate (engine : Engine) {raws : List String} (h : ∀ raw ∈ raws, IsWord raw) :
    engine.ordered (" ".intercalate raws) =
      Order.byScreen engine.theme (raws.filter (!·.isEmpty)) := by
  rw [ordered, tokens_intercalate h]

/-- Sorting by screen rearranges the tokens of a list, none for all screens after one for some, and
keeps the order of those that share a rank. That order is all that matters: two lists with the same
tokens of each rank in the same order come to the same style or fail with the same error. -/
theorem order_within_ranks :
    (∀ (theme : Theme) (raws : List String),
      (Order.byScreen theme raws).Perm raws ∧
      (Order.byScreen theme raws).Pairwise (fun a b =>
        ∀ i, Order.rank? theme a = some i → ∃ j, Order.rank? theme b = some j ∧ i ≤ j) ∧
      ∀ rank, (Order.byScreen theme raws).filter (fun raw => Order.rank? theme raw = rank) =
        raws.filter fun raw => Order.rank? theme raw = rank) ∧
    ∀ (engine : Engine) (a b : List String),
      (∀ raw ∈ a, IsWord raw) → (∀ raw ∈ b, IsWord raw) →
      (∀ rank, a.filter (fun raw => Order.rank? engine.theme raw = rank) =
        b.filter fun raw => Order.rank? engine.theme raw = rank) →
      engine.resolveList (" ".intercalate a) = engine.resolveList (" ".intercalate b) := by
  constructor
  · intro theme raws
    refine ⟨Order.byScreen_perm theme raws, ?_, fun rank => Order.ofRank_byScreen theme rank raws⟩
    exact (Order.byScreen_pairwise theme raws).imp Order.before_iff.1
  · intro engine a b ha hb h
    have hnonempty : ∀ rank, Order.ofRank engine.theme rank (a.filter (!·.isEmpty)) =
        Order.ofRank engine.theme rank (b.filter (!·.isEmpty)) := by
      intro rank
      rw [Order.ofRank_filter, Order.ofRank_filter]
      exact congrArg (List.filter (!·.isEmpty)) (h rank)
    unfold resolveList
    rw [ordered_intercalate engine ha, ordered_intercalate engine hb,
      Order.byScreen_eq_of_ofRank_eq hnonempty]

def twoScreens : Engine :=
  ⟨⟨[("screens", .object [("sm", .string "640px"), ("md", .string "768px")]),
    ("padding", .object [("4", .string "1rem")])]⟩, {}, .empty⟩

theorem order_within_ranks_interleaved :
    twoScreens.resolveList "md:p-4 hover:md:flex sm:block p-4" =
        twoScreens.resolveList "p-4 sm:block md:p-4 hover:md:flex" ∧
      twoScreens.resolveList "md:p-4 hover:md:flex sm:block p-4" =
        .ok ⟨[("padding", .string "1rem"),
          ("@media (min-width: 640px)", .object [("display", .string "block")]),
          ("@media (min-width: 768px)", .object [("padding", .string "1rem")]),
          (":hover", .object [("@media (min-width: 768px)",
            .object [("display", .string "flex")])])]⟩ := by
  have hsame : twoScreens.resolveList "md:p-4 hover:md:flex sm:block p-4" =
      twoScreens.resolveList "p-4 sm:block md:p-4 hover:md:flex" := by
    refine order_within_ranks.2 twoScreens ["md:p-4", "hover:md:flex", "sm:block", "p-4"]
      ["p-4", "sm:block", "md:p-4", "hover:md:flex"] (by decide) (by decide) ?_
    intro rank
    have hmd : Order.rank? twoScreens.theme "md:p-4" = some 1 := by decide
    have hhover : Order.rank? twoScreens.theme "hover:md:flex" = some 1 := by decide
    have hsm : Order.rank? twoScreens.theme "sm:block" = some 0 := by decide
    have hnone : Order.rank? twoScreens.theme "p-4" = none := by decide
    simp only [List.filter_cons, hmd, hhover, hsm, hnone]
    rcases rank with _ | _ | _ | _ <;> simp
  refine ⟨hsame, ?_⟩
  have hordered : twoScreens.ordered "p-4 sm:block md:p-4 hover:md:flex" =
      ["p-4", "sm:block", "md:p-4", "hover:md:flex"] :=
    (@ordered_intercalate twoScreens ["p-4", "sm:block", "md:p-4", "hover:md:flex"]
      (by decide)).trans (Order.byScreen_eq_self (by decide))
  rw [hsame, resolveList, hordered]
  decide +kernel

end Engine

end UtilityStyle
