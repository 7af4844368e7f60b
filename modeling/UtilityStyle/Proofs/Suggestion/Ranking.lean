import UtilityStyle.Proofs.Sorted
import UtilityStyle.Proofs.Suggestion.Best

/-!
What a search comes to: nothing, the best candidate alone, or the best of the candidates in order.
`settled_shortlist` is the law for whatever candidates are alike enough, and both searches follow
it, of the theme and of the names of the tables.
-/

namespace UtilityStyle.Suggestion

variable {all list : List Suggestion} {limit : Nat} {s best : Suggestion} {target : String}
  {alike : Double → Bool}

theorem Rated.filter (hrated : Rated all) (passes : Suggestion → Bool) :
    Rated (all.filter passes) := fun s hs => hrated s (List.mem_filter.1 hs).1

theorem isBest_iff (hrated : Rated all) :
    IsBest all s ↔
      (∀ t ∈ all, t.rating ≤ s.rating) ∧ (all.filter (·.rating = s.rating)).head? = some s := by
  constructor
  · intro h
    refine ⟨fun t ht => h.le hrated ht, ?_⟩
    have hproper := hrated s h.mem
    obtain ⟨earlier, later, rfl, hearlier, -⟩ := h
    have hnone : earlier.filter (·.rating = s.rating) = [] := by
      rw [List.filter_eq_nil_iff]
      intro t ht he
      have hlt := hearlier t ht
      rw [of_decide_eq_true he, hproper.lt_iff hproper] at hlt
      exact Nat.lt_irrefl _ hlt
    simp [List.filter_append, hnone]
  · rintro ⟨habove, hhead⟩
    obtain ⟨others, hothers⟩ := List.head?_eq_some_iff.1 hhead
    obtain ⟨earlier, later, rfl, hearlier, -⟩ := List.filter_eq_cons_iff.1 hothers
    have hproper := hrated s (by simp)
    refine ⟨earlier, later, rfl, ?_, fun t ht => habove t (by simp [ht])⟩
    intro t ht
    have ht' : t ∈ earlier ++ s :: later := by simp [ht]
    have hne : t.rating ≠ s.rating := by simpa using hearlier t ht
    rw [← hproper.not_le_iff (hrated t ht')]
    exact fun hge => hne ((hrated t ht').eq_of_le hproper (habove t ht') hge)

theorem IsBest.unique (hrated : Rated all) (h : IsBest all s) (h' : IsBest all best) :
    s = best := by
  obtain ⟨hs, hfirst⟩ := (isBest_iff hrated).1 h
  obtain ⟨hbest, hfirst'⟩ := (isBest_iff hrated).1 h'
  have hsame := (hrated s h.mem).eq_of_le (hrated best h'.mem) (hbest s h.mem) (hs best h'.mem)
  rw [hsame, hfirst'] at hfirst
  exact (Option.some.inj hfirst).symm

theorem Chosen.unique {offers other : List Suggestion} (hrated : Rated offers)
    (h : Chosen offers list) (h' : Chosen offers other) : list = other := by
  have htargets : list.map (·.target) = other.map (·.target) := h.targets.trans h'.targets.symm
  have hlength : list.length = other.length := by simpa using congrArg List.length htargets
  apply List.ext_getElem hlength
  intro n hn hn'
  have htarget : list[n].target = other[n].target := by
    simpa [hn, hn'] using congrArg (·[n]?) htargets
  have hbest := h.best _ (List.getElem_mem hn)
  rw [htarget] at hbest
  exact hbest.unique (hrated.filter _) (h'.best _ (List.getElem_mem hn'))

theorem sorted_trans (a b c : Suggestion)
    (hab : (decide (b.rating.totalKey ≤ a.rating.totalKey)) = true)
    (hbc : (decide (c.rating.totalKey ≤ b.rating.totalKey)) = true) :
    (decide (c.rating.totalKey ≤ a.rating.totalKey)) = true := by
  rw [decide_eq_true_eq] at *
  omega

theorem sorted_total (a b : Suggestion) :
    (decide (b.rating.totalKey ≤ a.rating.totalKey) ||
      decide (a.rating.totalKey ≤ b.rating.totalKey)) = true := by
  rw [Bool.or_eq_true, decide_eq_true_eq, decide_eq_true_eq]
  omega

theorem sorted_perm (all : List Suggestion) : (sorted all).Perm all := List.mergeSort_perm ..

theorem mem_sorted : s ∈ sorted all ↔ s ∈ all := (sorted_perm all).mem_iff

theorem pairwise_sorted (hrated : Rated all) :
    (sorted all).Pairwise fun a b => b.rating ≤ a.rating := by
  have hsorted := List.pairwise_mergeSort sorted_trans sorted_total all
  refine hsorted.imp_of_mem ?_
  intro a b ha hb h
  have hpa := hrated a (mem_sorted.1 ha)
  have hpb := hrated b (mem_sorted.1 hb)
  rw [decide_eq_true_eq, hpa.totalKey_eq, hpb.totalKey_eq, Int.ofNat_le] at h
  exact (hpb.le_iff hpa).2 h

theorem filter_rating_sorted (all : List Suggestion) (rating : Double) :
    (sorted all).filter (·.rating = rating) = all.filter (·.rating = rating) := by
  apply filter_mergeSort sorted_trans sorted_total
  intro a b ha hb
  rw [of_decide_eq_true ha, of_decide_eq_true hb]
  exact decide_eq_true (Int.le_refl _)

theorem isBest_of_sorted {rest : List Suggestion} (hrated : Rated all)
    (h : sorted all = best :: rest) : IsBest all best := by
  have hsorted := pairwise_sorted hrated
  rw [h, List.pairwise_cons] at hsorted
  rw [isBest_iff hrated, ← filter_rating_sorted, h]
  refine ⟨?_, by simp⟩
  intro t ht
  have hmem := mem_sorted.2 ht
  rw [h] at hmem
  rcases List.mem_cons.1 hmem with rfl | hmem
  · exact ((hrated t ht).le_iff (hrated t ht)).2 (Nat.le_refl _)
  · exact hsorted.1 t hmem

/-- A list to show: not empty nor too long, with one suggestion for each class and the better
first. -/
structure Listed (limit : Nat) (list : List Suggestion) : Prop where
  nonempty : list ≠ []
  length_le : list.length ≤ limit
  distinct : (list.map (·.target)).Nodup
  ordered : list.Pairwise fun a b => b.rating ≤ a.rating

/-- The list has the candidates that are alike enough, as many as it may. Those with one rating are
in their order, and none is left out that is better than one that is there. -/
structure Ranks (limit : Nat) (alike : Double → Bool) (all list : List Suggestion) : Prop where
  passes : ∀ s ∈ list, alike s.rating
  length_eq : list.length = min limit (all.filter fun s => alike s.rating).length
  ties : ∀ rating, list.filter (·.rating = rating) <+: all.filter (·.rating = rating)
  best : ∀ s ∈ all, s ∉ list → ∀ listed ∈ list, s.rating ≤ listed.rating

structure Threshold (alike : Double → Bool) : Prop where
  mono : ∀ x y : Double, x.Proper → y.Proper → x ≤ y → alike x → alike y
  decisive : ∀ x : Double, x.Proper → decisiveRating ≤ x → alike x

theorem Threshold.le {x y : Double} (halike : Threshold alike) (hx : x.Proper) (hy : y.Proper)
    (hbelow : ¬alike x) (habove : alike y) : x ≤ y := by
  by_contra hle
  have hlt := (hx.not_le_iff hy).1 hle
  rw [hy.lt_iff hx] at hlt
  exact hbelow (halike.mono y x hy hx ((hy.le_iff hx).2 (Nat.le_of_lt hlt)) habove)

theorem isBest_filter_iff (halike : Threshold alike) (hrated : Rated all) (hs : alike s.rating) :
    IsBest (all.filter fun t => alike t.rating) s ↔ IsBest all s := by
  have hsame : (all.filter fun t => alike t.rating).filter (·.rating = s.rating) =
      all.filter (·.rating = s.rating) := by
    rw [List.filter_filter]
    apply List.filter_congr
    intro t _
    by_cases ht : t.rating = s.rating <;> simp [ht, hs]
  rw [isBest_iff (hrated.filter _), isBest_iff hrated, hsame]
  apply and_congr_left
  intro hhead
  have hmem : s ∈ all := (List.mem_filter.1 (List.mem_of_mem_head? hhead)).1
  constructor
  · intro h t ht
    by_cases hpass : alike t.rating
    · exact h t (List.mem_filter.2 ⟨ht, hpass⟩)
    · exact halike.le (hrated t ht) (hrated s hmem) hpass hs
  · exact fun h t ht => h t (List.mem_filter.1 ht).1

theorem listed_take_sorted (hrated : Rated all) (hdistinct : (all.map (·.target)).Nodup)
    (hlimit : 0 < limit) (hne : all ≠ []) : Listed limit ((sorted all).take limit) where
  nonempty h := by
    rw [List.take_eq_nil_iff] at h
    rcases h with h | h
    · omega
    · exact hne (h ▸ sorted_perm all).nil_eq.symm
  length_le := List.length_take_le ..
  distinct := by
    have hsorted := ((sorted_perm all).map (·.target)).nodup_iff.2 hdistinct
    exact hsorted.sublist ((List.take_sublist limit _).map _)
  ordered := (pairwise_sorted hrated).sublist (List.take_sublist limit _)

theorem ranks_take_sorted (halike : Threshold alike) (hrated : Rated all) (limit : Nat) :
    Ranks limit alike all ((sorted (all.filter fun s => alike s.rating)).take limit) := by
  have hmem : ∀ s ∈ (sorted (all.filter fun s => alike s.rating)).take limit,
      s ∈ all ∧ alike s.rating := by
    intro s hs
    simpa using mem_sorted.1 (List.mem_of_mem_take hs)
  refine ⟨fun s hs => (hmem s hs).2, ?_, ?_, ?_⟩
  · rw [List.length_take, (sorted_perm _).length_eq]
  -- sorting keeps the order of those with one rating
  · intro rating
    have hfirst := (List.take_prefix limit (sorted (all.filter fun s => alike s.rating))).filter
      (·.rating = rating)
    rw [filter_rating_sorted, List.filter_filter] at hfirst
    by_cases hr : alike rating
    · have hsame : (all.filter fun s => decide (s.rating = rating) && alike s.rating) =
          all.filter (·.rating = rating) := by
        apply List.filter_congr
        intro t _
        by_cases ht : t.rating = rating <;> simp [ht, hr]
      exact hsame ▸ hfirst
    · have hnone : (all.filter fun s => decide (s.rating = rating) && alike s.rating) = [] := by
        rw [List.filter_eq_nil_iff]
        intro t _
        by_cases ht : t.rating = rating <;> simp [ht, hr]
      rw [hnone, List.prefix_nil] at hfirst
      rw [hfirst]
      exact List.nil_prefix
  -- one that is left out is behind the cut, or was not alike enough to be sorted
  · intro s hs hnew listed hlisted
    obtain ⟨hm, ha⟩ := hmem listed hlisted
    by_cases hpass : alike s.rating
    · have hcut := pairwise_sorted (hrated.filter fun s => alike s.rating)
      have hsorted : s ∈ sorted (all.filter fun s => alike s.rating) :=
        mem_sorted.2 (List.mem_filter.2 ⟨hs, hpass⟩)
      rw [← List.take_append_drop limit (sorted _)] at hcut hsorted
      rw [List.pairwise_append] at hcut
      exact hcut.2.2 listed hlisted s ((List.mem_append.1 hsorted).resolve_left hnew)
    · exact halike.le (hrated s hs) (hrated listed hm) hpass ha

/-- What a search of candidates comes to: one that stands out, or a list. Where no candidate is
alike enough, the list is that of the others. -/
structure Settled (limit : Nat) (decisive : Double) (alike : Double → Bool)
    (all others : List Suggestion) (outcome : Suggestions) : Prop where
  single_iff : ∀ target, outcome = .single target ↔
    ∃ best, IsBest all best ∧ decisive ≤ best.rating ∧ best.target = target
  listed : ∀ list, outcome = .ranked list → Listed limit list
  ranks : ∀ list, outcome = .ranked list →
    Ranks limit alike all list ∨ (∀ s ∈ all, ¬alike s.rating) ∧ list = others

theorem settled_shortlist (halike : Threshold alike) (hrated : Rated all)
    (hdistinct : (all.map (·.target)).Nodup) (hlimit : 0 < limit) (others : List Suggestion) :
    Settled limit decisiveRating alike all others
      (shortlist limit (all.filter fun s => alike s.rating)) := by
  have hdecisive : ∀ best, IsBest all best → decisiveRating ≤ best.rating →
      IsBest (all.filter fun s => alike s.rating) best := fun best hbest hr =>
    (isBest_filter_iff halike hrated (halike.decisive _ (hrated best hbest.mem) hr)).2 hbest
  unfold shortlist
  cases hs : sorted (all.filter fun s => alike s.rating) with
  | nil =>
    have hnil := (hs ▸ sorted_perm _).nil_eq.symm
    refine ⟨fun target => ⟨nofun, ?_⟩, nofun, nofun⟩
    rintro ⟨best, hbest, hr, -⟩
    have hmem := (hdecisive best hbest hr).mem
    rw [hnil] at hmem
    cases hmem
  | cons best rest =>
    have hfirst := isBest_of_sorted (hrated.filter _) hs
    have hpass : alike best.rating := (List.mem_filter.1 hfirst.mem).2
    have hbest := (isBest_filter_iff halike hrated hpass).1 hfirst
    dsimp only
    split
    · rename_i hr
      refine ⟨fun target => ⟨?_, ?_⟩, nofun, nofun⟩
      · intro h
        exact ⟨best, hbest, hr, Suggestions.single.inj h⟩
      · rintro ⟨other, hother, -, rfl⟩
        rw [hbest.unique hrated hother]
    · rename_i hr
      refine ⟨fun target => ⟨nofun, ?_⟩, ?_, ?_⟩
      · rintro ⟨other, hother, hother', -⟩
        exact absurd (hbest.unique hrated hother ▸ hother') hr
      · rintro list ⟨⟩
        rw [← hs]
        refine listed_take_sorted (hrated.filter _) ?_ hlimit ?_
        · exact hdistinct.sublist (List.filter_sublist.map _)
        · exact List.ne_nil_of_mem hfirst.mem
      · rintro list ⟨⟩
        rw [← hs]
        exact .inl (ranks_take_sorted halike hrated limit)

end UtilityStyle.Suggestion
