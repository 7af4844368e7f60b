import Mathlib.Data.List.Basic

namespace UtilityStyle

theorem filter_mergeSort {α : Type} {before : α → α → Bool}
    (trans : ∀ a b c, before a b → before b c → before a c)
    (total : ∀ a b, before a b || before b a) {list : List α} {among : α → Bool}
    (h : ∀ a b, among a → among b → before a b) :
    (list.mergeSort before).filter among = list.filter among := by
  have hamong : ∀ a ∈ list.filter among, among a := fun a ha => (List.mem_filter.1 ha).2
  have hsorted : (list.filter among).Pairwise fun a b => before a b := by
    apply List.pairwise_of_forall_mem_list
    exact fun a ha b hb => h a b (hamong a ha) (hamong b hb)
  have hkept : (list.filter among).Sublist (list.mergeSort before) :=
    List.sublist_mergeSort trans total hsorted List.filter_sublist
  have hsublist : (list.filter among).Sublist ((list.mergeSort before).filter among) :=
    List.filter_eq_self.2 hamong ▸ hkept.filter among
  have hlength := ((List.mergeSort_perm list before).filter among).length_eq
  exact (hsublist.eq_of_length hlength.symm).symm

end UtilityStyle
