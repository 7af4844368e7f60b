import Mathlib.Data.List.Basic
import UtilityStyle.Proofs.Number.Order
import UtilityStyle.Suggestion.Search

namespace UtilityStyle.Suggestion

def Rated (list : List Suggestion) : Prop := ∀ s ∈ list, s.rating.Proper

/-- The first suggestion of the list that no other is rated above. -/
def IsBest (list : List Suggestion) (s : Suggestion) : Prop :=
  ∃ earlier later, list = earlier ++ s :: later ∧
    (∀ t ∈ earlier, t.rating < s.rating) ∧ ∀ t ∈ later, t.rating ≤ s.rating

variable {list seen : List Suggestion} {s new best : Suggestion}

theorem IsBest.mem (h : IsBest list s) : s ∈ list := by
  obtain ⟨earlier, later, rfl, -⟩ := h
  simp

theorem IsBest.le (hrated : Rated list) (h : IsBest list best) (hs : s ∈ list) :
    s.rating ≤ best.rating := by
  have hproper := hrated best h.mem
  obtain ⟨earlier, later, rfl, hearlier, hlater⟩ := h
  rcases List.mem_append.1 hs with he | hl
  · have hlt := hearlier s he
    rw [(hrated s hs).lt_iff hproper] at hlt
    exact ((hrated s hs).le_iff hproper).2 (Nat.le_of_lt hlt)
  · rcases List.mem_cons.1 hl with rfl | hl
    · exact (hproper.le_iff hproper).2 (Nat.le_refl _)
    · exact hlater s hl

theorem IsBest.append_of_le (h : IsBest list best) (hnew : new.rating ≤ best.rating) :
    IsBest (list ++ [new]) best := by
  obtain ⟨earlier, later, rfl, hearlier, hlater⟩ := h
  refine ⟨earlier, later ++ [new], by simp, hearlier, ?_⟩
  intro t ht
  rcases List.mem_append.1 ht with ht | ht
  · exact hlater t ht
  · rw [List.mem_singleton.1 ht]
    exact hnew

theorem isBest_append_of_lt (h : ∀ t ∈ list, t.rating < new.rating) : IsBest (list ++ [new]) new :=
  ⟨list, [], rfl, h, by simp⟩

theorem mem_of_mem_keepBest (hnodup : (list.map (·.target)).Nodup) (h : s ∈ keepBest list new) :
    (s ∈ list ∧ s.target ≠ new.target) ∨
      (s ∈ list ∧ s.target = new.target ∧ new.rating ≤ s.rating) ∨
        s = new ∧ ∀ old ∈ list, old.target = new.target → ¬new.rating ≤ old.rating := by
  induction list with
  | nil => exact .inr (.inr ⟨List.mem_singleton.1 h, by simp⟩)
  | cons old rest ih =>
    obtain ⟨hold, hrest⟩ := List.nodup_cons.1 hnodup
    have hother : ∀ t ∈ rest, t.target ≠ old.target := fun t ht he =>
      hold (List.mem_map.2 ⟨t, ht, he⟩)
    unfold keepBest at h
    by_cases ht : old.target = new.target
    · rw [if_pos ht] at h
      rcases List.mem_cons.1 h with rfl | h
      · split
        · rename_i hle
          exact .inr (.inl ⟨List.mem_cons_self, ht, hle⟩)
        · rename_i hlt
          refine .inr (.inr ⟨rfl, List.forall_mem_cons.2 ⟨fun _ => hlt, ?_⟩⟩)
          exact fun t hm he => absurd (he.trans ht.symm) (hother t hm)
      · exact .inl ⟨List.mem_cons_of_mem _ h, ht ▸ hother s h⟩
    · rw [if_neg ht] at h
      rcases List.mem_cons.1 h with rfl | h
      · exact .inl ⟨List.mem_cons_self, ht⟩
      · rcases ih hrest h with ⟨hm, hne⟩ | ⟨hm, he⟩ | ⟨rfl, hlt⟩
        · exact .inl ⟨List.mem_cons_of_mem _ hm, hne⟩
        · exact .inr (.inl ⟨List.mem_cons_of_mem _ hm, he⟩)
        · exact .inr (.inr ⟨rfl, List.forall_mem_cons.2 ⟨fun he => absurd he ht, hlt⟩⟩)

theorem eraseDups_append_singleton (names : List String) (name : String) :
    (names ++ [name]).eraseDups =
      if name ∈ names then names.eraseDups else names.eraseDups ++ [name] := by
  rw [List.eraseDups_append]
  by_cases h : name ∈ names <;> simp [List.removeAll, List.eraseDups_cons, h]

theorem targets_keepBest (list : List Suggestion) (new : Suggestion) :
    (keepBest list new).map (·.target) =
      if new.target ∈ list.map (·.target) then list.map (·.target)
      else list.map (·.target) ++ [new.target] := by
  induction list with
  | nil => simp [keepBest]
  | cons old rest ih =>
    unfold keepBest
    by_cases ht : old.target = new.target
    · rw [if_pos ht]
      split <;> simp [ht]
    · rw [if_neg ht, List.map_cons, ih]
      by_cases hm : new.target ∈ rest.map (·.target) <;> simp [Ne.symm ht, hm]

/-- One suggestion for each target of the offers, where it is first met: the first of the best. -/
structure Chosen (offers list : List Suggestion) : Prop where
  targets : list.map (·.target) = (offers.map (·.target)).eraseDups
  best : ∀ s ∈ list, IsBest (offers.filter (·.target = s.target)) s

theorem Chosen.nodup (h : Chosen seen list) : (list.map (·.target)).Nodup :=
  h.targets ▸ Entries.nodup_eraseDups _

theorem Chosen.mem (h : Chosen seen list) (hs : s ∈ list) : s ∈ seen :=
  (List.mem_filter.1 (h.best s hs).mem).1

theorem Chosen.exists_of_mem (h : Chosen seen list) (hs : s ∈ seen) :
    ∃ t ∈ list, t.target = s.target := by
  apply List.mem_map.1
  rw [h.targets, List.mem_eraseDups]
  exact List.mem_map_of_mem hs

theorem Chosen.step (h : Chosen seen list) (hrated : Rated (seen ++ [new])) :
    Chosen (seen ++ [new]) (keepBest list new) := by
  have hmem : new.target ∈ list.map (·.target) ↔ new.target ∈ seen.map (·.target) := by
    rw [h.targets, List.mem_eraseDups]
  refine ⟨?_, ?_⟩
  · rw [targets_keepBest, List.map_append, List.map_singleton, eraseDups_append_singleton,
      ← h.targets]
    simp only [hmem]
  · intro s hs
    have hnew : new.rating.Proper := hrated new (by simp)
    have hseen : Rated (seen.filter (·.target = new.target)) := fun t ht =>
      hrated t (List.mem_append_left _ (List.mem_filter.1 ht).1)
    rw [List.filter_append]
    -- one of another class, one that stays the best of the class, or the new one
    rcases mem_of_mem_keepBest h.nodup hs with ⟨hm, hne⟩ | ⟨hm, he, hle⟩ | ⟨rfl, hlt⟩
    · simpa [Ne.symm hne] using h.best s hm
    · simpa [he] using (h.best s hm).append_of_le hle
    · have habove : ∀ t ∈ seen.filter (·.target = s.target), t.rating < s.rating := by
        intro t ht
        obtain ⟨hts, htarget⟩ := List.mem_filter.1 ht
        obtain ⟨old, hold, hsame⟩ := h.exists_of_mem hts
        have hsame : old.target = s.target := hsame.trans (by simpa using htarget)
        have hbest := h.best old hold
        rw [hsame] at hbest
        have hproper := hseen old hbest.mem
        have hbelow := hbest.le hseen ht
        rw [(hseen t ht).le_iff hproper] at hbelow
        have habove := (hnew.not_le_iff hproper).1 (hlt old hold hsame)
        rw [hproper.lt_iff hnew] at habove
        exact ((hseen t ht).lt_iff hnew).2 (Nat.lt_of_le_of_lt hbelow habove)
      simpa using isBest_append_of_lt habove

theorem chosen_foldl {news : List Suggestion} (h : Chosen seen list)
    (hrated : Rated (seen ++ news)) : Chosen (seen ++ news) (news.foldl keepBest list) := by
  induction news generalizing seen list with
  | nil => simpa using h
  | cons new rest ih =>
    have happend : seen ++ new :: rest = seen ++ [new] ++ rest := by simp
    rw [happend] at hrated ⊢
    exact ih (h.step fun s hs => hrated s (List.mem_append_left _ hs)) hrated

theorem rated_map_candidate (query : Query) (leaves : Entries String) :
    Rated (leaves.map (candidate query)) := by
  intro s hs
  obtain ⟨leaf, -, rfl⟩ := List.mem_map.1 hs
  exact Text.proper_similarity _ _

theorem chosen_candidates (theme : Theme) (query : Query) :
    Chosen ((matching theme query).map (candidate query)) (candidates theme query) := by
  have hnone : Chosen [] [] := ⟨rfl, by simp⟩
  exact chosen_foldl hnone (rated_map_candidate query _)

end UtilityStyle.Suggestion
