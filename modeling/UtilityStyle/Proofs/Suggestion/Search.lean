import UtilityStyle.Proofs.Suggestion.Ranking
import UtilityStyle.Proofs.Utility.Route

namespace UtilityStyle.Suggestion

variable {theme : Theme} {query : Query} {className : String} {list : List Suggestion}

theorem proper_decisiveRating : decisiveRating.Proper := Binary.proper_round 3 5 0

theorem proper_leastRating : leastRating.Proper := Binary.proper_round 3 20 0

theorem proper_vocabularyRating : vocabularyRating.Proper := Binary.proper_round 1 4 0

theorem threshold_of_bits {alike : Double → Bool} {bound : Nat}
    (h : ∀ x : Double, x.Proper → (alike x ↔ bound ≤ x.bits))
    (hbound : bound ≤ decisiveRating.bits) : Threshold alike where
  mono x y hx hy hle halike := by
    rw [hx.le_iff hy] at hle
    rw [h x hx] at halike
    exact (h y hy).2 (Nat.le_trans halike hle)
  decisive x hx hle := by
    rw [proper_decisiveRating.le_iff hx] at hle
    exact (h x hx).2 (Nat.le_trans hbound hle)

theorem threshold_least : Threshold (leastRating ≤ ·) :=
  threshold_of_bits (fun x hx => by rw [decide_eq_true_eq, proper_leastRating.le_iff hx])
    (by decide)

theorem threshold_vocabulary : Threshold (vocabularyRating < ·) :=
  threshold_of_bits (fun x hx => by rw [decide_eq_true_eq, proper_vocabularyRating.lt_iff hx]; rfl)
    (by decide)

theorem rated_candidates (theme : Theme) (query : Query) : Rated (candidates theme query) :=
  fun _ hs => rated_map_candidate query _ _ ((chosen_candidates theme query).mem hs)

def unrated (s : Suggestion) : Suggestion := { s with rating := Binary.zero false }

theorem listed_unrated (hdistinct : (list.map (·.target)).Nodup) (hne : list ≠ []) :
    Listed sectionLimit ((list.take sectionLimit).map unrated) where
  nonempty := by
    cases list with
    | nil => exact absurd rfl hne
    | cons => exact nofun
  length_le := by
    rw [List.length_map]
    exact List.length_take_le ..
  distinct := by
    rw [List.map_map]
    exact hdistinct.sublist ((List.take_sublist sectionLimit list).map _)
  ordered := by
    rw [List.pairwise_map]
    apply List.pairwise_of_forall_mem_list
    intro a _ b _
    have hzero : (Binary.zero false : Double) ≤ Binary.zero false := by decide
    exact hzero

theorem fromTheme_of_none (h : ∀ s ∈ candidates theme query, ¬leastRating ≤ s.rating) :
    fromTheme theme query =
      if (candidates theme query).isEmpty then .nothing
      else .ranked (((candidates theme query).take sectionLimit).map unrated) := by
  have hnone : (candidates theme query).filter (fun s => leastRating ≤ s.rating) = [] := by
    rw [List.filter_eq_nil_iff]
    exact fun s hs => by simpa using h s hs
  unfold fromTheme
  dsimp only
  rw [hnone]
  rfl

theorem fromTheme_of_some {s : Suggestion} (hs : s ∈ candidates theme query)
    (hr : leastRating ≤ s.rating) :
    fromTheme theme query =
      shortlist sectionLimit ((candidates theme query).filter fun s => leastRating ≤ s.rating) := by
  unfold fromTheme
  dsimp only
  split
  · rename_i hnone
    exact absurd hr (by simpa using List.filter_eq_nil_iff.1 hnone s hs)
  · rfl

theorem shortlist_eq_nothing_iff {limit : Nat} : shortlist limit list = .nothing ↔ list = [] := by
  have hperm := sorted_perm list
  unfold shortlist
  cases hs : sorted list with
  | nil => simp [(hs ▸ hperm).nil_eq.symm]
  | cons best rest =>
    rw [hs] at hperm
    have hne : list ≠ [] := List.ne_nil_of_mem (hperm.mem_iff.1 List.mem_cons_self)
    dsimp only
    split <;> simp [hne]

theorem settled_fromTheme (theme : Theme) (query : Query) :
    Settled sectionLimit decisiveRating (leastRating ≤ ·) (candidates theme query)
      (((candidates theme query).take sectionLimit).map unrated) (fromTheme theme query) := by
  have hdistinct := (chosen_candidates theme query).nodup
  have hrated := rated_candidates theme query
  by_cases h : ∃ s ∈ candidates theme query, leastRating ≤ s.rating
  · obtain ⟨s, hs, hr⟩ := h
    rw [fromTheme_of_some hs hr]
    exact settled_shortlist threshold_least hrated hdistinct (by decide) _
  · have hnone : ∀ s ∈ candidates theme query, ¬leastRating ≤ s.rating := fun s hs hr =>
      h ⟨s, hs, hr⟩
    have hdecisive : ∀ target, ¬∃ best, IsBest (candidates theme query) best ∧
        decisiveRating ≤ best.rating ∧ best.target = target := by
      rintro target ⟨best, hbest, hr, -⟩
      have hpass := threshold_least.decisive _ (hrated best hbest.mem) hr
      exact hnone best hbest.mem (of_decide_eq_true hpass)
    rw [fromTheme_of_none hnone]
    split
    · exact ⟨fun target => ⟨nofun, fun h => absurd h (hdecisive target)⟩, nofun, nofun⟩
    · rename_i hne
      refine ⟨fun target => ⟨nofun, fun h => absurd h (hdecisive target)⟩, ?_, ?_⟩
      · rintro list ⟨⟩
        exact listed_unrated hdistinct (by simpa using hne)
      · rintro list ⟨⟩
        exact .inr ⟨fun s hs hr => hnone s hs (of_decide_eq_true hr), rfl⟩

theorem fromTheme_eq_nothing_iff :
    fromTheme theme query = .nothing ↔ candidates theme query = [] := by
  by_cases h : ∃ s ∈ candidates theme query, leastRating ≤ s.rating
  · obtain ⟨s, hs, hr⟩ := h
    have hne : candidates theme query ≠ [] := List.ne_nil_of_mem hs
    rw [fromTheme_of_some hs hr, shortlist_eq_nothing_iff, List.filter_eq_nil_iff]
    simp only [hne, iff_false]
    exact fun hnone => hnone s hs (decide_eq_true hr)
  · rw [fromTheme_of_none fun s hs hr => h ⟨s, hs, hr⟩]
    by_cases hc : candidates theme query = [] <;> simp [hc]

theorem candidates_eq_nil_iff : candidates theme query = [] ↔ matching theme query = [] := by
  have htargets := (chosen_candidates theme query).targets
  constructor
  · intro h
    rw [h, List.map_map] at htargets
    cases hm : matching theme query with
    | nil => rfl
    | cons leaf rest =>
      rw [hm, List.map_cons, List.eraseDups_cons] at htargets
      cases htargets
  · intro h
    rw [h] at htargets
    exact List.map_eq_nil_iff.1 htargets

theorem isEmpty_fromTheme_iff :
    (fromTheme theme query).isEmpty = true ↔ matching theme query = [] := by
  rw [← candidates_eq_nil_iff, ← fromTheme_eq_nothing_iff]
  have hlisted := (settled_fromTheme theme query).listed
  cases h : fromTheme theme query with
  | nothing => simp [Suggestions.isEmpty, Suggestions.size, Suggestions.targets]
  | single target => simp [Suggestions.isEmpty, Suggestions.size, Suggestions.targets]
  | ranked list =>
    have hne := (hlisted list h).nonempty
    simp [Suggestions.isEmpty, Suggestions.size, Suggestions.targets, hne]

theorem getLast?_fixedNames : ∀ name ∈ Utility.fixedNames,
    (Text.bytes name).getLast? ≠ some 46 := by
  decide +kernel

theorem nodup_vocabulary : vocabulary.Nodup := by
  have hkeys : (Utility.rows.map fun row => row.key ++ "-...").Nodup := by
    have hmap := Utility.nodup_keys.map fun _ _ => (String.append_left_inj "-...").1
    rwa [List.map_map] at hmap
  refine List.nodup_append.2 ⟨Utility.nodup_fixedNames, hkeys, ?_⟩
  rintro name hname _ hkey rfl
  obtain ⟨row, -, rfl⟩ := List.mem_map.1 hkey
  apply getLast?_fixedNames _ hname
  rw [Text.bytes_append, List.getLast?_append_of_ne_nil _ (by decide)]
  decide

def named (className : String) : List Suggestion :=
  (Entries.keys Utility.fixed ++ Utility.rows.map fun row => row.key ++ "-...").map fun name =>
    ⟨name, "", Text.similarity className name⟩

theorem settled_fromVocabulary (className : String) :
    Settled vocabularyLimit decisiveRating (vocabularyRating < ·) (named className) []
      (fromVocabulary className) := by
  refine settled_shortlist threshold_vocabulary ?_ ?_ (by decide) []
  · intro s hs
    obtain ⟨name, -, rfl⟩ := List.mem_map.1 hs
    exact Text.proper_similarity className name
  · unfold named
    rw [List.map_map]
    exact (List.map_id vocabulary).symm ▸ nodup_vocabulary

theorem fromVocabulary_eq_nothing_iff :
    fromVocabulary className = .nothing ↔
      ∀ s ∈ named className, ¬vocabularyRating < s.rating := by
  have hlist : fromVocabulary className =
      shortlist vocabularyLimit ((named className).filter fun s => vocabularyRating < s.rating) :=
    rfl
  rw [hlist, shortlist_eq_nothing_iff, List.filter_eq_nil_iff]
  simp only [decide_eq_true_eq]

end UtilityStyle.Suggestion
