import Mathlib.Data.List.TakeWhile
import UtilityStyle.Rule.Property

namespace UtilityStyle

namespace Text

theorem ofNat_ne_at {n : Nat} (h : n ≠ 64) : Char.ofNat n ≠ '@' := by
  intro he
  by_cases hvalid : n.isValidChar
  · have hchar : Char.ofNat n = Char.ofNatAux n hvalid := dif_pos hvalid
    have hn : n = 64 := congrArg Char.toNat (hchar.symm.trans he)
    exact h hn
  · exact absurd ((dif_neg hvalid).symm.trans he) (by decide)

theorem toUpper_ne_at : ∀ n < 0x80, n ≠ 64 → (Char.ofNat n).toUpper ≠ '@' := by
  decide

theorem capitalSequences_start : ∀ entry ∈ capitalSequences,
    entry.2 ≠ [] ∧ entry.2.head? ≠ some 64 := by
  decide

theorem capitalRuns_above : ∀ run ∈ capitalRuns, 64 < run.1 + run.2.2.2 := by
  decide +kernel

theorem ne_of_runCapital? {n m : Nat} (h : runCapital? n = some m) : m ≠ 64 := by
  obtain ⟨⟨first, last, step, offset⟩, hrun, rfl⟩ := Option.map_eq_some_iff.1 h
  have habove := capitalRuns_above _ (List.mem_of_find?_eq_some hrun)
  have hfound := List.find?_some hrun
  simp only [Bool.and_eq_true, decide_eq_true_eq] at hfound habove ⊢
  omega

theorem exists_capital {c : Char} (h : c ≠ '@') :
    ∃ first rest, capital c = first :: rest ∧ first ≠ '@' := by
  have hn : c.toNat ≠ 64 := fun e => h (Char.toNat_inj.1 e)
  unfold capital
  split
  · rename_i hascii
    refine ⟨_, _, rfl, ?_⟩
    have hupper := toUpper_ne_at c.toNat hascii hn
    rwa [Char.ofNat_toNat] at hupper
  · split
    · rename_i ns hns
      obtain ⟨before, after, htable, -⟩ := List.lookup_eq_some_iff.1 hns
      obtain ⟨hne, hstart⟩ := capitalSequences_start (c.toNat, ns) (by simp [htable])
      obtain ⟨n, rest, rfl⟩ := List.exists_cons_of_ne_nil hne
      exact ⟨_, _, rfl, ofNat_ne_at (by simpa using hstart)⟩
    · refine ⟨_, _, rfl, ?_⟩
      cases hrun : runCapital? c.toNat with
      | none => exact h
      | some m => exact ofNat_ne_at (ne_of_runCapital? hrun)

end Text

namespace Property

def StartsAtRule (cs : List Char) : Prop := ∃ c rest, cs = '@' :: c :: rest ∧ Text.isWord c

theorem not_startsAtRule_capital_append {c : Char} (h : c ≠ '@') (cs : List Char) :
    ¬StartsAtRule (Text.capital c ++ cs) := by
  obtain ⟨first, rest, hcapital, hfirst⟩ := Text.exists_capital h
  rintro ⟨d, more, he, -⟩
  rw [hcapital] at he
  exact hfirst (List.cons.inj he).1

theorem not_startsAtRule_of_separators {cs : List Char} (h : ∀ c ∈ cs, Text.isWord c = false) :
    ¬StartsAtRule cs := by
  rintro ⟨c, rest, rfl, hc⟩
  rw [h c (by simp)] at hc
  cases hc

theorem cutRun_eq_some {run lineEnds : List Char} {c : Char}
    (h : cutRun run = some (c, lineEnds)) : ∀ d ∈ lineEnds, d = '\n' := by
  unfold cutRun at h
  split at h
  · obtain ⟨-, rfl⟩ := Prod.mk.inj (Option.some.inj h)
    intro d hd
    simpa using List.mem_takeWhile_imp hd
  · cases h

theorem not_startsAtRule_endRun {run : List Char} (h : ∀ c ∈ run, Text.isWord c = false) :
    ¬StartsAtRule (endRun run) := by
  unfold endRun
  split
  · rename_i c lineEnds hcut
    by_cases hc : c = '@'
    · subst hc
      have hat : Text.capital '@' = ['@'] := by decide
      rw [hat]
      rintro ⟨d, rest, he, hd⟩
      obtain rfl : lineEnds = d :: rest := (List.cons.inj he).2
      obtain rfl := cutRun_eq_some hcut d List.mem_cons_self
      exact absurd hd (by decide)
    · exact not_startsAtRule_capital_append hc lineEnds
  · exact not_startsAtRule_of_separators h

theorem not_startsAtRule_joinFrom {run : List Char} (h : ∀ c ∈ run, Text.isWord c = false)
    (cs : List Char) : ¬StartsAtRule (joinFrom run cs) := by
  induction cs generalizing run with
  | nil => exact not_startsAtRule_endRun (by simpa using h)
  | cons c rest ih =>
    unfold joinFrom
    by_cases hc : Text.isWord c = true
    · have hne : c ≠ '@' := by
        rintro rfl
        exact absurd hc (by decide)
      rw [if_pos hc]
      split
      · rintro ⟨d, more, he, -⟩
        exact hne (List.cons.inj he).1
      · exact not_startsAtRule_capital_append hne _
    · rw [if_neg hc]
      exact ih (List.forall_mem_cons.2 ⟨by simpa using hc, h⟩)

theorem not_startsAtRule_camelCase (property : String) :
    ¬StartsAtRule (camelCase property).toList := by
  unfold camelCase
  split
  · rename_i rest hp
    rw [hp]
    rintro ⟨c, more, ⟨⟩, -⟩
  · rw [String.toList_ofList]
    exact not_startsAtRule_joinFrom (by simp) _

end Property

end UtilityStyle
