import Mathlib.Data.List.Nodup
import UtilityStyle.Proofs.Text.Bytes
import UtilityStyle.Proofs.Text.Start
import UtilityStyle.Utility.Request
import UtilityStyle.Utility.Route

namespace UtilityStyle

namespace Row

theorem foldl_longer_eq_some {rows : List Row} {best? : Option Row} {row : Row}
    (h : rows.foldl longer best? = some row) : best? = some row ∨ row ∈ rows := by
  induction rows generalizing best? with
  | nil => exact .inl h
  | cons first rest ih =>
    rcases ih h with hl | hm
    · unfold longer at hl
      split at hl
      · split at hl
        · exact .inl hl
        · exact .inr (by simp_all)
      · exact .inr (by simp_all)
    · exact .inr (List.mem_cons_of_mem _ hm)

theorem mem_of_longest {rows : List Row} {className : String} {row : Row}
    (h : longest rows className = some row) : row ∈ rows ∧ row.covers className := by
  rcases foldl_longer_eq_some h with hn | hm
  · cases hn
  · exact List.mem_filter.1 hm

theorem exists_longest {rows : List Row} {className : String} {row : Row} (hm : row ∈ rows)
    (hc : row.covers className) : ∃ found, longest rows className = some found := by
  have hsome : ∀ (others : List Row) (best : Row),
      ∃ found, others.foldl longer (some best) = some found := by
    intro others
    induction others with
    | nil => exact fun best => ⟨best, rfl⟩
    | cons other rest ih =>
      intro best
      rw [List.foldl_cons]
      unfold longer
      dsimp only
      split
      · exact ih best
      · exact ih other
  unfold longest
  cases hf : rows.filter (·.covers className) with
  | nil => exact absurd (List.filter_eq_nil_iff.1 hf row hm) (by simpa using hc)
  | cons first rest => exact hsome rest first

theorem covers_iff {row : Row} {className : String} :
    row.covers className ↔ className = row.key ∨ ∃ rest, className = row.key ++ "-" ++ rest := by
  unfold covers
  rw [Bool.or_eq_true, decide_eq_true_eq, Option.isSome_iff_exists]
  simp only [Text.afterDash_eq_some_iff]

theorem le_of_foldl_longer {rows : List Row} {best? : Option Row} {found : Row}
    (h : rows.foldl longer best? = some found) :
    (∀ best ∈ best?, best.key.utf8ByteSize ≤ found.key.utf8ByteSize) ∧
      ∀ row ∈ rows, row.key.utf8ByteSize ≤ found.key.utf8ByteSize := by
  induction rows generalizing best? with
  | nil =>
    obtain rfl : best? = some found := h
    simp
  | cons first rest ih =>
    obtain ⟨hbest, hrest⟩ := ih h
    rw [List.forall_mem_cons]
    unfold longer at hbest
    cases best? with
    | none => exact ⟨by simp, hbest first rfl, hrest⟩
    | some best =>
      dsimp only at hbest
      split at hbest
      · rename_i hle
        have hfound := hbest best rfl
        exact ⟨by simpa using hfound, Nat.le_trans hle hfound, hrest⟩
      · rename_i hle
        have hfound := hbest first rfl
        have hlt : best.key.utf8ByteSize ≤ found.key.utf8ByteSize := by omega
        exact ⟨by simpa using hlt, hfound, hrest⟩

theorem le_of_longest {rows : List Row} {className : String} {found row : Row}
    (h : longest rows className = some found) (hm : row ∈ rows) (hc : row.covers className) :
    row.key.utf8ByteSize ≤ found.key.utf8ByteSize :=
  (le_of_foldl_longer h).2 row (List.mem_filter.2 ⟨hm, hc⟩)

def Unextended (rows : List Row) (row : Row) : Prop :=
  ∀ other ∈ rows, other = row ∨
    other.key ≠ row.key ∧ ¬(row.key ++ "-").toList <+: other.key.toList

instance (rows : List Row) (row : Row) : Decidable (Unextended rows row) :=
  inferInstanceAs (Decidable (∀ other ∈ rows, _ ∨ _))

theorem eq_of_covers {rows : List Row} {row other : Row} (h : Unextended rows row)
    (hm : other ∈ rows) (hle : row.key.utf8ByteSize ≤ other.key.utf8ByteSize) {rest : String}
    (hc : other.covers (row.key ++ "-" ++ rest)) : other = row := by
  rcases h other hm with rfl | ⟨hne, hstart⟩
  · rfl
  · exfalso
    rcases covers_iff.1 hc with he | ⟨more, he⟩
    · apply hstart
      rw [← he, @String.toList_append (row.key ++ "-")]
      exact List.prefix_append _ _
    · have hlists := congrArg String.toList he
      simp only [String.toList_append, List.append_assoc] at hlists
      rcases List.append_eq_append_iff.1 hlists with ⟨between, hkey, hrest⟩ | ⟨between, hkey, -⟩
      · cases between with
        | nil => exact hne (String.toList_inj.1 (by simpa using hkey))
        | cons c between =>
          obtain rfl : '-' = c := (List.cons.inj hrest).1
          apply hstart
          rw [hkey, String.toList_append]
          exact ⟨between, by simp⟩
      · -- the key of the other row would be shorter
        exact hne (Text.eq_of_prefix ⟨between, hkey.symm⟩ hle)

theorem longest_append {rows : List Row} {row : Row} (hm : row ∈ rows) (h : Unextended rows row)
    (rest : String) : longest rows (row.key ++ "-" ++ rest) = some row := by
  have hself : row.covers (row.key ++ "-" ++ rest) := covers_iff.2 (.inr ⟨rest, rfl⟩)
  obtain ⟨found, hfound⟩ := exists_longest hm hself
  obtain ⟨hmem, hcovers⟩ := mem_of_longest hfound
  rw [hfound, eq_of_covers h hmem (le_of_longest hfound hm hself) hcovers]

theorem suffix_append (row : Row) (rest : String) : row.suffix (row.key ++ "-" ++ rest) = rest := by
  have hsize : row.key.utf8ByteSize + 1 = (String.ofList (row.key ++ "-").toList).utf8ByteSize := by
    rw [String.ofList_toList, String.utf8ByteSize_append]
    rfl
  unfold suffix
  rw [String.toList_append, hsize, Text.dropBytes_append, String.ofList_toList]

theorem suffix_key (row : Row) : row.suffix row.key = "" := by
  have h := Text.dropBytes_succ row.key.toList
  rw [String.ofList_toList] at h
  unfold suffix
  rw [h]

end Row

namespace Utility

theorem grammatical_key : ∀ row ∈ rows,
    row.key ≠ "" ∧ row.key ≠ "group" ∧ ':' ∉ row.key.toList ∧ row.key.toList.head? ≠ some '-' ∧
      row.key.toList.getLast? ≠ some '!' := by
  decide

theorem fixed?_eq_none_of_start {start : String}
    (h : ∀ name ∈ fixedNames, ¬Text.bytes start <+: Text.bytes name) (rest : String) :
    fixed? (start ++ rest) = none := by
  unfold fixed?
  rw [Entries.get?_eq_none_iff]
  intro hm
  apply h _ hm
  rw [Text.bytes_append]
  exact List.prefix_append _ _

theorem nodup_fixedNames : fixedNames.Nodup :=
  List.Nodup.of_map Text.code (by decide +kernel)

theorem nodup_keys : (rows.map Row.key).Nodup :=
  List.Nodup.of_map Text.code (by decide +kernel)

theorem find_family_key : ∀ row ∈ rows, row.family?.isSome →
    fixed? row.key = none ∧ Row.longest rows row.key = some row := by
  decide +kernel

theorem sources_ne_nil : ∀ row ∈ rows, row.family? = none → row.sources ≠ [] := by
  decide

end Utility

namespace Route

theorem find_eq_ofRow {rules : Rulebook} {className : String} {row : Row}
    (hfixed : Utility.fixed? className = none)
    (hrow : Row.longest Utility.rows className = some row) : find rules className = ofRow row := by
  rw [find, hfixed, hrow]

theorem find_append {rules : Rulebook} {row : Row} (hm : row ∈ Utility.rows)
    (hrow : Row.Unextended Utility.rows row)
    (hfixed : ∀ name ∈ Utility.fixedNames, ¬Text.bytes (row.key ++ "-") <+: Text.bytes name)
    (rest : String) : find rules (row.key ++ "-" ++ rest) = ofRow row :=
  find_eq_ofRow (Utility.fixed?_eq_none_of_start hfixed rest) (Row.longest_append hm hrow rest)

theorem find_cases (rules : Rulebook) (className : String) :
    (∃ name style, find rules className = .fixed name style) ∨
      (∃ row, find rules className = ofRow row) ∨
      find rules className = .rule ∨ find rules className = .unmatched := by
  unfold find
  split
  · exact .inl ⟨_, _, rfl⟩
  · split
    · exact .inr (.inl ⟨_, rfl⟩)
    · split
      · exact .inr (.inr (.inl rfl))
      · exact .inr (.inr (.inr rfl))

theorem fixed_ne_ofRow {name : String} {style : Style} {row : Row} :
    fixed name style ≠ ofRow row := by
  unfold ofRow
  split <;> exact nofun

theorem eq_of_ofRow_eq {row other : Row} (h : ofRow row = ofRow other) : row = other := by
  unfold ofRow at h
  split at h <;> split at h <;> cases h <;> rfl

theorem mem_of_find_eq_ofRow {rules : Rulebook} {className : String} {row : Row}
    (h : find rules className = ofRow row) : row ∈ Utility.rows := by
  unfold find at h
  split at h
  · unfold ofRow at h
    split at h <;> cases h
  · split at h
    · rename_i hrow
      obtain rfl := eq_of_ofRow_eq h
      exact (Row.mem_of_longest hrow).1
    · unfold ofRow at h
      split at h <;> split at h <;> cases h

theorem fixed?_of_find {rules : Rulebook} {className name : String} {style : Style}
    (h : find rules className = .fixed name style) : Utility.fixed? className = some style := by
  unfold find at h
  split at h
  · rename_i hfixed
    rw [hfixed, (Route.fixed.inj h).2]
  · split at h
    · unfold ofRow at h
      split at h <;> cases h
    · split at h <;> cases h

theorem mem_of_find_eq_reading {rules : Rulebook} {className : String} {row : Row}
    (h : find rules className = .reading row) : row ∈ Utility.rows := by
  unfold find at h
  split at h
  · cases h
  · split at h
    · rename_i hrow
      unfold ofRow at h
      split at h <;> cases h
      exact (Row.mem_of_longest hrow).1
    · split at h <;> cases h

theorem ofRow_of_family {row : Row} {member : Family} (h : row.handler = .family member) :
    ofRow row = .family row member := by
  rw [ofRow, h]

theorem ofRow_of_descriptors {row : Row} {list : List Descriptor}
    (h : row.handler = .descriptors list) : ofRow row = .reading row := by
  rw [ofRow, h]

end Route

end UtilityStyle
