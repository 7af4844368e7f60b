import Mathlib.Data.List.Basic
import UtilityStyle.Text.Pieces

namespace UtilityStyle.Text

theorem afterStart_eq_some_iff {start text rest : String} :
    afterStart start text = some rest ↔ text = start ++ rest := by
  rw [← String.toList_inj, String.toList_append]
  unfold afterStart
  rw [Option.map_eq_some_iff]
  constructor
  · rintro ⟨cs, h, rfl⟩
    rw [String.toList_ofList]
    exact (List.isPrefixOf?_eq_some_iff_append_eq.1 h).symm
  · intro h
    refine ⟨rest.toList, ?_, String.ofList_toList⟩
    exact List.isPrefixOf?_eq_some_iff_append_eq.2 h.symm

theorem afterStart_eq_none_iff {start text : String} :
    afterStart start text = none ↔ ∀ rest, text ≠ start ++ rest := by
  rw [Option.eq_none_iff_forall_ne_some]
  apply forall_congr'
  intro rest
  exact not_congr afterStart_eq_some_iff

theorem afterDash_eq_some_iff {name text rest : String} :
    afterDash name text = some rest ↔ text = name ++ "-" ++ rest :=
  afterStart_eq_some_iff

theorem beforeEnd_eq_some_iff {finish text rest : String} :
    beforeEnd finish text = some rest ↔ text = rest ++ finish := by
  rw [← String.toList_inj, String.toList_append]
  unfold beforeEnd
  rw [Option.map_eq_some_iff]
  constructor
  · rintro ⟨cs, h, rfl⟩
    rw [String.toList_ofList]
    exact (List.isSuffixOf?_eq_some_iff_append_eq.1 h).symm
  · intro h
    refine ⟨rest.toList, ?_, String.ofList_toList⟩
    exact List.isSuffixOf?_eq_some_iff_append_eq.2 h.symm

theorem append_ne_of_length_lt {text finish : String} (h : text.length < finish.length)
    (rest : String) : rest ++ finish ≠ text := by
  rintro rfl
  rw [String.length_append] at h
  omega

theorem utf8ByteSize_ofList_cons (c : Char) (cs : List Char) :
    (String.ofList (c :: cs)).utf8ByteSize = c.utf8Size + (String.ofList cs).utf8ByteSize := by
  have h : String.ofList (c :: cs) = String.singleton c ++ String.ofList cs := by
    apply String.toList_inj.1
    simp
  rw [h, String.utf8ByteSize_append, String.utf8ByteSize_singleton]

theorem eq_of_prefix {start text : String} (h : start.toList <+: text.toList)
    (hle : text.utf8ByteSize ≤ start.utf8ByteSize) : start = text := by
  obtain ⟨rest, hrest⟩ := h
  cases rest with
  | nil => exact String.toList_inj.1 (by simpa using hrest)
  | cons c rest =>
    have htext : text = start ++ String.ofList (c :: rest) := by
      rw [← String.toList_inj, ← hrest]
      simp
    have hpos := Char.utf8Size_pos c
    rw [htext, String.utf8ByteSize_append, utf8ByteSize_ofList_cons] at hle
    omega

theorem dropBytes_utf8Size_add (n : Nat) (c : Char) (rest : List Char) :
    dropBytes (c.utf8Size + n) (c :: rest) = dropBytes n rest := by
  cases h : c.utf8Size + n with
  | zero =>
    have hpos := Char.utf8Size_pos c
    omega
  | succ m =>
    have hle : c.utf8Size ≤ m + 1 := by omega
    have hrest : m + 1 - c.utf8Size = n := by omega
    rw [dropBytes, if_pos hle, hrest]

theorem dropBytes_append (cs rest : List Char) :
    dropBytes (String.ofList cs).utf8ByteSize (cs ++ rest) = rest := by
  induction cs with
  | nil => cases rest <;> rfl
  | cons c cs ih => rw [utf8ByteSize_ofList_cons, List.cons_append, dropBytes_utf8Size_add, ih]

theorem dropBytes_succ (cs : List Char) :
    dropBytes ((String.ofList cs).utf8ByteSize + 1) cs = [] := by
  induction cs with
  | nil => rfl
  | cons c cs ih => rw [utf8ByteSize_ofList_cons, Nat.add_assoc, dropBytes_utf8Size_add, ih]

end UtilityStyle.Text
