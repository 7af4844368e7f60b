import Mathlib.Data.List.Basic
import UtilityStyle.Text.Blank

/-!
The bytes of a text. A literal has them at hand, while its characters have to be decoded, so what is
tried out on the whole of a table is tried out on bytes.
-/

namespace UtilityStyle.Text

def bytes (text : String) : List UInt8 := text.toByteArray.data.toList

def code (text : String) : Nat := (bytes text).foldl (fun n b => 256 * n + b.toNat) 0

theorem bytes_append (a b : String) : bytes (a ++ b) = bytes a ++ bytes b := by
  simp [bytes]

theorem bytes_ofList_cons (c : Char) (cs : List Char) :
    bytes (.ofList (c :: cs)) = String.utf8EncodeChar c ++ bytes (.ofList cs) := by
  have hone : [c].utf8Encode.data.toList = String.utf8EncodeChar c := by
    simp [List.utf8Encode]
  simp [bytes, hone]

def blankCodes : List Nat :=
  blankRanges.flatMap fun (first, last) => List.range' first (last + 1 - first)

theorem mem_blankCodes {c : Char} (h : isBlank c) : c.toNat ∈ blankCodes := by
  obtain ⟨range, hrange, hc⟩ := List.any_eq_true.1 h
  refine List.mem_flatMap.2 ⟨range, hrange, ?_⟩
  simp only [Bool.and_eq_true, decide_eq_true_eq] at hc
  rw [List.mem_range'_1]
  omega

def isVisibleByte (b : UInt8) : Bool := 33 ≤ b.toNat && b.toNat < 127

theorem starts_blank : ∀ n ∈ blankCodes,
    (String.utf8EncodeChar (.ofNat n)).head?.any isVisibleByte = false := by
  decide

theorem exists_visible_head {text : String} (h : (bytes text).head?.any isVisibleByte) :
    ∃ c, text.toList.head? = some c ∧ isBlank c = false := by
  rw [← @String.ofList_toList text] at h
  cases hcs : text.toList with
  | nil =>
    rw [hcs] at h
    exact absurd h (by decide)
  | cons c rest =>
    refine ⟨c, rfl, ?_⟩
    rw [hcs, bytes_ofList_cons, List.head?_append_of_ne_nil] at h
    · by_contra hblank
      have hstart := starts_blank c.toNat (mem_blankCodes (by simpa using hblank))
      rw [Char.ofNat_toNat, h] at hstart
      cases hstart
    · exact String.utf8EncodeChar_ne_nil

end UtilityStyle.Text
