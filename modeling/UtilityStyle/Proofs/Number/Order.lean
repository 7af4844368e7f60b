import UtilityStyle.Text.Similarity

namespace UtilityStyle.Binary

variable {f : Format} {x y : Binary f}

/-- The number is not negative, not the negative zero, and a number. -/
structure Proper (x : Binary f) : Prop where
  unsigned : x.negative = false
  defined : x.isUndefined = false

instance (x : Binary f) : Decidable x.Proper :=
  decidable_of_iff (x.negative = false ∧ x.isUndefined = false)
    ⟨fun h => ⟨h.1, h.2⟩, fun h => ⟨h.unsigned, h.defined⟩⟩

theorem Proper.magnitude_eq (h : x.Proper) : x.magnitude = x.bits := by
  simp [magnitude, h.unsigned]

theorem Proper.key_eq (h : x.Proper) : x.key = x.bits := by
  simp [key, h.unsigned, h.magnitude_eq]

theorem Proper.totalKey_eq (h : x.Proper) : x.totalKey = x.bits := by
  simp [totalKey, h.unsigned, h.magnitude_eq]

theorem Proper.le_iff (hx : x.Proper) (hy : y.Proper) : x ≤ y ↔ x.bits ≤ y.bits := by
  change le x y = true ↔ _
  simp [le, hx.defined, hy.defined, hx.key_eq, hy.key_eq]

theorem Proper.lt_iff (hx : x.Proper) (hy : y.Proper) : x < y ↔ x.bits < y.bits := by
  change lt x y = true ↔ _
  simp [lt, hx.defined, hy.defined, hx.key_eq, hy.key_eq]

theorem Proper.not_le_iff (hx : x.Proper) (hy : y.Proper) : ¬x ≤ y ↔ y < x := by
  rw [hx.le_iff hy, hy.lt_iff hx, Nat.not_le]

theorem Proper.eq_of_le (hx : x.Proper) (hy : y.Proper) (h : x ≤ y) (h' : y ≤ x) : x = y := by
  obtain ⟨bits⟩ := x
  obtain ⟨others⟩ := y
  rw [hx.le_iff hy] at h
  rw [hy.le_iff hx] at h'
  exact congrArg Binary.mk (Nat.le_antisymm h h')

theorem proper_ofSignMagnitude {magnitude : Nat}
    (h : magnitude ≤ Format.double.topField * Format.double.unit) :
    (ofSignMagnitude false magnitude : Double).Proper := by
  have hsign : Format.double.topField * Format.double.unit < Format.double.signWeight := by decide
  have hunit : 0 < Format.double.unit := by decide
  have hnegative : (ofSignMagnitude false magnitude : Double).negative = false := by
    simp only [ofSignMagnitude, negative, Bool.false_eq_true, if_false, decide_eq_false_iff_not]
    omega
  have hmagnitude : (ofSignMagnitude false magnitude : Double).magnitude = magnitude := by
    rw [Binary.magnitude, hnegative]
    rfl
  refine ⟨hnegative, ?_⟩
  rw [isUndefined, decide_eq_false_iff_not]
  unfold view
  dsimp only
  rw [hmagnitude]
  split
  · rename_i htop
    have hzero : magnitude % Format.double.unit = 0 := by
      have hle := Nat.div_mul_le_self magnitude Format.double.unit
      rw [htop] at hle
      rw [Nat.le_antisymm h hle, Nat.mul_mod_left]
    rw [if_pos hzero]
    exact nofun
  · split <;> exact nofun

theorem proper_round (n d : Nat) (e : Int) : (round false n d e : Double).Proper := by
  unfold round
  split
  · exact proper_ofSignMagnitude (Nat.zero_le _)
  · dsimp only
    split
    · exact proper_ofSignMagnitude (Nat.le_refl _)
    · rename_i h
      exact proper_ofSignMagnitude (Nat.le_of_not_le h)

end UtilityStyle.Binary

namespace UtilityStyle.Text

theorem proper_similarity (a b : String) : (similarity a b).Proper := by
  unfold similarity
  dsimp only
  split
  · exact Binary.proper_round ..
  · split
    · exact Binary.proper_ofSignMagnitude (Nat.zero_le _)
    · exact Binary.proper_round ..

end UtilityStyle.Text
