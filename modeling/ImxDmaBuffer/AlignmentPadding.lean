import ImxDmaBuffer.Library.WordRoundUp
import ImxDmaBuffer.KernelInterface

/-!
# Alignment by padding

The DWL, G2D, IPU and PxP backends take no alignment parameter.  Their
allocators ask for some extra bytes and round the returned address up.  The
three steps are written out in each of the four allocate functions in the same
way; they are stated once here.
-/

namespace ImxDmaBuffer

open WordRoundUp

variable {w : Nat}

/-- `IMX_DMA_BUFFER_ALIGN_VAL_TO` -/
def alignValTo (length alignSize : BitVec w) : BitVec w := roundUp length alignSize

/-- `if (alignment == 0) alignment = 1;` -/
def effectiveAlignment (alignment : BitVec w) : BitVec w := if alignment = 0 then 1 else alignment

/-- `actual_size = size; if (alignment > 1) actual_size += alignment;` -/
def paddedSize (size alignment : BitVec w) : BitVec w :=
  if alignment > 1 then size + alignment else size

/-- The alignment that is used is never zero. -/
theorem effectiveAlignment_pos (hw : 0 < w) (alignment : BitVec w) :
    0 < (effectiveAlignment alignment).toNat := by
  unfold effectiveAlignment
  split
  · have hone : (1 : BitVec w).toNat = 1 := BitVec.toNat_one hw
    omega
  · rename_i hne
    have htoNat : alignment.toNat ≠ 0 := fun h => hne (BitVec.eq_of_toNat_eq (by simpa using h))
    omega

/-- Rounding an address up gives `NULL` exactly when the sum wraps. -/
theorem alignValTo_ne_zero_iff {v alignment : BitVec w} (hv : v ≠ 0) :
    alignValTo v (effectiveAlignment alignment) ≠ 0 ↔
      v.toNat + (effectiveAlignment alignment).toNat - 1 < 2 ^ w := by
  have hvpos : 0 < v.toNat := by
    have htoNat : v.toNat ≠ 0 := fun h => hv (BitVec.eq_of_toNat_eq (by simpa using h))
    omega
  have hw : 0 < w := by
    by_contra hzero
    obtain rfl : w = 0 := by omega
    have := v.isLt
    omega
  have hpos := effectiveAlignment_pos hw alignment
  rw [← le_roundUp_iff hpos hvpos]
  constructor
  · intro hne
    by_contra hlt
    have hwrap : 2 ^ w ≤ v.toNat + (effectiveAlignment alignment).toNat - 1 := by
      by_contra hfit
      exact hlt ((le_roundUp_iff hpos hvpos).mpr (by omega))
    exact hne (BitVec.eq_of_toNat_eq (by simpa [alignValTo] using roundUp_of_wrap hpos hwrap))
  · intro hle hzero
    unfold alignValTo at hzero
    rw [hzero] at hle
    simp at hle
    omega

section Padding

variable {size alignment : BitVec w}

/-- An alignment of 0 counts as 1, all others as themselves. -/
theorem toNat_effectiveAlignment (hw : 0 < w) (alignment : BitVec w) :
    (effectiveAlignment alignment).toNat = if alignment.toNat = 0 then 1 else alignment.toNat := by
  unfold effectiveAlignment
  by_cases hzero : alignment = 0
  · have hone : (1 : BitVec w).toNat = 1 := BitVec.toNat_one hw
    rw [if_pos hzero, hone, hzero]
    simp
  · have hne : alignment.toNat ≠ 0 := fun h => hzero (BitVec.eq_of_toNat_eq (by simpa using h))
    rw [if_neg hzero, if_neg hne]

/-- The padded size, where the sum does not wrap. -/
theorem toNat_paddedSize (hw : 0 < w)
    (hfit : 1 < (effectiveAlignment alignment).toNat →
      size.toNat + (effectiveAlignment alignment).toNat < 2 ^ w) :
    (paddedSize size (effectiveAlignment alignment)).toNat =
      if 1 < (effectiveAlignment alignment).toNat
        then size.toNat + (effectiveAlignment alignment).toNat else size.toNat := by
  have hone : (1 : BitVec w).toNat = 1 := BitVec.toNat_one hw
  have hgt : effectiveAlignment alignment > 1 ↔ 1 < (effectiveAlignment alignment).toNat := by
    rw [gt_iff_lt, BitVec.lt_def, hone]
  unfold paddedSize
  by_cases hpad : 1 < (effectiveAlignment alignment).toNat
  · rw [if_pos (hgt.mpr hpad), if_pos hpad, BitVec.toNat_add, Nat.mod_eq_of_lt (hfit hpad)]
  · rw [if_neg (fun h => hpad (hgt.mp h)), if_neg hpad]

/-- The padding covers the displacement. -/
theorem displacement_add_size_le (hw : 0 < w) (v : BitVec w)
    (hfit : 1 < (effectiveAlignment alignment).toNat →
      size.toNat + (effectiveAlignment alignment).toNat < 2 ^ w) :
    displacement v (effectiveAlignment alignment) + size.toNat ≤
      (paddedSize size (effectiveAlignment alignment)).toNat := by
  have hlt := displacement_lt v (effectiveAlignment_pos hw alignment)
  rw [toNat_paddedSize hw hfit]
  split
  · omega
  · omega

/-- The padded size is smaller than the size exactly when the sum wraps. -/
theorem size_le_paddedSize_iff (hw : 0 < w) :
    size.toNat ≤ (paddedSize size (effectiveAlignment alignment)).toNat ↔
      (1 < alignment.toNat → size.toNat + alignment.toNat < 2 ^ w) := by
  have heffective := toNat_effectiveAlignment hw alignment
  have hone : (1 : BitVec w).toNat = 1 := BitVec.toNat_one hw
  constructor
  · intro hle hpad
    rw [if_neg (by omega)] at heffective
    have hgt : effectiveAlignment alignment > 1 := by
      rw [gt_iff_lt, BitVec.lt_def, hone, heffective]
      exact hpad
    by_contra hwrap
    have hsize := size.isLt
    have halignment := alignment.isLt
    rw [paddedSize, if_pos hgt, BitVec.toNat_add, heffective, Nat.mod_eq_sub_mod (by omega),
      Nat.mod_eq_of_lt (by omega)] at hle
    omega
  · intro hfit
    have hpadded : 1 < (effectiveAlignment alignment).toNat →
        size.toNat + (effectiveAlignment alignment).toNat < 2 ^ w := by
      intro hpad
      split at heffective
      · omega
      · rw [heffective] at hpad ⊢
        exact hfit hpad
    rw [toNat_paddedSize hw hpadded]
    split
    · exact Nat.le_add_right _ _
    · exact Nat.le_refl _

end Padding

/-- What rounding up is good for: the divisor is not zero, the result is the least
multiple from the value on, rounding twice changes nothing more, larger values are
rounded to larger multiples, the value moves by less than the alignment, and the
padding that was requested covers the move. -/
structure RoundsUpExactly (v alignment : BitVec w) : Prop where
  divides : alignment ≠ 0
  least : IsLeast {n | alignment.toNat ∣ n ∧ v.toNat ≤ n} (alignValTo v alignment).toNat
  idempotent : (alignValTo v alignment).toNat + alignment.toNat - 1 < 2 ^ w →
    alignValTo (alignValTo v alignment) alignment = alignValTo v alignment
  monotone : ∀ v' : BitVec w, v'.toNat + alignment.toNat - 1 < 2 ^ w → v ≤ v' →
    alignValTo v alignment ≤ alignValTo v' alignment
  displaces : (alignValTo v alignment).toNat < v.toNat + alignment.toNat
  padded : ∀ size : BitVec w, v.toNat + size.toNat + alignment.toNat < 2 ^ w →
    (paddedSize size alignment).toNat =
        (if alignment = 1 then size.toNat else size.toNat + alignment.toNat) ∧
      (alignValTo v alignment).toNat + size.toNat ≤ v.toNat + (paddedSize size alignment).toNat

/-- The padded size is the size alone only for an alignment of 1. -/
theorem toNat_paddedSize_eq_ite (hw : 0 < w) {size alignment : BitVec w}
    (hfit : size.toNat + (effectiveAlignment alignment).toNat < 2 ^ w) :
    (paddedSize size (effectiveAlignment alignment)).toNat =
      if effectiveAlignment alignment = 1 then size.toNat
        else size.toNat + (effectiveAlignment alignment).toNat := by
  have hpos := effectiveAlignment_pos hw alignment
  have hone : (1 : BitVec w).toNat = 1 := BitVec.toNat_one hw
  have hiff : effectiveAlignment alignment = 1 ↔ (effectiveAlignment alignment).toNat = 1 := by
    rw [← BitVec.toNat_inj, hone]
  rw [toNat_paddedSize hw (fun _ => hfit)]
  by_cases hpad : 1 < (effectiveAlignment alignment).toNat
  · rw [if_pos hpad, if_neg (fun h => by have := hiff.mp h; omega)]
  · rw [if_neg hpad, if_pos (hiff.mpr (by omega))]

/-- **Rounding up is exact** wherever the one sum it makes does not wrap. -/
theorem alignValTo_exact (hw : 0 < w) (v alignment : BitVec w)
    (hfit : v.toNat + (effectiveAlignment alignment).toNat - 1 < 2 ^ w) :
    RoundsUpExactly v (effectiveAlignment alignment) := by
  have hpos := effectiveAlignment_pos hw alignment
  constructor
  case divides =>
    intro hzero
    rw [hzero] at hpos
    simp at hpos
  case least => exact isLeast_roundUp hpos hfit
  case idempotent => exact fun hfit' => roundUp_of_dvd hpos hfit' (dvd_roundUp v _)
  case monotone =>
    intro v' hfit' hle
    exact BitVec.le_def.mpr (roundUp_mono hpos hfit hfit' (BitVec.le_def.mp hle))
  case displaces => exact roundUp_lt_add hpos hfit
  case padded =>
    intro size hsum
    refine ⟨toNat_paddedSize_eq_ite hw (by omega), ?_⟩
    have hcovers := displacement_add_size_le hw v (fun _ => (by omega :
      size.toNat + (effectiveAlignment alignment).toNat < 2 ^ w))
    have hround : (alignValTo v (effectiveAlignment alignment)).toNat =
      v.toNat + displacement v (effectiveAlignment alignment) := roundUp_eq_add hpos hfit
    omega

/-- An address is rounded up to a multiple of 12, which is no power of two. -/
theorem alignValTo_exact_twelve :
    RoundsUpExactly (0x80000001 : BitVec 64) 12 ∧ alignValTo (0x80000001 : BitVec 64) 12 = 0x80000004 :=
  ⟨alignValTo_exact (by decide) 0x80000001 12 (by decide), by decide⟩

end ImxDmaBuffer
