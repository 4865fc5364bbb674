import Mathlib.Data.BitVec
import ImxDmaBuffer.KernelInterface

/-!
# Mapping flags

The `flags` of `imx_dma_buffer_map` are an `unsigned int` of which three bits
matter.  The map functions normalise them in one of three ways, derive the
`mmap` protection from them, store them, and check later requests against the
stored value.  This file states each of these in terms of the three bits.
-/

namespace ImxDmaBuffer

/-- `IMX_DMA_BUFFER_MAPPING_FLAG_WRITE` -/
def mappingFlagWrite : BitVec 32 := 1#32 <<< 0

/-- `IMX_DMA_BUFFER_MAPPING_FLAG_READ` -/
def mappingFlagRead : BitVec 32 := 1#32 <<< 1

/-- `IMX_DMA_BUFFER_MAPPING_FLAG_MANUAL_SYNC` -/
def mappingFlagManualSync : BitVec 32 := 1#32 <<< 2

/-- `IMX_DMA_BUFFER_MAPPING_READWRITE_FLAG_MASK` -/
def mappingReadwriteFlagMask : BitVec 32 := mappingFlagRead ||| mappingFlagWrite

/-- `PROT_READ` -/
def protRead : BitVec 32 := 1#32

/-- `PROT_WRITE` -/
def protWrite : BitVec 32 := 2#32

/-- The flags ask for CPU write access. -/
def writes (flags : BitVec 32) : Bool := flags &&& mappingFlagWrite != 0

/-- The flags ask for CPU read access. -/
def reads (flags : BitVec 32) : Bool := flags &&& mappingFlagRead != 0

/-- The flags ask for manual cache syncing. -/
def manualSync (flags : BitVec 32) : Bool := flags &&& mappingFlagManualSync != 0

/-- The normalisation of the dma-heap allocator: flags with neither the read
nor the write bit are taken to ask for both. -/
def normaliseReadwriteAbsent (flags : BitVec 32) : BitVec 32 :=
  if flags &&& mappingReadwriteFlagMask = 0 then flags ||| (mappingFlagRead ||| mappingFlagWrite)
  else flags

/-- The normalisation of the ION, DWL and G2D allocators: only the value 0 is
taken to ask for both. -/
def normaliseZero (flags : BitVec 32) : BitVec 32 :=
  if flags = 0 then mappingFlagRead ||| mappingFlagWrite else flags

/-- The IPU and PxP allocators take the flags as they are. -/
def normaliseNone (flags : BitVec 32) : BitVec 32 := flags

/-- The protection that the map functions pass to `mmap`. -/
def mmapProt (flags : BitVec 32) : BitVec 32 :=
  (0 ||| (if reads flags then protRead else 0)) ||| (if writes flags then protWrite else 0)

/-- The asserted condition on a redundant map. -/
def Compatible (mapFlags flags : BitVec 32) : Prop :=
  mapFlags &&& flags &&& mappingReadwriteFlagMask = flags &&& mappingReadwriteFlagMask

instance (mapFlags flags : BitVec 32) : Decidable (Compatible mapFlags flags) := by
  unfold Compatible; infer_instance

private theorem and_twoPow_bne_zero (flags : BitVec 32) {i : Nat} (hi : i < 32) :
    (flags &&& (1#32 <<< i) != 0) = flags.getLsbD i := by
  have hne : BitVec.twoPow 32 i ≠ 0#32 := by
    intro h
    have hbit := congrArg (fun x : BitVec 32 => x.getLsbD i) h
    simp [hi] at hbit
  rw [← BitVec.twoPow_eq, BitVec.and_twoPow]
  by_cases hbit : flags.getLsbD i = true
  · simpa [hbit] using hne
  · simp [hbit]

theorem writes_eq (flags : BitVec 32) : writes flags = flags.getLsbD 0 :=
  and_twoPow_bne_zero flags (by decide)

theorem reads_eq (flags : BitVec 32) : reads flags = flags.getLsbD 1 :=
  and_twoPow_bne_zero flags (by decide)

theorem manualSync_eq (flags : BitVec 32) : manualSync flags = flags.getLsbD 2 :=
  and_twoPow_bne_zero flags (by decide)

/-- The mask selects exactly the two lowest bits. -/
theorem getLsbD_mask (i : Nat) :
    mappingReadwriteFlagMask.getLsbD i = (decide (i = 0) || decide (i = 1)) := by
  by_cases hi : i < 32
  · revert hi
    revert i
    decide
  · rw [BitVec.getLsbD_of_ge _ _ (by omega)]
    simp
    omega

/-- Masked flags are equal exactly when they agree on reading and writing. -/
theorem and_mask_eq_iff (f g : BitVec 32) :
    f &&& mappingReadwriteFlagMask = g &&& mappingReadwriteFlagMask ↔
      reads f = reads g ∧ writes f = writes g := by
  rw [reads_eq, reads_eq, writes_eq, writes_eq]
  constructor
  · intro h
    have h0 := congrArg (fun x : BitVec 32 => x.getLsbD 0) h
    have h1 := congrArg (fun x : BitVec 32 => x.getLsbD 1) h
    simp only [BitVec.getLsbD_and, getLsbD_mask] at h0 h1
    simp only [decide_true, Bool.or_true, Bool.true_or, Bool.and_true] at h0 h1
    exact ⟨h1, h0⟩
  · rintro ⟨h1, h0⟩
    apply BitVec.eq_of_getLsbD_eq
    intro i _
    rw [BitVec.getLsbD_and, BitVec.getLsbD_and, getLsbD_mask]
    by_cases hi0 : i = 0
    · subst hi0; rw [h0]
    · by_cases hi1 : i = 1
      · subst hi1; rw [h1]
      · simp [hi0, hi1]

@[simp] theorem reads_and (f g : BitVec 32) : reads (f &&& g) = (reads f && reads g) := by
  simp only [reads_eq, BitVec.getLsbD_and]

@[simp] theorem writes_and (f g : BitVec 32) : writes (f &&& g) = (writes f && writes g) := by
  simp only [writes_eq, BitVec.getLsbD_and]

@[simp] theorem reads_or (f g : BitVec 32) : reads (f ||| g) = (reads f || reads g) := by
  simp only [reads_eq, BitVec.getLsbD_or]

@[simp] theorem writes_or (f g : BitVec 32) : writes (f ||| g) = (writes f || writes g) := by
  simp only [writes_eq, BitVec.getLsbD_or]

@[simp] theorem manualSync_or (f g : BitVec 32) :
    manualSync (f ||| g) = (manualSync f || manualSync g) := by
  simp only [manualSync_eq, BitVec.getLsbD_or]

/-- Normalising does not touch the `MANUAL_SYNC` bit. -/
@[simp] theorem manualSync_normaliseReadwriteAbsent (flags : BitVec 32) :
    manualSync (normaliseReadwriteAbsent flags) = manualSync flags := by
  have hnone : manualSync (mappingFlagRead ||| mappingFlagWrite) = false := by decide
  unfold normaliseReadwriteAbsent
  split
  · rw [manualSync_or, hnone, Bool.or_false]
  · rfl

/-- The asserted condition: the bits asked for now are among the stored ones. -/
theorem compatible_iff (mapFlags flags : BitVec 32) :
    Compatible mapFlags flags ↔
      (reads flags → reads mapFlags) ∧ (writes flags → writes mapFlags) := by
  unfold Compatible
  rw [and_mask_eq_iff, reads_and, writes_and]
  grind

/-- Flags ask for neither access exactly when their masked value is zero. -/
theorem and_mask_eq_zero_iff (flags : BitVec 32) :
    flags &&& mappingReadwriteFlagMask = 0 ↔ reads flags = false ∧ writes flags = false := by
  have h := and_mask_eq_iff flags 0
  have hzero : (0 : BitVec 32) &&& mappingReadwriteFlagMask = 0 := by decide
  have hreads : reads 0 = false := by decide
  have hwrites : writes 0 = false := by decide
  rwa [hzero, hreads, hwrites] at h

/-- The protection allows reading exactly when the flags ask for it. -/
theorem mmapProt_read (flags : BitVec 32) :
    mmapProt flags &&& protRead ≠ 0 ↔ reads flags = true := by
  unfold mmapProt
  cases reads flags <;> cases writes flags <;> decide

/-- The protection allows writing exactly when the flags ask for it. -/
theorem mmapProt_write (flags : BitVec 32) :
    mmapProt flags &&& protWrite ≠ 0 ↔ writes flags = true := by
  unfold mmapProt
  cases reads flags <;> cases writes flags <;> decide

/-- The reading part of the access that flags stand for: flags that name neither
access stand for both. -/
def effReads (flags : BitVec 32) : Bool := reads flags || !writes flags

/-- The writing part of the access that flags stand for. -/
def effWrites (flags : BitVec 32) : Bool := writes flags || !reads flags

/-- The access of `g` is part of the access of `f`. -/
def EffWithin (g f : BitVec 32) : Prop :=
  (effReads g = true → effReads f = true) ∧ (effWrites g = true → effWrites f = true)

/-- A normalisation gives flags the access they stand for. -/
def MeansEff (normalise : BitVec 32 → BitVec 32) (flags : BitVec 32) : Prop :=
  reads (normalise flags) = effReads flags ∧ writes (normalise flags) = effWrites flags

theorem meansEff_of_named {normalise : BitVec 32 → BitVec 32} {flags : BitVec 32}
    (hsame : normalise flags = flags) (hnamed : reads flags = true ∨ writes flags = true) :
    MeansEff normalise flags := by
  unfold MeansEff effReads effWrites
  rw [hsame]
  rcases hnamed with h | h <;> simp [h]

/-- The dma-heap normalisation gives all flags their access. -/
theorem meansEff_readwriteAbsent (flags : BitVec 32) :
    MeansEff normaliseReadwriteAbsent flags := by
  by_cases hnone : flags &&& mappingReadwriteFlagMask = 0
  · have hbits := (and_mask_eq_zero_iff flags).mp hnone
    have hread : reads (mappingFlagRead ||| mappingFlagWrite) = true := by decide
    have hwrite : writes (mappingFlagRead ||| mappingFlagWrite) = true := by decide
    unfold MeansEff effReads effWrites normaliseReadwriteAbsent
    rw [if_pos hnone, reads_or, writes_or, hread, hwrite, hbits.1, hbits.2]
    decide
  · refine meansEff_of_named (if_neg hnone) ?_
    have hbits := (and_mask_eq_zero_iff flags).not.mp hnone
    cases hr : reads flags <;> cases hw : writes flags <;> simp [hr, hw] at hbits ⊢

/-- The normalisation of ION, DWL and G2D gives the flags their access that name
an access, and the value 0. -/
theorem meansEff_zero_iff (flags : BitVec 32) :
    MeansEff normaliseZero flags ↔ reads flags = true ∨ writes flags = true ∨ flags = 0 := by
  by_cases hzero : flags = 0
  · subst hzero
    simp only [or_true, iff_true]
    unfold MeansEff
    decide
  · have hsame : normaliseZero flags = flags := if_neg hzero
    constructor
    · intro h
      unfold MeansEff effReads effWrites at h
      rw [hsame] at h
      cases hr : reads flags <;> cases hw : writes flags <;> simp [hr, hw] at h ⊢
    · intro h
      refine meansEff_of_named hsame ?_
      rcases h with h | h | h
      · exact Or.inl h
      · exact Or.inr h
      · exact absurd h hzero

/-- Without normalisation, flags must name an access. -/
theorem meansEff_none_iff (flags : BitVec 32) :
    MeansEff normaliseNone flags ↔ reads flags = true ∨ writes flags = true := by
  constructor
  · intro h
    unfold MeansEff effReads effWrites normaliseNone at h
    cases hr : reads flags <;> cases hw : writes flags <;> simp [hr, hw] at h ⊢
  · exact fun h => meansEff_of_named rfl h

end ImxDmaBuffer
