import Mathlib.Algebra.Order.Floor.Div
import Mathlib.Data.BitVec

/-!
# Rounding a machine word up to a multiple

`roundUp v a` rounds the `w`-bit word `v` up to a multiple of `a` the way C
code does it: add, subtract one, divide, multiply, each step modulo `2 ^ w`.
Where `v + a - 1` fits in a word this is the least multiple of `a` that is at
least `v` (`toNat_roundUp`, `roundUp_le_iff`).  Where it does not fit, the sum
has wrapped around and the result is 0 (`roundUp_of_wrap`).
-/

namespace WordRoundUp

variable {w : Nat}

/-- `((v + a) - 1) / a * a` in `w`-bit arithmetic. -/
def roundUp (v a : BitVec w) : BitVec w := (v + a - 1) / a * a

/-- How far a value is from the next multiple of `a`. -/
def displacement (v a : BitVec w) : Nat := (a.toNat - v.toNat % a.toNat) % a.toNat

theorem displacement_lt (v : BitVec w) {a : BitVec w} (ha : 0 < a.toNat) :
    displacement v a < a.toNat :=
  Nat.mod_lt _ ha

/-- Two values are equally far from the next multiple exactly when they are
congruent. -/
theorem displacement_eq_iff {v p a : BitVec w} (ha : 0 < a.toNat) :
    displacement v a = displacement p a ↔ v.toNat % a.toNat = p.toNat % a.toNat := by
  have hmodv := Nat.mod_lt v.toNat ha
  have hmodp := Nat.mod_lt p.toNat ha
  have hpart : ∀ r, r ≠ 0 → (a.toNat - r) % a.toNat = a.toNat - r :=
    fun r hr => Nat.mod_eq_of_lt (by omega)
  unfold displacement
  constructor
  · intro h
    by_cases hv0 : v.toNat % a.toNat = 0 <;> by_cases hp0 : p.toNat % a.toNat = 0
    · rw [hv0, hp0]
    · rw [hv0, Nat.sub_zero, Nat.mod_self, hpart _ hp0] at h
      omega
    · rw [hp0, Nat.sub_zero, Nat.mod_self, hpart _ hv0] at h
      omega
    · rw [hpart _ hv0, hpart _ hp0] at h
      omega
  · intro h
    rw [h]

/-- A value is at no distance from the next multiple exactly when it is one. -/
theorem displacement_eq_zero_iff {v a : BitVec w} (ha : 0 < a.toNat) :
    displacement v a = 0 ↔ v.toNat % a.toNat = 0 := by
  have hzero : displacement 0 a = 0 := by
    unfold displacement
    simp
  have hiff := displacement_eq_iff (v := v) (p := 0) ha
  rw [hzero] at hiff
  simpa using hiff

/-- The two wrapping steps before the division amount to one wrapping sum. -/
theorem toNat_add_sub_one (v : BitVec w) {a : BitVec w} (ha : 0 < a.toNat) :
    (v + a - 1).toNat = (v.toNat + a.toNat - 1) % 2 ^ w := by
  have hw : 1 < 2 ^ w := by have := a.isLt; omega
  have hone : (1 : BitVec w).toNat = 1 := by simpa using Nat.mod_eq_of_lt hw
  have hsum : 2 ^ w - 1 + (v.toNat + a.toNat) = v.toNat + a.toNat - 1 + 2 ^ w := by omega
  rw [BitVec.toNat_sub, hone, BitVec.toNat_add, Nat.add_mod_mod, hsum, Nat.add_mod_right]

/-- The product of the last two steps never wraps. -/
theorem toNat_div_mul (x a : BitVec w) : (x / a * a).toNat = x.toNat / a.toNat * a.toNat := by
  rw [BitVec.toNat_mul, BitVec.toNat_udiv]
  exact Nat.mod_eq_of_lt (Nat.lt_of_le_of_lt (Nat.div_mul_le_self _ _) x.isLt)

/-- The result is a multiple of `a`, wrapped or not. -/
theorem dvd_roundUp (v a : BitVec w) : a.toNat ∣ (roundUp v a).toNat := by
  rw [roundUp, toNat_div_mul]
  exact Nat.dvd_mul_left _ _

/-- Where the sum does not wrap, the result is the ceiling multiple. -/
theorem toNat_roundUp {v a : BitVec w} (ha : 0 < a.toNat)
    (hfit : v.toNat + a.toNat - 1 < 2 ^ w) :
    (roundUp v a).toNat = a.toNat * (v.toNat ⌈/⌉ a.toNat) := by
  rw [roundUp, toNat_div_mul, toNat_add_sub_one v ha, Nat.mod_eq_of_lt hfit,
    Nat.ceilDiv_eq_add_pred_div, Nat.mul_comm]

/-- Where the sum wraps, nothing of the value is left. -/
theorem roundUp_of_wrap {v a : BitVec w} (ha : 0 < a.toNat)
    (hwrap : 2 ^ w ≤ v.toNat + a.toNat - 1) : (roundUp v a).toNat = 0 := by
  have hv := v.isLt
  have hsmall : (v.toNat + a.toNat - 1) % 2 ^ w < a.toNat := by
    rw [Nat.mod_eq_sub_mod hwrap, Nat.mod_eq_of_lt] <;> have := a.isLt <;> omega
  rw [roundUp, toNat_div_mul, toNat_add_sub_one v ha, Nat.div_eq_of_lt hsmall, Nat.zero_mul]

section Fits

variable {v a : BitVec w} (ha : 0 < a.toNat) (hfit : v.toNat + a.toNat - 1 < 2 ^ w)
include ha hfit

/-- The result is at least the value. -/
theorem le_roundUp : v.toNat ≤ (roundUp v a).toNat := by
  rw [toNat_roundUp ha hfit]
  exact le_smul_ceilDiv ha

/-- The result is the least multiple of `a` from the value on. -/
theorem roundUp_le_iff {n : Nat} (hn : a.toNat ∣ n) :
    (roundUp v a).toNat ≤ n ↔ v.toNat ≤ n := by
  obtain ⟨k, rfl⟩ := hn
  rw [toNat_roundUp ha hfit, Nat.mul_le_mul_left_iff ha, ceilDiv_le_iff_le_mul ha]

/-- The same, as a least element. -/
theorem isLeast_roundUp : IsLeast {n | a.toNat ∣ n ∧ v.toNat ≤ n} (roundUp v a).toNat :=
  ⟨⟨dvd_roundUp v a, le_roundUp ha hfit⟩, fun _ hn => (roundUp_le_iff ha hfit hn.1).mpr hn.2⟩

/-- Larger values are not rounded to smaller multiples. -/
theorem roundUp_mono {v' : BitVec w} (hfit' : v'.toNat + a.toNat - 1 < 2 ^ w)
    (hle : v.toNat ≤ v'.toNat) : (roundUp v a).toNat ≤ (roundUp v' a).toNat :=
  (roundUp_le_iff ha hfit (dvd_roundUp v' a)).mpr (Nat.le_trans hle (le_roundUp ha hfit'))

/-- Rounding up moves a value by the distance to the next multiple. -/
theorem roundUp_eq_add :
    (roundUp v a).toNat = v.toNat + displacement v a := by
  unfold displacement
  have hmod := Nat.mod_lt v.toNat ha
  have hdiv := Nat.div_add_mod v.toNat a.toNat
  apply Nat.le_antisymm
  · apply (roundUp_le_iff ha hfit _).mpr (Nat.le_add_right _ _)
    by_cases hzero : v.toNat % a.toNat = 0
    · simpa [hzero] using Nat.dvd_of_mod_eq_zero hzero
    · rw [Nat.mod_eq_of_lt (by omega)]
      refine ⟨v.toNat / a.toNat + 1, ?_⟩
      rw [Nat.mul_add]
      omega
  · obtain ⟨k, hk⟩ := dvd_roundUp v a
    have hle := le_roundUp ha hfit
    rw [hk] at hle ⊢
    by_cases hzero : v.toNat % a.toNat = 0
    · simpa [hzero] using hle
    · rw [Nat.mod_eq_of_lt (by omega)]
      have hlt : v.toNat / a.toNat < k := by
        by_contra hge
        have := Nat.mul_le_mul_left a.toNat (Nat.not_lt.mp hge)
        omega
      have := Nat.mul_le_mul_left a.toNat hlt
      rw [Nat.mul_succ] at this
      omega

/-- Rounding up moves a value by less than `a`. -/
theorem roundUp_lt_add : (roundUp v a).toNat < v.toNat + a.toNat := by
  rw [roundUp_eq_add ha hfit]
  have := displacement_lt v ha
  omega

/-- A multiple is left alone. -/
theorem roundUp_of_dvd (hdvd : a.toNat ∣ v.toNat) : roundUp v a = v := by
  have hzero := (displacement_eq_zero_iff ha).mpr (Nat.mod_eq_zero_of_dvd hdvd)
  apply BitVec.eq_of_toNat_eq
  rw [roundUp_eq_add ha hfit, hzero, Nat.add_zero]

/-- The same, as a sum of words. -/
theorem roundUp_eq_add_ofNat : roundUp v a = v + BitVec.ofNat w (displacement v a) := by
  apply BitVec.eq_of_toNat_eq
  have hround := roundUp_eq_add ha hfit
  have hsmall : v.toNat + displacement v a < 2 ^ w := by
    rw [← hround]
    exact (roundUp v a).isLt
  have hdisplacement : displacement v a < 2 ^ w := by omega
  rw [hround, BitVec.toNat_add, BitVec.toNat_ofNat, Nat.mod_eq_of_lt hdisplacement,
    Nat.mod_eq_of_lt hsmall]

end Fits

/-- Rounding up does not go below the value exactly when the sum does not wrap. -/
theorem le_roundUp_iff {v a : BitVec w} (ha : 0 < a.toNat) (hv : 0 < v.toNat) :
    v.toNat ≤ (roundUp v a).toNat ↔ v.toNat + a.toNat - 1 < 2 ^ w := by
  constructor
  · intro hle
    by_contra hwrap
    have := roundUp_of_wrap ha (Nat.not_lt.mp hwrap)
    omega
  · exact le_roundUp ha

/-- A value is left alone exactly when it is a multiple already and the sum
does not wrap. -/
theorem roundUp_eq_self_iff {v a : BitVec w} (ha : 0 < a.toNat) (hv : 0 < v.toNat) :
    roundUp v a = v ↔ v.toNat % a.toNat = 0 ∧ v.toNat + a.toNat - 1 < 2 ^ w := by
  constructor
  · intro h
    refine ⟨?_, (le_roundUp_iff ha hv).mp (by rw [h])⟩
    have hdvd := dvd_roundUp v a
    rw [h] at hdvd
    exact Nat.mod_eq_zero_of_dvd hdvd
  · rintro ⟨hmod, hfit⟩
    exact roundUp_of_dvd ha hfit (Nat.dvd_of_mod_eq_zero hmod)

end WordRoundUp
