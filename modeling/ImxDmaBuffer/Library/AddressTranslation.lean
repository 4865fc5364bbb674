import Mathlib.Data.BitVec

/-!
# Byte ranges behind a translation of addresses

`Backs translate v p n` says that the `n` bytes from address `v` on are, one by
one, the bytes from address `p` on of the memory behind them.  A range inside
such a range is backed by the same part of the memory (`Backs.part`), and by no
other (`backs_displaced_iff`).
-/

namespace AddressTranslation

variable {w : Nat} {translate : BitVec w → BitVec w} {v p : BitVec w} {n : Nat}

/-- The `n` bytes from `v` on are those from `p` on. -/
def Backs (translate : BitVec w → BitVec w) (v p : BitVec w) (n : Nat) : Prop :=
  ∀ i < n, translate (v + BitVec.ofNat w i) = p + BitVec.ofNat w i

/-- The translation that takes `v` to `p` and keeps all distances. -/
def shift (v p : BitVec w) : BitVec w → BitVec w := fun a => a - v + p

theorem backs_shift (v p : BitVec w) (n : Nat) : Backs (shift v p) v p n := by
  intro i _
  unfold shift
  rw [BitVec.add_comm v, BitVec.add_sub_cancel, BitVec.add_comm]

/-- A part of a backed range is backed by the same part. -/
theorem Backs.part (h : Backs translate v p n) {d k : Nat} (hfit : d + k ≤ n) :
    Backs translate (v + BitVec.ofNat w d) (p + BitVec.ofNat w d) k := by
  intro i hi
  have hbyte := h (d + i) (by omega)
  rwa [BitVec.ofNat_add, ← BitVec.add_assoc, ← BitVec.add_assoc] at hbyte

/-- A range that is not empty is backed from one address only. -/
theorem Backs.unique {p' : BitVec w} (h : Backs translate v p n) (h' : Backs translate v p' n)
    (hn : 0 < n) : p = p' := by
  have hfirst := (h 0 hn).symm.trans (h' 0 hn)
  simpa using hfirst

/-- Offsets that fit in a word are told apart. -/
theorem add_ofNat_inj (p : BitVec w) {d d' : Nat} (hd : d < 2 ^ w) (hd' : d' < 2 ^ w) :
    p + BitVec.ofNat w d = p + BitVec.ofNat w d' ↔ d = d' := by
  constructor
  · intro h
    have hoffset := congrArg BitVec.toNat (BitVec.add_right_inj p |>.mp h)
    rwa [BitVec.toNat_ofNat, BitVec.toNat_ofNat, Nat.mod_eq_of_lt hd, Nat.mod_eq_of_lt hd']
      at hoffset
  · intro h
    rw [h]

/-- A part of a backed range is the part at offset `d'` of the memory behind it
exactly when it starts at that offset itself. -/
theorem backs_displaced_iff (h : Backs translate v p n) {d d' k : Nat} (hk : 0 < k)
    (hfit : d + k ≤ n) (hd : d < 2 ^ w) (hd' : d' < 2 ^ w) :
    Backs translate (v + BitVec.ofNat w d) (p + BitVec.ofNat w d') k ↔ d = d' := by
  have hpart := h.part hfit
  constructor
  · intro hbacks
    exact (add_ofNat_inj p hd hd').mp (hpart.unique hbacks hk)
  · intro heq
    rwa [← heq]

end AddressTranslation
