import Mathlib.Data.Nat.ModEq

/-!
Counters that count without bound and are stored in a word. Two of them that are
less than the range of the word apart can be compared and subtracted in the word,
on either side of its wrap.
-/
namespace ModularCounter
open BitVec
variable {w a b : Nat}

lemma toNat_sub (le : a ≤ b) (near : b < a + 2 ^ w) :
    (BitVec.ofNat w b - BitVec.ofNat w a).toNat = b - a := by
  have split : BitVec.ofNat w b = BitVec.ofNat w (b - a) + BitVec.ofNat w a := by
    rw [← ofNat_add, Nat.sub_add_cancel le]
  rw [split, add_sub_cancel, toNat_ofNat, Nat.mod_eq_of_lt (by omega)]

lemma ofNat_inj (le : a ≤ b) (near : b < a + 2 ^ w) :
    BitVec.ofNat w a = BitVec.ofNat w b ↔ a = b := by
  constructor
  · intro same
    have apart := toNat_sub le near
    rw [same, BitVec.sub_self] at apart
    change 0 = b - a at apart
    omega
  · intro same
    rw [same]

lemma ofNat_succ (a) : BitVec.ofNat w a + 1 = BitVec.ofNat w (a + 1) := by
  rw [ofNat_add]
  rfl

/-- Masking a counter is taking its remainder, the range being a multiple of it. -/
lemma toNat_and_mask {k} (fits : k ≤ w) :
    (BitVec.ofNat w a &&& BitVec.ofNat w (2 ^ k - 1)).toNat = a % 2 ^ k := by
  have range : 2 ^ k ≤ 2 ^ w := Nat.pow_le_pow_right (by decide) fits
  have positive : 0 < 2 ^ k := Nat.two_pow_pos k
  have small : (2 ^ k - 1) % 2 ^ w = 2 ^ k - 1 := Nat.mod_eq_of_lt (by omega)
  rw [toNat_and, toNat_ofNat, toNat_ofNat, small,
    Nat.and_two_pow_sub_one_eq_mod, Nat.mod_mod_of_dvd _ (Nat.pow_dvd_pow 2 fits)]

end ModularCounter
