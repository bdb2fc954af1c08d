import Mathlib.Data.Nat.ModEq
import Mathlib.Tactic.Ring

/-!
Byte strings as lists: fixed-width fields in either byte order, the small numbers
read from them, and writes into the middle of a buffer. A field is read from the
front of a string, so a record is read by dropping the fields before it.
-/
abbrev Bytes := List UInt8

namespace ByteString
open List BitVec

/-- The `count` low bytes of `n`, least significant first. -/
def toLE : Nat → Nat → Bytes
  | 0, _ => []
  | count + 1, n => UInt8.ofNat (n % 256) :: toLE count (n / 256)

def ofLE : Bytes → Nat
  | [] => 0
  | b :: rest => b.toNat + 256 * ofLE rest

variable (count : Nat)

def putWord {w : Nat} (x : BitVec w) : Bytes := toLE count x.toNat

def getWord (w count : Nat) (bytes : Bytes) : BitVec w :=
  BitVec.ofNat w (ofLE (bytes.take count))

def putWordBE {w : Nat} (x : BitVec w) : Bytes := (putWord count x).reverse

def getWordBE (w count : Nat) (bytes : Bytes) : BitVec w :=
  getWord w count (bytes.take count).reverse

def overwrite (buf : Bytes) (off : Nat) (src : Bytes) : Bytes :=
  buf.take off ++ src ++ buf.drop (off + src.length)

lemma length_toLE (count n) : (toLE count n).length = count := by
  induction count generalizing n with
  | zero => rfl
  | succ count ih => simp only [toLE, length_cons, ih]

variable {w count : Nat}

@[simp] lemma length_putWord (x : BitVec w) :
    (putWord count x).length = count := length_toLE count x.toNat

lemma ofLE_toLE (count n) : ofLE (toLE count n) = n % 256 ^ count := by
  induction count generalizing n with
  | zero => simp only [toLE, ofLE, pow_zero, Nat.mod_one]
  | succ count ih =>
    have low : (UInt8.ofNat (n % 256)).toNat = n % 256 := by
      rw [UInt8.toNat_ofNat']
      exact Nat.mod_eq_of_lt (Nat.mod_lt n (by decide))
    rw [toLE, ofLE, ih, low, pow_succ', Nat.mod_mul]

lemma getWord_putWord_append {w count} (fits : w ≤ 8 * count) (x : BitVec w)
    (rest : Bytes) : getWord w count (putWord count x ++ rest) = x := by
  have small : x.toNat < 256 ^ count := by
    calc x.toNat < 2 ^ w := x.isLt
      _ ≤ 2 ^ (8 * count) := Nat.pow_le_pow_right (by decide) fits
      _ = 256 ^ count := by rw [pow_mul]; norm_num
  have front : (putWord count x ++ rest).take count = putWord count x := by
    rw [take_append_of_le_length (by simp), take_of_length_le (by simp)]
  rw [getWord, front, putWord, ofLE_toLE, Nat.mod_eq_of_lt small, ofNat_toNat, setWidth_eq]

@[simp] lemma drop_putWord_append {n} (beyond : count ≤ n) (x : BitVec w)
    (rest : Bytes) : (putWord count x ++ rest).drop n = rest.drop (n - count) := by
  rw [drop_append, drop_of_length_le (by simpa using beyond), nil_append, length_putWord]

@[simp] lemma length_putWordBE (x : BitVec w) : (putWordBE count x).length = count := by
  rw [putWordBE, length_reverse, length_putWord]

lemma getWordBE_putWordBE_append (fits : w ≤ 8 * count) (x : BitVec w) (rest : Bytes) :
    getWordBE w count (putWordBE count x ++ rest) = x := by
  have front : (putWordBE count x ++ rest).take count = putWordBE count x := by
    rw [take_append_of_le_length (by simp), take_of_length_le (by simp)]
  rw [getWordBE, front, putWordBE, reverse_reverse, ← append_nil (putWord count x)]
  exact getWord_putWord_append fits x []

@[simp] lemma drop_putWordBE_append {n} (beyond : count ≤ n) (x : BitVec w)
    (rest : Bytes) : (putWordBE count x ++ rest).drop n = rest.drop (n - count) := by
  rw [drop_append, drop_of_length_le (by simpa using beyond), nil_append, length_putWordBE]

lemma toInt_ofNat_of_lt {n} (small : n < 2 ^ 31) : (BitVec.ofNat 32 n).toInt = n := by
  have value : (BitVec.ofNat 32 n).toNat = n := by
    rw [toNat_ofNat]
    exact Nat.mod_eq_of_lt (by omega)
  rw [toInt_eq_toNat_of_lt (by rw [value]; omega), value]

lemma toInt_eq_toNat_of_nonneg {x : BitVec 32} (nonneg : 0 ≤ x.toInt) : x.toInt = x.toNat := by
  have small := x.isLt
  rw [toInt_eq_toNat_cond] at nonneg ⊢
  split_ifs at nonneg ⊢ <;> omega

lemma length_overwrite {buf src off}
    (fits : off + src.length ≤ buf.length) : (overwrite buf off src).length = buf.length := by
  simp only [overwrite, length_append, length_take, length_drop]
  omega

lemma take_overwrite {buf src off} (fits : off ≤ buf.length) :
    (overwrite buf off src).take (off + src.length) = buf.take off ++ src := by
  have front : (buf.take off ++ src).length = off + src.length := by
    rw [length_append, length_take, min_eq_left fits]
  rw [overwrite, take_append_of_le_length (by omega), ← front, take_length]

lemma getElem?_overwrite {buf src off}
    (fits : off + src.length ≤ buf.length) (k) : (overwrite buf off src)[k]? =
      if off ≤ k ∧ k < off + src.length then src[k - off]? else buf[k]? := by
  have front : (buf.take off).length = off := by
    rw [length_take]
    omega
  have written : (buf.take off ++ src).length = off + src.length := by
    rw [length_append, front]
  rw [overwrite]
  by_cases before : k < off
  · rw [if_neg (by omega), getElem?_append_left (by omega),
      getElem?_append_left (by omega), getElem?_take_of_lt before]
  · by_cases inside : k < off + src.length
    · rw [if_pos (by omega), getElem?_append_left (by omega),
        getElem?_append_right (by omega), front]
    · rw [if_neg (by omega), getElem?_append_right (by omega), written, getElem?_drop,
        Nat.add_sub_cancel' (by omega)]

end ByteString
