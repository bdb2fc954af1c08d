import Mathlib.Data.List.Induction
import Mathlib.Data.List.Nodup
import Mathlib.Data.List.Perm.Subperm

/-!
A string that is copied block by block into an empty file, in any order. A write behind the
end of the file fills the gap. What has been written agrees with the string on the blocks that
were copied and is a gap elsewhere, so the file is the string if every block was copied.
-/
namespace Blockwise
open List
universe u
variable {α : Type u} (fill : α) (size : Nat)

/-- Writes at an offset. The gap between the end of the file and the offset is filled. -/
def put (file : List α) (off : Nat) (data : List α) : List α :=
  file.take off ++ replicate (off - file.length) fill ++ data ++ file.drop (off + data.length)

variable (content : List α)

def block (k : Nat) : List α := (content.drop (size * k)).take size

def copied (blocks : List Nat) : List α :=
  blocks.foldl (fun file k => put fill file (size * k) (block size content k)) []

def count (length : Nat) : Nat := length / size + if length % size = 0 then 0 else 1

variable {fill size}

lemma length_put (file data off) :
    (put fill file off data).length = max file.length (off + data.length) := by
  simp only [put, length_append, length_take, length_replicate, length_drop]
  omega

lemma getElem?_put (file data off p) : (put fill file off data)[p]? =
      if off ≤ p ∧ p < off + data.length then data[p - off]?
      else if file.length ≤ p ∧ p < off then some fill else file[p]? := by
  have front : (file.take off ++ replicate (off - file.length) fill).length = off := by
    simp only [length_append, length_take, length_replicate]
    omega
  rw [put]
  rcases Nat.lt_or_ge p off with before | behind
  · rw [if_neg (by omega), append_assoc, getElem?_append_left (by omega)]
    rcases Nat.lt_or_ge p file.length with inside | outside
    · rw [if_neg (by omega), getElem?_append_left (by rw [length_take]; omega),
        getElem?_take_of_lt before]
    · have short : (file.take off).length = file.length := by
        rw [length_take]
        omega
      rw [if_pos ⟨outside, before⟩, getElem?_append_right (by omega), short,
        getElem?_replicate_of_lt (by omega)]
  · rcases Nat.lt_or_ge p (off + data.length) with within | beyond
    · rw [if_pos ⟨behind, within⟩, append_assoc, getElem?_append_right (by omega), front,
        getElem?_append_left (by omega)]
    · rw [if_neg (by omega), if_neg (by omega), getElem?_append_right (by
        rw [length_append, front]
        omega), length_append, front, getElem?_drop]
      congr 1
      omega

lemma length_block (k) : (block size content k).length = min size (content.length - size * k) := by
  rw [block, length_take, length_drop]

lemma mem_block_iff (positive : 0 < size) {p k} :
    size * k ≤ p ∧ p < size * k + size ↔ p / size = k := by
  rw [Nat.div_eq_iff positive]
  constructor <;> intro h <;> simp only [Nat.mul_comm k size] at * <;> omega

lemma copied_concat (blocks k) : copied fill size content (blocks ++ [k]) =
      put fill (copied fill size content blocks) (size * k) (block size content k) := by
  rw [copied, foldl_append]
  rfl

variable {blocks : List Nat}

section
variable (inside : ∀ k ∈ blocks, size * k < content.length)
include inside

lemma length_copied_le :
    (copied fill size content blocks).length ≤ content.length := by
  induction blocks using reverseRecOn with
  | nil => exact Nat.zero_le _
  | append_singleton blocks k ih =>
    have before := ih fun j mem => inside j (mem_append_left _ mem)
    have start := inside k mem_concat_self
    rw [copied_concat, length_put, length_block]
    omega

lemma getElem?_copied (positive : 0 < size) {p} (small : p < content.length) :
    (copied fill size content blocks)[p]? = if p / size ∈ blocks then content[p]?
      else if p < (copied fill size content blocks).length then some fill else none := by
  induction blocks using reverseRecOn with
  | nil => simp [copied]
  | append_singleton blocks k ih =>
    have earlier := ih fun j mem => inside j (mem_append_left _ mem)
    have place := mem_block_iff positive (p := p) (k := k)
    rw [copied_concat, getElem?_put, length_put, length_block]
    by_cases here : p / size = k
    · obtain ⟨low, high⟩ := place.mpr here
      rw [if_pos (by omega), if_pos (by simp [here]), block, getElem?_take_of_lt (by omega),
        getElem?_drop]
      congr 1
      omega
    · have away : ¬ (size * k ≤ p ∧ p < size * k + min size (content.length - size * k)) := by
        intro h
        exact here (place.mp ⟨h.1, by omega⟩)
      rw [if_neg away, earlier]
      have same : p / size ∈ blocks ++ [k] ↔ p / size ∈ blocks := by simp [here]
      by_cases known : p / size ∈ blocks
      · rw [if_pos known, if_pos (same.mpr known), if_neg]
        intro gap
        rw [if_pos known, getElem?_eq_none gap.1] at earlier
        simp [getElem?_eq_getElem small] at earlier
      · rw [if_neg known, if_neg (mt same.mp known)]
        have start := inside k mem_concat_self
        by_cases old : p < (copied fill size content blocks).length
        · rw [if_neg (by omega), if_pos old, if_pos (by omega)]
        · rw [if_neg old]
          by_cases gap : p < size * k
          · rw [if_pos ⟨by omega, gap⟩, if_pos (by omega)]
          · rw [if_neg (by omega), if_neg (by omega)]

lemma copied_eq (positive : 0 < size)
    (all : ∀ k, size * k < content.length → k ∈ blocks) :
    copied fill size content blocks = content := by
  apply ext_getElem?
  intro p
  rcases Nat.lt_or_ge p content.length with small | large
  · rw [getElem?_copied content inside positive small, if_pos]
    exact all _ (Nat.lt_of_le_of_lt (Nat.mul_div_le p size) small)
  · rw [getElem?_eq_none large, getElem?_eq_none]
    exact Nat.le_trans (length_copied_le content inside) large

lemma copied_gap (positive : 0 < size) {k}
    (start : size * k < content.length) (missing : k ∉ blocks) :
    (copied fill size content blocks)[size * k]? = some fill ∨
      (copied fill size content blocks)[size * k]? = none := by
  have number : size * k / size = k := Nat.mul_div_cancel_left k positive
  rw [getElem?_copied content inside positive start, number, if_neg missing]
  split
  · exact .inl rfl
  · exact .inr rfl

end

lemma lt_count_iff (positive : 0 < size) {length k} :
    k < count size length ↔ size * k < length := by
  have whole := Nat.div_add_mod length size
  have low := Nat.mod_lt length positive
  have upTo : k ≤ length / size → size * k ≤ size * (length / size) := Nat.mul_le_mul_left size
  have beyond : length / size + 1 ≤ k → size * (length / size) + size ≤ size * k :=
    Nat.mul_le_mul_left size
  have below : k + 1 ≤ length / size → size * k + size ≤ size * (length / size) :=
    Nat.mul_le_mul_left size
  have above : length / size ≤ k → size * (length / size) ≤ size * k := Nat.mul_le_mul_left size
  rw [count]
  split <;> omega

lemma all_iff_nodup {n} (inside : ∀ k ∈ blocks, k < n) (enough : blocks.length = n) :
    (∀ k < n, k ∈ blocks) ↔ blocks.Nodup := by
  constructor
  · intro all
    have sub : (range n).Subperm blocks :=
      subperm_of_subset nodup_range fun k mem => all k (mem_range.mp mem)
    have perm := sub.perm_of_length_le (Nat.le_of_eq (by rw [enough, length_range]))
    exact perm.nodup_iff.mp nodup_range
  · intro nodup k small
    have sub : blocks.Subperm (range n) :=
      subperm_of_subset nodup fun j mem => mem_range.mpr (inside j mem)
    have perm := sub.perm_of_length_le (Nat.le_of_eq (by rw [enough, length_range]))
    exact perm.mem_iff.mpr (mem_range.mpr small)

end Blockwise
