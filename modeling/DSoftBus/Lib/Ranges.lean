import Mathlib.Algebra.Order.Ring.Nat
import Mathlib.Order.Interval.Finset.Nat

/-!
Pieces of an initial segment of the natural numbers. Disjoint pieces that are as large
together as the segment leave no gap.
-/
namespace Ranges
open Finset

def union : List (Finset Nat) → Finset Nat
  | [] => ∅
  | piece :: rest => piece ∪ union rest

variable {pieces : List (Finset Nat)}

lemma mem_union {k} : k ∈ union pieces ↔ ∃ piece ∈ pieces, k ∈ piece := by
  induction pieces with
  | nil => simp [union]
  | cons piece rest ih => simp [union, ih]

lemma card_union (apart : pieces.Pairwise Disjoint) :
    (union pieces).card = (pieces.map card).sum := by
  induction pieces with
  | nil => rfl
  | cons piece rest ih =>
    obtain ⟨first, later⟩ := List.pairwise_cons.mp apart
    have separate : Disjoint piece (union rest) := by
      rw [disjoint_left]
      intro k mem inRest
      obtain ⟨other, otherMem, kMem⟩ := mem_union.mp inRest
      exact disjoint_left.mp (first other otherMem) mem kMem
    rw [union, card_union_of_disjoint separate, ih later, List.map_cons, List.sum_cons]

variable {n : Nat} (inside : ∀ piece ∈ pieces, piece ⊆ range n)
include inside

lemma union_subset : union pieces ⊆ range n := by
  intro k mem
  obtain ⟨piece, pieceMem, kMem⟩ := mem_union.mp mem
  exact inside piece pieceMem kMem

variable (apart : pieces.Pairwise Disjoint)
include apart

lemma sum_card_le : (pieces.map card).sum ≤ n := by
  have bound := card_le_card (union_subset inside)
  rwa [card_union apart, card_range] at bound

lemma exists_mem_of_sum_card (enough : (pieces.map card).sum = n) {k} (small : k < n) :
    ∃ piece ∈ pieces, k ∈ piece := by
  have all : union pieces = range n := by
    refine eq_of_subset_of_card_le (union_subset inside) ?_
    rw [card_union apart, enough, card_range]
  exact mem_union.mp (all ▸ mem_range.mpr small)

end Ranges
