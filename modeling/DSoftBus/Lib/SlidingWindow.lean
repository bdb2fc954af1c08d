import Mathlib.Data.Nat.ModEq
import Mathlib.Order.Interval.Finset.Nat

/-!
A sliding acceptance window over the natural numbers. It starts at the lowest number it
still waits for and ends behind the highest one it has accepted; a number is only accepted
less than `width` above the lower bound.

The lower bound moves by one, and only when it is itself accepted. So between two
acceptances that agree modulo a large cycle the whole stretch has been accepted.
-/
namespace SlidingWindow

structure Bounds where
  lo : Nat
  hi : Nat

structure Bounds.Fits (width : Nat) (b : Bounds) : Prop where
  ordered : b.lo ≤ b.hi
  bounded : b.hi ≤ b.lo + width

/-- An empty window slides as a whole, a nonempty one advances at its lower end, is filled
inside, or is extended at its upper end. -/
inductive Accept (width : Nat) : Bounds → Nat → Bounds → Prop where
  | slide {b : Bounds} : b.lo = b.hi → Accept width b b.lo ⟨b.lo + 1, b.lo + 1⟩
  | advance {b : Bounds} : b.lo < b.hi → Accept width b b.lo ⟨b.lo + 1, b.hi⟩
  | fill {b : Bounds} {n : Nat} : b.lo < n → n < b.hi → Accept width b n b
  | extend {b : Bounds} {n : Nat} :
      b.lo < n → b.hi ≤ n → n < b.lo + width → Accept width b n ⟨b.lo, n + 1⟩

inductive Accepts (width : Nat) : Bounds → List Nat → Bounds → Prop where
  | nil (b : Bounds) : Accepts width b [] b
  | cons {b c d : Bounds} {n : Nat} {ns : List Nat} :
      Accept width b n c → Accepts width c ns d → Accepts width b (n :: ns) d

variable {width : Nat} {b c d e : Bounds}

variable {n : Nat} {ns : List Nat}

section

variable (h : Accept width b n c)
include h

lemma Accept.fits (fits : b.Fits width) : c.Fits width := by
  obtain ⟨ordered, bounded⟩ := fits
  cases h with
  | slide empty => exact ⟨le_rfl, Nat.le_add_right _ _⟩
  | advance open_ => exact ⟨open_, by simp only; omega⟩
  | fill _ _ => exact ⟨ordered, bounded⟩
  | extend above beyond near => exact ⟨by simp only; omega, by simp only; omega⟩

lemma Accept.inside (fits : b.Fits width) (positive : 0 < width) : b.lo ≤ n ∧ n < b.lo + width := by
  obtain ⟨ordered, bounded⟩ := fits
  cases h with
  | slide _ | advance _ => exact ⟨le_rfl, by omega⟩
  | fill above below => exact ⟨by omega, by omega⟩
  | extend above beyond near => exact ⟨by omega, near⟩

lemma Accept.lo_cases : b.lo < n ∧ c.lo = b.lo ∨ n = b.lo ∧ c.lo = b.lo + 1 := by
  cases h with
  | slide _ | advance _ => exact .inr ⟨rfl, rfl⟩
  | fill above _ | extend above _ _ => exact .inl ⟨above, rfl⟩

lemma Accept.lo_mono : b.lo ≤ c.lo := by
  have moved := h.lo_cases
  omega

lemma Accept.lo_le_succ (fits : b.Fits width) (positive : 0 < width) : c.lo ≤ n + 1 := by
  have moved := h.lo_cases
  have inside := h.inside fits positive
  omega

end

lemma Accepts.fits (h : Accepts width b ns c) (fits : b.Fits width) : c.Fits width := by
  induction h with
  | nil _ => exact fits
  | cons step _ ih => exact ih (step.fits fits)

lemma Accepts.lo_mono (h : Accepts width b ns c) : b.lo ≤ c.lo := by
  induction h with
  | nil _ => exact le_rfl
  | cons step _ ih => exact le_trans step.lo_mono ih

lemma Accepts.covers (h : Accepts width b ns c) (low : b.lo ≤ n) (high : n < c.lo) : n ∈ ns := by
  induction h with
  | nil _ => omega
  | @cons b c d m ns step _ ih =>
    have moved := step.lo_cases
    by_cases later : c.lo ≤ n
    · exact List.mem_cons_of_mem m (ih later high)
    · have : n = m := by omega
      subst this
      exact List.mem_cons_self

/-- Between two different accepted numbers of one residue lies all but `width` of the cycle. -/
lemma Accepts.separation {m cycle} (fits : b.Fits width) (positive : 0 < width)
    (narrow : width ≤ cycle) (first : Accept width b m c) (between : Accepts width c ns d)
    (second : Accept width d n e) (residue : m ≡ n [MOD cycle]) (different : m ≠ n) :
    ∀ k, m < k → k ≤ m + (cycle - width) → k ∈ ns := by
  intro k low high
  have fitsC := first.fits fits
  have fitsD := between.fits fitsC
  have insideM := first.inside fits positive
  have insideN := second.inside fitsD positive
  have loMC := first.lo_mono
  have loCD := between.lo_mono
  have apart : m + cycle ≤ n := by
    by_contra close
    by_cases lt : m < n
    · exact different (residue.eq_of_abs_lt (by rw [abs_lt]; omega))
    · exact different (residue.eq_of_abs_lt (by rw [abs_lt]; omega))
  have start := first.lo_le_succ fits positive
  exact between.covers (by omega) (by omega)

end SlidingWindow
