import Mathlib.Algebra.Order.Ring.Nat
import Mathlib.Data.List.Induction

/-!
Stable insertion by priority. A new element is put before the first one of a lower
priority, so the list stays sorted and equal priorities keep the order in which they came.
`arranged` is the list that results from a sequence of arrivals; its head is the earliest
of the highest priority, and without the head it is the arrangement of the others.
-/
namespace PriorityOrder
open List
variable {α : Type*}

/-- Puts `x` before the first element that meets `p`, or at the end. -/
def insertBefore (p : α → Prop) [DecidablePred p] (x : α) : List α → List α
  | [] => [x]
  | a :: rest => if p a then x :: a :: rest else a :: insertBefore p x rest

section
variable {p : α → Prop} [DecidablePred p] {q : α → Bool} {x : α}

lemma perm_insertBefore (x : α) (items) : (insertBefore p x items).Perm (x :: items) := by
  induction items with
  | nil => exact List.Perm.refl _
  | cons a rest ih =>
    rw [insertBefore]
    split
    · exact List.Perm.refl _
    · exact (ih.cons a).trans (List.Perm.swap ..)

lemma insertBefore_congr {p'} [DecidablePred p'] {items}
    (same : ∀ a ∈ items, p a ↔ p' a) : insertBefore p x items = insertBefore p' x items := by
  induction items with
  | nil => rfl
  | cons a rest ih =>
    rw [insertBefore, insertBefore, ih fun b mem => same b (mem_cons_of_mem a mem)]
    simp only [same a mem_cons_self]

lemma filter_insertBefore_of_not (out : q x = false) (items) :
    (insertBefore p x items).filter q = items.filter q := by
  induction items with
  | nil => rw [insertBefore, filter_cons_of_neg (by simp [out])]
  | cons a rest ih =>
    rw [insertBefore]
    split
    · rw [filter_cons_of_neg (by simp [out])]
    · rw [filter_cons, filter_cons, ih]

/-- A view that contains the new element and all that it may pass sees the same insertion. -/
lemma filter_insertBefore_of_mem (inside : q x) (within : ∀ a, p a → q a)
    (items) : (insertBefore p x items).filter q = insertBefore p x (items.filter q) := by
  induction items with
  | nil => rw [insertBefore, filter_cons_of_pos inside, filter_nil, insertBefore]
  | cons a rest ih =>
    by_cases passed : p a
    · rw [insertBefore, if_pos passed, filter_cons_of_pos inside,
        filter_cons_of_pos (within a passed), insertBefore, if_pos passed]
    · rw [insertBefore, if_neg passed, filter_cons, ih, filter_cons]
      split
      · rw [insertBefore, if_neg passed]
      · rfl

end

section
variable {β : Type*} [LinearOrder β] (priority : α → β)

def insertByPriority (x : α) (items : List α) : List α :=
  insertBefore (fun a => priority a < priority x) x items

variable (arrivals : List α)

/-- The list after the arrivals, the earliest of which comes first. -/
def arranged : List α := arrivals.foldl (fun items x => insertByPriority priority x items) []

variable {priority}

lemma arranged_concat (x : α) : arranged priority (arrivals ++ [x]) =
      insertByPriority priority x (arranged priority arrivals) := by
  rw [arranged, foldl_append]
  rfl

lemma perm_arranged : (arranged priority arrivals).Perm arrivals := by
  induction arrivals using reverseRecOn with
  | nil => exact List.Perm.refl _
  | append_singleton front x ih =>
    rw [arranged_concat]
    exact (perm_insertBefore x _).trans ((ih.cons x).trans (perm_append_singleton x front).symm)

/-- The head came first among the elements of its priority, and no element has a higher one. -/
lemma arranged_eq_cons {arrivals rest x}
    (h : arranged priority arrivals = x :: rest) : ∃ before after, arrivals = before ++ x :: after ∧
      (∀ a ∈ before, priority a < priority x) ∧ (∀ a ∈ after, priority a ≤ priority x) ∧
      arranged priority (before ++ after) = rest := by
  induction arrivals using reverseRecOn generalizing x rest with
  | nil => cases h
  | append_singleton front y ih =>
    rw [arranged_concat] at h
    cases shape : arranged priority front with
    | nil =>
      rw [shape] at h
      cases h
      have empty : front = [] := by
        have perm : (arranged priority front).Perm front := perm_arranged front
        rw [shape] at perm
        exact perm.nil_eq.symm
      subst empty
      exact ⟨[], [], rfl, by simp, by simp, rfl⟩
    | cons a tail =>
      obtain ⟨before, after, split, lower, atMost, others⟩ := ih shape
      rw [shape, insertByPriority, insertBefore] at h
      by_cases passed : priority a < priority y
      · rw [if_pos passed] at h
        cases h
        refine ⟨front, [], rfl, fun b mem => ?_, by simp, by rw [append_nil, shape]⟩
        rw [split, mem_append, mem_cons] at mem
        rcases mem with early | rfl | late
        · exact (lower b early).trans passed
        · exact passed
        · exact (atMost b late).trans_lt passed
      · rw [if_neg passed] at h
        cases h
        refine ⟨before, after ++ [y], by rw [split]; simp, lower, fun b mem => ?_, ?_⟩
        · rcases mem_append.mp mem with late | last
          · exact atMost b late
          · rw [mem_singleton.mp last]
            exact not_lt.mp passed
        · rw [← append_assoc, arranged_concat, others]
          rfl

end

end PriorityOrder
