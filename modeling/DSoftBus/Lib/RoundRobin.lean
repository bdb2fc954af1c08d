import Mathlib.Data.List.Basic

/-!
Turns taken from a list. Whoever is at the front is served and goes to the end of
the list or leaves it, and a newcomer enters at the end. Of two that stay in the
list, the one ahead is served first and is then behind the other, so between two
turns of one of them the other has exactly one.
-/
namespace RoundRobin
variable {α : Type*} {p q r : α} {turns rest : List α}

/-- `q` has a turn before `p`, if `p` has one at all. -/
def Ahead (q p : α) (turns : List α) : Prop := ∃ front back, turns = front ++ q :: back ∧ p ∉ front

lemma ahead_of_mem (mem : q ∈ turns) (absent : p ∉ turns) : Ahead q p turns := by
  obtain ⟨front, back, split⟩ := List.append_of_mem mem
  refine ⟨front, back, split, fun early => absent ?_⟩
  rw [split]
  exact List.mem_append_left _ early

lemma Ahead.append (ahead : Ahead q p turns) (later) : Ahead q p (turns ++ later) := by
  obtain ⟨front, back, rfl, absent⟩ := ahead
  exact ⟨front, back ++ later, by simp, absent⟩

lemma Ahead.head_ne (ahead : Ahead q p (r :: rest)) (different : q ≠ p) : r ≠ p := by
  obtain ⟨front, back, split, absent⟩ := ahead
  cases front with
  | nil =>
    cases split
    exact different
  | cons a front =>
    cases split
    exact fun same => absent (same ▸ List.mem_cons_self)

lemma Ahead.pass (ahead : Ahead q p (r :: rest)) (other : r ≠ q) : Ahead q p rest := by
  obtain ⟨front, back, split, absent⟩ := ahead
  cases front with
  | nil =>
    cases split
    exact absurd rfl other
  | cons a front =>
    cases split
    exact ⟨front, back, rfl, fun mem => absent (List.mem_cons_of_mem _ mem)⟩

end RoundRobin
