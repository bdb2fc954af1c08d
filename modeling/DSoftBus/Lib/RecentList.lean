import Mathlib.Data.List.Basic
import Mathlib.Data.List.Induction

/-!
Lists that keep a bounded number of most recent items, the newest first. Adding to
a full list drops its oldest item. Such a list is the beginning of the reversed
history, and a search in it agrees with one in the whole history as long as what
it finds there is recent enough.
-/
namespace RecentList
open List
variable {α : Type*} {bound : Nat} {a : α} {items : List α} {p : α → Bool}

def evict (bound : Nat) (items : List α) : List α :=
  if items.length = bound then items.dropLast else items

def push (bound : Nat) (a : α) (items : List α) : List α := a :: evict bound items

lemma mem_of_mem_evict (mem : a ∈ evict bound items) : a ∈ items := by
  unfold evict at mem
  split at mem
  · exact (dropLast_sublist items).subset mem
  · exact mem

lemma evict_of_lt (spare : items.length < bound) : evict bound items = items :=
  if_neg (Nat.ne_of_lt spare)

lemma push_eq_take (positive : 0 < bound) (small : items.length ≤ bound) :
    push bound a items = (a :: items).take bound := by
  obtain ⟨n, rfl⟩ := Nat.exists_eq_succ_of_ne_zero (Nat.ne_of_gt positive)
  rw [push, evict, take_succ_cons]
  split
  next full => rw [dropLast_eq_take, full, Nat.succ_sub_one]
  · rw [take_of_length_le (by omega)]

def collect (bound : Nat) (history : List α) : List α :=
  history.foldl (fun items a => push bound a items) []

lemma collect_eq_take (positive : 0 < bound) (history : List α) :
    collect bound history = history.reverse.take bound := by
  induction history using reverseRecOn with
  | nil => rw [reverse_nil, take_nil, collect, foldl_nil]
  | append_singleton history a ih =>
    rw [collect, foldl_append, ← collect, ih, foldl_cons, foldl_nil,
      push_eq_take positive (length_take_le _ _), reverse_append,
      reverse_singleton, singleton_append]
    obtain ⟨n, rfl⟩ := Nat.exists_eq_succ_of_ne_zero (Nat.ne_of_gt positive)
    rw [take_succ_cons, take_succ_cons, take_take, Nat.min_eq_left (Nat.le_succ n)]

lemma find?_of_find?_take {n} (found : (items.take n).find? p = some a) :
    items.find? p = some a := List.IsPrefix.find?_eq_some ( take_prefix n items) found

lemma find?_take_of_findIdx_lt {n} (recent : items.findIdx p < n) :
    (items.take n).find? p = items.find? p := by
  induction items generalizing n with
  | nil => rw [take_nil]
  | cons item items ih =>
    obtain ⟨m, rfl⟩ := Nat.exists_eq_succ_of_ne_zero (Nat.ne_zero_of_lt recent)
    rw [take_succ_cons]
    cases here : p item with
    | true => rw [find?_cons_of_pos here, find?_cons_of_pos here]
    | false =>
      have later : items.findIdx p < m := by
        rw [findIdx_cons, here, cond_false] at recent
        omega
      rw [find?_cons_of_neg (by simp [here]), find?_cons_of_neg (by simp [here]), ih later]

/-- What is found first for one condition is found first for a stronger one it meets. -/
lemma find?_and_of_find? {q : α → Bool} (found : items.find? p = some a) (here : q a) :
    items.find? (fun x => q x && p x) = some a := by
  obtain ⟨hit, front, back, hSplit, miss⟩ := find?_eq_some_iff_append.mp found
  refine find?_eq_some_iff_append.mpr ⟨by rw [here, hit]; rfl, front, back, hSplit, ?_⟩
  intro x mem
  have missed := miss x mem
  rw [Bool.not_eq_true'] at missed ⊢
  rw [missed, Bool.and_false]

end RecentList
