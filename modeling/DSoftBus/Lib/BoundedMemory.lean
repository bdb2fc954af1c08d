import Mathlib.Data.Finset.Card

/-!
A list that remembers distinct items, oldest first. A new item goes to the end, and the
oldest one is forgotten as soon as the list has reached its bound, so it never holds more
than `bound - 1` items. An item is remembered until `bound - 1` others have been recorded
after it.
-/
namespace BoundedMemory
open List
universe u
variable {α : Type u} [DecidableEq α] {bound : Nat} {a b : α} {items : List α} {since : List α}

def record (bound : Nat) (a : α) (items : List α) : List α :=
  if a ∈ items then items
  else if (items ++ [a]).length = bound then (items ++ [a]).tail else items ++ [a]

lemma nodup_record (distinct : items.Nodup) : (record bound a items).Nodup := by
  unfold record
  split
  · exact distinct
  next new =>
    have longer : (items ++ [a]).Nodup := by
      refine List.Nodup.append distinct (nodup_singleton a) fun b old last => new ?_
      rwa [← mem_singleton.mp last]
    split
    · exact longer.sublist (tail_sublist _)
    · exact longer

lemma length_record_lt (small : items.length < bound) : (record bound a items).length < bound := by
  unfold record
  split
  · exact small
  · split
    next full =>
      rw [length_tail, full]
      omega
    next spare =>
      rw [length_append, length_singleton] at spare ⊢
      omega

lemma mem_of_mem_record (mem : b ∈ record bound a items) : b = a ∨ b ∈ items := by
  have longer (mem : b ∈ items ++ [a]) : b = a ∨ b ∈ items := by
    rcases mem_append.mp mem with old | last
    · exact .inr old
    · exact .inl (mem_singleton.mp last)
  unfold record at mem
  split at mem
  · exact .inr mem
  · split at mem
    · exact longer (mem_of_mem_tail mem)
    · exact longer mem

/-- The item is in the list, and those behind it are among the ones in `since`. -/
def Remembered (a : α) (since items : List α) : Prop :=
  ∃ front back, items = front ++ a :: back ∧ ∀ b ∈ back, b ∈ since

omit [DecidableEq α] in
lemma Remembered.mem (h : Remembered a since items) : a ∈ items := by
  obtain ⟨front, back, rfl, _⟩ := h
  exact mem_append_right _ (mem_cons_self ..)

lemma Remembered.record_self (h : Remembered a since items) :
    Remembered a since (record bound a items) := by
  rwa [BoundedMemory.record, if_pos h.mem]

lemma remembered_record (room : 1 < bound) (new : a ∉ items) :
    Remembered a [] (record bound a items) := by
  rw [record, if_neg new]
  split
  next full =>
    cases items with
    | nil =>
      rw [nil_append, length_singleton] at full
      omega
    | cons oldest rest => exact ⟨rest, [], rfl, nofun⟩
  · exact ⟨items, [], rfl, nofun⟩

/-- Recording `b` forgets the item only if that makes `bound - 1` others. -/
lemma Remembered.record (h : Remembered a since items) (distinct : items.Nodup)
    (few : (b :: since).toFinset.card < bound - 1) :
    Remembered a (b :: since) (record bound b items) := by
  obtain ⟨front, back, rfl, later⟩ := h
  have behind : ∀ c ∈ back ++ [b], c ∈ b :: since := by
    intro c mem
    rcases mem_append.mp mem with old | last
    · exact mem_cons_of_mem b (later c old)
    · rw [mem_singleton.mp last]
      exact mem_cons_self
  unfold BoundedMemory.record
  split
  · exact ⟨front, back, rfl, fun c mem => mem_cons_of_mem b (later c mem)⟩
  rename_i new
  have split : front ++ a :: back ++ [b] = front ++ a :: (back ++ [b]) := by simp
  rw [split]
  split
  next full =>
    cases front with
    | cons oldest front => exact ⟨front, back ++ [b], rfl, behind⟩
    | nil =>
      -- The item is the oldest one: the others fill the list.
      have apart : (back ++ [b]).Nodup := by
        have kept : back.Nodup := (nodup_cons.mp distinct).2
        refine List.Nodup.append kept (nodup_singleton b) fun c old last => new ?_
        rw [← mem_singleton.mp last]
        exact mem_cons_of_mem a old
      have count : (back ++ [b]).length ≤ (b :: since).toFinset.card := by
        rw [← toFinset_card_of_nodup apart]
        refine Finset.card_le_card fun c mem => ?_
        rw [mem_toFinset] at mem ⊢
        exact behind c mem
      rw [nil_append, length_cons] at full
      omega
  · exact ⟨front, back ++ [b], rfl, behind⟩

end BoundedMemory
