import Mathlib.Data.List.Perm.Basic

/-!
Tables with a fixed number of slots, each free or in use for a key. A search ends at the
first slot that meets a condition and splits the table there; what is done to the slot
leaves both parts as they are.
-/
namespace SlotTable
open List
universe u v
variable {α : Type u} {κ : Type v} (used : α → Bool) (key : α → κ)

def usedKeys (slots : List α) : List κ := (slots.filter used).map key

variable {used key} {slots front back : List α} {a b : α}

lemma split_of_findIdx? {p i} (h : slots.findIdx? p = some i) :
    ∃ front a back, slots = front ++ a :: back ∧ p a ∧ front.length = i := by
  obtain ⟨inside, holds, _⟩ := findIdx?_eq_some_iff_getElem.mp h
  have split : slots = slots.take i ++ slots[i] :: slots.drop (i + 1) := by simp
  exact ⟨_, _, _, split, holds, length_take_of_le (Nat.le_of_lt inside)⟩

lemma findIdx?_split {p} (found : ∃ a ∈ slots, p a) :
    ∃ front a back, slots = front ++ a :: back ∧ p a ∧ slots.findIdx? p = some front.length := by
  obtain ⟨i, h⟩ : ∃ i, slots.findIdx? p = some i := by
    rwa [← Option.isSome_iff_exists, findIdx?_isSome, any_eq_true]
  obtain ⟨front, a, back, split, here, index⟩ := split_of_findIdx? h
  exact ⟨front, a, back, split, here, index ▸ h⟩

lemma set_split : (front ++ a :: back).set front.length b = front ++ b :: back := by
  rw [set_append_right _ _ (Nat.le_refl _), Nat.sub_self, set_cons_zero]

lemma modify_split {f} : (front ++ a :: back).modify front.length f = front ++ f a :: back := by
  induction front with
  | nil => rfl
  | cons c front ih => simp [ih]

lemma getElem?_split : (front ++ a :: back)[front.length]? = some a := by
  rw [getElem?_append_right (Nat.le_refl _), Nat.sub_self, getElem?_cons_zero]

lemma getElem?_replaced {i} (other : i ≠ front.length) :
    (front ++ b :: back)[i]? = (front ++ a :: back)[i]? := by
  rw [← @set_split α front back a b, getElem?_set_ne other.symm]

lemma mem_replaced {c} (mem : c ∈ front ++ b :: back) : c = b ∨ c ∈ front ++ a :: back := by
  simp only [mem_append, mem_cons] at mem ⊢
  tauto

lemma usedKeys_split : usedKeys used key (front ++ a :: back) =
      usedKeys used key front ++ (if used a then [key a] else []) ++ usedKeys used key back := by
  by_cases h : used a = true <;> simp [usedKeys, h]

lemma usedKeys_take (free : used a = false) (taken : used b) :
    (usedKeys used key (front ++ b :: back)).Perm
      (key b :: usedKeys used key (front ++ a :: back)) := by
  rw [usedKeys_split, usedKeys_split, if_pos taken, if_neg (by rw [free]; decide),
    append_nil, append_assoc]
  exact perm_middle

lemma usedKeys_keep (before : used a) (after : used b) (same : key b = key a) :
    usedKeys used key (front ++ b :: back) = usedKeys used key (front ++ a :: back) := by
  rw [usedKeys_split, usedKeys_split, if_pos before, if_pos after, same]

lemma exists_free (room : (usedKeys used key slots).length < slots.length) :
    ∃ a ∈ slots, (!used a) := by
  by_contra none
  have all : ∀ a ∈ slots, used a := by
    intro a mem
    by_contra free
    exact none ⟨a, mem, by simpa using free⟩
  rw [usedKeys, length_map, filter_eq_self.mpr all] at room
  exact Nat.lt_irrefl _ room

lemma mem_usedKeys {k} : k ∈ usedKeys used key slots ↔ ∃ a ∈ slots, used a ∧ key a = k := by
  simp [usedKeys, and_assoc]

end SlotTable
