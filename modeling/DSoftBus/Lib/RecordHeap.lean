import DSoftBus.Lib.KeyedList

/-!
Allocated records that are linked into a list, newest first. A record is reached
through its handle, which stands for its address; handles are never reused, so a
handle of a freed record finds nothing.
-/
universe u v

structure RecordHeap (α : Type u) where
  cells : List (Nat × α)
  next : Nat
  distinct : (cells.map Prod.fst).Nodup
  below : ∀ cell ∈ cells, cell.1 < next

namespace RecordHeap
open KeyedList List
variable {α : Type u} {β : Type v}

def empty : RecordHeap α := ⟨[], 0, nodup_nil, by simp⟩

variable (heap : RecordHeap α)

def get? (h : Nat) : Option α := (lookup Prod.fst h heap.cells).map Prod.snd

variable (p : α → Bool)

def find? : Option Nat := (heap.cells.find? fun cell => p cell.2).map Prod.fst

/-- The first record of the list with the property, with its handle. -/
def first? : Option (Nat × α) := heap.cells.find? fun cell => p cell.2

def all : List (Nat × α) := heap.cells.filter fun cell => p cell.2

/-- The last record of the list with the property, which may also speak of the handle. -/
def oldest? (p : Nat → α → Bool) : Option Nat :=
  (heap.cells.reverse.find? fun cell => p cell.1 cell.2).map Prod.fst

def alloc (a : α) : RecordHeap α where
  cells := (heap.next, a) :: heap.cells
  next := heap.next + 1
  distinct := by
    rw [map_cons, nodup_cons]
    refine ⟨fun mem => ?_, heap.distinct⟩
    obtain ⟨cell, hMem, hEq⟩ := mem_map.mp mem
    exact Nat.lt_irrefl _ (hEq ▸ heap.below cell hMem)
  below := by
    intro cell mem
    cases mem with
    | head => exact Nat.lt_succ_self _
    | tail _ hMem => exact Nat.lt_succ_of_lt (heap.below cell hMem)

def onRecord (f : α → β) (cell : Nat × α) : Nat × β := (cell.1, f cell.2)

lemma onRecord_fst (f : α → β) {h} (cell) (here : cell.1 = h) : (onRecord f cell).1 = h := here

def modify (h : Nat) (f : α → α) : RecordHeap α where
  cells := update Prod.fst h (onRecord f) heap.cells
  next := heap.next
  distinct := by
    rw [map_key_update (onRecord_fst f)]
    exact heap.distinct
  below := by
    intro cell mem
    rcases mem_update mem with hMem | ⟨old, hOld, rfl⟩
    · exact heap.below cell hMem
    · exact heap.below old (mem_of_lookup hOld).1

def map (f : α → β) : RecordHeap β where
  cells := heap.cells.map (onRecord f)
  next := heap.next
  distinct := by
    rw [map_map]
    exact heap.distinct
  below := by
    intro cell mem
    obtain ⟨old, hOld, rfl⟩ := mem_map.mp mem
    exact heap.below old hOld

def free (h : Nat) : RecordHeap α where
  cells := remove Prod.fst h heap.cells
  next := heap.next
  distinct := (eraseP_sublist.map Prod.fst).nodup heap.distinct
  below := fun cell mem => heap.below cell (mem_of_mem_remove mem)

def freeAll : RecordHeap α where
  cells := heap.cells.filter fun cell => !p cell.2
  next := heap.next
  distinct := (filter_sublist.map Prod.fst).nodup heap.distinct
  below := fun cell mem => heap.below cell (mem_of_mem_filter mem)

/-- A handle is given out for a record that is freed without having been linked. -/
def reserve : RecordHeap α where
  cells := heap.cells
  next := heap.next + 1
  distinct := heap.distinct
  below := fun cell mem => Nat.lt_succ_of_lt (heap.below cell mem)

variable {heap : RecordHeap α} {h g : Nat} {a : α} {f : α → α} {p : α → Bool}

lemma get?_empty (h) : (empty : RecordHeap α).get? h = none := rfl

lemma mem_of_get? (found : heap.get? h = some a) : (h, a) ∈ heap.cells := by
  obtain ⟨cell, hLookup, rfl⟩ := Option.map_eq_some_iff.mp found
  obtain ⟨mem, rfl⟩ := mem_of_lookup hLookup
  exact mem

lemma lookup_of_mem (mem : (h, a) ∈ heap.cells) : lookup Prod.fst h heap.cells = some (h, a) :=
  (lookup_eq_some heap.distinct).mpr ⟨mem, rfl⟩

lemma get?_of_mem (mem : (h, a) ∈ heap.cells) : heap.get? h = some a := by
  rw [get?, lookup_of_mem mem]
  rfl

lemma lt_next (found : heap.get? h = some a) : h < heap.next := heap.below _ (mem_of_get? found)

lemma get?_of_find? (found : heap.find? p = some h) : ∃ a, heap.get? h = some a ∧ p a := by
  obtain ⟨cell, hFind, rfl⟩ := Option.map_eq_some_iff.mp found
  have holds : p cell.2 := by simpa using find?_some hFind
  exact ⟨cell.2, get?_of_mem (mem_of_find?_eq_some hFind), holds⟩

lemma get?_of_first? (found : heap.first? p = some (h, a)) : heap.get? h = some a ∧ p a := by
  have holds : p a := by simpa using find?_some found
  exact ⟨get?_of_mem (mem_of_find?_eq_some found), holds⟩

lemma mem_all : (h, a) ∈ heap.all p ↔ heap.get? h = some a ∧ p a := by
  rw [all, mem_filter]
  exact ⟨fun mem => ⟨get?_of_mem mem.1, mem.2⟩, fun found => ⟨mem_of_get? found.1, found.2⟩⟩

lemma get?_of_oldest? {p} (found : heap.oldest? p = some h) :
    ∃ a, heap.get? h = some a ∧ p h a := by
  obtain ⟨cell, hFind, rfl⟩ := Option.map_eq_some_iff.mp found
  have holds : p cell.1 cell.2 := by simpa using find?_some hFind
  exact ⟨cell.2, get?_of_mem (mem_reverse.mp (mem_of_find?_eq_some hFind)), holds⟩

lemma not_of_oldest?_eq_none {p} (none : heap.oldest? p = none)
    (found : heap.get? h = some a) : p h a = false := by
  have missed := find?_eq_none.mp (Option.map_eq_none_iff.mp none) (h, a)
    (mem_reverse.mpr (mem_of_get? found))
  simpa using missed

lemma get?_alloc_of_ne (other : h ≠ heap.next) : (heap.alloc a).get? h = heap.get? h := by
  have other' : ((heap.next, a) : Nat × α).1 ≠ h := other.symm
  exact congrArg (Option.map Prod.snd) (lookup_cons_of_ne other' heap.cells)

lemma get?_alloc_of_lt (old : h < heap.next) : (heap.alloc a).get? h = heap.get? h :=
  get?_alloc_of_ne (Nat.ne_of_lt old)

lemma get?_alloc_next : (heap.alloc a).get? heap.next = some a := by
  have here : ((heap.next, a) : Nat × α).1 = heap.next := rfl
  exact congrArg (Option.map Prod.snd) (lookup_cons_self here heap.cells)

lemma get?_alloc_eq_some {b} (found : (heap.alloc a).get? h = some b) :
    (h = heap.next ∧ b = a) ∨ heap.get? h = some b := by
  by_cases new : h = heap.next
  · subst new
    rw [get?_alloc_next] at found
    cases found
    exact .inl ⟨rfl, rfl⟩
  · have old : h < heap.next := Nat.lt_of_le_of_ne (Nat.lt_succ_iff.mp (lt_next found)) new
    rw [get?_alloc_of_lt old] at found
    exact .inr found

lemma get?_modify_self : (heap.modify h f).get? h = (heap.get? h).map f := by
  rw [get?, modify, lookup_update_self (onRecord_fst f), get?, Option.map_map, Option.map_map]
  rfl

lemma get?_modify_of_ne (other : g ≠ h) : (heap.modify h f).get? g = heap.get? g := by
  rw [get?, modify, lookup_update_of_ne (onRecord_fst f) other, get?]

lemma get?_modify_of_get? (found : heap.get? g = some a) :
    (heap.modify h f).get? g = some (if g = h then f a else a) := by
  split
  next same =>
    subst same
    rw [get?_modify_self, found]
    rfl
  next other => rw [get?_modify_of_ne other, found]

/-- A record after a modification is an old one, changed when it is the one modified. -/
lemma get?_modify_eq_some (found : (heap.modify h f).get? g = some a) :
    (g ≠ h ∧ heap.get? g = some a) ∨ (g = h ∧ ∃ b, heap.get? h = some b ∧ a = f b) := by
  by_cases same : g = h
  · subst same
    rw [get?_modify_self] at found
    obtain ⟨b, hOld, rfl⟩ := Option.map_eq_some_iff.mp found
    exact .inr ⟨rfl, b, hOld, rfl⟩
  · rw [get?_modify_of_ne same] at found
    exact .inl ⟨same, found⟩

lemma get?_map {f : α → β} : (heap.map f).get? h = (heap.get? h).map f := by
  rw [get?, get?, KeyedList.lookup, map, find?_map, Option.map_map, Option.map_map]
  rfl

lemma find?_modify (same : ∀ a, heap.get? h = some a → p (f a) = p a) :
    (heap.modify h f).find? p = heap.find? p := by
  refine map_key_find?_update (onRecord_fst f) fun cell found => same cell.2 ?_
  rw [get?, found]
  rfl

lemma get?_free_of_ne (other : g ≠ h) : (heap.free h).get? g = heap.get? g := by
  rw [get?, free, lookup_remove_of_ne other, get?]

lemma get?_of_free (found : (heap.free h).get? g = some a) : heap.get? g = some a :=
  get?_of_mem (mem_of_mem_remove (mem_of_get? found))

lemma get?_free_self : (heap.free h).get? h = none := by
  rw [get?, free, lookup_remove_self heap.distinct]
  rfl

lemma ne_of_get?_free (found : (heap.free h).get? g = some a) : g ≠ h := by
  rintro rfl
  simp [get?_free_self] at found

lemma get?_reserve : heap.reserve.get? h = heap.get? h := rfl

lemma get?_freeAll : (heap.freeAll p).get? h = some a ↔ heap.get? h = some a ∧ p a = false := by
  have mem : (h, a) ∈ (heap.freeAll p).cells ↔ (h, a) ∈ heap.cells ∧ p a = false := by
    rw [freeAll, mem_filter, Bool.not_eq_true']
  exact ⟨fun found => (mem.mp (mem_of_get? found)).imp_left get?_of_mem,
    fun found => get?_of_mem (mem.mpr ⟨mem_of_get? found.1, found.2⟩)⟩

lemma get?_freeAll_eq : (heap.freeAll p).get? h = (heap.get? h).filter fun a => !p a := by
  refine Option.ext fun a => ?_
  rw [get?_freeAll, Option.filter_eq_some_iff, Bool.not_eq_true']

lemma filter_all : (heap.all p).filter (fun cell => cell.1 = h) =
    ((heap.get? h).filter p).toList.map (Prod.mk h) := by
  rw [all, filter_filter]
  have swap : (fun cell : Nat × α => decide (cell.1 = h) && p cell.2) =
      fun cell => p cell.2 && decide (cell.1 = h) := funext fun cell => Bool.and_comm ..
  rw [swap, ← filter_filter, filter_key heap.distinct]
  cases found : lookup Prod.fst h heap.cells with
  | none => simp [get?, found]
  | some cell =>
    obtain ⟨_, rfl⟩ := mem_of_lookup found
    rw [get?, found]
    cases holds : p cell.2 <;> simp [Option.filter, holds]

lemma length_free (found : heap.get? h = some a) :
    heap.cells.length = (heap.free h).cells.length + 1 := by
  exact (perm_cons_remove (lookup_of_mem (mem_of_get? found))).length_eq

lemma length_freeAll : heap.cells.length = (heap.freeAll p).cells.length + (heap.all p).length := by
  rw [freeAll, all, Nat.add_comm]
  exact length_eq_length_filter_add fun cell : Nat × α => p cell.2

lemma eq_of_cells {heap heap' : RecordHeap α} (cells : heap.cells = heap'.cells)
    (next : heap.next = heap'.next) : heap = heap' := by
  cases heap
  cases heap'
  cases cells
  cases next
  rfl

lemma all_map {f : α → β} {q : β → Bool} :
    (heap.map f).all q = (heap.all fun a => q (f a)).map (onRecord f) := filter_map ..

lemma map_free {f : α → β} : (heap.free h).map f = (heap.map f).free h := by
  have cells : (remove Prod.fst h heap.cells).map (onRecord f) =
      remove Prod.fst h (heap.cells.map (onRecord f)) := by
    rw [remove, remove, eraseP_map]
    rfl
  exact eq_of_cells cells rfl

lemma map_freeAll {f : α → β} {q : β → Bool} :
    (heap.freeAll fun a => q (f a)).map f = (heap.map f).freeAll q := by
  have cells : (heap.cells.filter fun cell => !q (f cell.2)).map (onRecord f) =
      (heap.cells.map (onRecord f)).filter fun cell => !q cell.2 := by
    rw [filter_map]
    rfl
  exact eq_of_cells cells rfl

lemma map_modify {f : α → β} {g : α → α} {k : β → β}
    (same : ∀ a, heap.get? h = some a → f (g a) = k (f a)) :
    (heap.modify h g).map f = (heap.map f).modify h k := by
  have cells : (update Prod.fst h (onRecord g) heap.cells).map (onRecord f) =
      update Prod.fst h (onRecord k) (heap.cells.map (onRecord f)) := by
    refine map_update (fun _ => rfl) ?_
    rintro ⟨_, a⟩ mem rfl
    exact congrArg (Prod.mk _) (same a (get?_of_mem mem))
  exact eq_of_cells cells rfl

lemma modify_id : heap.modify h id = heap := by
  have cells : update Prod.fst h (onRecord id) heap.cells = heap.cells := update_id heap.cells
  exact eq_of_cells cells rfl

lemma map_map {γ : Type*} {f : α → β} {g : β → γ} : (heap.map f).map g = heap.map (g ∘ f) :=
  eq_of_cells (List.map_map ..) rfl

lemma free_alloc : (heap.alloc a).free heap.next = heap.reserve := by
  have cells : remove Prod.fst heap.next ((heap.next, a) :: heap.cells) = heap.cells :=
    eraseP_cons_of_pos (by simp)
  exact eq_of_cells cells rfl

end RecordHeap
