import DSoftBus.Lib.BoundedMemory
import Mathlib.Data.BitVec

/-!
The memory of a DFile session for transfers that are done (nstackx_file_manager.c):
MutexList, a list with a bound, and the functions that record the state of a transfer
under its number. Locking and allocation succeed.
-/
namespace DSoftBus.DFile
open BoundedMemory List

structure MutexList (α : Type) where
  items : List α
  size : Nat
  maxSize : Nat

namespace MutexList
variable {α : Type}

def init (maxSize : Nat) : MutexList α := ⟨[], 0, maxSize⟩

/-- MutexListAddNode. A full list does not take the element. -/
def addNode (list : MutexList α) (element : α) (isFront : Bool) : Option (MutexList α) :=
  if list.size = list.maxSize then none
  else some { list with
    items := if isFront then element :: list.items else list.items ++ [element]
    size := list.size + 1 }

def popFront (list : MutexList α) : Option (MutexList α) :=
  if list.size = 0 then none
  else some { list with items := list.items.tail, size := list.size - 1 }

end MutexList

inductive TransIdState where
  | init
  | done
deriving DecidableEq

structure TransStateNode where
  transId : BitVec 16
  transIdState : TransIdState

abbrev TransStateList := MutexList TransStateNode

namespace TransStateList

variable (list : TransStateList)

def getTransIdState (transId : BitVec 16) : Option TransStateNode :=
  list.items.find? fun node => node.transId = transId

/-- The node that GetTransIdState finds gets the new state. -/
def updateState (transId : BitVec 16) (state : TransIdState) : TransStateList :=
  { list with
    items := list.items.map fun node =>
      if node.transId = transId then { node with transIdState := state } else node }

/-- SetTransIdState. The second component tells whether it succeeds. A client remembers
nothing. -/
def setTransIdState (isClient : Bool) (transId : BitVec 16)
    (state : TransIdState) : TransStateList × Bool :=
  if isClient then (list, true)
  else
    match list.getTransIdState transId with
    | some node =>
      (if node.transIdState = state then list else list.updateState transId state, true)
    | none =>
      match list.addNode ⟨transId, state⟩ false with
      | none => (list, false)
      | some list =>
        if list.size = list.maxSize then
          match list.popFront with
          | none => (list, false)
          | some list => (list, true)
        else (list, true)

/-- IsTransIdDone. For a client every transfer that it does not know is done. -/
def isTransIdDone (isClient : Bool) (transId : BitVec 16) : Bool :=
  isClient || (list.getTransIdState transId).any fun node => node.transIdState = .done

def transIds : List (BitVec 16) := list.items.map (·.transId)

/-- What holds of the list of a server at any time. All that is recorded is done. -/
structure Sound (list : TransStateList) : Prop where
  size : list.size = list.items.length
  distinct : list.transIds.Nodup
  spare : list.items.length < list.maxSize
  done : ∀ node ∈ list.items, node.transIdState = .done

variable {list : TransStateList} {tid : BitVec 16}

lemma sound_init {maxSize} (positive : 0 < maxSize) :
    Sound (MutexList.init maxSize : TransStateList) := ⟨rfl, nodup_nil, positive, nofun⟩

lemma getTransIdState_eq_none : list.getTransIdState tid = none ↔ tid ∉ list.transIds := by
  simp [getTransIdState, transIds]

lemma mem_of_getTransIdState {node} (found : list.getTransIdState tid = some node) :
    node ∈ list.items ∧ tid ∈ list.transIds := by
  have mem := mem_of_find?_eq_some found
  exact ⟨mem, mem_map.mpr ⟨node, mem, by simpa using find?_some found⟩⟩

lemma isTransIdDone_server (sound : Sound list) :
    list.isTransIdDone false tid ↔ tid ∈ list.transIds := by
  rw [isTransIdDone, Bool.false_or]
  cases found : list.getTransIdState tid with
  | none => simpa using getTransIdState_eq_none.mp found
  | some node =>
    obtain ⟨mem, known⟩ := mem_of_getTransIdState found
    simp [sound.done node mem, known]

lemma transIds_append (node) :
    (list.items ++ [node]).map TransStateNode.transId = list.transIds ++ [node.transId] := by
  rw [map_append, map_singleton, transIds]

lemma Sound.done_append (sound : Sound list) :
    ∀ node ∈ list.items ++ [⟨tid, .done⟩], node.transIdState = .done := by
  intro node mem
  rcases mem_append.mp mem with old | last
  · exact sound.done node old
  · rw [List.mem_singleton.mp last]

lemma Sound.length_append (sound : Sound list) :
    (list.transIds ++ [tid]).length = list.size + 1 := by
  rw [List.length_append, transIds, List.length_map, sound.size, List.length_singleton]

lemma Sound.recorded {list'} (sound : Sound list)
    (maxSize : list'.maxSize = list.maxSize) (size : list'.size = list'.items.length)
    (ids : list'.transIds = record list.maxSize tid list.transIds)
    (done : ∀ node ∈ list'.items, node.transIdState = .done) : Sound list' := by
  have small : list.transIds.length < list.maxSize := by
    rw [transIds, length_map]
    exact sound.spare
  refine ⟨size, ?_, ?_, done⟩
  · rw [ids]
    exact nodup_record sound.distinct
  · have spare := @length_record_lt _ _ _ tid _ small
    rwa [← ids, transIds, length_map, ← maxSize] at spare

/-- Recording a transfer that is done is the step of a bounded memory, and it succeeds. -/
lemma setTransIdState_done (sound : Sound list) (tid) :
    ∃ list' : TransStateList, list.setTransIdState false tid .done = (list', true) ∧
      Sound list' ∧ list'.maxSize = list.maxSize ∧
      list'.transIds = record list.maxSize tid list.transIds := by
  rw [setTransIdState, if_neg (by simp)]
  cases found : list.getTransIdState tid with
  | some node =>
    obtain ⟨mem, known⟩ := mem_of_getTransIdState found
    refine ⟨list, ?_, sound, rfl, ?_⟩
    · dsimp only
      rw [if_pos (sound.done node mem)]
    · rw [record, if_pos known]
  | none =>
    have new := getTransIdState_eq_none.mp found
    have room : list.size ≠ list.maxSize := by
      rw [sound.size]
      exact ne_of_lt sound.spare
    let longer : TransStateList :=
      { list with items := list.items ++ [⟨tid, .done⟩], size := list.size + 1 }
    have added : list.addNode ⟨tid, .done⟩ false = some longer := if_neg room
    dsimp only
    rw [added]
    dsimp only
    by_cases full : list.size + 1 = list.maxSize
    · let shorter : TransStateList := { longer with items := longer.items.tail, size := list.size }
      have popped : longer.popFront = some shorter := if_neg (Nat.succ_ne_zero _)
      have ids : shorter.transIds = record list.maxSize tid list.transIds := by
        rw [record, if_neg new, if_pos (sound.length_append.trans full)]
        rw [transIds, map_tail, transIds_append]
      refine ⟨shorter, ?_, sound.recorded rfl ?_ ids fun node mem => ?_, rfl, ids⟩
      · rw [if_pos full, popped]
      · simp [shorter, longer, sound.size]
      · exact sound.done_append node (mem_of_mem_tail mem)
    · have ids : longer.transIds = record list.maxSize tid list.transIds := by
        rw [record, if_neg new, if_neg fun filled => full (sound.length_append.symm.trans filled)]
        exact transIds_append _
      refine ⟨longer, if_neg full, sound.recorded rfl ?_ ids sound.done_append, rfl, ids⟩
      simp [longer, sound.size]

end TransStateList

end DSoftBus.DFile
