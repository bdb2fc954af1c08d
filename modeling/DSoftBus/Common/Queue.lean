import DSoftBus.Adapter
import DSoftBus.Lib.TicketRing

/-!
The lock-free ring queue of softbus_queue.h and softbus_queue.c, as threads that take
turns in any order. A step of a thread makes at most one access to memory that others can
write.

The four operations are one machine whose parameters are the end of the queue they work on
and whether they share it. The queue and the output of a dequeue are not `NULL`. The
counts of claims and what the threads remember of them are not in the source: no step
depends on them.
-/
namespace DSoftBus.Queue
open TicketRing

inductive QueueError where
  | inval
  | full
  | empty

structure QueueEnd where
  size : BitVec 32
  mask : BitVec 32
  head : BitVec 32
  tail : BitVec 32

/-- A node is a pointer; `none` is `NULL`, which is also what the memory starts with. -/
structure LockFreeQueue (α : Type*) where
  magic : BitVec 32
  unitNum : BitVec 32
  producer : QueueEnd
  consumer : QueueEnd
  nodes : List (Option α)

def queueHeaderMagic : BitVec 32 := 0xccddddcc
def queueSizeMax : Nat := 8192
def cacheLineSize : BitVec 32 := 64

def isPowerOf2 (x : BitVec 32) : Bool := ((x - 1) &&& x) = 0

section
variable {α : Type*}

def queueInit (nodes : List (Option α)) (unitNum : BitVec 32) :
    Except QueueError (LockFreeQueue α) :=
  if isPowerOf2 unitNum then
    .ok { magic := queueHeaderMagic, unitNum := unitNum,
          producer := ⟨unitNum, unitNum - 1, 0, 0⟩, consumer := ⟨unitNum, unitNum - 1, 0, 0⟩,
          nodes := nodes }
  else .error .inval

/-- The header takes 192 bytes and a pointer takes 8. -/
def queueSizeCalc (unitNum : BitVec 32) : Except QueueError (BitVec 32) :=
  if queueSizeMax < unitNum.toNat then .error .inval
  else
    let size := 8 * unitNum + 192
    .ok ((size + cacheLineSize - 1) &&& ~~~(cacheLineSize - 1))

def createQueue (unitNum : BitVec 32) : Option (LockFreeQueue α) :=
  if isPowerOf2 unitNum then
    match queueSizeCalc unitNum with
    | .error _ => none
    | .ok queueSize =>
      match softBusCalloc queueSize.toNat with
      | none => none
      | some _ => (queueInit (List.replicate unitNum.toNat none) unitNum).toOption
  else none

end

namespace LockFreeQueue
variable {α : Type*} (queue : LockFreeQueue α)

def endOf : Side → QueueEnd
  | .producer => queue.producer
  | .consumer => queue.consumer

def setHead (head : BitVec 32) : Side → LockFreeQueue α
  | .producer => { queue with producer.head := head }
  | .consumer => { queue with consumer.head := head }

def setTail (tail : BitVec 32) : Side → LockFreeQueue α
  | .producer => { queue with producer.tail := tail }
  | .consumer => { queue with consumer.tail := tail }

/-- Every operation takes the mask of the producer. -/
def slot (head : BitVec 32) : Nat := (head &&& queue.producer.mask).toNat

def availableCount (head otherTail : BitVec 32) : Side → BitVec 32
  | .producer => queue.producer.mask + otherTail - head
  | .consumer => otherTail - head

variable {queue} {word : BitVec 32} {side other : Side}

@[simp] lemma head_setHead_self : ((queue.setHead word side).endOf side).head = word := by
  cases side <;> rfl

lemma head_setHead_of_ne (ne : other ≠ side) :
    ((queue.setHead word side).endOf other).head = (queue.endOf other).head := by
  cases side <;> cases other <;> first | rfl | contradiction

@[simp] lemma tail_setHead :
    ((queue.setHead word side).endOf other).tail = (queue.endOf other).tail := by
  cases side <;> cases other <;> rfl

@[simp] lemma mask_setHead : (queue.setHead word side).producer.mask = queue.producer.mask := by
  cases side <;> rfl

@[simp] lemma nodes_setHead : (queue.setHead word side).nodes = queue.nodes := by
  cases side <;> rfl

@[simp] lemma tail_setTail_self : ((queue.setTail word side).endOf side).tail = word := by
  cases side <;> rfl

lemma tail_setTail_of_ne (ne : other ≠ side) :
    ((queue.setTail word side).endOf other).tail = (queue.endOf other).tail := by
  cases side <;> cases other <;> first | rfl | contradiction

@[simp] lemma head_setTail :
    ((queue.setTail word side).endOf other).head = (queue.endOf other).head := by
  cases side <;> cases other <;> rfl

@[simp] lemma mask_setTail : (queue.setTail word side).producer.mask = queue.producer.mask := by
  cases side <;> rfl

@[simp] lemma nodes_setTail : (queue.setTail word side).nodes = queue.nodes := by
  cases side <;> rfl

end LockFreeQueue

/-- An operation in progress. `node` is what is enqueued, or what was dequeued. -/
structure QueueCall (α : Type*) where
  side : Side
  multi : Bool
  node : Option α

def queueSingleProducerEnqueue {α : Type*} (node : Option α) : QueueCall α :=
  ⟨.producer, false, node⟩

def queueMultiProducerEnqueue {α : Type*} (node : Option α) : QueueCall α := ⟨.producer, true, node⟩

def queueSingleConsumerDequeue {α : Type*} : QueueCall α := ⟨.consumer, false, none⟩

def queueMultiConsumerDequeue {α : Type*} : QueueCall α := ⟨.consumer, true, none⟩

/-- What a thread does next. `seen` is the number of claims when the head was read, `index` the
number of the thread's claim. -/
inductive QueuePc where
  | readHead
  | readTail (head : BitVec 32) (seen : Nat)
  | claim (head otherTail : BitVec 32) (seen : Nat)
  | access (head : BitVec 32) (index : Nat)
  | wait (head : BitVec 32) (index : Nat)
  | addLoad (index : Nat)
  | publish (next : BitVec 32) (index : Nat)

/-- The single variants store the tail at once; the others wait for their turn. -/
def afterAccess (multi : Bool) (head : BitVec 32) (index : Nat) : QueuePc :=
  if multi then .wait head index else .publish (head + 1) index

structure QueueState (T α : Type*) where
  queue : LockFreeQueue α
  threads : T → Option (QueueCall α × QueuePc)
  claims : Side → Nat

inductive QueueEvent (T α : Type*) where
  | completed (thread : T) (side : Side) (index : Nat) (node : Option α)
  | failed (thread : T) (error : QueueError)

inductive QueueInput (T α : Type*) where
  | call (thread : T) (call : QueueCall α)
  | step (thread : T)

def QueueState.start {T α : Type*} (queue : LockFreeQueue α) : QueueState T α :=
  ⟨queue, fun _ => none, fun _ => 0⟩

section
variable {T α : Type*} [DecidableEq T]

variable (s : QueueState T α) (t : T)

def QueueState.setThread (thread : Option (QueueCall α × QueuePc)) : QueueState T α :=
  { s with threads := Function.update s.threads t thread }

/-- The head moves on, by the compare-and-swap or by a plain store. -/
def claimNext (call : QueueCall α) (head : BitVec 32) : QueueState T α :=
  { queue := s.queue.setHead (head + 1) call.side
    threads := Function.update s.threads t (some (call, .access head (s.claims call.side)))
    claims := Function.update s.claims call.side (s.claims call.side + 1) }

def threadStep (call : QueueCall α) : QueuePc → Option (QueueState T α × List (QueueEvent T α))
  | .readHead =>
    some (s.setThread t (some (call, .readTail (s.queue.endOf call.side).head
      (s.claims call.side))), [])
  | .readTail head seen =>
    some (s.setThread t (some (call, .claim head (s.queue.endOf call.side.other).tail seen)), [])
  | .claim head otherTail _ =>
    if s.queue.availableCount head otherTail call.side < 1 then
      let error := match call.side with
        | .producer => QueueError.full
        | .consumer => QueueError.empty
      some (s.setThread t none, [.failed t error])
    else if call.multi ∧ (s.queue.endOf call.side).head ≠ head then
      some (s.setThread t (some (call, .readHead)), [])
    else some (claimNext s t call head, [])
  | .access head index =>
    -- a slot outside the nodes would be an access outside the queue
    match s.queue.nodes[s.queue.slot head]? with
    | none => none
    | some stored =>
      match call.side with
      | .producer =>
        some ({ s.setThread t (some (call, afterAccess call.multi head index)) with
          queue := { s.queue with
            nodes := s.queue.nodes.set (s.queue.slot head) call.node } }, [])
      | .consumer =>
        some (s.setThread t
          (some ({ call with node := stored }, afterAccess call.multi head index)), [])
  | .wait head index =>
    if (s.queue.endOf call.side).tail ≠ head then some (s, [])
    else some (s.setThread t (some (call, .addLoad index)), [])
  | .addLoad index =>
    some (s.setThread t (some (call, .publish ((s.queue.endOf call.side).tail + 1) index)), [])
  | .publish next index =>
    some ({ s.setThread t none with queue := s.queue.setTail next call.side },
      [.completed t call.side index call.node])

/-- A thread inside an operation makes no other call, and an idle one has no step. -/
def queueStep (s : QueueState T α) :
    QueueInput T α → Option (QueueState T α × List (QueueEvent T α))
  | .call t call =>
    match s.threads t with
    | some _ => some (s, [])
    | none =>
      if call.side = .producer ∧ call.node.isNone then some (s, [.failed t .inval])
      else some (s.setThread t (some (call, .readHead)), [])
  | .step t =>
    match s.threads t with
    | none => some (s, [])
    | some (call, pc) => threadStep s t call pc

end
end DSoftBus.Queue
