import DSoftBus.Common.MessageHandler
import DSoftBus.Lnn.ConnectionFsm

/-!
The removal of messages and the state lists of the machines (lnn_state_machine.c,
common_list.h). The type of the messages to remove is passed on as a pointer, and type 0
is taken for a missing one.

The state lists are linked memory. Every machine has a list head of its own, but the five
states are global objects with one list node each, so a new machine takes the nodes over.
The head of an older machine still points to the last state: a walk from it finds every
state but does not come back. A creation that fails has not come to the states. Memory of
a destroyed machine may be reused.
-/
namespace DSoftBus.Lnn
open Execution Function Looper

def fsmCtrlMsgData : BitVec 32 := 1

/-- Whether the function returns 0. -/
def removeMessageFunc (para : BitVec 64) (msg : SoftBusMessage) : Bool :=
  para ≠ 0 && msg.what = fsmCtrlMsgData && msg.arg1.setWidth 32 = para.setWidth 32

/-- A machine is known by its handler. -/
def lnnFsmRemoveMessage (context : SoftBusLooperContext) (fsm : Nat) (msgType : BitVec 32) :
    SoftBusLooperContext :=
  context.loopRemoveMessageCustom fsm (removeMessageFunc (msgType.signExtend 64))

def isDataMessage (fsm : Nat) (msgType : BitVec 32) (item : SoftBusMessageNode) : Bool :=
  item.msg.handler = some fsm && item.msg.what = fsmCtrlMsgData &&
    item.msg.arg1.setWidth 32 = msgType

lemma setWidth_signExtend (t : BitVec 32) : (t.signExtend 64).setWidth 32 = t := by
  ext i inside
  have wide : i < 64 := by omega
  simp [BitVec.getElem_signExtend, inside, wide]

lemma removeMessageFunc_eq {msgType} (nonzero : msgType ≠ 0) (fsm : Nat)
    (item : SoftBusMessageNode) :
    (item.msg.handler = some fsm && removeMessageFunc (msgType.signExtend 64) item.msg) =
      isDataMessage fsm msgType item := by
  have given : msgType.signExtend 64 ≠ 0#64 := fun none => nonzero <| by
    rw [← setWidth_signExtend msgType, none]
    rfl
  simp [removeMessageFunc, isDataMessage, given, setWidth_signExtend, Bool.and_assoc]

theorem lnnFsmRemoveMessage_exact_iff (context : SoftBusLooperContext) (fsm : Nat)
    (msgType : BitVec 32) : (lnnFsmRemoveMessage context fsm msgType).msgHead =
        context.msgHead.filter (fun item => !isDataMessage fsm msgType item) ↔
      (msgType ≠ 0 ∧ context.running ∧ context.stop = false) ∨
        ∀ item ∈ context.msgHead, isDataMessage fsm msgType item = false := by
  by_cases regular : msgType ≠ 0 ∧ context.running ∧ context.stop = false
  · obtain ⟨nonzero, runs, goes⟩ := regular
    refine iff_of_true ?_ (.inl ⟨nonzero, runs, goes⟩)
    simp [lnnFsmRemoveMessage, SoftBusLooperContext.loopRemoveMessageCustom, runs, goes,
      removeMessageFunc_eq nonzero]
  -- nothing is removed: the looper does not run, or no message meets a null pointer
  have kept : (lnnFsmRemoveMessage context fsm msgType).msgHead = context.msgHead := by
    simp only [lnnFsmRemoveMessage, SoftBusLooperContext.loopRemoveMessageCustom]
    split
    · rfl
    next runs =>
      have zero : msgType = 0 := by
        by_contra nonzero
        exact regular ⟨nonzero, by simpa using runs⟩
      simp [removeMessageFunc, zero]
  rw [kept, eq_comm, List.filter_eq_self, or_iff_right regular]
  simp

theorem type_zero_stays : let context : SoftBusLooperContext :=
      ⟨[⟨⟨fsmCtrlMsgData, 0, some 1⟩, 0, 0, 0⟩], false, true, 1, 1⟩
    (lnnFsmRemoveMessage context 1 0).msgHead.length = 1 ∧
      (context.msgHead.filter fun item => !isDataMessage 1 0 item) = [] := by
  decide

inductive ListNode where
  | stateList (fsm : Nat)
  | state (state : FsmState)
deriving DecidableEq

/-- The list nodes of the states and of all machines, and which machines are allocated. -/
structure StateHeap where
  next : ListNode → ListNode
  prev : ListNode → ListNode
  live : Nat → Bool

namespace StateHeap

def init : StateHeap := ⟨id, id, fun _ => false⟩

def listInit (heap : StateHeap) (list : ListNode) : StateHeap :=
  { heap with
    next := update heap.next list list
    prev := update heap.prev list list }

def listAdd (heap : StateHeap) (list node : ListNode) : StateHeap :=
  let first := heap.next list
  { heap with
    next := update (update heap.next node first) list node
    prev := update (update heap.prev node list) first node }

/-- The loop of IsDuplicateState from `item` on; it has no result while it goes on. -/
def isDuplicateFrom (heap : StateHeap) (list node : ListNode) : Nat → ListNode → Option Bool
  | 0, _ => none
  | fuel + 1, item =>
    if item = list then some false
    else if item = node then some true
    else isDuplicateFrom heap list node fuel (heap.next item)

def isDuplicateState (heap : StateHeap) (fuel fsm : Nat) (state : FsmState) : Option Bool :=
  heap.isDuplicateFrom (.stateList fsm) (.state state) fuel (heap.next (.stateList fsm))

variable (heap : StateHeap) (fsm : Nat)

/-- A list of the five states is walked through in six steps. -/
def lnnFsmAddState (state : FsmState) : Option StateHeap :=
  match heap.isDuplicateState 6 fsm state with
  | none => none
  | some true => some heap
  | some false => some ((heap.listInit (.state state)).listAdd (.stateList fsm) (.state state))

def gStates : List FsmState := [.auth, .syncDeviceInfo, .cleanInvalidConn, .online, .leaving]

def lnnCreateConnectionFsm : Option StateHeap :=
  gStates.foldlM (fun heap => heap.lnnFsmAddState fsm)
    ({ heap with live := update heap.live fsm true }.listInit (.stateList fsm))

def lnnDestroyConnectionFsm : StateHeap :=
  { heap with live := update heap.live fsm false }

def lnnFsmTransactState (heap : StateHeap) (fuel fsm : Nat) (curState state : FsmState) :
    Option FsmState :=
  (heap.isDuplicateState fuel fsm state).map fun found => if found then state else curState

/-- The nodes that a walk from `item` visits before it comes back to the head. -/
def visited (heap : StateHeap) (list : ListNode) : Nat → ListNode → Option (List ListNode)
  | 0, _ => none
  | fuel + 1, item =>
    if item = list then some [] else (visited heap list fuel (heap.next item)).map (item :: ·)

end StateHeap

inductive MachineCall where
  | create (fsm : Nat)
  | destroy (fsm : Nat)

/-- Emits the machines in the order of their creation. -/
def machineStep (heap : StateHeap) : MachineCall → Option (StateHeap × List Nat)
  | .create fsm =>
    if heap.live fsm then none else (heap.lnnCreateConnectionFsm fsm).map (·, [fsm])
  | .destroy fsm => if heap.live fsm then some (heap.lnnDestroyConnectionFsm fsm, []) else none

namespace StateHeap
variable (heap : StateHeap) (fsm : Nat)

/-- The list is circular in both directions, and its nodes are the five states. -/
def OwnStates : Prop :=
  ∃ fuel nodes, heap.visited (.stateList fsm) fuel (heap.next (.stateList fsm)) = some nodes ∧
    nodes.Perm (gStates.map .state) ∧
    ∀ node ∈ .stateList fsm :: nodes, heap.prev (heap.next node) = node

def FindsStates : Prop :=
  ∀ curState state, ∃ fuel, heap.lnnFsmTransactState fuel fsm curState state = some state

/-- Where the lists stand: the states in a row, the last created machine behind them. -/
structure Chained (last : Nat) : Prop where
  heads : ∀ fsm, heap.live fsm → heap.next (.stateList fsm) = .state .leaving
  leaving : heap.next (.state .leaving) = .state .online
  online : heap.next (.state .online) = .state .cleanInvalidConn
  clean : heap.next (.state .cleanInvalidConn) = .state .syncDeviceInfo
  sync : heap.next (.state .syncDeviceInfo) = .state .auth
  auth : heap.next (.state .auth) = .stateList last
  back : heap.live last → ∀ node ∈ .stateList last :: gStates.map .state,
    heap.prev (heap.next node) = node

variable {heap fsm} {last : Nat}

lemma create_chained
    (others : ∀ fsm, heap.live fsm → heap.next (.stateList fsm) = .state .leaving) :
    ∃ next, heap.lnnCreateConnectionFsm fsm = some next ∧ next.Chained fsm := by
  simp only [lnnCreateConnectionFsm, gStates, List.foldlM_cons, List.foldlM_nil, lnnFsmAddState,
    isDuplicateState, isDuplicateFrom, listInit, listAdd]
  simp only [update_apply, reduceCtorEq, ListNode.state.injEq, if_true, if_false,
    Option.pure_def, Option.bind_eq_bind, Option.bind_some]
  refine ⟨_, rfl, ?_, ?_, ?_, ?_, ?_, ?_, ?_⟩
  · intro other alive
    by_cases new : other = fsm
    · simp [new]
    · simpa [new] using others other (by simpa [new] using alive)
  all_goals simp [gStates]

lemma live_of_destroy {other}
    (alive : (heap.lnnDestroyConnectionFsm fsm).live other) : heap.live other := by
  by_cases gone : other = fsm
  · simp [lnnDestroyConnectionFsm, gone] at alive
  · simpa [lnnDestroyConnectionFsm, gone] using alive

section

variable (chained : heap.Chained last)
include chained

lemma Chained.destroy (fsm) : (heap.lnnDestroyConnectionFsm fsm).Chained last :=
  { chained with
    heads := fun other alive => chained.heads other (live_of_destroy alive)
    back := fun alive => chained.back (live_of_destroy alive) }

lemma Chained.findsStates (alive : heap.live fsm) : heap.FindsStates fsm := by
  obtain ⟨heads, leaving, online, clean, sync, _, _⟩ := chained
  intro curState state
  refine ⟨5, ?_⟩
  cases state <;>
    simp [lnnFsmTransactState, isDuplicateState, isDuplicateFrom, heads fsm alive, leaving, online,
      clean, sync]

lemma Chained.ownStates (alive : heap.live last) : heap.OwnStates last := by
  obtain ⟨heads, leaving, online, clean, sync, auth, back⟩ := chained
  refine ⟨6, (gStates.map .state).reverse, ?_, List.reverse_perm _, fun node mem => ?_⟩
  · simp [visited, heads last alive, leaving, online, clean, sync, auth, gStates]
  · exact back alive node (by simpa using mem)

/-- From an older machine the walk comes by the head of the last one. -/
lemma Chained.last_of_ownStates (alive : heap.live fsm)
    (own : heap.OwnStates fsm) : last = fsm := by
  obtain ⟨heads, leaving, online, clean, sync, auth, _⟩ := chained
  obtain ⟨fuel, nodes, walked, states, _⟩ := own
  by_contra other
  have passes : .stateList last ∈ nodes := by
    rw [heads fsm alive] at walked
    rcases fuel with _ | _ | _ | _ | _ | _ | fuel <;>
      simp [visited, leaving, online, clean, sync, auth, other] at walked
    obtain ⟨rest, _, rfl⟩ := walked
    simp
  simpa [gStates] using states.subset passes

end

end StateHeap

/-- The head of a live machine is in the memory the last creation left behind. -/
def Placed (heap : StateHeap) (created : List Nat) : Prop :=
  ∀ fsm, heap.live fsm → ∃ last, created.getLast? = some last ∧ heap.Chained last

lemma machineStep_placed (heap : StateHeap) (created : List Nat) (call : MachineCall)
    (next : StateHeap) (new : List Nat) (placed : Placed heap created) (_ : True)
    (step : machineStep heap call = some (next, new)) : Placed next (created ++ new) := by
  cases call with
  | create fsm =>
    rw [machineStep] at step
    split at step
    · cases step
    obtain ⟨made, creation, done⟩ := Option.map_eq_some_iff.mp step
    cases done
    have heads (other) (alive : heap.live other) :
        heap.next (.stateList other) = .state .leaving := by
      obtain ⟨_, _, chained⟩ := placed other alive
      exact chained.heads other alive
    obtain ⟨_, same, chained⟩ := StateHeap.create_chained heads
    cases creation.symm.trans same
    exact fun _ _ => ⟨fsm, List.getLast?_concat, chained⟩
  | destroy fsm =>
    rw [machineStep] at step
    split at step
    · cases step
      intro other alive
      obtain ⟨last, latest, chained⟩ := placed other (StateHeap.live_of_destroy alive)
      exact ⟨last, by rwa [List.append_nil], chained.destroy fsm⟩
    · cases step

section
variable {calls : List MachineCall} {heap : StateHeap} {created : List Nat} {fsm : Nat}

lemma reached_placed (reached : run machineStep .init calls = some (heap, created)) :
    Placed heap created := by
  have start : Placed .init [] := fun _ alive => by cases alive
  simpa using run_invariant machineStep_placed start (fun _ _ _ _ _ _ _ => trivial) reached

theorem stateLists_separate_iff (reached : run machineStep .init calls = some (heap, created))
    (alive : heap.live fsm) :
    heap.OwnStates fsm ∧ heap.FindsStates fsm ↔ created.getLast? = some fsm := by
  obtain ⟨last, latest, chained⟩ := reached_placed reached fsm alive
  rw [latest, Option.some_inj]
  constructor
  · exact fun own => chained.last_of_ownStates alive own.1
  · intro same
    cases same
    exact ⟨chained.ownStates alive, chained.findsStates alive⟩

end

theorem stateLists_separate_second :
    ∃ heap, run machineStep .init [.create 0, .create 1, .destroy 0] = some (heap, [0, 1]) ∧
      heap.OwnStates 1 ∧ heap.FindsStates 1 :=
  ⟨_, rfl, (@stateLists_separate_iff [.create 0, .create 1, .destroy 0] _ _ 1 rfl rfl).mpr rfl⟩

/-- The first machine does not have its states any more when there is a second one. -/
theorem second_machine_takes_states :
    ∃ heap, run machineStep .init [.create 0, .create 1] = some (heap, [0, 1]) ∧
      heap.live 0 ∧ ¬ heap.OwnStates 0 := by
  refine ⟨_, rfl, rfl, fun own => ?_⟩
  obtain ⟨last, latest, chained⟩ := @reached_placed [.create 0, .create 1] _ _ rfl 0 rfl
  cases latest
  exact absurd (chained.last_of_ownStates rfl own) (by decide)

end DSoftBus.Lnn
