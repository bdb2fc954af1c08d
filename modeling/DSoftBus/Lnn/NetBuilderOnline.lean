import DSoftBus.Lnn.NetBuilderDisconnect
import DSoftBus.Lnn.ConnectionFsmTimeout

/-!
When the machines of a new network id are let online. A change of network id marks the
online machines of the old id and asks them to leave; the one cleaned last lets the
machines of the new id online. It knows only the new id of its own mark, so two pending
changes of the same old id must agree.

The pending changes are not part of the program: a change is pending from the message that
finds or makes a marked machine of its old id until the last such machine is cleaned.
-/
namespace DSoftBus.Lnn

open Execution NetBuilder KeyedList List Linked

structure NetworkChange where
  oldNetworkId : CString
  cleanInfo : LnnInvalidCleanInfo

namespace NetBuilder

def isMarkedFrom (networkId : CString) (item : Linked) : Bool :=
  isFrom networkId item && item.marked

variable (nb : NetBuilder)

def cleansLast (event : NetEvent) : Option Linked :=
  (nb.cleanedBy event).filter fun cleaned =>
    cleaned.marked && !(nb.remaining cleaned).any (isMarkedFrom cleaned.networkId)

def changesAfter (changes : List NetworkChange) (event : NetEvent)
    (nb' : NetBuilder) : List NetworkChange :=
  match event with
  | .leaveInvalidConn oldNetworkId cleanInfo _ =>
    if nb'.fsmList.any (isMarkedFrom oldNetworkId) then ⟨oldNetworkId, cleanInfo⟩ :: changes
    else changes
  | event =>
    match nb.cleansLast event with
    | none => changes
    | some cleaned => changes.filter fun change => change.oldNetworkId ≠ cleaned.networkId

def changeStep (state : NetBuilder × List NetworkChange) (event : NetEvent) :
    Option ((NetBuilder × List NetworkChange) × List NetAction) :=
  (netBuilderStep state.1 event).map fun result =>
    ((result.1, state.1.changesAfter state.2 event result.1), result.2)

def told (out : List NetAction) : List Nat :=
  out.filterMap fun
    | .newNetworkOnline serial => some serial
    | _ => none

/-- When the last marked machine of an id is cleaned, the live machines of the new id of a
pending change of that id, with a matching address type, should be told. -/
def toldBy (changes : List NetworkChange) (event : NetEvent) : List Nat :=
  match nb.cleansLast event with
  | none => []
  | some cleaned =>
    ((nb.remaining cleaned).filter fun item =>
      changes.any fun change =>
        change.oldNetworkId = cleaned.networkId && isTarget change.cleanInfo item).map serial

/-- The condition on one step: a change of network id agrees with the machines of the old id
that are still marked. -/
def ChangesAgree : NetEvent → Prop
  | .leaveInvalidConn oldNetworkId cleanInfo _ =>
    ∀ item ∈ nb.fsmList, isMarkedFrom oldNetworkId item →
      item.fsm.connInfo.cleanInfo = some cleanInfo
  | _ => True

instance (nb : NetBuilder) (event : NetEvent) : Decidable (nb.ChangesAgree event) := by
  refine event.casesOn ?_ ?_ ?_ ?_ ?_ ?_ ?_ ?_ ?_ ?_ ?_ ?_ ?_ <;> intros <;>
    dsimp only [ChangesAgree] <;> infer_instance

end NetBuilder

def LnnConnectionFsm.Settling (fsm : LnnConnectionFsm) : Prop :=
  fsm.connInfo.flag.online ∨ fsm.connInfo.flag.initiateOnline → fsm.isDead ∨ ¬fsm.Joining

namespace LnnConnectionFsm

variable {fsm : LnnConnectionFsm}

lemma Settling.flags (inv : fsm.Settling) (alive : fsm.isDead = false) (joining : fsm.Joining) :
    ¬(fsm.connInfo.flag.online ∨ fsm.connInfo.flag.initiateOnline) := fun flags =>
  (inv flags).elim (fun dead => Bool.false_ne_true (alive.symm.trans dead))
    fun left => left joining

lemma Settling.of_flags {fsm' : LnnConnectionFsm} (inv : fsm.Settling)
    (online : fsm'.connInfo.flag.online = fsm.connInfo.flag.online)
    (mark : fsm'.connInfo.flag.initiateOnline = fsm.connInfo.flag.initiateOnline)
    (dead : fsm'.isDead = fsm.isDead) (state : fsm'.curState = fsm.curState) : fsm'.Settling := by
  simp only [Settling, Joining, online, mark, dead, state]
  exact inv

lemma Settling.joining_step {fsm' : LnnConnectionFsm} (inv : fsm.Settling)
    (alive : fsm.isDead = false) (joining : fsm.Joining)
    (flag : fsm'.connInfo.flag = fsm.connInfo.flag) : fsm'.Settling := fun flags =>
  absurd (flag ▸ flags) (inv.flags alive joining)

end LnnConnectionFsm

variable {env : FsmEnv} {fsm fsm' : LnnConnectionFsm} {out : List FsmAction}

lemma Outcome.settling {msg : FsmMsg} (outcome : Outcome env fsm msg fsm' out)
    (inv : fsm.Settling) : fsm'.Settling := by
  cases outcome with
  | dropped | answered | exchanged | invalidFound => exact inv
  | verifying alive state =>
    exact inv.joining_step alive ⟨_, state, rfl⟩ (by simp [LnnConnectionFsm.withAuthId])
  | keyed alive state =>
    refine inv.joining_step alive ⟨_, state, rfl⟩ ?_
    split <;> simp
  | informed info alive state => exact inv.joining_step alive ⟨_, state, rfl⟩ rfl
  | authenticated alive state =>
    exact inv.joining_step alive ⟨_, state, rfl⟩ (by simp)
  | onlined _ _ _ _ _ done =>
    exact fun _ => .inr (not_joining_of_state (completeJoinOk_curState done) rfl)
  | onlinedDead dead => exact fun _ => .inl dead
  | joinFailed => exact fun _ => .inl rfl
  | leaving => exact fun _ => .inr (not_joining_of_state (post_curState _ _ _) rfl)
  | left => exact fun _ => .inr (not_joining_of_state (completeLeaveLNN_curState _ _) rfl)

lemma peerNetworkId_completeJoinOk (done : completeJoinOk env fsm = some (fsm', out)) :
    fsm'.connInfo.peerNetworkId = fsm.connInfo.peerNetworkId := by
  simp only [completeJoinOk] at done
  split at done
  · cases done
  · cases done
    rfl

lemma Outcome.peerNetworkId {msg} (outcome : Outcome env fsm msg fsm' out)
    (left : fsm.isDead ∨ ¬fsm.Joining) :
    fsm'.connInfo.peerNetworkId = fsm.connInfo.peerNetworkId := by
  cases outcome with
  | dropped | answered | exchanged | invalidFound | onlinedDead | joinFailed => rfl
  | verifying | authenticated | leaving => simp [LnnConnectionFsm.withAuthId]
  | keyed => split <;> simp
  | informed info alive state =>
    cases left with
    | inl dead => simp [alive] at dead
    | inr left => exact absurd ⟨_, state, rfl⟩ left
  | onlined _ _ _ _ _ done =>
    have kept := peerNetworkId_completeJoinOk done
    exact kept
  | left =>
    simp only [completeLeaveLNN]
    split <;> rfl

lemma handleMessage_settling {k handled}
    (done : handleMessage env fsm k = some handled) (inv : fsm.Settling) :
    handled.1.Settling ∧ (fsm.connInfo.flag.initiateOnline →
      handled.1.connInfo.peerNetworkId = fsm.connInfo.peerNetworkId) := by
  simp only [handleMessage] at done
  split at done
  · cases done
    exact ⟨inv, fun _ => rfl⟩
  · have outcome := Outcome.of_processDataMessage done
    exact ⟨outcome.settling inv, fun mark => outcome.peerNetworkId (inv (.inr mark))⟩

namespace NetBuilder

structure Steady (old new : Linked) : Prop where
  serial : new.serial = old.serial
  marked : new.marked = old.marked
  cleanInfo : old.marked → new.fsm.connInfo.cleanInfo = old.fsm.connInfo.cleanInfo
  networkId : old.marked → new.networkId = old.networkId
  settling : old.fsm.Settling → new.fsm.Settling

lemma Steady.refl (item : Linked) : Steady item item := ⟨rfl, rfl, fun _ => rfl, fun _ => rfl, id⟩

lemma Steady.trans {a b c} (first : Steady a b) (next : Steady b c) : Steady a c where
  serial := next.serial.trans first.serial
  marked := next.marked.trans first.marked
  cleanInfo mark := (next.cleanInfo (first.marked.trans mark)).trans (first.cleanInfo mark)
  networkId mark := (next.networkId (first.marked.trans mark)).trans (first.networkId mark)
  settling := next.settling ∘ first.settling

structure Harmless (mark : LnnConnectionFsm → LnnConnectionFsm) : Prop where
  initiateOnline : ∀ fsm, (mark fsm).connInfo.flag.initiateOnline = fsm.connInfo.flag.initiateOnline
  online : ∀ fsm, (mark fsm).connInfo.flag.online = fsm.connInfo.flag.online
  cleanInfo : ∀ fsm, (mark fsm).connInfo.cleanInfo = fsm.connInfo.cleanInfo
  networkId : ∀ fsm, (mark fsm).connInfo.peerNetworkId = fsm.connInfo.peerNetworkId
  isDead : ∀ fsm, (mark fsm).isDead = fsm.isDead
  curState : ∀ fsm, (mark fsm).curState = fsm.curState

lemma Harmless.id : Harmless id := by
  constructor <;> exact fun _ => rfl

lemma Harmless.markJoin (report) : Harmless (markJoin · report) := by
  cases report <;> constructor <;> exact fun _ => rfl

lemma Harmless.markRequest : Harmless (markLeave · .request) := by
  constructor <;> exact fun _ => rfl

lemma Harmless.markAddrType : Harmless (markLeave · .addrType) := by
  constructor <;> exact fun _ => rfl

variable {mark : LnnConnectionFsm → LnnConnectionFsm} {event : NetEvent}

lemma steady_send {posted : Bool} {msg : FsmMsg} (harmless : Harmless mark) (item : Linked) :
    Steady item (item.send posted msg mark) := by
  simp only [send]
  split
  · exact .refl item
  next sent h =>
    obtain ⟨-, rfl⟩ := sendToConnFsm_eq_some h
    refine ⟨rfl, harmless.initiateOnline _, fun _ => harmless.cleanInfo _,
      fun _ => harmless.networkId _, fun inv => ?_⟩
    exact inv.of_flags (harmless.online _) (harmless.initiateOnline _) (harmless.isDead _)
      (harmless.curState _)

lemma steady_setPeerVersion (peerVersion) (item : Linked) :
    Steady item (setPeerVersion peerVersion item) :=
  ⟨rfl, rfl, fun _ => rfl, fun _ => rfl, fun inv => inv⟩

structure Grown (items items' : List Linked) : Prop where
  mem : ∀ new ∈ items', (∃ old ∈ items, Steady old new) ∨ new.marked = false ∧ new.fsm.Settling
  kept : ∀ old ∈ items, ∃ new ∈ items', Steady old new

lemma Grown.trans {a b c} (first : Grown a b) (next : Grown b c) : Grown a c where
  mem new mem := by
    cases next.mem new mem with
    | inr fresh => exact .inr fresh
    | inl steady =>
      obtain ⟨mid, mem', steady⟩ := steady
      cases first.mem mid mem' with
      | inl old =>
        obtain ⟨old, mem'', steady'⟩ := old
        exact .inl ⟨old, mem'', steady'.trans steady⟩
      | inr fresh => exact .inr ⟨steady.marked.trans fresh.1, steady.settling fresh.2⟩
  kept old mem := by
    obtain ⟨mid, mem', steady⟩ := first.kept old mem
    obtain ⟨new, mem'', steady'⟩ := next.kept mid mem'
    exact ⟨new, mem'', steady.trans steady'⟩

lemma Grown.of_map {items f}
    (steady : ∀ item ∈ items, Steady item (f item)) : Grown items (items.map f) where
  mem new mem := by
    obtain ⟨old, mem', rfl⟩ := mem_map.mp mem
    exact .inl ⟨old, mem', steady old mem'⟩
  kept old mem := ⟨f old, mem_map_of_mem mem, steady old mem⟩

lemma Grown.refl (items) : Grown items items :=
  ⟨fun new mem => .inl ⟨new, mem, .refl new⟩, fun old mem => ⟨old, mem, .refl old⟩⟩

lemma Grown.cons {item} (items) (unmarked : item.marked = false)
    (inv : item.fsm.Settling) : Grown items (item :: items) where
  mem new mem := by
    cases mem with
    | head => exact .inr ⟨unmarked, inv⟩
    | tail _ mem => exact .inl ⟨new, mem, .refl new⟩
  kept old mem := ⟨old, .tail _ mem, .refl old⟩

variable {posted : Nat → Bool} {nb nb' : NetBuilder} {out : List NetAction}
  {changes : List NetworkChange} {cleanInfo : LnnInvalidCleanInfo} {gone : Linked}

lemma grown_update {serial f} (num : nb.Numbered)
    (steady : ∀ item ∈ nb.fsmList, item.serial = serial → Steady item (f item)) :
    Grown nb.fsmList (nb.update serial f).fsmList := by
  simp only [update, update_eq_map num.serials]
  refine .of_map fun item mem => ?_
  split
  · exact steady item mem ‹_›
  · exact .refl item

lemma grown_sendTo (found posted msg) (num : nb.Numbered) :
    Grown nb.fsmList (nb.sendTo found posted msg).fsmList := by
  simp only [sendTo]
  split
  · exact .refl _
  · exact grown_update num fun item _ _ => steady_send .id item

lemma grown_sendToAll {fits msg} (harmless : Harmless mark) :
    Grown nb.fsmList (nb.sendToAll fits posted msg mark).fsmList := by
  refine .of_map fun item _ => ?_
  split
  · exact steady_send harmless item
  · exact .refl item

structure Newborn (fsm : LnnConnectionFsm) : Prop where
  online : fsm.connInfo.flag.online = false
  unmarked : fsm.connInfo.flag.initiateOnline = false

lemma Newborn.settling {fsm} (newborn : Newborn fsm) : fsm.Settling := by
  simp [LnnConnectionFsm.Settling, newborn.online, newborn.unmarked]

lemma grown_startNewConnectionFsm {nb : NetBuilder} (env)
    {make : BitVec 16 → LnnConnectionFsm} (newborn : ∀ id, Newborn (make id)) :
    Grown nb.fsmList (nb.startNewConnectionFsm env make).1.fsmList := by
  simp only [startNewConnectionFsm]
  split
  · exact .refl _
  split
  · exact .refl _
  split
  · exact .refl _
  · exact .cons _ (newborn _).unmarked (newborn _).settling

lemma grown_trySendJoinLNNRequest (addr report env) (num : nb.Numbered) :
    Grown nb.fsmList (nb.trySendJoinLNNRequest addr report env).1.fsmList := by
  have joined {nb : NetBuilder} (serial : Nat) (num : nb.Numbered) :
      Grown nb.fsmList (nb.update serial
        (send true .joinLNN (markJoin · report))).fsmList :=
    grown_update num fun item _ _ => steady_send (.markJoin report) item
  have started := @grown_startNewConnectionFsm nb env (fun id => lnnCreateConnectionFsm id addr)
    fun _ => ⟨rfl, rfl⟩
  have numbers' := numbered_startNewConnectionFsm env (fun id => lnnCreateConnectionFsm id addr)
    (fun _ => rfl) num
  simp only [trySendJoinLNNRequest]
  split
  · cases env.sent with
    | true => exact joined _ num
    | false => exact .refl _
  · split
    next next h => rwa [h] at started
    next next item h =>
      rw [h] at started numbers'
      cases env.sent with
      | true => exact started.trans (joined _ numbers')
      | false =>
        refine started.trans (grown_update numbers' fun item _ _ => ?_)
        exact ⟨rfl, rfl, fun _ => rfl, fun _ => rfl, fun inv => inv⟩

lemma grown_processAuthKeyGenerated (authId addr peerVersion env) (num : nb.Numbered) :
    Grown nb.fsmList (nb.processAuthKeyGenerated authId addr peerVersion env).fsmList := by
  have keyed {nb : NetBuilder} (serial : Nat) (posted : Bool) (num : nb.Numbered) :
      Grown nb.fsmList (nb.update serial fun item =>
        (setPeerVersion peerVersion item).send posted .authKeyGenerated id).fsmList :=
    grown_update num fun item _ _ =>
      (steady_setPeerVersion peerVersion item).trans (steady_send .id _)
  simp only [processAuthKeyGenerated]
  split
  · exact keyed _ _ num
  by_cases starts : nb.Starts env
  · have newborn : Newborn (passiveConnectionFsm nb.nextConnectionFsmId addr authId) := ⟨rfl, rfl⟩
    rw [startNewConnectionFsm_of_starts starts]
    cases env.sent with
    | true =>
      have linked : Grown nb.fsmList (nb.withMachine
          (passiveConnectionFsm nb.nextConnectionFsmId addr authId)).fsmList :=
        .cons _ newborn.unmarked newborn.settling
      exact linked.trans (keyed _ true (numbered_withMachine rfl num))
    | false =>
      simp only [Bool.false_eq_true, if_false, unlink, withMachine, remove]
      simpa using Grown.refl nb.fsmList
  · have started := @grown_startNewConnectionFsm nb env
      (fun id => passiveConnectionFsm id addr authId) fun _ => ⟨rfl, rfl⟩
    obtain ⟨next, h, -⟩ :=
      startNewConnectionFsm_of_not_starts (fun id => passiveConnectionFsm id addr authId) starts
    rw [h] at started ⊢
    exact started

lemma grown_fsmHandle {serial k env} (num : nb.Numbered)
    (inv : ∀ item ∈ nb.fsmList, item.fsm.Settling)
    (done : nb.fsmHandle serial k env = some (nb', out)) : Grown nb.fsmList nb'.fsmList := by
  simp only [fsmHandle] at done
  split at done
  · cases done
    exact .refl _
  rename_i item found
  obtain ⟨handled, hHandled, same⟩ := Option.map_eq_some_iff.mp done
  cases same
  refine grown_update num fun other mem here => ?_
  have found' := (lookup_eq_some num.serials).mpr ⟨mem, here⟩
  cases found.symm.trans found'
  have machine := sameMachine_handleMessage hHandled
  have settled := handleMessage_settling hHandled (inv item mem)
  exact ⟨rfl, machine.initiateOnline, fun _ => machine.cleanInfo, settled.2, fun _ => settled.1⟩

structure Pending (items : List Linked) (changes : List NetworkChange) : Prop where
  settling : ∀ item ∈ items, item.fsm.Settling
  recorded : ∀ item ∈ items, item.marked →
    ∃ cleanInfo, item.fsm.connInfo.cleanInfo = some cleanInfo ∧
      ⟨item.networkId, cleanInfo⟩ ∈ changes
  agreed : ∀ item ∈ items, item.marked → ∀ change ∈ changes,
    change.oldNetworkId = item.networkId → item.fsm.connInfo.cleanInfo = some change.cleanInfo
  alive : ∀ change ∈ changes, ∃ item ∈ items, item.marked ∧ item.networkId = change.oldNetworkId

lemma Pending.grown {items items'} (pend : Pending items changes)
    (grown : Grown items items') : Pending items' changes := by
  have old (new : Linked) (mem : new ∈ items') (mark : new.marked) :
      ∃ old ∈ items, old.marked ∧ Steady old new := by
    cases grown.mem new mem with
    | inl steady =>
      obtain ⟨old, mem', steady⟩ := steady
      exact ⟨old, mem', steady.marked.symm.trans mark, steady⟩
    | inr fresh => simp [fresh.1] at mark
  constructor
  case settling =>
    intro new mem
    cases grown.mem new mem with
    | inl steady =>
      obtain ⟨old, mem', steady⟩ := steady
      exact steady.settling (pend.settling old mem')
    | inr fresh => exact fresh.2
  case recorded =>
    intro new mem mark
    obtain ⟨old, mem', mark', steady⟩ := old new mem mark
    rw [steady.cleanInfo mark', steady.networkId mark']
    exact pend.recorded old mem' mark'
  case agreed =>
    intro new mem mark
    obtain ⟨old, mem', mark', steady⟩ := old new mem mark
    rw [steady.cleanInfo mark', steady.networkId mark']
    exact pend.agreed old mem' mark'
  case alive =>
    intro change mem
    obtain ⟨item, mem', mark, id⟩ := pend.alive change mem
    obtain ⟨new, mem'', steady⟩ := grown.kept item mem'
    exact ⟨new, mem'', steady.marked.trans mark, (steady.networkId mark).trans id⟩

/-- What `ProcessLeaveInvalidConn` does to a machine that it marks. -/
structure NewlyMarked (oldNetworkId : CString) (cleanInfo : LnnInvalidCleanInfo)
    (old new : Linked) : Prop where
  unmarked : old.marked = false
  marked : new.marked
  networkId : new.networkId = oldNetworkId
  cleanInfo : new.fsm.connInfo.cleanInfo = some cleanInfo
  settling : old.fsm.Settling → new.fsm.Settling

lemma steady_or_newlyMarked (oldId cleanInfo posted) (item : Linked)
    (invalid : isInvalidConnectionFsm oldId cleanInfo.addrType item) :
    Steady item (item.send posted .leaveLNN (markLeave · (.invalidConn cleanInfo))) ∨
      NewlyMarked oldId cleanInfo item
        (item.send posted .leaveLNN (markLeave · (.invalidConn cleanInfo))) := by
  simp only [isInvalidConnectionFsm, isFrom, ConnFlag.canBeInvalid, Bool.and_eq_true,
    decide_eq_true_eq, Bool.not_eq_true'] at invalid
  obtain ⟨⟨⟨same, -⟩, -⟩, online, unmarked⟩ := invalid
  simp only [send]
  split
  · exact .inl (.refl item)
  next sent h =>
    obtain ⟨-, rfl⟩ := sendToConnFsm_eq_some h
    exact .inr ⟨unmarked, rfl, same.symm, rfl, fun inv _ => inv (.inl online)⟩

lemma processLeaveInvalidConn_mem {nb : NetBuilder} (oldId cleanInfo) (posted : Nat → Bool) :
    ∃ f : Linked → Linked,
      (nb.processLeaveInvalidConn oldId cleanInfo posted).fsmList = nb.fsmList.map f ∧
        ∀ item, Steady item (f item) ∨ NewlyMarked oldId cleanInfo item (f item) := by
  refine ⟨_, rfl, fun item => ?_⟩
  split
  · exact steady_or_newlyMarked oldId cleanInfo _ item ‹_›
  · exact .inl (.refl item)

lemma isMarkedFrom_iff {networkId item} :
    isMarkedFrom networkId item ↔ networkId = item.networkId ∧ item.marked := by
  simp [isMarkedFrom, isFrom]

lemma Pending.leaveInvalidConn (pend : Pending nb.fsmList changes) {oldId : CString}
    (agree : nb.ChangesAgree (.leaveInvalidConn oldId cleanInfo posted)) :
    Pending (nb.processLeaveInvalidConn oldId cleanInfo posted).fsmList
      (nb.changesAfter changes (.leaveInvalidConn oldId cleanInfo posted)
        (nb.processLeaveInvalidConn oldId cleanInfo posted)) := by
  obtain ⟨f, items, each⟩ := @processLeaveInvalidConn_mem nb oldId cleanInfo posted
  rw [changesAfter, items]
  split
  case isFalse unmarked =>
    refine pend.grown (.of_map fun item mem => (each item).resolve_right fun newly => unmarked ?_)
    exact any_eq_true.mpr ⟨f item, mem_map_of_mem mem,
      isMarkedFrom_iff.mpr ⟨newly.networkId.symm, newly.marked⟩⟩
  case isTrue marked =>
    constructor
    case settling =>
      intro new mem
      obtain ⟨item, mem', rfl⟩ := mem_map.mp mem
      exact (each item).elim (fun steady => steady.settling (pend.settling item mem'))
        fun newly => newly.settling (pend.settling item mem')
    case recorded =>
      intro new mem mark
      obtain ⟨item, mem', rfl⟩ := mem_map.mp mem
      cases each item with
      | inl steady =>
        have mark' := steady.marked.symm.trans mark
        obtain ⟨own, here, mem''⟩ := pend.recorded item mem' mark'
        refine ⟨own, (steady.cleanInfo mark').trans here, .tail _ ?_⟩
        rwa [steady.networkId mark']
      | inr newly =>
        refine ⟨cleanInfo, newly.cleanInfo, ?_⟩
        rw [newly.networkId]
        exact .head _
    case agreed =>
      intro new mem mark change there same
      obtain ⟨item, mem', rfl⟩ := mem_map.mp mem
      cases each item with
      | inl steady =>
        have mark' := steady.marked.symm.trans mark
        rw [steady.networkId mark'] at same
        rw [steady.cleanInfo mark']
        cases there with
        | head => exact agree item mem' (isMarkedFrom_iff.mpr ⟨same, mark'⟩)
        | tail _ there => exact pend.agreed item mem' mark' change there same
      | inr newly =>
        rw [newly.cleanInfo]
        cases there with
        | head => rfl
        | tail _ there =>
          -- an earlier change of the id has a marked machine, and that one agrees with both
          obtain ⟨other, mem'', mark', id⟩ := pend.alive change there
          have first := pend.agreed other mem'' mark' change there id.symm
          have new := agree other mem'' (isMarkedFrom_iff.mpr
            ⟨newly.networkId.symm.trans (same.symm.trans id.symm), mark'⟩)
          exact new.symm.trans first
    case alive =>
      intro change there
      cases there with
      | head =>
        obtain ⟨item, mem, here⟩ := any_eq_true.mp marked
        obtain ⟨id, mark⟩ := isMarkedFrom_iff.mp here
        exact ⟨item, mem, mark, id.symm⟩
      | tail _ there =>
        obtain ⟨item, mem, mark, id⟩ := pend.alive change there
        cases each item with
        | inl steady =>
          exact ⟨f item, mem_map_of_mem mem, steady.marked.trans mark,
            (steady.networkId mark).trans id⟩
        | inr newly => simp [newly.unmarked] at mark

def Last (nb : NetBuilder) (cleaned : Linked) : Prop :=
  cleaned.marked ∧ ∀ item ∈ nb.remaining cleaned,
    ¬(cleaned.networkId = item.networkId ∧ item.marked)

lemma cleansLast_eq (found : nb.cleanedBy event = some gone) :
    nb.Last gone ∧ nb.cleansLast event = some gone ∨
      ¬nb.Last gone ∧ nb.cleansLast event = none := by
  have last : nb.Last gone ↔ (gone.marked &&
      !(nb.remaining gone).any (isMarkedFrom gone.networkId)) := by
    simp [Last, isMarkedFrom_iff]
  rw [cleansLast, found, Option.filter_some, last]
  split
  · exact .inl ⟨‹_›, rfl⟩
  · exact .inr ⟨‹_›, rfl⟩

lemma mem_remaining {item} (mem : item ∈ nb.fsmList) (other : item ≠ gone)
    (mem' : gone ∈ nb.fsmList) (num : nb.Numbered) : item ∈ nb.remaining gone :=
  mem_remove_of_ne mem fun same =>
    other (inj_on_of_nodup_map num.serials mem mem' same)

lemma Pending.remaining (pend : Pending nb.fsmList changes) (num : nb.Numbered)
    (mem : gone ∈ nb.fsmList) (notLast : ¬nb.Last gone) : Pending (nb.remaining gone) changes where
  settling item there := pend.settling item (mem_of_mem_remove there)
  recorded item there := pend.recorded item (mem_of_mem_remove there)
  agreed item there := pend.agreed item (mem_of_mem_remove there)
  alive change there := by
    obtain ⟨item, mem', mark, id⟩ := pend.alive change there
    by_cases other : item = gone
    · cases other
      simp only [Last, not_and, not_forall, not_not, exists_prop] at notLast
      obtain ⟨next, there', same, mark'⟩ := notLast mark
      exact ⟨next, there', mark', same.symm.trans id⟩
    · exact ⟨item, mem_remaining mem' other mem num, mark, id⟩

lemma Pending.remaining_last (pend : Pending nb.fsmList changes) (num : nb.Numbered)
    (mem : gone ∈ nb.fsmList) (last : nb.Last gone) : Pending (nb.remaining gone)
      (changes.filter fun change => change.oldNetworkId ≠ gone.networkId) where
  settling item there := pend.settling item (mem_of_mem_remove there)
  recorded item there mark := by
    obtain ⟨cleanInfo, here, mem'⟩ := pend.recorded item (mem_of_mem_remove there) mark
    refine ⟨cleanInfo, here, mem_filter.mpr ⟨mem', ?_⟩⟩
    simpa using fun same => last.2 item there ⟨same.symm, mark⟩
  agreed item there mark change mem' :=
    pend.agreed item (mem_of_mem_remove there) mark change (mem_filter.mp mem').1
  alive change mem' := by
    obtain ⟨mem', other⟩ := mem_filter.mp mem'
    obtain ⟨item, mem'', mark, id⟩ := pend.alive change mem'
    refine ⟨item, mem_remaining mem'' (fun same => ?_) mem num, mark, id⟩
    exact of_decide_eq_true other (id.symm.trans (congrArg networkId same))

lemma Pending.target_eq (pend : Pending nb.fsmList changes) (mem : gone ∈ nb.fsmList)
    (mark : gone.marked) (carried : gone.fsm.connInfo.cleanInfo = some cleanInfo)
    (item : Linked) : (changes.any fun change =>
      change.oldNetworkId = gone.networkId && isTarget change.cleanInfo item) =
        isTarget cleanInfo item := by
  rw [Bool.eq_iff_iff, any_eq_true]
  simp only [Bool.and_eq_true, decide_eq_true_eq]
  constructor
  · intro found
    obtain ⟨change, there, same, target⟩ := found
    have agreed := pend.agreed gone mem mark change there same
    rwa [Option.some.inj (carried.symm.trans agreed)]
  · intro target
    obtain ⟨own, here, there⟩ := pend.recorded gone mem mark
    cases carried.symm.trans here
    exact ⟨_, there, rfl, target⟩

lemma told_append (a b) : told (a ++ b) = told a ++ told b := filterMap_append

lemma told_eq_nil (quiet : ∀ serial, .newNetworkOnline serial ∉ out) : told out = [] := by
  refine filterMap_eq_nil_iff.mpr fun action mem => ?_
  cases action with
  | newNetworkOnline serial => exact absurd mem (quiet serial)
  | _ => rfl

lemma told_tryDisconnectAllConnection (nb : NetBuilder) (gone : Linked) :
    told (nb.tryDisconnectAllConnection gone) = [] := by
  simp only [tryDisconnectAllConnection]
  split
  · rfl
  · split <;> rfl

lemma told_tryNotifyAllTypeOffline (nb : NetBuilder) (gone : Linked) :
    told (nb.tryNotifyAllTypeOffline gone) = [] := by
  simp only [tryNotifyAllTypeOffline]
  split <;> rfl

lemma told_newNetworkOnline (items : List Linked) :
    told (items.map fun item => .newNetworkOnline item.serial) = items.map serial := by
  simp only [told, filterMap_map]
  exact congrFun filterMap_eq_map items

lemma tryInitiateNewNetworkOnline_not_last (posted : Nat → Bool) (notLast : ¬nb.Last gone) :
    (nb.unlink gone.serial).tryInitiateNewNetworkOnline gone posted =
      some (nb.unlink gone.serial, []) := by
  simp only [tryInitiateNewNetworkOnline]
  cases mark : gone.marked with
  | false => rfl
  | true =>
    have others : ((nb.unlink gone.serial).fsmList.any fun item =>
        isFrom gone.networkId item && item.marked) := by
      simp only [Last, mark, true_and, not_forall, not_not, exists_prop] at notLast
      obtain ⟨item, mem, here⟩ := notLast
      exact any_eq_true.mpr ⟨item, mem, isMarkedFrom_iff.mpr here⟩
    simp [others]

lemma tryInitiateNewNetworkOnline_last (posted : Nat → Bool) (last : nb.Last gone)
    (carried : gone.fsm.connInfo.cleanInfo = some cleanInfo) :
    (nb.unlink gone.serial).tryInitiateNewNetworkOnline gone posted =
      some ((nb.unlink gone.serial).sendToAll (isTarget cleanInfo) posted .initiateOnline id,
        ((nb.remaining gone).filter (isTarget cleanInfo)).map fun item =>
          .newNetworkOnline item.serial) := by
  have none : ((nb.unlink gone.serial).fsmList.any fun item =>
      isFrom gone.networkId item && item.marked) = false :=
    any_eq_false.mpr fun item mem here => last.2 item mem (isMarkedFrom_iff.mp here)
  simp only [tryInitiateNewNetworkOnline, last.1, none, carried]
  rfl

structure InStep (state : NetBuilder × List NetworkChange) : Prop where
  numbers : state.1.Numbered
  pending : Pending state.1.fsmList state.2

structure StepTold (nb : NetBuilder) (changes : List NetworkChange) (event : NetEvent)
    (nb' : NetBuilder) (out : List NetAction) : Prop where
  tells : told out = nb.toldBy changes event
  pending : Pending nb'.fsmList (nb.changesAfter changes event nb')

lemma StepTold.of_cleaned {id} (num : nb.Numbered)
    (pend : Pending nb.fsmList changes) {requester} (asked : id = .ofNat 16 requester)
    (found : nb.findConnectionFsmByConnFsmId id = some gone)
    (done : nb.processCleanConnectionFsm id posted = some (nb', out)) :
    nb.StepTold changes (.cleanConnFsm requester posted) nb' out := by
  have here : nb.cleanedBy (.cleanConnFsm requester posted) = some gone := by
    rw [cleanedBy, ← asked, found]
  obtain ⟨mem, -⟩ := findConnectionFsmByConnFsmId_eq_some found
  rw [processCleanConnectionFsm, found] at done
  cases cleansLast_eq here with
  | inr notLast =>
    simp only [tryInitiateNewNetworkOnline_not_last posted notLast.1, Option.map_some,
      Option.some.injEq, Prod.mk.injEq] at done
    constructor
    · rw [← done.2, toldBy, notLast.2]
      simp only [told_append, told_tryDisconnectAllConnection, told_tryNotifyAllTypeOffline]
      rfl
    · rw [← done.1, changesAfter, notLast.2]
      · exact pend.remaining num mem notLast.1
      · simp
  | inl last =>
    obtain ⟨cleanInfo, carried, -⟩ := pend.recorded gone mem last.1.1
    simp only [tryInitiateNewNetworkOnline_last posted last.1 carried, Option.map_some,
      Option.some.injEq, Prod.mk.injEq] at done
    constructor
    · rw [← done.2, toldBy, last.2]
      simp [told_append, told_tryDisconnectAllConnection, told_tryNotifyAllTypeOffline,
        told_newNetworkOnline, pend.target_eq mem last.1.1 carried]
    · rw [← done.1, changesAfter, last.2]
      · exact (pend.remaining_last num mem last.1).grown (grown_sendToAll .id)
      · simp

lemma StepTold.of_grown (pend : Pending nb.fsmList changes) (keeps : nb.cleanedBy event = none)
    (marks : ∀ oldId cleanInfo posted, event ≠ .leaveInvalidConn oldId cleanInfo posted)
    (grown : Grown nb.fsmList nb'.fsmList) (quiet : told out = []) :
    nb.StepTold changes event nb' out := by
  have none : nb.cleansLast event = none := by rw [cleansLast, keeps, Option.filter_none]
  constructor
  · rw [quiet, toldBy, none]
  · rw [changesAfter, none]
    · exact pend.grown grown
    · exact marks

lemma netBuilderProcess_told (num : nb.Numbered) (pend : Pending nb.fsmList changes)
    (agree : nb.ChangesAgree event) (done : netBuilderProcess nb event = some (nb', out)) :
    nb.StepTold changes event nb' out := by
  have joins (addr report env) :
      told (nb.trySendJoinLNNRequest addr report env).2 = [] := by
    refine told_eq_nil fun serial => ?_
    simp only [trySendJoinLNNRequest, failureReport]
    split <;> split <;> (try split) <;> (try split) <;> simp
  cases event with
  | joinLNNRequest addr env =>
    have grown := grown_trySendJoinLNNRequest addr true env num
    have quiet := joins addr true env
    rw [Option.some.inj done] at grown quiet
    exact .of_grown pend rfl (by simp) grown quiet
  | devDiscovery addr env =>
    have grown := grown_trySendJoinLNNRequest addr false env num
    have quiet := joins addr false env
    rw [Option.some.inj done] at grown quiet
    exact .of_grown pend rfl (by simp) grown quiet
  | authKeyGenerated authId addr peerVersion env =>
    cases done
    exact .of_grown pend rfl (by simp)
      (grown_processAuthKeyGenerated authId addr peerVersion env num) rfl
  | authDone | syncDeviceInfoDone | deviceNotTrusted | authDisconnect =>
    cases done
    exact .of_grown pend rfl (by simp) (grown_sendTo _ _ _ num) rfl
  | leaveLNNRequest networkId posted =>
    cases done
    refine .of_grown pend rfl (by simp) (grown_sendToAll .markRequest) ?_
    split <;> rfl
  | syncOfflineFinish networkId posted =>
    cases done
    exact .of_grown pend rfl (by simp) (grown_sendToAll .id) rfl
  | leaveInvalidConn oldId cleanInfo posted =>
    cases done
    exact ⟨rfl, pend.leaveInvalidConn agree⟩
  | leaveByAddrType type posted =>
    cases done
    refine .of_grown pend rfl (by simp) (grown_sendToAll .markAddrType) ?_
    split <;> rfl
  | cleanConnFsm requester posted =>
    cases found : nb.findConnectionFsmByConnFsmId (.ofNat 16 requester) with
    | none =>
      simp only [netBuilderProcess, processCleanConnectionFsm, found] at done
      cases done
      exact .of_grown pend found (by simp) (.refl _) rfl
    | some gone => exact .of_cleaned num pend rfl found done
  | fsmHandle serial k env =>
    refine .of_grown pend rfl (by simp) (grown_fsmHandle num pend.settling done) ?_
    simp only [netBuilderProcess, NetBuilder.fsmHandle] at done
    split at done
    · cases done
      rfl
    · obtain ⟨handled, -, same⟩ := Option.map_eq_some_iff.mp done
      cases same
      exact told_eq_nil fun serial mem => by simp at mem

end NetBuilder

/-- In every run whose changes of network id agree with the machines still marked, the machines
of the new id are told to go online once, by the clean request of the last marked machine of
the old id, and by no other step. -/
theorem newNetwork_online_on_last_clean (maxConnCount : Nat) {events : List NetEvent}
    (agree : AllSteps changeStep (fun state event => state.1.ChangesAgree event)
      (netBuilderInit maxConnCount, []) events) :
    AllResults changeStep (fun state event _ out => told out = state.1.toldBy state.2 event)
      (netBuilderInit maxConnCount, []) events := by
  have start : InStep (netBuilderInit maxConnCount, []) :=
    ⟨numbered_init maxConnCount, ⟨by simp [netBuilderInit], by simp [netBuilderInit],
      by simp [netBuilderInit], by simp⟩⟩
  have one (s event) (s' : NetBuilder × List NetworkChange) (out : List NetAction) (inv : InStep s)
      (ok : s.1.ChangesAgree event) (done : changeStep s event = some (s', out)) :
      InStep s' ∧ told out = s.1.toldBy s.2 event := by
    obtain ⟨result, hStep, same⟩ := Option.map_eq_some_iff.mp done
    cases same
    have process := netBuilderStep_eq_some hStep
    have step := netBuilderProcess_told inv.numbers inv.pending ok process
    exact ⟨⟨netBuilderProcess_numbered process inv.numbers, step.pending⟩, step.tells⟩
  exact agree.results_of_inv one start

/-- The messages that bring the peer's description to the machine with the number, and those
that then let it online. -/
def informEvents (serial : Nat) (addr : ConnectionAddr) (info : NodeInfo) : List NetEvent :=
  [.joinLNNRequest addr {}, .fsmHandle serial 0 { verifiedAuthId := serial },
    .authKeyGenerated serial addr 100 {}, .fsmHandle serial 1 {}, .fsmHandle serial 1 {},
    .syncDeviceInfoDone serial (some info) true, .fsmHandle serial 1 {}]

def onlineEvents (serial : Nat) : List NetEvent :=
  [.authDone serial true true, .fsmHandle serial 1 {}, .fsmHandle serial 1 {}]

def oldNode : NodeInfo := { peerNode with networkId := ⟨[79], by decide⟩ }
def newNode : NodeInfo := { peerNode with networkId := ⟨[88], by decide⟩ }

/-- One machine of the old id is online and one of the new id waits; the id changes. -/
def changeEvents : List NetEvent :=
  informEvents 1 brAddr oldNode ++ onlineEvents 1 ++ informEvents 2 brAddr2 newNode ++
    [.leaveInvalidConn oldNode.networkId ⟨.max, newNode.networkId⟩ fun _ => true,
      .cleanConnFsm 1 fun _ => true]

theorem newNetwork_online_on_last_clean_one :
    AllResults changeStep (fun state event _ out => told out = state.1.toldBy state.2 event)
        (netBuilderInit 10, []) changeEvents ∧
      (run changeStep (netBuilderInit 10, []) changeEvents).map (told ·.2) = some [2] := by
  refine ⟨newNetwork_online_on_last_clean 10 ?_, ?_⟩
  · decide +kernel
  · decide +kernel

/-- The id changes to another one, and to the new one before the machine of the old id is
cleaned. -/
def twoChangesEvents : List NetEvent :=
  informEvents 1 brAddr oldNode ++ onlineEvents 1 ++ informEvents 2 brAddr2 newNode ++
    [.leaveInvalidConn oldNode.networkId ⟨.max, peerNode.networkId⟩ fun _ => true,
      .leaveInvalidConn oldNode.networkId ⟨.max, newNode.networkId⟩ fun _ => true]

/-- The machine of the new id waits for the marked machine of the old id, which carries the
first change and tells no machine. -/
theorem newNetwork_never_told : (run changeStep (netBuilderInit 10, []) twoChangesEvents).map
        (fun result => result.1.1.toldBy result.1.2 (.cleanConnFsm 1 fun _ => true)) = some [2] ∧
      (run changeStep (netBuilderInit 10, [])
        (twoChangesEvents ++ [.cleanConnFsm 1 fun _ => true])).map
          (fun result => (result.1.1.fsmList.map serial, told result.2)) =
        some ([2], []) := by
  constructor <;> decide +kernel

end DSoftBus.Lnn
