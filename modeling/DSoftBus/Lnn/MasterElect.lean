import DSoftBus.Lnn.NetBuilder
import DSoftBus.Lib.Execution
import Mathlib.Data.List.Lex
import Mathlib.Data.Prod.Lex

/-!
The election of a master node by one device. The device keeps the greatest pair of a
weight and a udid that it has heard of, from the changes of its peers' states and from
elect messages.

The weights are compared by a subtraction modulo 2^32; a difference that does not fit has
the wrong sign. The elect messages of online peers are dropped: the source tests for the
opposite of what its log message says.
-/
namespace DSoftBus.Lnn

open Execution Option List

structure Master where
  weight : BitVec 32
  udid : CString
deriving DecidableEq

namespace Master

/-- The weight as an integer, then the bytes of the udid. -/
def rank (m : Master) : ℤ ×ₗ List ℕ := toLex (m.weight.toInt, m.udid.bytes.map UInt8.toNat)

lemma rank_injective : Function.Injective rank := by
  intro a b same
  simp only [rank, EmbeddingLike.apply_eq_iff_eq, Prod.mk.injEq] at same
  have bytes := map_injective_iff.mpr (fun _ _ => UInt8.toNat_inj.mp) same.2
  cases a
  cases b
  simp only [Master.mk.injEq]
  exact ⟨BitVec.toInt_inj.mp same.1, CString.ext_bytes bytes⟩

instance : LinearOrder Master := LinearOrder.lift' rank rank_injective

lemma lt_iff {a b : Master} : a < b ↔ a.weight.toInt < b.weight.toInt ∨
    a.weight.toInt = b.weight.toInt ∧ a.udid.bytes.map UInt8.toNat < b.udid.bytes.map UInt8.toNat :=
  Prod.Lex.lt_iff

lemma weight_le {a b : Master} (le : a ≤ b) : a.weight.toInt ≤ b.weight.toInt :=
  not_lt.mp fun less => not_lt_of_ge le (lt_iff.mpr (.inl less))

end Master

def lnnCompareNodeWeight (a b : Master) : Int :=
  if a.weight ≠ b.weight then (a.weight - b.weight).toInt else strcmp a.udid b.udid

/-- What the election reads of the rest of the device: the machines, and the nodes of the
ledger in the order of their search. -/
structure ElectView where
  nb : NetBuilder
  ledger : List NodeInfo

structure LocalNode where
  udid : CString
  weight : BitVec 32
  master : Master

structure ElectMessage where
  networkId : CString
  master : Master
deriving DecidableEq

def softBusNewV1 : Int := 100

namespace ElectView

variable (view : ElectView) (networkId : CString)

def lnnGetNodeInfoById : Option NodeInfo := view.ledger.find? fun info => info.networkId = networkId

def isNodeOnline : Bool := (view.lnnGetNodeInfoById networkId).any lnnIsNodeOnline

def dlGetMaster : Option Master :=
  ((view.lnnGetNodeInfoById networkId).filter lnnIsNodeOnline).map fun info =>
    ⟨info.masterWeight, info.masterUdid⟩

def findConnectionFsmByUdid (view : ElectView) (udid : CString) : Option Linked :=
  view.nb.findConnectionFsmByUdid
    ((view.ledger.find? fun info => info.deviceUdid = udid).map NodeInfo.networkId) udid

end ElectView

/-- The messages hold the local master of the time when they are made. -/
def sendElectMessageToAll (view : ElectView) (master : Master) (skipNetworkId : CString) :
    List ElectMessage :=
  (view.nb.fsmList.filter fun item =>
    item.networkId ≠ skipNetworkId && view.isNodeOnline item.networkId).map fun item =>
      ⟨item.networkId, master⟩

/-- The ledger refuses an empty udid, and the weight is then not set either. -/
def updateLocalMasterNode (node : LocalNode) (master : Master) : LocalNode :=
  if isValidString master.udid.bytes udidBufLen then { node with master := master } else node

def tryElectMasterNodeOnline (view : ElectView) (node : LocalNode) (item : Linked) :
    LocalNode × List ElectMessage :=
  match view.dlGetMaster item.networkId with
  | none => (node, [])
  | some peer =>
    if 0 ≤ lnnCompareNodeWeight node.master peer then (node, [])
    else
      let updated := updateLocalMasterNode node peer
      (updated, sendElectMessageToAll view updated.master item.networkId)

def tryElectMasterNodeOffline (view : ElectView) (node : LocalNode) (item : Linked) :
    LocalNode × List ElectMessage :=
  if node.master.udid = node.udid then (node, [])
  else
    let updated := updateLocalMasterNode node ⟨node.weight, node.udid⟩
    (updated, sendElectMessageToAll view updated.master item.networkId)

def processNodeStateChanged (view : ElectView) (node : LocalNode) (addr : ConnectionAddr) :
    LocalNode × List ElectMessage :=
  match view.nb.findConnectionFsmByAddr addr with
  | none => (node, [])
  | some item =>
    if item.fsm.connInfo.peerVersion < softBusNewV1 then (node, [])
    else if view.isNodeOnline item.networkId then tryElectMasterNodeOnline view node item
    else tryElectMasterNodeOffline view node item

/-- The message of a peer that is online is dropped. -/
def processMasterElect (view : ElectView) (node : LocalNode) (udid : CString)
    (reported : Master) : LocalNode × List ElectMessage :=
  match (view.findConnectionFsmByUdid udid).filter fun item => !item.fsm.isDead with
  | none => (node, [])
  | some item =>
    if view.isNodeOnline item.networkId then (node, [])
    else if lnnCompareNodeWeight node.master reported < 0 then
      let updated := updateLocalMasterNode node reported
      (updated, sendElectMessageToAll view updated.master item.networkId)
    else (node, [⟨item.networkId, node.master⟩])

inductive ElectEvent where
  | nodeStateChanged (view : ElectView) (addr : ConnectionAddr)
  | masterElect (view : ElectView) (udid : CString) (reported : Master)

namespace ElectEvent

def view : ElectEvent → ElectView
  | .nodeStateChanged view _ | .masterElect view _ _ => view

def sender : ElectEvent → Option Linked
  | .nodeStateChanged view addr => view.nb.findConnectionFsmByAddr addr
  | .masterElect view udid _ => view.findConnectionFsmByUdid udid

/-- The master that the peer reports: in the ledger when it came online, or in its message. -/
def reported : ElectEvent → Option Master
  | .nodeStateChanged view addr =>
    (view.nb.findConnectionFsmByAddr addr).bind fun item => view.dlGetMaster item.networkId
  | .masterElect _ _ reported => some reported

end ElectEvent

structure OnlineEvent where
  event : ElectEvent
  whole : ∀ item ∈ event.view.nb.fsmList, item.freed = false
  online : ∃ item, event.sender = some item ∧ event.view.isNodeOnline item.networkId

def electStep (node : LocalNode) (online : OnlineEvent) : Option (LocalNode × List ElectMessage) :=
  match online.event with
  | .nodeStateChanged view addr => some (processNodeStateChanged view node addr)
  | .masterElect view udid reported => some (processMasterElect view node udid reported)

def Master.Comparable (a b : Master) : Prop :=
  -2 ^ 31 ≤ a.weight.toInt - b.weight.toInt ∧ a.weight.toInt - b.weight.toInt < 2 ^ 31
deriving Decidable

lemma strcmpBytes_neg_iff {s t} (hs : 0 ∉ s) (ht : 0 ∉ t) :
    strcmpBytes s t < 0 ↔ s.map UInt8.toNat < t.map UInt8.toNat := by
  induction s generalizing t with
  | nil =>
    cases t with
    | nil => simp [strcmpBytes]
    | cons b t =>
      have pos : b.toNat ≠ 0 := fun zero =>
        ht (mem_cons.mpr (.inl (UInt8.toNat_inj.mp zero).symm))
      simp only [strcmpBytes, map_nil, map_cons, nil_lt_cons, iff_true]
      omega
  | cons a s ih =>
    cases t with
    | nil => simp [strcmpBytes]
    | cons b t =>
      simp only [mem_cons, not_or] at hs ht
      simp only [strcmpBytes, map_cons, cons_lt_cons_iff, UInt8.toNat_inj]
      split
      next same => simp [same, ih hs.2 ht.2]
      next other =>
        simp only [other, false_and, or_false]
        omega

lemma lnnCompareNodeWeight_neg_iff {a b : Master} (fits : a.Comparable b) :
    lnnCompareNodeWeight a b < 0 ↔ a < b := by
  simp only [lnnCompareNodeWeight, Master.lt_iff]
  split
  next other =>
    have apart : a.weight.toInt ≠ b.weight.toInt := fun same => other (BitVec.toInt_inj.mp same)
    simp only [BitVec.toInt_sub, Int.bmod]
    simp only [Master.Comparable] at fits
    omega
  next same =>
    simp only [ne_eq, not_not] at same
    simp only [same, lt_self_iff_false, true_and, false_or]
    exact strcmpBytes_neg_iff a.udid.noNul b.udid.noNul

lemma lnnCompareNodeWeight_neg_iff_of_not {a b : Master} (wraps : ¬a.Comparable b) :
    lnnCompareNodeWeight a b < 0 ↔ b < a := by
  have low := a.weight.le_toInt
  have high := @BitVec.toInt_lt 32 a.weight
  have low' := b.weight.le_toInt
  have high' := @BitVec.toInt_lt 32 b.weight
  have other : a.weight ≠ b.weight := fun same => wraps (by simp [Master.Comparable, same])
  simp only [lnnCompareNodeWeight, if_pos other, Master.lt_iff, BitVec.toInt_sub, Int.bmod]
  simp only [Master.Comparable] at wraps
  omega

lemma ElectView.isNodeOnline_of_dlGetMaster {view : ElectView} {networkId : CString}
    {peer : Master} (known : view.dlGetMaster networkId = some peer) :
    view.isNodeOnline networkId := by
  obtain ⟨info, found, -⟩ := map_eq_some_iff.mp known
  obtain ⟨here, online⟩ := filter_eq_some_iff.mp found
  rw [isNodeOnline, here]
  exact online

lemma ElectView.dlGetMaster_of_online {view : ElectView} {networkId : CString}
    (online : view.isNodeOnline networkId) : ∃ peer, view.dlGetMaster networkId = some peer := by
  rw [isNodeOnline] at online
  cases here : view.lnnGetNodeInfoById networkId with
  | none => simp [here] at online
  | some info =>
    have on : lnnIsNodeOnline info := by simpa [here] using online
    exact ⟨⟨info.masterWeight, info.masterUdid⟩, by simp [dlGetMaster, here, on]⟩

variable {node : LocalNode}

variable {item : Linked}

lemma processNodeStateChanged_online {view : ElectView} {addr : ConnectionAddr} {peer : Master}
    (found : view.nb.findConnectionFsmByAddr addr = some item)
    (new : ¬item.fsm.connInfo.peerVersion < softBusNewV1)
    (known : view.dlGetMaster item.networkId = some peer) : processNodeStateChanged view node addr =
      if lnnCompareNodeWeight node.master peer < 0 then
        (updateLocalMasterNode node peer,
          sendElectMessageToAll view (updateLocalMasterNode node peer).master item.networkId)
      else (node, []) := by
  simp only [processNodeStateChanged, found, if_neg new,
    if_pos (ElectView.isNodeOnline_of_dlGetMaster known), tryElectMasterNodeOnline, known]
  split
  · rw [if_neg (by omega)]
  · rw [if_pos (by omega)]

lemma processNodeStateChanged_old {view addr}
    (found : view.nb.findConnectionFsmByAddr addr = some item)
    (old : item.fsm.connInfo.peerVersion < softBusNewV1) :
    processNodeStateChanged view node addr = (node, []) := by
  simp only [processNodeStateChanged, found, if_pos old]

lemma processMasterElect_online {view udid} (reported)
    (found : view.findConnectionFsmByUdid udid = some item)
    (online : view.isNodeOnline item.networkId) :
    processMasterElect view node udid reported = (node, []) := by
  simp only [processMasterElect, found]
  split
  · rfl
  next other h =>
    cases (filter_eq_some_iff.mp h).1
    rw [if_pos online]

variable (master : Master)

def ElectEvent.Ordered : ElectEvent → Prop
  | .nodeStateChanged view addr =>
    ∀ item ∈ view.nb.findConnectionFsmByAddr addr, ∀ peer ∈ view.dlGetMaster item.networkId,
      if item.fsm.connInfo.peerVersion < softBusNewV1 ∨ ¬isValidString peer.udid.bytes udidBufLen
      then peer ≤ master else master.Comparable peer
  | .masterElect _ _ reported => reported ≤ master

def ElectEvent.Raises (event : ElectEvent) (old new : Master) : Prop :=
  old ≤ new ∧ ∀ peer ∈ event.reported, peer ≤ new

lemma raises_of_compare_iff (master peer) :
    (master ≤ (if lnnCompareNodeWeight master peer < 0 then peer else master) ∧
      peer ≤ if lnnCompareNodeWeight master peer < 0 then peer else master) ↔
        master.Comparable peer := by
  by_cases fits : master.Comparable peer
  · simp only [lnnCompareNodeWeight_neg_iff fits, fits, iff_true]
    split
    next less => exact ⟨less.le, le_refl _⟩
    next least => exact ⟨le_refl _, not_lt.mp least⟩
  · have apart : master ≠ peer := fun same => fits (by simp [Master.Comparable, same])
    simp only [lnnCompareNodeWeight_neg_iff_of_not fits, fits, iff_false]
    split
    next less => exact fun kept => not_le_of_gt less kept.1
    next least => exact fun kept => apart (le_antisymm (not_lt.mp least) kept.2)

lemma electStep_raises_iff {node' : LocalNode} {online : OnlineEvent} {out : List ElectMessage}
    (done : electStep node online = some (node', out)) :
    online.event.Raises node.master node'.master ↔ online.event.Ordered node.master := by
  obtain ⟨event, _, item, sent, on⟩ := online
  cases event with
  | nodeStateChanged view addr =>
    have result : processNodeStateChanged view node addr = (node', out) := some.inj done
    have found : view.nb.findConnectionFsmByAddr addr = some item := sent
    obtain ⟨peer, known⟩ := ElectView.dlGetMaster_of_online on
    simp only [ElectEvent.Raises, ElectEvent.Ordered, ElectEvent.reported, found,
      bind_some, ElectEvent.view] at known ⊢
    simp only [known, mem_def, some.injEq, forall_eq']
    by_cases old : item.fsm.connInfo.peerVersion < softBusNewV1
    · rw [processNodeStateChanged_old found old] at result
      cases result
      simp [old]
    · rw [processNodeStateChanged_online found old known] at result
      have after := congrArg (·.1.master) result
      by_cases valid : isValidString peer.udid.bytes udidBufLen
      · rw [if_neg (by simp [old, valid]), ← raises_of_compare_iff, ← after, updateLocalMasterNode,
          if_pos valid]
        split <;> rfl
      · have kept : node'.master = node.master := by
          rw [← after, updateLocalMasterNode, if_neg valid]
          split <;> rfl
        simp [valid, kept]
  | masterElect view udid reported =>
    have result : processMasterElect view node udid reported = (node', out) := some.inj done
    rw [processMasterElect_online reported sent on] at result
    cases result
    simp [ElectEvent.Raises, ElectEvent.Ordered, ElectEvent.reported]

/-- The master never decreases and is at least the one that an online peer reports, if and only
if every message meets the condition. -/
theorem master_monotone_iff (node : LocalNode) (events : List OnlineEvent) :
    AllResults electStep (fun node online node' _ =>
        online.event.Raises node.master node'.master) node events ↔
      AllSteps electStep (fun node online => online.event.Ordered node.master) node events := by
  have defined (node : LocalNode) (online : OnlineEvent) (_ _ : True) :
      ∃ node' out, electStep node online = some (node', out) ∧ True := by
    simp only [electStep]
    split <;> exact ⟨_, _, rfl, trivial⟩
  obtain ⟨node', outs, hRun, -⟩ := @run_defined _ _ _ _ _ _ defined node events trivial
    fun _ _ _ _ _ _ _ => trivial
  exact allResults_iff_allSteps hRun fun _ _ _ _ done => electStep_raises_iff done

def sampleName (k : Fin 3) : CString := ⟨[.ofNat (k + 1)], by revert k; decide⟩

def sampleAddr (k : Fin 3) : ConnectionAddr := ⟨.br, sampleName k, 0⟩

def sampleInfo (k : Fin 3) : NodeInfo where
  deviceUdid := sampleName k
  uuid := sampleName k
  networkId := sampleName k
  masterUdid := master.udid
  masterWeight := master.weight
  status := .online
  discoveryType := 0
  connectInfo := ⟨emptyString, sampleName k, 0, 0, 0⟩
  authSeqNum := 0
  authChannelId := 0

def sampleMachine (k : Fin 3) : Linked where
  serial := k
  fsm :=
    { id := .ofNat 16 k
      connInfo :=
        { addr := sampleAddr k, peerNetworkId := sampleName k, peerVersion := softBusNewV1 } }

def sampleView (peers : List (Fin 3)) (master : Fin 3 → Master) : ElectView where
  nb := { netBuilderInit 10 with fsmList := peers.map sampleMachine }
  ledger := peers.map fun k => sampleInfo (master k) k

instance neZeroThree : NeZero 3 := ⟨by decide⟩

def onlyPeerOnline : OnlineEvent where
  event := .nodeStateChanged (sampleView [0] fun _ => master) (sampleAddr 0)
  whole := by simp [ElectEvent.view, sampleView, sampleMachine]
  online := ⟨_, rfl, rfl⟩

def onlyPeerElects (master reported : Master) : OnlineEvent where
  event := .masterElect (sampleView [0] fun _ => master) (sampleName 0) reported
  whole := by simp [ElectEvent.view, sampleView, sampleMachine]
  online := ⟨_, rfl, rfl⟩

def localNode : LocalNode := ⟨master.udid, master.weight, master⟩

/-- A peer with a negative weight takes over from the greatest weight, and the elect message
of a peer that is online with a greater master is dropped. -/
theorem master_lowered_or_kept : ((electStep (localNode ⟨2147483647, sampleName 0⟩)
        (onlyPeerOnline ⟨-1, sampleName 1⟩)).map (·.1.master) = some ⟨-1, sampleName 1⟩ ∧
      (⟨-1, sampleName 1⟩ : Master) < ⟨2147483647, sampleName 0⟩) ∧
    (electStep (localNode ⟨1, sampleName 0⟩)
        (onlyPeerElects ⟨0, sampleName 1⟩ ⟨2, sampleName 1⟩)).map (·.1.master) =
          some ⟨1, sampleName 0⟩ ∧ (⟨1, sampleName 0⟩ : Master) < ⟨2, sampleName 1⟩ := by
  simp only [Master.lt_iff]
  refine ⟨⟨?_, ?_⟩, ?_, ?_⟩ <;> decide +kernel

end DSoftBus.Lnn
