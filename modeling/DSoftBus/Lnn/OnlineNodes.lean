import DSoftBus.Lnn.DistributedLedger
import DSoftBus.Lnn.MapIterator

/-!
The listing of the online nodes. One pass over the udid map counts them and a second one
fills an array of that size; both come to the same nodes. The map holds the nodes of the
ledger: each call of the ledger makes one call of the map.
-/
namespace DSoftBus.Lnn
open Execution List DistributedLedger
open Function (update update_self update_of_ne update_eq_self)

structure NodeBasicInfo where
  networkId : CString
  deviceName : CString
  deviceTypeId : BitVec 16

/-- `sizeof(NodeBasicInfo)`: arrays of 65 and 128 characters, and an aligned `uint16_t`. -/
def nodeBasicInfoSize : Nat := 196

/-- What is read of a `NodeInfo`, whose strings end within arrays of these sizes. -/
structure ListedNode extends NodeBasicInfo where
  status : ConnectStatus
  networkIdFits : networkId.strlen < 65
  deviceNameFits : deviceName.strlen < 128

def convertNodeInfoToBasicInfo (info : ListedNode) : Option NodeBasicInfo :=
  match strncpyS 128 info.deviceName, strncpyS 65 info.networkId with
  | some deviceName, some networkId => some ⟨networkId, deviceName, info.deviceTypeId⟩
  | _, _ => none

lemma convertNodeInfoToBasicInfo_eq (info) :
    convertNodeInfoToBasicInfo info = some info.toNodeBasicInfo := by
  rw [convertNodeInfoToBasicInfo, strncpyS, if_pos info.deviceNameFits, strncpyS,
    if_pos info.networkIdFits]

section
variable (nodeOf : Bytes → ListedNode)

def online (visited : List MapNode) : List MapNode :=
  visited.filter fun node => (nodeOf node.value).status = .online

def getDLOnlineNodeNumLocked (visited : List MapNode) : BitVec 32 :=
  BitVec.ofNat 32 (online nodeOf visited).length

/-- The elements written; one that could not be converted is left as it was allocated. -/
def fillDLOnlineNodeInfoLocked (infoNum : BitVec 32) :
    Nat → List MapNode → List (Option NodeBasicInfo)
  | _, [] => []
  | i, node :: rest =>
    if (i : Int) < infoNum.toInt then
      if (nodeOf node.value).status = .online then
        convertNodeInfoToBasicInfo (nodeOf node.value) ::
          fillDLOnlineNodeInfoLocked infoNum (i + 1) rest
      else fillDLOnlineNodeInfoLocked infoNum i rest
    else []

/-- The size of the array is an `unsigned int`; an element beyond it is written outside. -/
def lnnGetDistributedNodeInfo (map : Map) :
    Option (SoftBusErrNo × BitVec 32 × List (Option NodeBasicInfo)) :=
  (iterate map (map.nodeSize.toNat + 1) lnnMapInitIterator).bind fun visited =>
    let infoNum := getDLOnlineNodeNumLocked nodeOf visited
    let size := infoNum.toNat * nodeBasicInfoSize % 2 ^ 32
    let info := fillDLOnlineNodeInfoLocked nodeOf infoNum 0 visited
    if infoNum = 0 then some (.ok, 0, [])
    else if maxMallocSize < size then some (.err, infoNum, [])
    else if size < info.length * nodeBasicInfoSize then none
    else some (.ok, infoNum, info)

lemma fillDLOnlineNodeInfoLocked_eq {infoNum : BitVec 32} (visited) (i : Nat)
    (room : i + (online nodeOf visited).length ≤ infoNum.toInt) :
    fillDLOnlineNodeInfoLocked nodeOf infoNum i visited =
      (online nodeOf visited).map fun node => some (nodeOf node.value).toNodeBasicInfo := by
  induction visited generalizing i with
  | nil => rfl
  | cons node rest ih =>
    rw [online, filter_cons] at room ⊢
    rw [fillDLOnlineNodeInfoLocked]
    by_cases on : (nodeOf node.value).status = .online
    · rw [if_pos (decide_eq_true on), length_cons] at room
      rw [if_pos (by omega), if_pos on, if_pos (decide_eq_true on), map_cons,
        convertNodeInfoToBasicInfo_eq, ih (i + 1) (by rw [online]; omega), online]
    · simp only [on, decide_false, Bool.false_eq_true, ↓reduceIte] at room ⊢
      split
      · exact ih i room
      next full => rw [length_eq_zero_iff.mp (by omega : (filter _ rest).length = 0), map_nil]

lemma lnnGetDistributedNodeInfo_eq {map : Map} {visited}
    (visits : iterate map (map.nodeSize.toNat + 1) lnnMapInitIterator = some visited)
    (room : (online nodeOf visited).length * nodeBasicInfoSize ≤ maxMallocSize) :
    ∃ infoNum : BitVec 32, infoNum.toInt = (online nodeOf visited).length ∧
      lnnGetDistributedNodeInfo nodeOf map = some (.ok, infoNum,
        (online nodeOf visited).map fun node => some (nodeOf node.value).toNodeBasicInfo) := by
  rw [nodeBasicInfoSize, maxMallocSize] at room
  have fits : (getDLOnlineNodeNumLocked nodeOf visited).toNat = (online nodeOf visited).length :=
    (BitVec.toNat_ofNat ..).trans (Nat.mod_eq_of_lt (by omega))
  have signed : (getDLOnlineNodeNumLocked nodeOf visited).toInt =
      (online nodeOf visited).length := by
    rw [BitVec.toInt_eq_toNat_of_lt (by omega), fits]
  have filled := fillDLOnlineNodeInfoLocked_eq nodeOf visited 0 (by rw [signed]; omega)
  refine ⟨_, signed, ?_⟩
  rw [lnnGetDistributedNodeInfo, visits, Option.bind_some]
  simp only [filled, length_map, fits, nodeBasicInfoSize, maxMallocSize]
  rw [Nat.mod_eq_of_lt (by omega)]
  split
  next none =>
    have empty : online nodeOf visited = [] := length_eq_zero_iff.mp (fits ▸ none ▸ rfl)
    rw [none, empty]
    rfl
  · rw [if_neg (by omega), if_neg (by omega)]

/-- The listing after the calls: every online node once, with what is stored of it. -/
def Listed (charValue : UInt8 → BitVec 32) (calls : List MapCall) : Prop :=
  ∃ map events, ∃ keys : List CString,
    run (mapStep charValue) lnnMapInit calls = some (map, events) ∧ keys.Nodup ∧
    (∀ key, key ∈ keys ↔ ∃ value, valueOf events key = some value ∧
      (nodeOf value).status = .online) ∧
    (keys.length * nodeBasicInfoSize ≤ maxMallocSize → ∃ infoNum : BitVec 32,
      infoNum.toInt = keys.length ∧ lnnGetDistributedNodeInfo nodeOf map =
        some (.ok, infoNum, keys.map fun key =>
          (valueOf events key).map fun value => (nodeOf value).toNodeBasicInfo))

lemma listed_of_fewKeys {charValue : UInt8 → BitVec 32} {calls : List MapCall}
    (few : FewKeys charValue calls) : Listed nodeOf charValue calls := by
  obtain ⟨map, events, ran, ref, visits⟩ := few.iterates
  refine ⟨map, events, (online nodeOf (map.nodes.getD []).flatten).map MapNode.key, ran,
    ref.nodup_keys.sublist (filter_sublist.map _), fun key => ?_, fun room => ?_⟩
  · simp only [online, mem_map, mem_filter, decide_eq_true_eq, ref.stored_eq_some]
    constructor
    · rintro ⟨node, ⟨mem, on⟩, rfl⟩
      exact ⟨node.value, ⟨node, mem, rfl, rfl⟩, on⟩
    · rintro ⟨_, ⟨node, mem, rfl, rfl⟩, on⟩
      exact ⟨node, ⟨mem, on⟩, rfl⟩
  · rw [length_map] at room ⊢
    obtain ⟨infoNum, counted, listed⟩ := lnnGetDistributedNodeInfo_eq nodeOf visits room
    refine ⟨infoNum, counted, ?_⟩
    rw [listed, map_map]
    congr 3
    refine map_congr_left fun node mem => ?_
    rw [Function.comp, ref.stored_eq_some.mpr ⟨node, mem_of_mem_filter mem, rfl, rfl⟩]
    rfl

end

/-- How the map keeps a node: as the `sizeof(NodeInfo)` bytes from which the listing reads. -/
structure NodeBytes where
  encode : NodeInfo → Bytes
  nodeOf : Bytes → ListedNode
  size : Nat
  accepted : size ≠ 0 ∧ size ≤ hdfMapKeyMaxSize
  length_encode : ∀ info, (encode info).length = size
  status_nodeOf : ∀ info, (nodeOf (encode info)).status = info.status

def LedgerEvent.udid : LedgerEvent → CString
  | .addOnlineNode info _ => info.deviceUdid
  | .setNodeOffline udid _ | .removeNode udid => udid

section
variable (bytes : NodeBytes)

/-- A node that is set offline is changed where it is stored. -/
def nodeCall (ledger : DistributedLedger) : LedgerEvent → MapCall
  | .addOnlineNode info _ => .set info.deviceUdid (bytes.encode (ledger.mergedNode info))
  | .setNodeOffline udid authId =>
    match (ledger.lnnSetNodeOffline udid authId).1.udidMap udid with
    | none => .get udid
    | some info => .set udid (bytes.encode info)
  | .removeNode udid => .erase udid

def nodeCalls : DistributedLedger → List LedgerEvent → List MapCall
  | _, [] => []
  | ledger, event :: rest =>
    nodeCall bytes ledger event ::
      nodeCalls (((ledgerStep ledger event).map Prod.fst).getD ledger) rest

def Stored (ledger : DistributedLedger) (stored : CString → Option Bytes) : Prop :=
  ∀ key, stored key = (ledger.udidMap key).map bytes.encode

variable {bytes} {chars : UInt8 → BitVec 32} {ledger next : DistributedLedger}
  {stored : CString → Option Bytes}

lemma udidMap_lnnSetNodeOffline (ledger : DistributedLedger) (udid authId) :
    ∃ f : NodeInfo → NodeInfo, (ledger.lnnSetNodeOffline udid authId).1.udidMap =
      update ledger.udidMap udid ((ledger.udidMap udid).map f) := by
  cases here : ledger.udidMap udid with
  | none =>
    refine ⟨id, ?_⟩
    rw [Option.map_none, ← here, update_eq_self]
    simp only [lnnSetNodeOffline, here]
  | some info =>
    simp only [lnnSetNodeOffline, here]
    split
    · refine ⟨id, ?_⟩
      rw [apply_ite udidMap, udidMap_removeCnnCode, ite_self,
        Option.map_id_fun, id, ← here, update_eq_self]
    · exact ⟨fun info => { info with status := .offline }, rfl⟩

lemma ledgerStep_udidMap {event reports} (step : ledgerStep ledger event = some (next, reports)) :
    next.udidMap = update ledger.udidMap event.udid (next.udidMap event.udid) := by
  cases event with
  | addOnlineNode info fits =>
    cases step
    simp [LedgerEvent.udid, lnnAddOnlineNode]
  | removeNode udid =>
    cases step
    simp [LedgerEvent.udid, lnnRemoveNode]
  | setNodeOffline udid authId =>
    cases step
    obtain ⟨f, changed⟩ := udidMap_lnnSetNodeOffline ledger udid authId
    rw [changed, LedgerEvent.udid, update_self]

lemma nodeCall_stored {map event reports} (ref : Refines chars map stored)
    (small : map.count < 2 ^ 32) (holds : Stored bytes ledger stored)
    (short : event.udid.strlen ≤ hdfMapValueMaxSize)
    (step : ledgerStep ledger event = some (next, reports)) :
    ∃ map' out, mapStep chars map (nodeCall bytes ledger event) = some (map', [out]) ∧
      Stored bytes next (valueAfter stored out) := by
  have frame {value : Option Bytes} (same : value = (next.udidMap event.udid).map bytes.encode) :
      Stored bytes next (update stored event.udid value) := by
    intro key
    rw [ledgerStep_udidMap step, same]
    by_cases here : key = event.udid
    · rw [here, update_self, update_self]
    · rw [update_of_ne here, update_of_ne here, holds]
  have sets (info : NodeInfo) (kept : next.udidMap event.udid = some info) :
      ∃ map' out, mapStep chars map (.set event.udid (bytes.encode info)) = some (map', [out]) ∧
        Stored bytes next (valueAfter stored out) := by
    obtain ⟨map', ret, set, _, ok⟩ := lnnMapSet_refines ref small event.udid (bytes.encode info)
    have fits : Accepted event.udid (bytes.encode info) := by
      rw [Accepted, bytes.length_encode]
      exact ⟨bytes.accepted.1, bytes.accepted.2, short⟩
    have done : ret = .ok := by
      refine ok fits fun old has => ?_
      rw [holds] at has
      obtain ⟨_, _, rfl⟩ := Option.map_eq_some_iff.mp has
      rw [bytes.length_encode, bytes.length_encode]
    subst done
    refine ⟨map', .set event.udid (bytes.encode info) .ok, by rw [mapStep, set]; rfl, ?_⟩
    exact frame (by rw [kept]; rfl)
  cases event with
  | addOnlineNode info fits =>
    cases step
    exact sets _ (update_self ..)
  | setNodeOffline udid authId =>
    cases step
    rw [nodeCall]
    split
    next gone =>
      obtain ⟨found, searched, _⟩ := ref.mapFind_values small udid
      refine ⟨map, .got udid (found.map MapNode.value),
        by rw [mapStep, lnnMapGet, searched]; rfl, ?_⟩
      obtain ⟨f, changed⟩ := udidMap_lnnSetNodeOffline ledger udid authId
      have absent : stored udid = none := by
        rw [changed, update_self, Option.map_eq_none_iff] at gone
        rw [holds, gone]
        rfl
      have unchanged := frame (congrArg (Option.map bytes.encode) gone).symm
      rw [Option.map_none, ← absent, LedgerEvent.udid, update_eq_self] at unchanged
      exact unchanged
    next info kept => exact sets info kept
  | removeNode udid =>
    cases step
    obtain ⟨map', ret, erased, _, gone⟩ := lnnMapErase_refines ref small udid
    refine ⟨map', _, by rw [nodeCall, mapStep, erased]; rfl, ?_⟩
    have removed : Stored bytes (ledger.lnnRemoveNode udid) (update stored udid none) :=
      frame (by simp [lnnRemoveNode, LedgerEvent.udid])
    have effect : valueAfter stored (.erased udid ret) = update stored udid none := by
      cases gone with
      | inl ok => rw [ok, valueAfter]
      | inr absent =>
        have same : update stored udid none = stored := absent ▸ update_eq_self ..
        cases ret <;> simp [valueAfter, same]
    rwa [effect]

lemma nodeCalls_stored {events reports past map outs}
    (short : ∀ event ∈ events, event.udid.strlen ≤ hdfMapValueMaxSize)
    (few : FewKeys chars (past ++ nodeCalls bytes ledger events))
    (before : run (mapStep chars) lnnMapInit past = some (map, outs))
    (holds : Stored bytes ledger (valueOf outs))
    (ran : run ledgerStep ledger events = some (next, reports)) :
    ∃ map' outs', run (mapStep chars) lnnMapInit (past ++ nodeCalls bytes ledger events) =
      some (map', outs') ∧ Stored bytes next (valueOf outs') := by
  induction events generalizing ledger past map outs reports with
  | nil =>
    cases ran
    exact ⟨map, outs, by rwa [nodeCalls, append_nil], holds⟩
  | cons event rest ih =>
    obtain ⟨after, _, _, step, later, _⟩ := run_cons_eq_some.mp ran
    obtain ⟨_, _, same, ref, small, _⟩ := few.front.refines
    cases before.symm.trans same
    obtain ⟨map', out, called, kept⟩ :=
      nodeCall_stored ref small holds (short event mem_cons_self) step
    rw [← valueOf_concat] at kept
    rw [nodeCalls, step, Option.map_some, Option.getD_some, append_cons] at few ⊢
    exact ih (fun other mem => short other (mem_cons_of_mem _ mem)) few
      (run_concat_eq_some.mpr ⟨map, outs, _, before, called, rfl⟩) kept later

/-- After every run of the ledger, the listing is of its online nodes. -/
theorem ledger_listed {events : List LedgerEvent} {reports : List ReportCategory}
    (short : ∀ event ∈ events, event.udid.strlen ≤ hdfMapValueMaxSize)
    (few : FewKeys chars (nodeCalls bytes .init events))
    (ran : run ledgerStep .init events = some (ledger, reports)) :
    ∃ map outs, ∃ keys : List CString,
      run (mapStep chars) lnnMapInit (nodeCalls bytes .init events) = some (map, outs) ∧
      keys.Nodup ∧ (∀ udid, udid ∈ keys ↔ (ledger.onlineNode udid).isSome) ∧
      (keys.length * nodeBasicInfoSize ≤ maxMallocSize → ∃ infoNum : BitVec 32,
        infoNum.toInt = keys.length ∧ lnnGetDistributedNodeInfo bytes.nodeOf map =
          some (.ok, infoNum, keys.map fun udid => (ledger.udidMap udid).map fun info =>
            (bytes.nodeOf (bytes.encode info)).toNodeBasicInfo)) := by
  obtain ⟨map, outs, keys, called, nodup, mem, listed⟩ := listed_of_fewKeys bytes.nodeOf few
  obtain ⟨_, _, same, holds⟩ :=
    @nodeCalls_stored bytes chars .init ledger events reports [] _ _ short few rfl (fun _ => rfl)
      ran
  cases called.symm.trans same
  refine ⟨map, outs, keys, called, nodup, fun udid => ?_, fun room => ?_⟩
  · rw [mem, onlineNode, Option.isSome_filter, holds udid]
    cases ledger.udidMap udid <;> simp [bytes.status_nodeOf, lnnIsNodeOnline]
  · obtain ⟨infoNum, counted, result⟩ := listed room
    refine ⟨infoNum, counted, result.trans ?_⟩
    simp only [holds _, Option.map_map]
    rfl

end

def listedNode (status : ConnectStatus) : ListedNode :=
  ⟨⟨numberKey 1, numberKey 2, 1⟩, status, by decide, by decide⟩

/-- Keeps the status of a node, in one byte. -/
def statusBytes : NodeBytes where
  encode info := if info.status = .online then [1] else [0]
  nodeOf value := listedNode (if value = [1] then .online else .offline)
  size := 1
  accepted := by decide
  length_encode info := by split <;> rfl
  status_nodeOf info := by cases info.status <;> simp [listedNode]

def numberedNode (i : Nat) : NodeInfo := { ledgerNode .wifi 7 with deviceUdid := numberKey i }

/-- Of three nodes, one is set offline, one is removed and one comes online twice. -/
def threeNodes : List LedgerEvent :=
  [.addOnlineNode (numberedNode 5) (by decide), .addOnlineNode (numberedNode 6) (by decide),
    .addOnlineNode (numberedNode 7) (by decide), .addOnlineNode (numberedNode 5) (by decide),
    .setNodeOffline (numberKey 6) 7, .removeNode (numberKey 7)]

theorem ledger_listed_threeNodes : ∃ map outs, ∃ keys : List CString,
    run (mapStep unsignedChar) lnnMapInit (nodeCalls statusBytes .init threeNodes) =
      some (map, outs) ∧ keys.Nodup ∧
    numberKey 5 ∈ keys ∧ numberKey 6 ∉ keys ∧ numberKey 7 ∉ keys := by
  obtain ⟨map, outs, keys, called, nodup, mem, _⟩ := @ledger_listed statusBytes unsignedChar _
    threeNodes _ (by decide) (fewKeys_of_short (by decide)) rfl
  refine ⟨map, outs, keys, called, nodup, ?_⟩
  rw [mem, mem, mem]
  decide +kernel

/-- With `2 ^ 32` online nodes none is listed. -/
theorem listing_after_wrap :
    ∃ map events, run (mapStep unsignedChar) lnnMapInit (numberedSets (2 ^ 32)) =
        some (map, events) ∧ valueOf events (numberKey 0) = some [1] ∧
      lnnGetDistributedNodeInfo (fun _ => listedNode .online) map = some (.ok, 0, []) := by
  obtain ⟨map, ran, first, zero⟩ := run_wrapped
  refine ⟨map, _, ran, first, ?_⟩
  rw [lnnGetDistributedNodeInfo, iterate, if_neg (by simp [lnnMapHasNext, zero])]
  rfl

end DSoftBus.Lnn
