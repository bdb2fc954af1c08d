import DSoftBus.Lnn.NodeInfo

/-!
The distributed ledger of lnn_distributed_net_ledger.c: the nodes by udid and the connection
codes. The maps are the functions that the string map of lnn_map.c refines, with memory for
their entries. No call here writes the maps by IP and by MAC.
-/
namespace DSoftBus.Lnn
open Function

def uuidBufLen : Nat := 65

def DiscoveryType.number : DiscoveryType → Fin 6
  | .unknown => 0
  | .wifi => 1
  | .ble => 2
  | .br => 3
  | .p2p => 4
  | .count => 5

/-- The text `"%d%s"` of the type and the uuid. -/
def createCnnCodeKey (uuid : CString) (type : DiscoveryType) : Option CString :=
  if uuidBufLen ≤ uuid.strlen then none
  else some
    { bytes := .ofNat (48 + type.number) :: uuid.bytes
      noNul := by
        rw [List.mem_cons, not_or]
        refine ⟨?_, uuid.noNul⟩
        cases type <;> decide }

structure DistributedLedger where
  udidMap : CString → Option NodeInfo
  ipMap : CString → Option NodeInfo
  macMap : CString → Option NodeInfo
  connectionCode : CString → Option (BitVec 16)

namespace DistributedLedger

def init : DistributedLedger := ⟨fun _ => none, fun _ => none, fun _ => none, fun _ => none⟩

variable (ledger : DistributedLedger) (uuid : CString) (type : DiscoveryType)

/-- The code is the low 16 bits of the sequence number. -/
def addCnnCode (authSeqNum : BitVec 64) : DistributedLedger :=
  match createCnnCodeKey uuid type with
  | none => ledger
  | some key =>
    { ledger with
      connectionCode := update ledger.connectionCode key (some (authSeqNum.setWidth 16)) }

def removeCnnCode : DistributedLedger :=
  match createCnnCodeKey uuid type with
  | none => ledger
  | some key =>
    { ledger with connectionCode := update ledger.connectionCode key none }

lemma udidMap_removeCnnCode : (ledger.removeCnnCode uuid type).udidMap = ledger.udidMap := by
  unfold removeCnnCode
  split <;> rfl

def lnnGetCnnCode : Option (BitVec 16) := (createCnnCodeKey uuid type).bind ledger.connectionCode

end DistributedLedger

variable (old new : NodeInfo)

/-- The IP and the MAC of the peer are unknown when they are empty. -/
def newWifiDiscovered : NodeInfo :=
  { new with
    discoveryType := new.discoveryType ||| old.discoveryType
    connectInfo :=
      if new.connectInfo.macAddr = emptyString then
        { new.connectInfo with macAddr := old.connectInfo.macAddr }
      else new.connectInfo }

def newBrBleDiscovered : NodeInfo :=
  { new with
    discoveryType := new.discoveryType ||| old.discoveryType
    connectInfo :=
      if new.connectInfo.deviceIp = emptyString then
        { new.connectInfo with deviceIp := old.connectInfo.deviceIp }
      else new.connectInfo }

/-- What is kept of a node that is online already. A BR and a BLE connection are not merged
with each other. -/
def mergeOnline : NodeInfo :=
  if (lnnHasDiscoveryType old .ble || lnnHasDiscoveryType old .br) && lnnHasDiscoveryType new .wifi
  then newWifiDiscovered old new
  else if lnnHasDiscoveryType old .wifi &&
      (lnnHasDiscoveryType new .ble || lnnHasDiscoveryType new .br)
  then newBrBleDiscovered old new
  else new

namespace DistributedLedger

variable (ledger : DistributedLedger)

def onlineNode (udid : CString) : Option NodeInfo := (ledger.udidMap udid).filter lnnIsNodeOnline

def mergedNode (info : NodeInfo) : NodeInfo :=
  match ledger.onlineNode info.deviceUdid with
  | none => { info with status := .online }
  | some old => { mergeOnline old info with status := .online }

/-- The code is added before the node is looked up. -/
def lnnAddOnlineNode (info : NodeInfo) : DistributedLedger × ReportCategory :=
  let coded :=
    if lnnHasDiscoveryType info .br then ledger.addCnnCode info.uuid .br info.authSeqNum
    else ledger
  ({ coded with
      udidMap := update ledger.udidMap info.deviceUdid (some (ledger.mergedNode info)) },
    match ledger.onlineNode info.deviceUdid with
    | none => .online
    | some old => if info.networkId = old.networkId then .none else .change)

/-- The code is removed before the authentication is compared. -/
def lnnSetNodeOffline (udid : CString) (authId : BitVec 32) : DistributedLedger × ReportCategory :=
  match ledger.udidMap udid with
  | none => (ledger, .none)
  | some info =>
    let coded :=
      if lnnHasDiscoveryType info .br then ledger.removeCnnCode info.uuid .br else ledger
    if lnnHasDiscoveryType info .wifi && info.authChannelId ≠ authId then (coded, .none)
    else
      ({ coded with
          udidMap := update ledger.udidMap udid (some { info with status := .offline }) },
        .offline)

def lnnRemoveNode (udid : CString) : DistributedLedger :=
  { ledger with udidMap := update ledger.udidMap udid none }

end DistributedLedger

inductive LedgerEvent where
  | addOnlineNode (info : NodeInfo) (fits : info.uuid.strlen < uuidBufLen)
  | setNodeOffline (udid : CString) (authId : BitVec 32)
  | removeNode (udid : CString)

def ledgerStep (ledger : DistributedLedger) :
    LedgerEvent → Option (DistributedLedger × List ReportCategory)
  | .addOnlineNode info _ =>
    some ((ledger.lnnAddOnlineNode info).1, [(ledger.lnnAddOnlineNode info).2])
  | .setNodeOffline udid authId =>
    some ((ledger.lnnSetNodeOffline udid authId).1, [(ledger.lnnSetNodeOffline udid authId).2])
  | .removeNode udid => some (ledger.lnnRemoveNode udid, [])

def ledgerNode (type : DiscoveryType) (authId : BitVec 32) : NodeInfo where
  deviceUdid := ⟨[68], by decide⟩
  uuid := ⟨[85], by decide⟩
  networkId := ⟨[78], by decide⟩
  masterUdid := ⟨[68], by decide⟩
  masterWeight := 0
  status := .offline
  discoveryType := type.bit
  connectInfo := ⟨emptyString, emptyString, 0, 0, 0⟩
  authSeqNum := authId.setWidth 64
  authChannelId := authId

end DSoftBus.Lnn
