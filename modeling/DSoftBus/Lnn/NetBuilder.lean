import DSoftBus.Lnn.ConnectionFsm

/-!
The net builder of lnn_net_builder.c: the list of connection state machines, its counter,
the generator of their ids, and the messages that create, reach and remove them. Each
message is one step of the looper; in between the machines handle their own.

A machine is told apart by the number of the call of `GetNextConnectionFsmId` that made
it; its id is that number in 16 bits. While a freed machine is linked, a walk over the
list has no result.
-/
namespace DSoftBus.Lnn

structure Linked where
  serial : Nat
  fsm : LnnConnectionFsm
  freed : Bool := false
deriving DecidableEq

structure NetBuilder where
  /-- The head of the list comes first. -/
  fsmList : List Linked
  connCount : Int
  maxConnCount : Nat
  /-- The calls of `GetNextConnectionFsmId` so far. -/
  created : Nat
deriving DecidableEq

def netBuilderInit (maxConnCount : Nat) : NetBuilder := ⟨[], 0, maxConnCount, 0⟩

inductive NetAction where
  | notifyJoinResult (addr : ConnectionAddr)
  | notifyLeaveResult (networkId : CString)
  | newNetworkOnline (serial : Nat)
  | disconnectDeviceAllConn (option : ConnectOption)
  | notifyAllTypeOffline (type : ConnectionAddrType)
  | fsm (serial : Nat) (action : FsmAction)
deriving DecidableEq

structure StartEnv where
  allocated : Bool := true
  initialised : Bool := true
  started : Bool := true
  sent : Bool := true
deriving DecidableEq

namespace Linked

def addr (item : Linked) : ConnectionAddr := item.fsm.connInfo.addr
def networkId (item : Linked) : CString := item.fsm.connInfo.peerNetworkId

/-- Marked by `ProcessLeaveInvalidConn`. -/
def marked (item : Linked) : Bool := item.fsm.connInfo.flag.initiateOnline

/-- Sends a message if the machine is alive and there is memory, and then records it. -/
def send (posted : Bool) (msg : FsmMsg) (mark : LnnConnectionFsm → LnnConnectionFsm)
    (item : Linked) : Linked :=
  match sendToConnFsm posted item.fsm msg with
  | none => item
  | some sent => { item with fsm := mark sent }

end Linked

namespace NetBuilder

variable (nb : NetBuilder)

variable (addr : ConnectionAddr)

def findConnectionFsmByAddr : Option Linked :=
  nb.fsmList.find? fun item => lnnIsSameConnectionAddr addr item.addr

def findConnectionFsmByAuthId (authId : Int) : Option Linked :=
  nb.fsmList.find? fun item => item.fsm.connInfo.authId = authId

variable (networkId : CString)

def findConnectionFsmByNetworkId : Option Linked :=
  nb.fsmList.find? fun item => networkId = item.networkId

/-- `ledger` is the network id that the ledger has for the udid. -/
def findConnectionFsmByUdid (ledger : Option CString) (targetUdid : CString) : Option Linked :=
  match nb.fsmList.find? fun item =>
      item.fsm.connInfo.nodeInfo.any fun info => targetUdid = info.deviceUdid with
  | some item => some item
  | none => ledger.bind nb.findConnectionFsmByNetworkId

def findConnectionFsmByConnFsmId (connFsmId : BitVec 16) : Option Linked :=
  nb.fsmList.find? fun item => connFsmId = item.fsm.id

def update (serial : Nat) (f : Linked → Linked) : NetBuilder :=
  { nb with fsmList := KeyedList.update Linked.serial serial f nb.fsmList }

def nextConnectionFsmId : BitVec 16 := .ofNat 16 (nb.created + 1)

/-- The new machine, when there is one, is the head of the list. -/
def startNewConnectionFsm (env : StartEnv) (make : BitVec 16 → LnnConnectionFsm) :
    NetBuilder × Option Linked :=
  if (nb.maxConnCount : Int) ≤ nb.connCount then (nb, none)
  else if !env.allocated then (nb, none)
  else
    let counted := { nb with created := nb.created + 1 }
    if !env.initialised || !env.started then (counted, none)
    else
      let item : Linked := { serial := nb.created + 1, fsm := make nb.nextConnectionFsmId }
      ({ counted with fsmList := item :: nb.fsmList, connCount := nb.connCount + 1 }, some item)

def failureReport (needReportFailure : Bool) : List NetAction :=
  if needReportFailure then [.notifyJoinResult addr] else []

/-- When the message cannot be sent to a new machine, the machine is destroyed but neither
unlinked nor counted off. -/
def trySendJoinLNNRequest (needReportFailure : Bool)
    (env : StartEnv) : NetBuilder × List NetAction :=
  match (nb.findConnectionFsmByAddr addr).filter fun item => !item.fsm.isDead with
  | some item =>
    if env.sent then
      (nb.update item.serial (Linked.send true .joinLNN (markJoin · needReportFailure)), [])
    else (nb, failureReport addr needReportFailure)
  | none =>
    match nb.startNewConnectionFsm env fun id => lnnCreateConnectionFsm id addr with
    | (next, none) => (next, failureReport addr needReportFailure)
    | (next, some item) =>
      if env.sent then
        (next.update item.serial (Linked.send true .joinLNN (markJoin · needReportFailure)), [])
      else
        (next.update item.serial fun item => { item with freed := true },
          failureReport addr needReportFailure)

def unlink (serial : Nat) : NetBuilder :=
  { nb with
    fsmList := KeyedList.remove Linked.serial serial nb.fsmList, connCount := nb.connCount - 1 }

def setPeerVersion (peerVersion : Int) (item : Linked) : Linked :=
  { item with fsm := { item.fsm with
      connInfo := { item.fsm.connInfo with peerVersion := peerVersion } } }

/-- The version is recorded even when the message cannot be sent. -/
def processAuthKeyGenerated (authId : Int) (addr : ConnectionAddr)
    (peerVersion : Int) (env : StartEnv) : NetBuilder :=
  match (nb.findConnectionFsmByAuthId authId).filter fun item => !item.fsm.isDead with
  | some item =>
    nb.update item.serial fun item =>
      (setPeerVersion peerVersion item).send env.sent .authKeyGenerated id
  | none =>
    match nb.startNewConnectionFsm env fun id => passiveConnectionFsm id addr authId with
    | (next, none) => next
    | (next, some item) =>
      if env.sent then
        next.update item.serial fun item =>
          (setPeerVersion peerVersion item).send true .authKeyGenerated id
      else next.unlink item.serial

/-- The messages that go to one machine that is not dead. -/
def sendTo (found : Option Linked) (posted : Bool) (msg : FsmMsg) : NetBuilder :=
  match found.filter fun item => !item.fsm.isDead with
  | none => nb
  | some item => nb.update item.serial (Linked.send posted msg id)

/-- The messages that go to every machine that is not dead and fits. -/
def sendToAll (fits : Linked → Bool) (posted : Nat → Bool) (msg : FsmMsg)
    (mark : LnnConnectionFsm → LnnConnectionFsm) : NetBuilder :=
  { nb with
    fsmList := nb.fsmList.map fun item =>
      if fits item then item.send (posted item.serial) msg mark else item }

def isFrom (item : Linked) : Bool := networkId = item.networkId

/-- The result is reported when no machine took the message. -/
def processLeaveLNNRequest (posted : Nat → Bool) : NetBuilder × List NetAction :=
  (nb.sendToAll (isFrom networkId) posted .leaveLNN (markLeave · .request),
    if nb.fsmList.any fun item =>
        isFrom networkId item && !item.fsm.isDead && posted item.serial then []
    else [.notifyLeaveResult networkId])

def typeFits (addrType : ConnectionAddrType) (item : Linked) : Bool :=
  addrType = .max || addrType = item.addr.type

def isInvalidConnectionFsm (oldNetworkId : CString) (addrType : ConnectionAddrType)
    (item : Linked) : Bool :=
  isFrom oldNetworkId item && !item.fsm.isDead && typeFits addrType item &&
    item.fsm.connInfo.flag.canBeInvalid

def processLeaveInvalidConn (oldNetworkId : CString)
    (cleanInfo : LnnInvalidCleanInfo) (posted : Nat → Bool) : NetBuilder :=
  nb.sendToAll (isInvalidConnectionFsm oldNetworkId cleanInfo.addrType) posted .leaveLNN
    (markLeave · (.invalidConn cleanInfo))

def processLeaveByAddrType (type : ConnectionAddrType) (posted : Nat → Bool) :
    NetBuilder × List NetAction :=
  (nb.sendToAll (fun item => decide (item.addr.type = type)) posted .leaveLNN
      (markLeave · .addrType),
    if nb.fsmList.any fun item => item.addr.type = type then [] else [.notifyAllTypeOffline type])

/-- The machines of the new network id that a cleaned machine lets go online. -/
def isTarget (cleanInfo : LnnInvalidCleanInfo) (item : Linked) : Bool :=
  isFrom cleanInfo.networkId item && !item.fsm.isDead && typeFits cleanInfo.addrType item

/-- The list no longer has the cleaned machine. The clean information of a marked machine is
read for every machine in the list. -/
def tryInitiateNewNetworkOnline (cleaned : Linked) (posted : Nat → Bool) :
    Option (NetBuilder × List NetAction) :=
  if !cleaned.marked then some (nb, [])
  else if nb.fsmList.any fun item => isFrom cleaned.networkId item && item.marked then some (nb, [])
  else
    match cleaned.fsm.connInfo.cleanInfo with
    | none => if nb.fsmList = [] then some (nb, []) else none
    | some cleanInfo =>
      some (nb.sendToAll (isTarget cleanInfo) posted .initiateOnline id,
        (nb.fsmList.filter (isTarget cleanInfo)).map fun item => .newNetworkOnline item.serial)

/-- For BR and BLE the source compares the remaining machine's address with itself. -/
def keepsConnection (cleaned : ConnectionAddr) (item : Linked) : Bool :=
  cleaned.type = item.addr.type && match cleaned.type with
    | .br | .ble => CString.sameUpTo btMacLen item.addr.text item.addr.text
    | .wlan | .eth => CString.sameUpTo cleaned.text.strlen cleaned.text item.addr.text
    | .mix | .max => false

def tryDisconnectAllConnection (cleaned : Linked) : List NetAction :=
  if nb.fsmList.any (keepsConnection cleaned.addr) then []
  else
    match lnnConvertAddrToOption cleaned.addr with
    | none => []
    | some option => [.disconnectDeviceAllConn option]

def tryNotifyAllTypeOffline (cleaned : Linked) : List NetAction :=
  if nb.fsmList.any fun item => cleaned.addr.type = item.addr.type then []
  else [.notifyAllTypeOffline cleaned.addr.type]

def processCleanConnectionFsm (connFsmId : BitVec 16) (posted : Nat → Bool) :
    Option (NetBuilder × List NetAction) :=
  match nb.findConnectionFsmByConnFsmId connFsmId with
  | none => some (nb, [])
  | some cleaned =>
    let rest := nb.unlink cleaned.serial
    (rest.tryInitiateNewNetworkOnline cleaned posted).map fun result =>
      (result.1, result.2 ++ rest.tryDisconnectAllConnection cleaned ++
        rest.tryNotifyAllTypeOffline cleaned)

def fsmHandle (serial k : Nat) (env : FsmEnv) : Option (NetBuilder × List NetAction) :=
  match KeyedList.lookup Linked.serial serial nb.fsmList with
  | none => some (nb, [])
  | some item =>
    (handleMessage env item.fsm k).map fun handled =>
      (nb.update serial fun item => { item with fsm := handled.1 }, handled.2.map (.fsm serial))

end NetBuilder

inductive NetEvent where
  | joinLNNRequest (addr : ConnectionAddr) (env : StartEnv)
  | devDiscovery (addr : ConnectionAddr) (env : StartEnv)
  | authKeyGenerated (authId : Int) (addr : ConnectionAddr) (peerVersion : Int) (env : StartEnv)
  | authDone (authId : Int) (isSuccess posted : Bool)
  | syncDeviceInfoDone (authId : Int) (parsed : Option NodeInfo) (posted : Bool)
  | deviceNotTrusted (udid : CString) (ledger : Option CString) (posted : Bool)
  | authDisconnect (authId : Int) (posted : Bool)
  | leaveLNNRequest (networkId : CString) (posted : Nat → Bool)
  | syncOfflineFinish (networkId : CString) (posted : Nat → Bool)
  | leaveInvalidConn (oldNetworkId : CString) (cleanInfo : LnnInvalidCleanInfo)
      (posted : Nat → Bool)
  | leaveByAddrType (type : ConnectionAddrType) (posted : Nat → Bool)
  /-- The clean request of the machine with the number; the message holds its id. -/
  | cleanConnFsm (requester : Nat) (posted : Nat → Bool)
  | fsmHandle (serial k : Nat) (env : FsmEnv)

open NetBuilder in
def netBuilderProcess (nb : NetBuilder) : NetEvent → Option (NetBuilder × List NetAction)
  | .joinLNNRequest addr env => some (nb.trySendJoinLNNRequest addr true env)
  | .devDiscovery addr env => some (nb.trySendJoinLNNRequest addr false env)
  | .authKeyGenerated authId addr peerVersion env =>
    some (nb.processAuthKeyGenerated authId addr peerVersion env, [])
  | .authDone authId isSuccess posted =>
    some (nb.sendTo (nb.findConnectionFsmByAuthId authId) posted (.authDone isSuccess), [])
  | .syncDeviceInfoDone authId parsed posted =>
    some (nb.sendTo (nb.findConnectionFsmByAuthId authId) posted (.syncDeviceInfoDone parsed), [])
  | .deviceNotTrusted udid ledger posted =>
    some (nb.sendTo (nb.findConnectionFsmByUdid ledger udid) posted .notTrusted, [])
  | .authDisconnect authId posted =>
    some (nb.sendTo (nb.findConnectionFsmByAuthId authId) posted .disconnect, [])
  | .leaveLNNRequest networkId posted => some (nb.processLeaveLNNRequest networkId posted)
  | .syncOfflineFinish networkId posted =>
    some (nb.sendToAll (isFrom networkId) posted .syncOfflineDone id, [])
  | .leaveInvalidConn oldNetworkId cleanInfo posted =>
    some (nb.processLeaveInvalidConn oldNetworkId cleanInfo posted, [])
  | .leaveByAddrType type posted => some (nb.processLeaveByAddrType type posted)
  | .cleanConnFsm requester posted => nb.processCleanConnectionFsm (.ofNat 16 requester) posted
  | .fsmHandle serial k env => nb.fsmHandle serial k env

def netBuilderStep (nb : NetBuilder) (event : NetEvent) : Option (NetBuilder × List NetAction) :=
  if nb.fsmList.any Linked.freed then none else netBuilderProcess nb event

end DSoftBus.Lnn
