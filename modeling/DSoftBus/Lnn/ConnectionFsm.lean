import DSoftBus.Lnn.NodeInfo

/-!
The connection state machine of lnn_connection_fsm.c, run by lnn_state_machine.c. The
record also keeps the data messages for this machine that wait in the looper, which may
handle any of them next. The start message is handled first, so a machine is created in
its first state.

What other modules and the memory answer is given with the step. A step without a result
uses the peer's node information although it is `NULL`.
-/
namespace DSoftBus.Lnn

/-- The bits `LNN_CONN_INFO_FLAG_...`. -/
structure ConnFlag where
  joinRequest : Bool := false
  joinAuto : Bool := false
  joinPassive : Bool := false
  leaveRequest : Bool := false
  leaveAuto : Bool := false
  leavePassive : Bool := false
  initiateOnline : Bool := false
  online : Bool := false
deriving DecidableEq

variable (flag : ConnFlag)

def ConnFlag.joinActive : Bool := flag.joinRequest || flag.joinAuto

def ConnFlag.clearJoinActive : ConnFlag :=
  { flag with joinRequest := false, joinAuto := false }

def ConnFlag.clearLeaveActive : ConnFlag :=
  { flag with leaveRequest := false, leaveAuto := false }

structure LnnInvalidCleanInfo where
  addrType : ConnectionAddrType
  networkId : CString
deriving DecidableEq

structure LnnConnInfo where
  addr : ConnectionAddr
  nodeInfo : Option NodeInfo := none
  peerNetworkId : CString := emptyString
  cleanInfo : Option LnnInvalidCleanInfo := none
  authId : Int := 0
  peerVersion : Int := 0
  flag : ConnFlag := {}
deriving DecidableEq

inductive FsmState where
  | auth
  | syncDeviceInfo
  | cleanInvalidConn
  | online
  | leaving
deriving DecidableEq

inductive FsmMsg where
  | joinLNN
  | authKeyGenerated
  | authDone (isSuccess : Bool)
  | syncDeviceInfo
  /-- With what `ParsePeerNodeInfo` makes of the received data. -/
  | syncDeviceInfoDone (parsed : Option NodeInfo)
  | leaveInvalidConn
  | leaveLNN
  | notTrusted
  | disconnect
  | joinLNNTimeout
  | syncOfflineDone
  | leaveLNNTimeout
  | initiateOnline
deriving DecidableEq

structure LnnConnectionFsm where
  id : BitVec 16
  /-- `curState`, absent once the machine is stopped. -/
  curState : Option FsmState := some .auth
  connInfo : LnnConnInfo
  isDead : Bool := false
  queue : List FsmMsg := []
deriving DecidableEq

inductive FsmAction where
  | authVerifyDevice
  | authPostData
  | addOnlineNode (info : NodeInfo)
  | setNodeOffline (udid : CString) (authId : BitVec 32)
  | removeNode (udid : CString)
  | notifyJoinResult (networkId : Option CString) (retCode : SoftBusErrNo)
  | notifyLeaveResult (networkId : CString) (retCode : SoftBusErrNo)
  | notifyBasicInfoChanged
  | notifyOnlineState (isOnline : Bool)
  | authHandleLeaveLNN (authId : Int)
  | requestCleanConnFsm (id : BitVec 16)
  | requestLeaveInvalidConn (oldNetworkId : CString) (addrType : ConnectionAddrType)
      (newNetworkId : CString)
  | syncLedgerItemInfo (networkId : CString)
deriving DecidableEq

structure FsmEnv where
  /-- The result of `AuthVerifyDevice`. -/
  verifiedAuthId : Int := 0
  /-- There is memory for the message that is posted at once, and for the delayed one. -/
  posted : Bool := true
  postedDelay : Bool := true
  /-- `LnnGetExchangeNodeInfo` returns a buffer, and `AuthPostData` sends it. -/
  packed : Bool := true
  sent : Bool := true
  /-- The ledger's node with the peer's udid. -/
  oldNodeInfo : Option NodeInfo := none
  /-- The result of `LnnAddOnlineNode`. -/
  addReport : ReportCategory := .none
  /-- The udid the ledger has for the network id, and the result of `LnnSetNodeOffline`. -/
  leavingUdid : Option CString := none
  offlineReport : ReportCategory := .none
  /-- `LnnGetBasicInfoByUdid` succeeds. -/
  basicInfo : Bool := true
  /-- `LnnSyncLedgerItemInfo` succeeds. -/
  synced : Bool := true

namespace LnnConnectionFsm

variable (fsm : LnnConnectionFsm)

def withFlag (flag : ConnFlag) : LnnConnectionFsm :=
  { fsm with connInfo := { fsm.connInfo with flag := flag } }

/-- `LnnFsmPostMessage`, given whether there is memory for the message. -/
def post (posted : Bool) (msg : FsmMsg) : LnnConnectionFsm :=
  if posted then { fsm with queue := fsm.queue ++ [msg] } else fsm

/-- `LnnFsmRemoveMessage` for a type without data. -/
def removeMessage (msg : FsmMsg) : LnnConnectionFsm :=
  { fsm with queue := fsm.queue.filter (· ≠ msg) }

end LnnConnectionFsm

open LnnConnectionFsm

abbrev Handled := LnnConnectionFsm × List FsmAction

variable (env : FsmEnv) (fsm : LnnConnectionFsm)

def notifyJoinResult (networkId : Option CString) (retCode : SoftBusErrNo) : Handled :=
  (fsm.withFlag fsm.connInfo.flag.clearJoinActive,
    if fsm.connInfo.flag.joinRequest then [.notifyJoinResult networkId retCode] else [])

def notifyLeaveResult (networkId : CString) (retCode : SoftBusErrNo) : Handled :=
  (fsm.withFlag fsm.connInfo.flag.clearLeaveActive,
    if fsm.connInfo.flag.leaveRequest then [.notifyLeaveResult networkId retCode] else [])

def reportResult (env : FsmEnv) (report : ReportCategory) : List FsmAction :=
  if env.basicInfo then
    match report with
    | .change => [.notifyBasicInfoChanged]
    | .online => [.notifyOnlineState true]
    | .none | .offline => []
  else []

def completeJoinFailed : Handled :=
  let (answered, notified) := notifyJoinResult (fsm.removeMessage .joinLNNTimeout) none .err
  ({ answered with
      connInfo := { answered.connInfo with
        nodeInfo := none, flag := { answered.connInfo.flag with joinPassive := false } }
      isDead := true },
    notified ++ [.authHandleLeaveLNN fsm.connInfo.authId, .requestCleanConnFsm fsm.id])

/-- `CompleteJoinLNN` with `SOFTBUS_OK`, which reads the node information. -/
def completeJoinOk : Option Handled :=
  match fsm.connInfo.nodeInfo with
  | none => none
  | some info =>
    let (answered, notified) :=
      notifyJoinResult (fsm.removeMessage .joinLNNTimeout) (some fsm.connInfo.peerNetworkId) .ok
    some
      ({ answered with
          connInfo := { answered.connInfo with
            nodeInfo := none
            flag := { answered.connInfo.flag with online := true, joinPassive := false } } },
        .addOnlineNode info :: (notified ++ reportResult env env.addReport))

/-- The second component says whether the offline state is reported. -/
def updateLeaveToLedger : List FsmAction × Bool :=
  match env.leavingUdid with
  | none => ([], false)
  | some udid =>
    if env.offlineReport = .offline then
      (.setNodeOffline udid (.ofInt 32 fsm.connInfo.authId) ::
        (if fsm.connInfo.flag.leavePassive then [.removeNode udid] else []), env.basicInfo)
    else ([.setNodeOffline udid (.ofInt 32 fsm.connInfo.authId)], false)

/-- `CompleteLeaveLNN` is only called with `SOFTBUS_OK`. -/
def completeLeaveLNN : Handled :=
  if fsm.isDead then (fsm, [])
  else
    let (updates, needReportOffline) := updateLeaveToLedger env fsm
    let (answered, notified) :=
      notifyLeaveResult (fsm.removeMessage .leaveLNNTimeout) fsm.connInfo.peerNetworkId .ok
    (({ answered with isDead := true }).withFlag
        { answered.connInfo.flag with leavePassive := false, online := false },
      updates ++ notified ++ (if needReportOffline then [.notifyOnlineState false] else []) ++
        [.authHandleLeaveLNN fsm.connInfo.authId, .requestCleanConnFsm fsm.id])

def onJoinFail : Handled :=
  if fsm.isDead then (fsm, []) else completeJoinFailed fsm

def tryCancelJoinProcedure : Handled :=
  if fsm.connInfo.flag.leaveAuto then completeJoinFailed fsm
  else notifyJoinResult fsm (some fsm.connInfo.peerNetworkId) .err

def onJoinLNNInAuth : Handled :=
  if fsm.isDead then notifyJoinResult fsm none .err
  else if 0 < fsm.connInfo.authId then (fsm, [])
  else
    let verified :=
      { fsm with connInfo := { fsm.connInfo with authId := env.verifiedAuthId } }
    if env.verifiedAuthId ≤ 0 then
      let (done, actions) := completeJoinFailed verified
      (done, .authVerifyDevice :: actions)
    else (verified.post env.postedDelay .joinLNNTimeout, [.authVerifyDevice])

def onAuthKeyGeneratedInAuth : Handled :=
  if fsm.isDead then (fsm, [])
  else
    let moved := ({ fsm with curState := some .syncDeviceInfo }).post env.posted .syncDeviceInfo
    if fsm.connInfo.flag.joinActive then (moved, [])
    else (moved.post env.postedDelay .joinLNNTimeout, [])

def onAuthDoneInAuth (isSuccess : Bool) : Handled :=
  if fsm.isDead || isSuccess then (fsm, []) else completeJoinFailed fsm

def authStateProcess : FsmMsg → Handled
  | .joinLNN => onJoinLNNInAuth env fsm
  | .authKeyGenerated => onAuthKeyGeneratedInAuth env fsm
  | .authDone isSuccess => onAuthDoneInAuth fsm isSuccess
  | .disconnect | .joinLNNTimeout => onJoinFail fsm
  | .leaveLNN => tryCancelJoinProcedure fsm
  | _ => (fsm, [])

def onSyncDeviceInfo : Handled :=
  if fsm.isDead then (fsm, [])
  else if lnnConvertAddrToOption fsm.connInfo.addr = none then (fsm, [])
  else if !env.packed then completeJoinFailed fsm
  else if env.sent then (fsm, [.authPostData])
  else
    let (done, actions) := completeJoinFailed fsm
    (done, .authPostData :: actions)

/-- The node information is freed when the data cannot be parsed. -/
def onSyncDeviceInfoDone (parsed : Option NodeInfo) : Handled :=
  if fsm.isDead then (fsm, [])
  else
    match parsed with
    | none => completeJoinFailed { fsm with connInfo := { fsm.connInfo with nodeInfo := none } }
    | some info =>
      ({ fsm with
          connInfo := { fsm.connInfo with
            nodeInfo := some info, peerNetworkId := info.networkId } }, [])

def onAuthDoneInSyncInfo (isSuccess : Bool) : Handled :=
  if fsm.isDead then (fsm, [])
  else if isSuccess then
    (({ fsm with curState := some .cleanInvalidConn }).post env.posted .leaveInvalidConn, [])
  else completeJoinFailed fsm

def syncDeviceInfoStateProcess : FsmMsg → Handled
  | .syncDeviceInfo => onSyncDeviceInfo env fsm
  | .syncDeviceInfoDone parsed => onSyncDeviceInfoDone fsm parsed
  | .authDone isSuccess => onAuthDoneInSyncInfo env fsm isSuccess
  | .leaveLNN => tryCancelJoinProcedure fsm
  | .notTrusted | .disconnect | .joinLNNTimeout => onJoinFail fsm
  | _ => (fsm, [])

/-- The address type whose connections are no longer valid, when the information changed. -/
def isNodeInfoChanged (oldNodeInfo newNodeInfo : NodeInfo) : Option ConnectionAddrType :=
  if newNodeInfo.networkId ≠ oldNodeInfo.networkId then some .max
  else if newNodeInfo.connectInfo.deviceIp ≠ oldNodeInfo.connectInfo.deviceIp then
    some fsm.connInfo.addr.type
  else if newNodeInfo.connectInfo.authPort ≠ oldNodeInfo.connectInfo.authPort then
    some fsm.connInfo.addr.type
  else if newNodeInfo.connectInfo.proxyPort ≠ oldNodeInfo.connectInfo.proxyPort then
    some fsm.connInfo.addr.type
  else if newNodeInfo.connectInfo.sessionPort ≠ oldNodeInfo.connectInfo.sessionPort then
    some fsm.connInfo.addr.type
  else none

/-- `LnnFsmTransactState` to the online state, with the entry action of that state. -/
def transactToOnline : Option Handled :=
  let entered := { fsm with curState := some .online }
  if fsm.isDead then some (entered, []) else completeJoinOk env entered

/-- The node information is read before the dead flag is checked. -/
def onLeaveInvalidConn : Option Handled :=
  match fsm.connInfo.nodeInfo with
  | none => none
  | some newNodeInfo =>
    if fsm.isDead then some (fsm, [])
    else
      match env.oldNodeInfo with
      | none => transactToOnline env fsm
      | some oldNodeInfo =>
        if lnnIsNodeOnline oldNodeInfo then
          match isNodeInfoChanged fsm oldNodeInfo newNodeInfo with
          | some addrType =>
            some (fsm, [.requestLeaveInvalidConn oldNodeInfo.networkId addrType
              newNodeInfo.networkId])
          | none => transactToOnline env fsm
        else transactToOnline env fsm

def cleanInvalidConnStateProcess : FsmMsg → Option Handled
  | .leaveLNN => some (tryCancelJoinProcedure fsm)
  | .notTrusted | .disconnect => some (onJoinFail fsm)
  | .leaveInvalidConn => onLeaveInvalidConn env fsm
  | .initiateOnline => transactToOnline env fsm
  | _ => some (fsm, [])

/-- `LnnFsmTransactState` to the leaving state, with the entry action of that state. -/
def transactToLeaving : Handled :=
  let entered := { fsm with curState := some .leaving }
  if fsm.isDead then (entered, [])
  else if env.synced then
    (entered.post env.postedDelay .leaveLNNTimeout,
      [.syncLedgerItemInfo fsm.connInfo.peerNetworkId])
  else
    let (done, actions) := completeLeaveLNN env entered
    (done, .syncLedgerItemInfo fsm.connInfo.peerNetworkId :: actions)

def leaveLNNInOnline : Handled :=
  if fsm.isDead then (fsm, []) else transactToLeaving env fsm

def onlineStateProcess : FsmMsg → Handled
  | .joinLNN => notifyJoinResult fsm (some fsm.connInfo.peerNetworkId) .ok
  | .leaveLNN | .notTrusted | .disconnect => leaveLNNInOnline env fsm
  | _ => (fsm, [])

def leavingStateProcess : FsmMsg → Handled
  | .joinLNN => notifyJoinResult fsm none .err
  | .syncOfflineDone | .leaveLNNTimeout => completeLeaveLNN env fsm
  | _ => (fsm, [])

/-- `ProcessDataMessage`: a machine that is not running drops the message. -/
def processDataMessage (msg : FsmMsg) : Option Handled :=
  match fsm.curState with
  | none => some (fsm, [])
  | some .auth => some (authStateProcess env fsm msg)
  | some .syncDeviceInfo => some (syncDeviceInfoStateProcess env fsm msg)
  | some .cleanInvalidConn => cleanInvalidConnStateProcess env fsm msg
  | some .online => some (onlineStateProcess env fsm msg)
  | some .leaving => some (leavingStateProcess env fsm msg)

/-- The looper handles the message at the given place of the queue. -/
def handleMessage (k : Nat) : Option Handled :=
  match fsm.queue[k]? with
  | none => some (fsm, [])
  | some msg => processDataMessage env { fsm with queue := fsm.queue.eraseIdx k } msg

/-- The functions `LnnSend...ToConnFsm`: a dead machine takes no message, and there must be
memory for it. -/
def sendToConnFsm (posted : Bool) (fsm : LnnConnectionFsm) (msg : FsmMsg) :
    Option LnnConnectionFsm :=
  if fsm.isDead || !posted then none else some (fsm.post true msg)

/-- `IsInvalidConnectionFsm` once the network id and the address type fit. -/
def ConnFlag.canBeInvalid : Bool := flag.online && !flag.initiateOnline

inductive LeaveReason where
  | request
  | addrType
  | invalidConn (cleanInfo : LnnInvalidCleanInfo)

def markLeave : LeaveReason → LnnConnectionFsm
  | .request => fsm.withFlag { fsm.connInfo.flag with leaveRequest := true }
  | .addrType => fsm.withFlag { fsm.connInfo.flag with leaveAuto := true }
  | .invalidConn cleanInfo =>
    { fsm with
      connInfo := { fsm.connInfo with
        cleanInfo := some cleanInfo
        flag := { fsm.connInfo.flag with initiateOnline := true, leaveAuto := true } } }

def markJoin (needReportFailure : Bool) : LnnConnectionFsm :=
  if needReportFailure then fsm.withFlag { fsm.connInfo.flag with joinRequest := true }
  else fsm.withFlag { fsm.connInfo.flag with joinAuto := true }

def lnnCreateConnectionFsm (id : BitVec 16) (target : ConnectionAddr) : LnnConnectionFsm where
  id := id
  connInfo := { addr := target }

/-- The machine that `ProcessAuthKeyGenerated` creates for a peer that started. -/
def passiveConnectionFsm (id : BitVec 16) (target : ConnectionAddr) (authId : Int) :
    LnnConnectionFsm where
  id := id
  connInfo := { addr := target, authId := authId, flag := { joinPassive := true } }

/-- What one machine sees: the net builder's functions that reach it, the messages the
looper lets it handle, and its end. -/
inductive FsmEvent where
  | join (needReportFailure : Bool)
  | authKeyGenerated (peerVersion : Int)
  | authDone (isSuccess : Bool)
  | peerDevInfo (parsed : Option NodeInfo)
  | notTrusted
  | disconnect
  | leave (reason : LeaveReason)
  | syncOfflineFinish
  | newNetworkOnline
  | handle (k : Nat) (env : FsmEnv)
  | stop

def LnnConnectionFsm.receive (msg : FsmMsg) : LnnConnectionFsm :=
  (sendToConnFsm true fsm msg).getD fsm

/-- `ProcessLeaveInvalidConn` only marks machines that are online and not marked yet. -/
def LeaveReason.reaches : LeaveReason → Bool
  | .request | .addrType => true
  | .invalidConn _ => fsm.connInfo.flag.canBeInvalid

def fsmStep : FsmEvent → Option Handled
  | .join needReportFailure =>
    match sendToConnFsm true fsm .joinLNN with
    | none => some (fsm, [])
    | some sent => some (markJoin sent needReportFailure, [])
  | .authKeyGenerated peerVersion =>
    if fsm.isDead then some (fsm, [])
    else
      some (({ fsm with connInfo := { fsm.connInfo with peerVersion := peerVersion } }).receive
        .authKeyGenerated, [])
  | .authDone isSuccess => some (fsm.receive (.authDone isSuccess), [])
  | .peerDevInfo parsed => some (fsm.receive (.syncDeviceInfoDone parsed), [])
  | .notTrusted => some (fsm.receive .notTrusted, [])
  | .disconnect => some (fsm.receive .disconnect, [])
  | .leave reason =>
    if reason.reaches fsm then
      match sendToConnFsm true fsm .leaveLNN with
      | none => some (fsm, [])
      | some sent => some (markLeave sent reason, [])
    else some (fsm, [])
  | .syncOfflineFinish => some (fsm.receive .syncOfflineDone, [])
  | .newNetworkOnline => some (fsm.receive .initiateOnline, [])
  | .handle k env => handleMessage env fsm k
  | .stop => some ({ fsm with curState := none }, [])

end DSoftBus.Lnn
