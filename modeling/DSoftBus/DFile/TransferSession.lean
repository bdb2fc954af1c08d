import DSoftBus.DFile.TransIdState
import DSoftBus.DFile.Transfer
import DSoftBus.Lib.Effect
import DSoftBus.Lib.RecordHeap

/-!
The main loop of a DFile session and its transfers (nstackx_dfile_session.c, the
handlers of nstackx_dfile_transfer.c). Frames, ticks and messages of the file manager
are jobs for one thread. A handler is cut into tasks, so that the loops of the state
machines need no bound: a task puts what is left of its handler in front of the jobs.

The transfers are records with handles, in the order of dFileTransChain. A handler that
goes on with a destroyed transfer has no result.
-/
namespace DSoftBus.DFile
open Effect

inductive FileManagerMsgType where
  | transInProgress
  | sendFail
  | receiveSuccess
  | receiveFail
deriving DecidableEq

/-- The frames of a transfer. A TRANSFER DONE frame names the files that were received. -/
inductive TransFrame where
  | fileHeader
  | fileHeaderConfirm
  | fileData
  | fileTransferDone (fileIds : List Nat)
  | fileTransferDoneAck
deriving DecidableEq

inductive SessionFrame where
  | setting (mtu : Nat)
  | rstWithoutSetting
  | trans (transId : BitVec 16) (frame : TransFrame)

structure Peer where
  addr : Nat
  mtuInuse : Nat
  settingTimeoutCnt : Nat

inductive Task where
  | tick
  | handleFrame (addr : Nat) (frame : SessionFrame)
  | fileManagerMsg (transId : BitVec 16) (fileId : Nat) (type : FileManagerMsgType)
  | startTrans (fileNum : Nat)
  | sweep (exceptTransId : BitVec 16) (position : Option Nat)
  | process (h : Nat)
  | fsm (h : Nat)
  | notifyAck (h : Nat)
  | clearAck (h : Nat)
  | notifyEnd (h : Nat)

structure Session where
  isClient : Bool
  capsTcp : Bool
  config : DFileTransConfig
  trans : RecordHeap DFileTrans
  lastDFileTransId : BitVec 16
  tranIdStateList : TransStateList
  peers : List Peer
  todo : List Task

def maxTranStateListSize : Nat := 100

/-- DFileSessionCreate. A client knows its peer from the start. -/
def Session.create (isClient capsTcp : Bool) (config : DFileTransConfig) (peers : List Peer) :
    Session where
  isClient := isClient
  capsTcp := capsTcp
  config := config
  trans := .empty
  lastDFileTransId := 0
  tranIdStateList := .init maxTranStateListSize
  peers := peers
  todo := []

/-- `transDestroyed` also tells whether SetTransIdState has succeeded. -/
inductive SessionEvent where
  | trans (h : Nat) (out : TransOut)
  | transCreated (transId : BitVec 16)
  | transDestroyed (transId : BitVec 16) (recorded : Bool)
  | rstHandled (addr : Nat)
  | settingHandled (addr : Nat)
deriving DecidableEq

abbrev Working := Act Session SessionEvent

variable (h : Nat)

def getTrans : Working DFileTrans := do
  let s ← get
  match s.trans.get? h with
  | none => fault
  | some t => pure t

variable (s : Session)

variable (t : DFileTrans)

def Session.putTrans : Session :=
  { s with trans := s.trans.modify h fun _ => t }

def putTrans : Working PUnit := modify fun s => s.putTrans h t

def emitTrans (out : List TransOut) : Working PUnit := each (fun o => emit (.trans h o)) out

def push (tasks : List Task) : Working PUnit := modify fun s => { s with todo := tasks ++ s.todo }

/-- CheckTransDone. Which pending file lists are started then is up to later jobs. -/
def Session.destroyTrans : Session :=
  { s with
    trans := s.trans.free h
    tranIdStateList := (s.tranIdStateList.setTransIdState s.isClient t.transId .done).1 }

/-- NotifyTransMsg with ReviewSuccessMsg for a sender, and DTransMsgReceiver. A sender
without a file that was sent reports a failure. -/
def notifyTransMsg (type : DFileTransMsgType) : Working PUnit := do
  let t ← getTrans h
  let type := if type = .fileSent ∧ t.sentFiles = [] then .fileSendFail else type
  emit (.trans h (.msg type))
  when type.ends do
    let s ← get
    modify fun s => s.destroyTrans h t
    emit (.transDestroyed t.transId
      (s.tranIdStateList.setTransIdState s.isClient t.transId .done).2)

def notifyEndMsg : Working PUnit := do
  let t ← getTrans h
  if t.isSender then
    when (t.sendState = .sendFileFail) (notifyTransMsg h .fileSendFail)
    when (t.sendState = .sendFileDone) (notifyTransMsg h .fileSent)
  else
    when (t.recvState = .receiveFileFail) (notifyTransMsg h .fileReceiveFail)
    when (t.recvState = .receiveFileDone) (notifyTransMsg h .end)

variable (env : Env) (h : Nat)

def transferFsm : Working PUnit := do
  let t ← getTrans h
  emit (.trans h .fsm)
  let (t, out, again) := t.transferFsm env
  putTrans h t
  emitTrans h out
  when again (push [.fsm h])

/-- After the failure has been reported the source goes on with the transfer. -/
def handleFileNameTableFrame : Working PUnit := do
  let t ← getTrans h
  when (t.isSender = false ∧ (t.recvState = .receiveFileInit ∨
      t.recvState = .receiveFileHeaderOngoing ∨ t.recvState = .sendFileHeaderConfirm ∨
      t.recvState = .receiveFileDataOngoing)) do
    if t.allFileNameReceived then putTrans h { t with dupFileName := true }
    else
      putTrans h { t with allFileNameReceived := env.allFileNameReceived }
      when env.allFileNameReceived do
        when (env.renamed = false) do
          notifyTransMsg h .fileReceiveFail
          let t ← getTrans h
          putTrans h { t with allFileNameReceived := false }
        notifyTransMsg h .fileListReceived

def handleFileTableAckFrame : Working PUnit := do
  let t ← getTrans h
  when t.isSender (putTrans h { t with lostAckCnt := 0 })

def handleFileDataFrame : Working PUnit := do
  let t ← getTrans h
  when (env.dataFrameValid ∧ t.isSender = false ∧ (t.recvState = .receiveFileDataOngoing ∨
      t.recvState = .sendFileDataAck) ∧ env.recvBlockWritable) do
    if env.fileWritten then
      when env.lastFrameOfLastFile (emitTrans h (DFileTrans.backPressureFrame env))
      when env.progressNoticed (emit (.trans h (.msg .inProgress)))
      putTrans h { t with
        allFileDataReceived := t.allFileDataReceived || env.allBlocksReceived }
    else putTrans h (t.setReceiveState .receiveFileFail)

/-- DecodeFileTransferDoneFrame skips the numbers that no file has. -/
def DFileTrans.transferDone (fileIds : List Nat) : DFileTrans :=
  { t with
    fileTransferDoneReceived := true
    sentFiles := fileIds.filter fun id => id ≠ 0 && id ≤ t.fileNum }

def handleTransferDoneFrame (fileIds : List Nat) : Working PUnit := do
  let t ← getTrans h
  when (t.isSender ∧ (t.sendState = .waitForFileTransferDoneFrame ∨
      t.sendState = .sendFileTransferDoneAck ∨ t.sendState = .sendFileDataOngoing) ∧
      t.fileTransferDoneReceived = false) (putTrans h (t.transferDone fileIds))

def handleTransferDoneAckFrame : Working PUnit := do
  let t ← getTrans h
  when (t.isSender = false) (putTrans h { t with fileTransferDoneAcked := true })

def handleTransFrame : TransFrame → Working PUnit
  | .fileHeader => handleFileNameTableFrame env h
  | .fileHeaderConfirm => handleFileTableAckFrame h
  | .fileData => handleFileDataFrame env h
  | .fileTransferDone fileIds => handleTransferDoneFrame h fileIds
  | .fileTransferDoneAck => handleTransferDoneAckFrame h

def handleDFileFrame (frame : TransFrame) : Working PUnit := do
  let t ← getTrans h
  when (t.mtu ≠ 0 ∧ t.stateFinished = false) do
    handleTransFrame env h frame
    push [.fsm h, .notifyAck h, .notifyEnd h]

def Session.nextTrans (after : Option Nat) : Option Nat :=
  s.trans.oldest? fun h _ => after.all (· < h)

def Session.findTrans (transId : BitVec 16) : Option Nat :=
  s.trans.oldest? fun _ t => t.transId = transId

/-- ProcessSessionTrans is called before the flag is cleared. -/
def notifyAck : Working PUnit := do
  let t ← getTrans h
  when t.isAckSend do
    notifyTransMsg h .fileSendAck
    let s ← get
    push [.sweep t.transId (s.nextTrans none), .clearAck h]

def clearAck : Working PUnit := do
  let t ← getTrans h
  putTrans h { t with isAckSend := false }

def dFileTransProcess : Working PUnit := do
  let t ← getTrans h
  when (t.mtu ≠ 0 ∧ t.stateFinished = false) (push [.fsm h, .clearAck h, .notifyEnd h])

/-- The loop of ProcessSessionTrans fetches the next transfer before it handles one. -/
def processSessionTrans (exceptTransId : BitVec 16) : Option Nat → Working PUnit
  | none => pure ⟨⟩
  | some h => do
      let t ← getTrans h
      let s ← get
      push ((if t.transId = exceptTransId then [] else [.process h]) ++
        [.sweep exceptTransId (s.nextTrans (some h))])

def fileManagerSenderMsgHandler (type : FileManagerMsgType) : Working PUnit := do
  let t ← getTrans h
  when (type = .transInProgress) (emit (.trans h (.msg .inProgress)))
  when (type = .sendFail) do
    let (t, out) := t.setSendState .sendFileFail
    putTrans h t
    emitTrans h out
    notifyTransMsg h .fileSendFail

def fileManagerReceiverMsgHandler (fileId : Nat) (type : FileManagerMsgType) : Working PUnit := do
  let t ← getTrans h
  if type = .receiveFail then
    putTrans h (t.setReceiveState .receiveFileFail)
    notifyTransMsg h .fileReceiveFail
  else
    when (fileId ≠ 0 ∧ env.allFileReceived) do
      let t := { t with allFileDataReceived := true, ioWriteFinishFlag := true }
      let (t, out) := t.notifyRecvSucMsg env
      putTrans h t
      emitTrans h out
      push [.fsm h, .clearAck h]

def fileManagerTransMsgHandler (env : Env) (transId : BitVec 16) (fileId : Nat)
    (type : FileManagerMsgType) : Working PUnit := do
  let s ← get
  match s.findTrans transId with
  | none => pure ⟨⟩
  | some h =>
    let t ← getTrans h
    if t.isSender then fileManagerSenderMsgHandler h type
    else fileManagerReceiverMsgHandler env h fileId type

def Session.addTrans : Session :=
  { s with trans := s.trans.alloc t }

def startTrans (fileNum : Nat) : Working PUnit := do
  let s ← get
  match s.peers.head? with
  | none => pure ⟨⟩
  | some peer =>
    let next := s.lastDFileTransId + 1
    let transId := if next = 0 then 1 else next
    let t := (DFileTrans.create transId true s.capsTcp s.config fileNum).setMtu peer.mtuInuse
    modify fun s => { s.addTrans t with lastDFileTransId := transId }

/-- DFileSessionHandleFrame. Only a header frame starts a transfer. -/
def handleSessionTransFrame (env : Env) (peer : Peer) (transId : BitVec 16) (frame : TransFrame) :
    Working PUnit := do
  let s ← get
  when (transId ≠ 0) do
    match s.findTrans transId with
    | some h => handleDFileFrame env h frame
    | none =>
      when (frame = .fileHeader ∧ s.tranIdStateList.isTransIdDone s.isClient transId = false) do
        let t := (DFileTrans.create transId false s.capsTcp s.config 0).setMtu peer.mtuInuse
        modify fun s => s.addTrans t
        emit (.transCreated transId)
        handleDFileFrame env s.trans.next frame

def Session.findPeer (addr : Nat) : Option Peer := s.peers.find? fun peer => peer.addr = addr

def localMtu : Nat := 1472

def maxNegotiateTimeoutCount : Nat := 3
def maxPeerInfoSize : Nat := 10

def Session.setPeer (peer : Peer) : Session :=
  { s with peers := s.peers.map fun old => if old.addr = peer.addr then peer else old }

def Session.setMtu (mtu : Nat) : Session :=
  { s with trans := s.trans.map (·.setMtu mtu) }

def handleClientSetting (peer : Peer) (mtu : Nat) : Working PUnit := do
  let mtuInuse := min localMtu mtu
  modify fun s => s.setPeer { peer with mtuInuse := mtuInuse }
  modify fun s => s.setMtu mtuInuse
  emit (.settingHandled peer.addr)

/-- The transfers of a server keep the mtu they were created with. -/
def handleServerSetting (addr : Nat) (mtu : Nat) : Working PUnit := do
  let s ← get
  match s.findPeer addr with
  | some peer =>
    when (peer.settingTimeoutCnt < maxNegotiateTimeoutCount) do
      modify fun s => s.setPeer ⟨addr, min localMtu mtu, peer.settingTimeoutCnt + 1⟩
      emit (.settingHandled addr)
  | none =>
    when (s.peers.length < maxPeerInfoSize) do
      modify fun s => { s with peers := s.peers ++ [⟨addr, min localMtu mtu, 1⟩] }
      emit (.settingHandled addr)

/-- HandleWithoutSettingError. The setting frame that is sent again is not a frame of a
transfer. -/
def handleWithoutSettingError (peer : Peer) : Working PUnit := do
  modify fun s => s.setMtu 0
  emit (.rstHandled peer.addr)

/-- DFileSessionHandleSetting. A setting frame with mtu 0 is not accepted. -/
def handleSetting (addr : Nat) (mtu : Nat) : Working PUnit := do
  let s ← get
  when (mtu ≠ 0) do
    if s.isClient then
      match s.findPeer addr with
      | none => pure ⟨⟩
      | some peer => handleClientSetting peer mtu
    else handleServerSetting addr mtu

def handleFrame (env : Env) (addr : Nat) : SessionFrame → Working PUnit
  | .setting mtu => handleSetting addr mtu
  | .rstWithoutSetting => do
      let s ← get
      match s.findPeer addr with
      | none => pure ⟨⟩
      | some peer => handleWithoutSettingError peer
  | .trans transId frame => do
      let s ← get
      match s.findPeer addr with
      | none => pure ⟨⟩
      | some peer => handleSessionTransFrame env peer transId frame

def perform (env : Env) : Task → Working PUnit
  | .tick => do
      let s ← get
      push [.sweep 0 (s.nextTrans none)]
  | .handleFrame addr frame => handleFrame env addr frame
  | .fileManagerMsg transId fileId type => fileManagerTransMsgHandler env transId fileId type
  | .startTrans fileNum => startTrans fileNum
  | .sweep exceptTransId position => processSessionTrans exceptTransId position
  | .process h => dFileTransProcess h
  | .fsm h => transferFsm env h
  | .notifyAck h => notifyAck h
  | .clearAck h => clearAck h
  | .notifyEnd h => notifyEndMsg h

inductive Job where
  | tick
  | frame (addr : Nat) (frame : SessionFrame)
  | fileManagerMsg (transId : BitVec 16) (fileId : Nat) (type : FileManagerMsgType)
  | startTrans (fileNum : Nat)

def Job.task : Job → Task
  | .tick => .tick
  | .frame addr received => .handleFrame addr received
  | .fileManagerMsg transId fileId type => .fileManagerMsg transId fileId type
  | .startTrans fileNum => .startTrans fileNum

/-- The file manager of a client only sends, that of a server only receives. -/
def FileManagerMsgType.ofSender : FileManagerMsgType → Bool
  | .transInProgress | .sendFail => true
  | .receiveSuccess | .receiveFail => false

/-- Files are sent by client sessions (nstackx_dfile.h). -/
def Session.canPost : Job → Bool
  | .fileManagerMsg _ _ type => type.ofSender = s.isClient
  | .startTrans _ => s.isClient
  | .tick | .frame .. => true

inductive SessionInput where
  | post (job : Job)
  | work (env : Env)

def sessionStep : SessionInput → Option (Session × List SessionEvent)
  | .post job => some (if s.canPost job then { s with todo := s.todo ++ [job.task] } else s, [])
  | .work env =>
    match s.todo with
    | [] => some (s, [])
    | task :: rest => (perform env task).step { s with todo := rest }

/-- Everything outside goes well, and no timer has run out. -/
def Env.good : Env where
  timeout := false
  heartBeat := false
  writes := []
  moreHeaderFrames := 0
  allFileNameAcked := true
  taskStarted := true
  lastBlockRead := true
  ackNodeCreated := true
  allFileNameReceived := true
  renamed := true
  refreshed := true
  allFileReceived := true
  allDataReceivedSet := true
  receivedFileNum := 1
  recvFileNum := 1
  recvFeedback := false
  dataFrameValid := true
  recvBlockWritable := true
  fileWritten := true
  lastFrameOfLastFile := false
  progressNoticed := false
  allBlocksReceived := true

def defaultConfig : DFileTransConfig := ⟨3, 3, 3⟩

end DSoftBus.DFile
