import Mathlib.Data.BitVec

/-!
One transfer of a DFile session (nstackx_dfile_transfer.c): the state machines of the
sender and of the receiver. Both are loops, of which one pass is modelled here; the
session runs pass after pass.

What a pass finds outside is its `Env`: the comparisons of the clock with the time stamps,
the results of writing frames, and the answers of the file list and the file manager. A
frame counts as an output once it has been queued.
-/
namespace DSoftBus.DFile
open List

inductive DFileSendState where
  | sendFileInit
  | sendFileHeaderOngoing
  | waitForFileHeaderConfirm
  | sendFileDataOngoing
  | waitForFileTransferDoneFrame
  | sendFileTransferDoneAck
  | sendFileDone
  | sendFileFail
deriving DecidableEq

inductive DFileReceiveState where
  | receiveFileInit
  | receiveFileHeaderOngoing
  | sendFileHeaderConfirm
  | receiveFileDataOngoing
  | sendFileDataAck
  | sendFileTransferDone
  | waitForFileTransferDoneAck
  | receiveFileDone
  | receiveFileFail
deriving DecidableEq

inductive DFileTransMsgType where
  | fileListReceived
  | fileReceived
  | fileReceivedToFail
  | fileReceiveFail
  | fileSent
  | fileSendFail
  | inProgress
  | fileSendData
  | fileSendAck
  | end
deriving DecidableEq

/-- The messages on which CheckTransDone destroys the transfer. -/
def DFileTransMsgType.ends : DFileTransMsgType → Bool
  | .fileReceiveFail | .fileSent | .fileSendFail | .end => true
  | _ => false

structure DFileTransConfig where
  maxAckCnt : UInt8
  maxCtrlFrameRetryCnt : UInt8
  maxRecvIdleCnt : UInt8

/-- `fileNum` is the number of files in the list of a sender, `sentFiles` are those that
the receiver has confirmed. -/
structure DFileTrans where
  transId : BitVec 16
  isSender : Bool
  capsTcp : Bool
  config : DFileTransConfig
  mtu : Nat
  sendState : DFileSendState
  recvState : DFileReceiveState
  fileNum : Nat
  sentFiles : List Nat
  headerRetryCnt : UInt8
  lostAckCnt : UInt8
  fileTransferDoneReceived : Bool
  headerAckRetryCnt : UInt8
  idleTimeoutCnt : UInt8
  allFileNameReceived : Bool
  dupFileName : Bool
  allFileDataReceived : Bool
  ioWriteFinishFlag : Bool
  isRecvSucMsgNotified : Bool
  fileTransferDoneAcked : Bool
  transferDoneRetryCnt : UInt8
  isAckSend : Bool
  fileManagerTaskStarted : Bool

/-- DFileTransCreate clears everything that is not told. -/
def DFileTrans.create (transId : BitVec 16) (isSender capsTcp : Bool) (config : DFileTransConfig)
    (fileNum : Nat) : DFileTrans where
  transId := transId
  isSender := isSender
  capsTcp := capsTcp
  config := config
  mtu := 0
  sendState := .sendFileInit
  recvState := .receiveFileInit
  fileNum := fileNum
  sentFiles := []
  headerRetryCnt := 0
  lostAckCnt := 0
  fileTransferDoneReceived := false
  headerAckRetryCnt := 0
  idleTimeoutCnt := 0
  allFileNameReceived := false
  dupFileName := false
  allFileDataReceived := false
  ioWriteFinishFlag := false
  isRecvSucMsgNotified := false
  fileTransferDoneAcked := false
  transferDoneRetryCnt := 0
  isAckSend := false
  fileManagerTaskStarted := false

/-- A transfer runs its state machine, queues a frame, passes a message to DTransMsgReceiver,
or enters a state as a sender. -/
inductive TransOut where
  | fsm
  | frame
  | msg (type : DFileTransMsgType)
  | sendState (state : DFileSendState)
deriving DecidableEq

structure Env where
  /-- The time stamp of the transfer is older than its timeout. -/
  timeout : Bool
  /-- The last heart beat is older than the interval of the acknowledgements. -/
  heartBeat : Bool
  /-- Which frames are queued. Writing succeeds when nothing is said. -/
  writes : List Bool
  /-- The header and confirm frames are this many and one more. -/
  moreHeaderFrames : Nat
  allFileNameAcked : Bool
  taskStarted : Bool
  lastBlockRead : Bool
  ackNodeCreated : Bool
  /-- All file names are there after the header frame at hand. -/
  allFileNameReceived : Bool
  /-- The callback renames every file to a name that can be used. -/
  renamed : Bool
  refreshed : Bool
  allFileReceived : Bool
  allDataReceivedSet : Bool
  receivedFileNum : Nat
  recvFileNum : Nat
  recvFeedback : Bool
  dataFrameValid : Bool
  recvBlockWritable : Bool
  fileWritten : Bool
  lastFrameOfLastFile : Bool
  progressNoticed : Bool
  allBlocksReceived : Bool

def Env.write (env : Env) (k : Nat) : Bool := env.writes.getD k true

/-- How many of `n` frames are queued before one is not. -/
def Env.queuedFrames (env : Env) (n : Nat) : Nat := ((range n).takeWhile env.write).length

structure Pass (State : Type) where
  trans : DFileTrans
  next : State
  out : List TransOut

namespace DFileTrans
variable (env : Env) (t : DFileTrans)

/-! ## Sender -/

def sendFileHeader : Pass DFileSendState :=
  let n := env.moreHeaderFrames + 1
  let queued := env.queuedFrames n
  ⟨t, if queued = n then .waitForFileHeaderConfirm else .sendFileFail, replicate queued .frame⟩

/-- StartFileManagerSenderTask and StartFileManagerReceiverTask do nothing when the task
runs already. -/
def startFileManagerTask : DFileTrans × Bool :=
  if t.fileManagerTaskStarted then (t, true)
  else ({ t with fileManagerTaskStarted := env.taskStarted }, env.taskStarted)

def waitForFileHeaderConfirm : Pass DFileSendState :=
  if env.allFileNameAcked then
    let (t, started) := startFileManagerTask env t
    ⟨t, if started then .sendFileDataOngoing else .sendFileFail, []⟩
  else if env.timeout then
    if t.config.maxCtrlFrameRetryCnt < t.headerRetryCnt then ⟨t, .sendFileFail, []⟩
    else ⟨{ t with headerRetryCnt := t.headerRetryCnt + 1 }, .sendFileHeaderOngoing, []⟩
  else ⟨t, .waitForFileHeaderConfirm, []⟩

def sendFileDataOngoing : Pass DFileSendState :=
  if t.fileTransferDoneReceived then ⟨t, .sendFileTransferDoneAck, []⟩
  else if env.timeout then
    if t.capsTcp then ⟨t, .sendFileDataOngoing, []⟩
    else
      let t := { t with lostAckCnt := t.lostAckCnt + 1 }
      ⟨t, if t.config.maxAckCnt ≤ t.lostAckCnt then .sendFileFail else .sendFileDataOngoing, []⟩
  else if env.lastBlockRead then ⟨t, .waitForFileTransferDoneFrame, []⟩
  else ⟨t, .sendFileDataOngoing, []⟩

/-- A TRANSFER DONE frame that has come is overridden by the timeout. -/
def waitForFileTransferDoneFrame : Pass DFileSendState :=
  if env.timeout then
    ⟨t, if t.capsTcp then .sendFileDataOngoing else .sendFileFail, []⟩
  else if env.lastBlockRead then
    ⟨t, if t.fileTransferDoneReceived then .sendFileTransferDoneAck
      else .waitForFileTransferDoneFrame, []⟩
  else ⟨t, .sendFileDataOngoing, []⟩

def transferDoneAckRepeatedTimes : Nat := 3

/-- The state is left after the first frame. A frame that is not queued asks for the
failure, which SetSendState turns into the end of the transfer. -/
def sendFileTransferDoneAckFrame : Pass DFileSendState :=
  let queued := env.queuedFrames transferDoneAckRepeatedTimes
  let afterWrites : DFileSendState :=
    if queued = transferDoneAckRepeatedTimes then .sendFileTransferDoneAck else .sendFileFail
  ⟨t, if env.ackNodeCreated ∧ queued ≠ 0 then .sendFileDone else afterWrites,
    replicate queued .frame⟩

def sendStateFinished (state : DFileSendState) : Bool :=
  state = .sendFileFail || state = .sendFileDone

/-- An error after TRANSFER DONE has been received does not count any more. -/
def effectiveSendState (next : DFileSendState) : DFileSendState :=
  if (t.sendState = .sendFileTransferDoneAck ∨ t.sendState = .sendFileDone ∨
      t.sendState = .sendFileFail) ∧ next = .sendFileFail then .sendFileDone
  else next

def setSendState (next : DFileSendState) : DFileTrans × List TransOut :=
  if t.sendState = next then (t, [])
  else
    let state := effectiveSendState t next
    ({ t with
        sendState := state
        fileManagerTaskStarted := t.fileManagerTaskStarted && !sendStateFinished state },
      (if next = .sendFileDataOngoing then [.msg .fileSendData] else []) ++ [.sendState state])

def senderStep : Pass DFileSendState :=
  match t.sendState with
  | .sendFileInit => ⟨t, .sendFileHeaderOngoing, []⟩
  | .sendFileHeaderOngoing => sendFileHeader env t
  | .waitForFileHeaderConfirm => waitForFileHeaderConfirm env t
  | .sendFileDataOngoing => sendFileDataOngoing env t
  | .waitForFileTransferDoneFrame => waitForFileTransferDoneFrame env t
  | .sendFileTransferDoneAck => sendFileTransferDoneAckFrame env t
  | .sendFileDone | .sendFileFail => ⟨t, t.sendState, []⟩

/-- One pass of the loop of SenderFsm. The last component tells whether another follows. -/
def senderFsm : DFileTrans × List TransOut × Bool :=
  let pass := senderStep env t
  if t.sendState = pass.next then (pass.trans, pass.out, false)
  else
    let (t, out) := setSendState pass.trans pass.next
    (t, pass.out ++ out, !sendStateFinished t.sendState)

/-! ## Receiver -/

def receiveFileHeaderOngoing : Pass DFileReceiveState :=
  ⟨t, if t.allFileNameReceived || env.timeout then .sendFileHeaderConfirm
    else .receiveFileHeaderOngoing, []⟩

def sendFileHeaderConfirm : Pass DFileReceiveState :=
  let n := env.moreHeaderFrames + 1
  let queued := env.queuedFrames n
  let out := replicate queued TransOut.frame
  if queued ≠ n then ⟨t, .receiveFileFail, out⟩
  else if t.allFileNameReceived then
    let (t, started) := startFileManagerTask env t
    ⟨t, if started then .receiveFileDataOngoing else .receiveFileFail, out⟩
  else if t.config.maxCtrlFrameRetryCnt < t.headerAckRetryCnt then ⟨t, .receiveFileFail, out⟩
  else ⟨{ t with headerAckRetryCnt := t.headerAckRetryCnt + 1 }, .receiveFileHeaderOngoing, out⟩

variable (next : DFileReceiveState)

/-- The end of ReceiveFileDataOngoing, where the next state may be the sending of an
acknowledgement already. -/
def receiveHeartBeat : Pass DFileReceiveState :=
  if next ≠ .sendFileDataAck ∧ env.heartBeat then
    if t.allFileDataReceived && !env.allDataReceivedSet then ⟨t, .receiveFileFail, []⟩
    else ⟨{ t with isAckSend := true }, .sendFileDataAck, []⟩
  else ⟨t, next, []⟩

def receiveFileDataOngoing : Pass DFileReceiveState :=
  if t.dupFileName then ⟨{ t with dupFileName := false }, .sendFileHeaderConfirm, []⟩
  else if t.allFileDataReceived then
    if !t.ioWriteFinishFlag then ⟨t, .receiveFileDataOngoing, []⟩
    else if !env.refreshed then ⟨t, .receiveFileFail, []⟩
    else if env.allFileReceived then ⟨t, .sendFileTransferDone, []⟩
    else receiveHeartBeat env t .receiveFileDataOngoing
  else if env.timeout then
    let t := { t with idleTimeoutCnt := t.idleTimeoutCnt + 1 }
    if t.config.maxRecvIdleCnt ≤ t.idleTimeoutCnt ∧ t.capsTcp = false then
      ⟨t, .receiveFileFail, []⟩
    else receiveHeartBeat env t .sendFileDataAck
  else receiveHeartBeat env t .receiveFileDataOngoing

def backPressureFrame : List TransOut :=
  if env.recvFeedback && env.write 0 then [.frame] else []

def sendFileDataAck : Pass DFileReceiveState := ⟨t, .receiveFileDataOngoing, backPressureFrame env⟩

/-- NotifyTransMsg for FILE_RECEIVED tells the progress when all files have been received,
and ReviewSuccessMsg turns it into a failure when none has. -/
def notifyRecvSucMsg : DFileTrans × List TransOut :=
  if t.isRecvSucMsgNotified then (t, [])
  else
    ({ t with isRecvSucMsgNotified := true },
      (if env.receivedFileNum = env.recvFileNum then [.msg .inProgress] else []) ++
        [.msg (if env.receivedFileNum = 0 then .fileReceivedToFail else .fileReceived)])

def sendFileTransferDoneFrame : Pass DFileReceiveState :=
  if env.timeout then ⟨t, .receiveFileFail, []⟩
  else
    let (t, out) := notifyRecvSucMsg env t
    if env.write 0 then ⟨t, .waitForFileTransferDoneAck, out ++ [.frame]⟩
    else ⟨t, .receiveFileFail, out⟩

def waitForFileTransferDoneAck : Pass DFileReceiveState :=
  if t.fileTransferDoneAcked then ⟨t, .receiveFileDone, []⟩
  else if env.timeout then
    if t.config.maxCtrlFrameRetryCnt < t.transferDoneRetryCnt ∧ t.capsTcp = false then
      ⟨t, .receiveFileFail, []⟩
    else ⟨{ t with transferDoneRetryCnt := t.transferDoneRetryCnt + 1 }, .sendFileTransferDone, []⟩
  else ⟨t, .waitForFileTransferDoneAck, []⟩

def recvStateFinished (state : DFileReceiveState) : Bool :=
  state = .receiveFileFail || state = .receiveFileDone

/-- An error after TRANSFER DONE has been sent does not count any more. -/
def effectiveReceiveState : DFileReceiveState :=
  if (t.recvState = .waitForFileTransferDoneAck ∨ t.recvState = .receiveFileDone ∨
      t.recvState = .receiveFileFail) ∧ next = .receiveFileFail then .receiveFileDone
  else next

def setReceiveState : DFileTrans :=
  if t.recvState = next then t
  else
    let state := effectiveReceiveState t next
    { t with
      recvState := state
      fileManagerTaskStarted := t.fileManagerTaskStarted && !recvStateFinished state }

def receiverStep : Pass DFileReceiveState :=
  match t.recvState with
  | .receiveFileInit => ⟨t, .receiveFileHeaderOngoing, []⟩
  | .receiveFileHeaderOngoing => receiveFileHeaderOngoing env t
  | .sendFileHeaderConfirm => sendFileHeaderConfirm env t
  | .receiveFileDataOngoing => receiveFileDataOngoing env t
  | .sendFileDataAck => sendFileDataAck env t
  | .sendFileTransferDone => sendFileTransferDoneFrame env t
  | .waitForFileTransferDoneAck => waitForFileTransferDoneAck env t
  | .receiveFileDone | .receiveFileFail => ⟨t, t.recvState, []⟩

def receiverFsm : DFileTrans × List TransOut × Bool :=
  let pass := receiverStep env t
  if t.recvState = pass.next then (pass.trans, pass.out, false)
  else
    let t := setReceiveState pass.trans pass.next
    (t, pass.out, !recvStateFinished t.recvState)

def transferFsm : DFileTrans × List TransOut × Bool :=
  if t.isSender then senderFsm env t else receiverFsm env t

def stateFinished : Bool :=
  if t.isSender then sendStateFinished t.sendState else recvStateFinished t.recvState

/-- A smaller mtu would not hold the fixed part of a data frame, a larger one not a frame. -/
def mtuUsable (mtu : Nat) : Bool := 14 < mtu && mtu ≤ 14720

def setMtu (mtu : Nat) : DFileTrans := if mtuUsable mtu then { t with mtu := mtu } else t

/-! ## What a pass keeps -/

structure Same (t t' : DFileTrans) : Prop where
  transId : t'.transId = t.transId
  isSender : t'.isSender = t.isSender
  mtu : t'.mtu = t.mtu
  sentFiles : t'.sentFiles = t.sentFiles
  fileTransferDoneReceived : t'.fileTransferDoneReceived = t.fileTransferDoneReceived

def Harmless (out : List TransOut) : Prop :=
  ∀ o ∈ out, match o with
    | .fsm | .frame => True
    | .msg type => type.ends = false
    | .sendState _ => False

def Confirmed (state : DFileSendState) : Prop :=
  state = .sendFileTransferDoneAck ∨ state = .sendFileDone

variable {env t}

lemma Same.refl : Same t t := ⟨rfl, rfl, rfl, rfl, rfl⟩

lemma harmless_nil : Harmless [] := nofun

lemma harmless_frames (n) : Harmless (replicate n .frame) := by
  intro o mem
  rw [eq_of_mem_replicate mem]
  trivial

lemma startFileManagerTask_same : Same t (startFileManagerTask env t).1 := by
  unfold startFileManagerTask
  split
  · exact Same.refl
  · exact ⟨rfl, rfl, rfl, rfl, rfl⟩

lemma startFileManagerTask_sendState : (startFileManagerTask env t).1.sendState = t.sendState := by
  unfold startFileManagerTask
  split <;> rfl

structure SenderStepped (t : DFileTrans) (pass : Pass DFileSendState) : Prop where
  same : Same t pass.trans
  sendState : pass.trans.sendState = t.sendState
  harmless : Harmless pass.out
  enters : Confirmed pass.next → Confirmed t.sendState ∨ t.fileTransferDoneReceived
  stays : Confirmed t.sendState → Confirmed pass.next ∨ pass.next = .sendFileFail

lemma SenderStepped.early {pass} (same : Same t pass.trans)
    (sendState : pass.trans.sendState = t.sendState) (harmless : Harmless pass.out)
    (enters : Confirmed pass.next → t.fileTransferDoneReceived)
    (old : ¬ Confirmed t.sendState) : SenderStepped t pass :=
  ⟨same, sendState, harmless, fun conf => .inr (enters conf), fun conf => absurd conf old⟩

section

variable (old : ¬ Confirmed t.sendState)
include old

lemma sendFileHeader_stepped : SenderStepped t (sendFileHeader env t) := by
  refine .early Same.refl rfl (harmless_frames _) (fun conf => ?_) old
  simp only [sendFileHeader] at conf
  split at conf <;> simp [Confirmed] at conf

lemma waitForFileHeaderConfirm_stepped : SenderStepped t (waitForFileHeaderConfirm env t) := by
  unfold waitForFileHeaderConfirm
  split
  · refine .early startFileManagerTask_same startFileManagerTask_sendState harmless_nil
      (fun conf => ?_) old
    dsimp only at conf
    split at conf <;> simp [Confirmed] at conf
  · split
    · split
      · exact .early Same.refl rfl harmless_nil (by simp [Confirmed]) old
      · exact .early ⟨rfl, rfl, rfl, rfl, rfl⟩ rfl harmless_nil (by simp [Confirmed]) old
    · exact .early Same.refl rfl harmless_nil (by simp [Confirmed]) old

lemma sendFileDataOngoing_stepped : SenderStepped t (sendFileDataOngoing env t) := by
  unfold sendFileDataOngoing
  split
  next received => exact .early Same.refl rfl harmless_nil (fun _ => received) old
  split
  · split
    · exact .early Same.refl rfl harmless_nil (by simp [Confirmed]) old
    · refine .early ⟨rfl, rfl, rfl, rfl, rfl⟩ rfl harmless_nil (fun conf => ?_) old
      dsimp only at conf
      split at conf <;> simp [Confirmed] at conf
  · split
    · exact .early Same.refl rfl harmless_nil (by simp [Confirmed]) old
    · exact .early Same.refl rfl harmless_nil (by simp [Confirmed]) old

lemma waitForFileTransferDoneFrame_stepped :
    SenderStepped t (waitForFileTransferDoneFrame env t) := by
  unfold waitForFileTransferDoneFrame
  split
  · refine .early Same.refl rfl harmless_nil (fun conf => ?_) old
    dsimp only at conf
    split at conf <;> simp [Confirmed] at conf
  · split
    · refine .early Same.refl rfl harmless_nil (fun conf => ?_) old
      dsimp only at conf
      split at conf
      · assumption
      · simp [Confirmed] at conf
    · exact .early Same.refl rfl harmless_nil (by simp [Confirmed]) old

end

lemma sendFileTransferDoneAckFrame_stepped (here : t.sendState = .sendFileTransferDoneAck) :
    SenderStepped t (sendFileTransferDoneAckFrame env t) := by
  refine ⟨Same.refl, rfl, harmless_frames _, fun _ => .inl (.inl here), fun _ => ?_⟩
  unfold sendFileTransferDoneAckFrame
  dsimp only
  split
  · exact .inl (.inr rfl)
  · split
    · exact .inl (.inl rfl)
    · exact .inr rfl

lemma SenderStepped.idle : SenderStepped t ⟨t, t.sendState, []⟩ :=
  ⟨Same.refl, rfl, harmless_nil, .inl, .inl⟩

lemma senderStep_stepped (env t) : SenderStepped t (senderStep env t) := by
  have early {state} (here : t.sendState = state) (old : ¬ Confirmed state) :
      ¬ Confirmed t.sendState := by rwa [here]
  unfold senderStep
  split
  next here =>
    exact .early Same.refl rfl harmless_nil (by simp [Confirmed]) (early here (by simp [Confirmed]))
  next here => exact sendFileHeader_stepped (early here (by simp [Confirmed]))
  next here => exact waitForFileHeaderConfirm_stepped (early here (by simp [Confirmed]))
  next here => exact sendFileDataOngoing_stepped (early here (by simp [Confirmed]))
  next here => exact waitForFileTransferDoneFrame_stepped (early here (by simp [Confirmed]))
  next here => exact sendFileTransferDoneAckFrame_stepped here
  · exact SenderStepped.idle
  · exact SenderStepped.idle

/-- What a pass of a state machine does. Entering the answer to TRANSFER DONE is seen. -/
structure Passed (t t' : DFileTrans) (out : List TransOut) : Prop where
  same : Same t t'
  enters : Confirmed t'.sendState → Confirmed t.sendState ∨ t.fileTransferDoneReceived
  stays : Confirmed t.sendState → Confirmed t'.sendState
  messages : ∀ type, .msg type ∈ out → type.ends = false
  states : .sendState .sendFileTransferDoneAck ∈ out → Confirmed t'.sendState

variable {out : List TransOut}

lemma Harmless.not_ends (h : Harmless out) (type) (mem : .msg type ∈ out) :
    type.ends = false := h _ mem

lemma Harmless.no_state (h : Harmless out) (state) : .sendState state ∉ out := fun mem => h _ mem

lemma setSendState_same (next) : Same t (setSendState t next).1 := by
  unfold setSendState
  split
  · exact Same.refl
  · exact ⟨rfl, rfl, rfl, rfl, rfl⟩

lemma effectiveSendState_of_ne {next} (noFail : next ≠ .sendFileFail) :
    effectiveSendState t next = next :=
  if_neg fun fails => noFail fails.2

lemma effectiveSendState_fail (conf : Confirmed t.sendState) :
    effectiveSendState t .sendFileFail = .sendFileDone :=
  if_pos ⟨conf.imp id .inl, rfl⟩

lemma setSendState_passed {next} (change : t.sendState ≠ next)
    (enters : Confirmed next → Confirmed t.sendState ∨ t.fileTransferDoneReceived)
    (stays : Confirmed t.sendState → Confirmed next ∨ next = .sendFileFail) :
    Passed t (setSendState t next).1 (setSendState t next).2 := by
  have result : setSendState t next = ({ t with
      sendState := effectiveSendState t next
      fileManagerTaskStarted := t.fileManagerTaskStarted &&
        !sendStateFinished (effectiveSendState t next) },
      (if next = .sendFileDataOngoing then [.msg .fileSendData] else []) ++
        [.sendState (effectiveSendState t next)]) := by
    rw [setSendState, if_neg change]
  rw [result]
  refine ⟨⟨rfl, rfl, rfl, rfl, rfl⟩, fun conf => ?_, fun conf => ?_, fun type mem => ?_,
    fun mem => ?_⟩
  · by_cases fails : next = .sendFileFail
    · subst fails
      by_contra old
      have kept : effectiveSendState t .sendFileFail = .sendFileFail := by
        refine if_neg fun late => ?_
        rcases late.1 with ack | done | fail
        · exact old (.inl (.inl ack))
        · exact old (.inl (.inr done))
        · exact change fail
      simp [kept, Confirmed] at conf
    · rw [effectiveSendState_of_ne fails] at conf
      exact enters conf
  · rcases stays conf with next | fails
    · rw [effectiveSendState_of_ne (by rcases next with rfl | rfl <;> simp)]
      exact next
    · rw [fails, effectiveSendState_fail conf]
      exact .inr rfl
  · have data : type = .fileSendData := by
      rcases mem_append.mp mem with mem | mem
      · split at mem <;> simp at mem
        exact mem
      · simp at mem
    rw [data]
    rfl
  · rcases mem_append.mp mem with mem | mem
    · split at mem <;> simp at mem
    · have entered : DFileSendState.sendFileTransferDoneAck = effectiveSendState t next := by
        simpa using mem
      exact .inl entered.symm

lemma Same.trans {t u w} (first : Same t u) (second : Same u w) : Same t w :=
  ⟨second.transId.trans first.transId, second.isSender.trans first.isSender,
    second.mtu.trans first.mtu, second.sentFiles.trans first.sentFiles,
    second.fileTransferDoneReceived.trans first.fileTransferDoneReceived⟩

lemma senderFsm_passed : Passed t (senderFsm env t).1 (senderFsm env t).2.1 := by
  have stepped := senderStep_stepped env t
  unfold senderFsm
  dsimp only
  split
  · refine ⟨stepped.same, ?_, ?_, stepped.harmless.not_ends, fun mem => ?_⟩
    · rw [stepped.sendState]
      exact .inl
    · rw [stepped.sendState]
      exact id
    · exact absurd mem (stepped.harmless.no_state _)
  next change =>
    have passed := @setSendState_passed (senderStep env t).trans (senderStep env t).next
      (by rwa [stepped.sendState])
      (by rw [stepped.sendState, stepped.same.fileTransferDoneReceived]; exact stepped.enters)
      (by rw [stepped.sendState]; exact stepped.stays)
    refine ⟨stepped.same.trans passed.same, fun conf => ?_, fun conf => ?_,
      fun type mem => ?_, fun mem => ?_⟩
    · have entered := passed.enters conf
      rwa [stepped.sendState, stepped.same.fileTransferDoneReceived] at entered
    · exact passed.stays (by rwa [stepped.sendState])
    · rcases mem_append.mp mem with mem | mem
      · exact stepped.harmless.not_ends type mem
      · exact passed.messages type mem
    · rcases mem_append.mp mem with mem | mem
      · exact absurd mem (stepped.harmless.no_state _)
      · exact passed.states mem

structure ReceiverStepped (t t' : DFileTrans) (out : List TransOut) : Prop where
  same : Same t t'
  sendState : t'.sendState = t.sendState
  harmless : Harmless out

lemma ReceiverStepped.refl (harmless : Harmless out) : ReceiverStepped t t out :=
  ⟨Same.refl, rfl, harmless⟩

lemma ReceiverStepped.stay : ReceiverStepped t t [] := .refl harmless_nil

lemma harmless_append {front back} (h : Harmless front) (h' : Harmless back) :
    Harmless (front ++ back) := by
  intro o mem
  rcases mem_append.mp mem with mem | mem
  · exact h o mem
  · exact h' o mem

lemma harmless_backPressureFrame : Harmless (backPressureFrame env) := by
  unfold backPressureFrame
  split
  · exact harmless_frames 1
  · exact harmless_nil

lemma sendFileHeaderConfirm_stepped : ReceiverStepped t (sendFileHeaderConfirm env t).trans
    (sendFileHeaderConfirm env t).out := by
  unfold sendFileHeaderConfirm
  dsimp only
  split
  · exact .refl (harmless_frames _)
  · split
    · exact ⟨startFileManagerTask_same, startFileManagerTask_sendState, harmless_frames _⟩
    · split
      · exact .refl (harmless_frames _)
      · exact ⟨⟨rfl, rfl, rfl, rfl, rfl⟩, rfl, harmless_frames _⟩

lemma receiveHeartBeat_stepped :
    ReceiverStepped t (receiveHeartBeat env t next).trans (receiveHeartBeat env t next).out := by
  unfold receiveHeartBeat
  split
  · split
    · exact .stay
    · exact ⟨⟨rfl, rfl, rfl, rfl, rfl⟩, rfl, harmless_nil⟩
  · exact .stay

lemma receiveFileDataOngoing_stepped : ReceiverStepped t (receiveFileDataOngoing env t).trans
    (receiveFileDataOngoing env t).out := by
  unfold receiveFileDataOngoing
  split
  · exact ⟨⟨rfl, rfl, rfl, rfl, rfl⟩, rfl, harmless_nil⟩
  split
  · split
    · exact .stay
    · split
      · exact .stay
      · split
        · exact .stay
        · exact receiveHeartBeat_stepped _
  · split
    · dsimp only
      split
      · exact ⟨⟨rfl, rfl, rfl, rfl, rfl⟩, rfl, harmless_nil⟩
      · have beat := @receiveHeartBeat_stepped env
          { t with idleTimeoutCnt := t.idleTimeoutCnt + 1 } .sendFileDataAck
        have counted : Same t { t with idleTimeoutCnt := t.idleTimeoutCnt + 1 } :=
          ⟨rfl, rfl, rfl, rfl, rfl⟩
        exact ⟨counted.trans beat.same, beat.sendState, beat.harmless⟩
    · exact receiveHeartBeat_stepped _

lemma notifyRecvSucMsg_stepped : ReceiverStepped t (notifyRecvSucMsg env t).1
    (notifyRecvSucMsg env t).2 := by
  unfold notifyRecvSucMsg
  split
  · exact .stay
  · refine ⟨⟨rfl, rfl, rfl, rfl, rfl⟩, rfl, harmless_append ?_ ?_⟩
    · split
      · simp [Harmless, DFileTransMsgType.ends]
      · exact harmless_nil
    · split <;> simp [Harmless, DFileTransMsgType.ends]

lemma sendFileTransferDoneFrame_stepped : ReceiverStepped t
    (sendFileTransferDoneFrame env t).trans (sendFileTransferDoneFrame env t).out := by
  have notified := @notifyRecvSucMsg_stepped env t
  unfold sendFileTransferDoneFrame
  split
  · exact .stay
  · dsimp only
    split
    · exact ⟨notified.same, notified.sendState,
        harmless_append notified.harmless (harmless_frames 1)⟩
    · exact notified

lemma waitForFileTransferDoneAck_stepped : ReceiverStepped t
    (waitForFileTransferDoneAck env t).trans (waitForFileTransferDoneAck env t).out := by
  unfold waitForFileTransferDoneAck
  split
  · exact .stay
  · split
    · split
      · exact .stay
      · exact ⟨⟨rfl, rfl, rfl, rfl, rfl⟩, rfl, harmless_nil⟩
    · exact .stay

lemma receiverStep_stepped (env t) :
    ReceiverStepped t (receiverStep env t).trans (receiverStep env t).out := by
  unfold receiverStep
  split
  · exact .stay
  · exact .stay
  · exact sendFileHeaderConfirm_stepped
  · exact receiveFileDataOngoing_stepped
  · exact .refl harmless_backPressureFrame
  · exact sendFileTransferDoneFrame_stepped
  · exact waitForFileTransferDoneAck_stepped
  · exact .stay
  · exact .stay

lemma setReceiveState_stepped : ReceiverStepped t (setReceiveState t next) [] := by
  unfold setReceiveState
  split
  · exact .stay
  · exact ⟨⟨rfl, rfl, rfl, rfl, rfl⟩, rfl, harmless_nil⟩

lemma ReceiverStepped.passed {t'} (h : ReceiverStepped t t' out) : Passed t t' out := by
  refine ⟨h.same, ?_, ?_, h.harmless.not_ends, fun mem => absurd mem (h.harmless.no_state _)⟩
  · rw [h.sendState]
    exact .inl
  · rw [h.sendState]
    exact id

lemma receiverFsm_stepped : ReceiverStepped t (receiverFsm env t).1 (receiverFsm env t).2.1 := by
  have stepped := receiverStep_stepped env t
  unfold receiverFsm
  dsimp only
  split
  · exact stepped
  · have set := @setReceiveState_stepped (receiverStep env t).trans (receiverStep env t).next
    exact ⟨stepped.same.trans set.same, set.sendState.trans stepped.sendState, stepped.harmless⟩

lemma transferFsm_passed (env t) : Passed t (transferFsm env t).1 (transferFsm env t).2.1 := by
  unfold transferFsm
  split
  · exact senderFsm_passed
  · exact receiverFsm_stepped.passed

end DFileTrans

end DSoftBus.DFile
