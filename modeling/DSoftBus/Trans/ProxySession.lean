import DSoftBus.Trans.ProxyMessage

/-!
Sending and receiving session data on a proxy channel (softbus_proxychannel_session.c).
The sender encrypts the data into one packet and cuts it into slices; the receiver puts
them together, one assembly for each channel and priority, and hands the decrypted data to
the session.

A receiving function returns `none` where the source reads outside its buffer. Pointers
are never null, and locking never fails.
-/
namespace DSoftBus.Proxy
open ByteString KeyedList

inductive ProxyPacketType where
  | bytes
  | ack
  | message
  | fileFirstFrame
  | fileOngoineFrame
  | fileLastFrame
  | fileOnlyoneFrame
  | fileAllfileSent
  | asyncMessage
deriving DecidableEq

open ProxyPacketType

def ProxyPacketType.code : ProxyPacketType → BitVec 32
  | .bytes => 0
  | .ack => 1
  | .message => 2
  | .fileFirstFrame => 3
  | .fileOngoineFrame => 4
  | .fileLastFrame => 5
  | .fileOnlyoneFrame => 6
  | .fileAllfileSent => 7
  | .asyncMessage => 8

inductive ProxyChannelPriority where
  | message
  | bytes
  | file
deriving DecidableEq

def ProxyChannelPriority.code : ProxyChannelPriority → BitVec 32
  | .message => 0
  | .bytes => 1
  | .file => 2

def ProxyChannelPriority.ofCode (code : BitVec 32) : Option ProxyChannelPriority :=
  [.message, .bytes, .file].find? (fun priority => priority.code = code)

lemma ProxyChannelPriority.ofCode_code (priority) :
    ProxyChannelPriority.ofCode priority.code = some priority := by
  cases priority <;> decide

inductive SendPriority where
  | default
  | low
  | middle
  | high

inductive SessionPktType where
  | bytes
  | message

structure SliceHead where
  priority : BitVec 32
  sliceNum : BitVec 32
  sliceSeq : BitVec 32
  reserved : BitVec 32

structure PacketHead where
  magicNumber : BitVec 32
  seq : BitVec 32
  flags : BitVec 32
  dataLen : BitVec 32

open PacketHead

def SliceHead.bytes (head : SliceHead) : Bytes :=
  putWord 4 head.priority ++ (putWord 4 head.sliceNum ++ (putWord 4 head.sliceSeq ++
    putWord 4 head.reserved))

def SliceHead.ofBytes (data : Bytes) : SliceHead :=
  ⟨getWord 32 4 data, getWord 32 4 (data.drop 4), getWord 32 4 (data.drop 8),
    getWord 32 4 (data.drop 12)⟩

variable (head : PacketHead)

def PacketHead.bytes : Bytes :=
  putWord 4 head.magicNumber ++ (putWord 4 head.seq ++ (putWord 4 head.flags ++
    putWord 4 head.dataLen))

def PacketHead.ofBytes (data : Bytes) : PacketHead :=
  ⟨getWord 32 4 data, getWord 32 4 (data.drop 4), getWord 32 4 (data.drop 8),
    getWord 32 4 (data.drop 12)⟩

def sizeofSliceHead : Nat := 16
def sizeofPacketHead : Nat := 16

lemma SliceHead.length_bytes (head : SliceHead) : head.bytes.length = sizeofSliceHead := by
  simp [SliceHead.bytes, sizeofSliceHead]

lemma PacketHead.length_bytes : head.bytes.length = sizeofPacketHead := by
  simp [bytes, sizeofPacketHead]

lemma SliceHead.ofBytes_append (head rest) : SliceHead.ofBytes (head.bytes ++ rest) = head := by
  simp [SliceHead.ofBytes, SliceHead.bytes, getWord_putWord_append]

lemma PacketHead.ofBytes_append (rest) : ofBytes (head.bytes ++ rest) = head := by
  simp [ofBytes, bytes, getWord_putWord_append]

def magicNumber : BitVec 32 := 0xBABEFACE
def maxSendLength : Nat := 1024
def proxyAckSize : Nat := 4
def dataHeadSize : Nat := 4 * 1024
def sliceHeadLen : Nat := sizeofPacketHead + sizeofSliceHead
def slicePacketTimeout : Nat := 10
def proxyMaxBytesLen : Nat := 4 * 1024
def proxyMaxMessageLen : Nat := 1 * 1024

def proxyTypeToProxyIndex : ProxyPacketType → ProxyChannelPriority
  | .message | .asyncMessage | .ack => .message
  | _ => .bytes

def proxyTypeToConnPri : ProxyPacketType → SendPriority
  | .bytes => .middle
  | .asyncMessage | .ack => .high
  | _ => .default

/-- A look at a completed channel restarts its idle time. -/
def ProxyChannelInfo.touch (info : ProxyChannelInfo) : ProxyChannelInfo :=
  if info.status = .completed then { info with timeout := 0 } else info

variable (channels : List ProxyChannelInfo) (channelId : BitVec 32)

def transProxyGetSendMsgChanInfo : List ProxyChannelInfo × Option ProxyChannelInfo :=
  let channels := update ProxyChannelInfo.channelId channelId .touch channels
  (channels, lookup ProxyChannelInfo.channelId channelId channels)

def transProxyGetNewChanSeq : List ProxyChannelInfo × BitVec 32 :=
  (update ProxyChannelInfo.channelId channelId
      (fun info => { info with seq := info.seq + 1 }) channels,
    ((lookup ProxyChannelInfo.channelId channelId channels).map (·.seq)).getD 0)

def transProxyGetSessionKeyByChanId : List ProxyChannelInfo × Option Bytes :=
  let found := transProxyGetSendMsgChanInfo channels channelId
  (found.1, found.2.map (·.sessionKey))

/-- The cipher with a fresh random vector, the connection layer, and how the wait for an
acknowledgement ends. -/
structure SendContext where
  gcm : AesGcm
  iv : GcmIv
  connPostBytes : (connId : BitVec 32) → SendPriority → Bytes → Bool
  procPendingPacket : (channelId seq : BitVec 32) → SoftBusErrNo

structure ConnPostData where
  connId : BitVec 32
  priority : SendPriority
  buf : Bytes

section
variable (env : SendContext)

def transProxyEncryptPacketData (channels : List ProxyChannelInfo) (channelId seq : BitVec 32)
    (inData : Bytes) : List ProxyChannelInfo × Except SoftBusErrNo Bytes :=
  let key := transProxyGetSessionKeyByChanId channels channelId
  match key.2 with
  | none => (key.1, .error .err)
  | some sessionKey =>
    match softBusEncryptDataWithSeq env.gcm sessionKey env.iv inData seq with
    | .error _ => (key.1, .error .encryptErr)
    | .ok outData =>
      if outData.length ≠ inData.length + overheadLen then (key.1, .error .encryptErr)
      else (key.1, .ok outData)

variable (channels : List ProxyChannelInfo) (channelId : BitVec 32)

/-- An acknowledgement carries the sequence number it acknowledges as its data. -/
def transProxyGetPktSeqId
    (inData : Bytes) (flag : ProxyPacketType) : List ProxyChannelInfo × BitVec 32 :=
  if flag = .ack ∧ inData.length ≤ 4 then (channels, getWord 32 4 inData)
  else transProxyGetNewChanSeq channels channelId

def transProxyPackBytes (inData : Bytes) (flag : ProxyPacketType) :
    List ProxyChannelInfo × Except SoftBusErrNo (BitVec 32 × Bytes) :=
  match softBusCalloc (inData.length + overheadLen + sizeofPacketHead) with
  | none => (channels, .error .memErr)
  | some _ =>
    let seq := transProxyGetPktSeqId channels channelId inData flag
    let enData := transProxyEncryptPacketData env seq.1 channelId seq.2 inData
    match enData.2 with
    | .error _ => (enData.1, .error .transProxySessEncryptErr)
    | .ok outData =>
      let pktHead : PacketHead := ⟨magicNumber, seq.2, flag.code, BitVec.ofNat 32 outData.length⟩
      (enData.1, .ok (seq.2, pktHead.bytes ++ outData))

/-- The bytes behind the head of the connection layer, which fills that in itself. -/
def transProxyPackAppNormalMsg (msg : ProxyMessageHead) (sliceHead : SliceHead)
    (payLoad : Bytes) : Option Bytes :=
  (softBusCalloc (proxyChannelHeadLen + sizeofSliceHead + payLoad.length)).map fun _ =>
    msg.bytes ++ (sliceHead.bytes ++ payLoad)

def sliceHeadAt (flag : ProxyPacketType) (sliceNum i : Nat) : SliceHead :=
  ⟨(proxyTypeToProxyIndex flag).code, BitVec.ofNat 32 sliceNum, BitVec.ofNat 32 i, 0⟩

variable (payLoad : Bytes)

def slicePayload (sliceNum i : Nat) : Bytes :=
  if 1 < sliceNum then
    (payLoad.drop (i * maxSendLength)).take
      (if i = sliceNum - 1 then payLoad.length - i * maxSendLength else maxSendLength)
  else payLoad

/-- The loop over the slices. It stops at the first one that cannot be packed or sent. -/
def transProxyPostSlices (info : ProxyChannelInfo) (payLoad : Bytes)
    (flag : ProxyPacketType) (sliceNum : Nat) : List Nat → SoftBusErrNo × List ConnPostData
  | [] => (.ok, [])
  | i :: rest =>
    match transProxyPackAppNormalMsg (plainHead .normal info.myId info.peerId)
        (sliceHeadAt flag sliceNum i) (slicePayload payLoad sliceNum i) with
    | none => (.transProxyPackmsgErr, [])
    | some buf =>
      if env.connPostBytes info.connId (proxyTypeToConnPri flag) buf then
        let sent := transProxyPostSlices info payLoad flag sliceNum rest
        (sent.1, ⟨info.connId, proxyTypeToConnPri flag, buf⟩ :: sent.2)
      else (.transProxySendmsgErr, [])

def transProxyTransAppNormalMsg (info : ProxyChannelInfo) (payLoad : Bytes)
    (flag : ProxyPacketType) : SoftBusErrNo × List ConnPostData :=
  let sliceNum := (payLoad.length + maxSendLength - 1) / maxSendLength
  transProxyPostSlices env info payLoad flag sliceNum (List.range sliceNum)

def transProxyTransDataSendMsg (flag : ProxyPacketType) :
    List ProxyChannelInfo × SoftBusErrNo × List ConnPostData :=
  let found := transProxyGetSendMsgChanInfo channels channelId
  match found.2 with
  | none => (found.1, .transProxySendChannelidInvalid, [])
  | some info =>
    if info.status ≠ .completed ∧ info.status ≠ .keepliveing then
      (found.1, .transProxyChannleStatusInvalid, [])
    else (found.1, transProxyTransAppNormalMsg env info payLoad flag)

def transProxyTransDataSendSyncMsg (flag : ProxyPacketType) (seq : BitVec 32) :
    List ProxyChannelInfo × SoftBusErrNo × List ConnPostData :=
  let sent := transProxyTransDataSendMsg env channels channelId payLoad flag
  if sent.2.1 ≠ .ok then sent
  else (sent.1, env.procPendingPacket channelId seq, sent.2.2)

def transProxyPostPacketData (data : Bytes) (flags : ProxyPacketType) :
    List ProxyChannelInfo × SoftBusErrNo × List ConnPostData :=
  let packed := transProxyPackBytes env channels channelId data flags
  match packed.2 with
  | .error ret => (packed.1, ret, [])
  | .ok (seq, outData) =>
    if flags = .message then
      transProxyTransDataSendSyncMsg env packed.1 channelId outData flags seq
    else transProxyTransDataSendMsg env packed.1 channelId outData flags

end

/-- The keys of the channels, and how the client and the threads that wait for an
acknowledgement answer. -/
structure ReceiveContext where
  gcm : AesGcm
  cipher : CipherContext
  sessionKey : (channelId : BitVec 32) → Option Bytes
  onMsgReceived : (channelId : BitVec 32) → Bytes → SessionPktType → SoftBusErrNo
  setPendingPacket : (channelId seq : BitVec 32) → SoftBusErrNo

inductive SessionEvent where
  | notifySession (channelId flags seq : BitVec 32) (data : Bytes)
  | postAck (channelId : BitVec 32) (ack : Bytes)
  | clientMsgReceived (channelId : BitVec 32) (data : Bytes) (type : SessionPktType)
  | setPendingPacket (channelId seq : BitVec 32)

structure SliceProcessor where
  active : Bool
  timeout : Nat
  sliceNumber : BitVec 32
  expectedSeq : BitVec 32
  dataLen : Nat
  bufLen : Nat
  data : Option Bytes

structure ChannelSliceProcessor where
  channelId : BitVec 32
  processor : ProxyChannelPriority → SliceProcessor

section
variable (env : ReceiveContext)

variable (channelId : BitVec 32)

/-- The acknowledged number is read in network byte order. -/
def transProxyProcSendMsgAck (data : Bytes) : SoftBusErrNo × List SessionEvent :=
  if data.length ≠ proxyAckSize then (.transInvalidDataLength, [])
  else
    let seq := getWord 32 4 data.reverse
    (env.setPendingPacket channelId seq, [.setPendingPacket channelId seq])

def transProxyNotifySession (channelId flags seq : BitVec 32) (data : Bytes) :
    SoftBusErrNo × List SessionEvent :=
  let call := SessionEvent.notifySession channelId flags seq data
  if flags = bytes.code then
    (env.onMsgReceived channelId data .bytes, [call, .clientMsgReceived channelId data .bytes])
  else if flags = message.code then
    (env.onMsgReceived channelId data .message,
      [call, .postAck channelId (putWord proxyAckSize seq),
        .clientMsgReceived channelId data .message])
  else if flags = asyncMessage.code then
    (env.onMsgReceived channelId data .message, [call, .clientMsgReceived channelId data .message])
  else if flags = ack.code then
    let acked := transProxyProcSendMsgAck env channelId data
    (acked.1, call :: acked.2)
  else (.invalidParam, [call])

def transProxySessionDataLenCheck (dataLen : Nat) (flags : BitVec 32) : Bool :=
  if flags = message.code ∨ flags = asyncMessage.code then
    dataLen ≤ proxyMaxMessageLen
  else if flags = bytes.code then dataLen ≤ proxyMaxBytesLen
  else true

def transProxyDecryptPacketData (inData : Bytes) : Except SoftBusErrNo Bytes :=
  match env.sessionKey channelId with
  | none => .error .err
  | some sessionKey =>
    match softBusDecryptData env.gcm sessionKey inData with
    | .error _ => .error .err
    | .ok outData => .ok outData

/-- `data` is all that may be read behind the packet head; the length to decrypt is
the one the head states. -/
def transProxyProcessSessionData (dataHead : PacketHead)
    (data : Bytes) : Option (SoftBusErrNo × List SessionEvent) :=
  if dataHead.dataLen.toInt ≤ overheadLen then some (.transInvalidDataLength, [])
  else
    match softBusCalloc (dataHead.dataLen.toNat - overheadLen) with
    | none => some (.mallocErr, [])
    | some _ =>
      if data.length < dataHead.dataLen.toNat then none
      else
        match transProxyDecryptPacketData env channelId (data.take dataHead.dataLen.toNat) with
        | .error _ => some (.decryptErr, [])
        | .ok outData =>
          if transProxySessionDataLenCheck outData.length dataHead.flags then
            let notified :=
              transProxyNotifySession env channelId dataHead.flags dataHead.seq outData
            some (if notified.1 = .ok then .ok else .err, notified.2)
          else some (.err, [])

/-- The number of received bytes is not compared with the length in the head. -/
def transProxyNoSubPacketProc (data : Bytes) : Option (SoftBusErrNo × List SessionEvent) :=
  let head := ofBytes data
  if head.magicNumber ≠ magicNumber then some (.err, [])
  else if head.dataLen.toInt ≤ 0 then some (.err, [])
  else
    (transProxyProcessSessionData env channelId head (data.drop sizeofPacketHead)).map
      fun done => (if done.1 = .ok then .ok else .err, done.2)

variable (head : SliceHead)

def transProxyCheckSliceHead : Option ProxyChannelPriority :=
  if head.sliceNum.toInt ≠ 1 ∧ head.sliceNum.toInt ≤ head.sliceSeq.toInt then none
  else ProxyChannelPriority.ofCode head.priority

def transProxyClearProcessor : SliceProcessor := ⟨false, 0, 0, 0, 0, 0, none⟩

/-- The size of the buffer a first slice allocates for the whole packet. -/
def firstSliceMaxLen : Nat :=
  (if head.priority = ProxyChannelPriority.message.code then proxyMessageLengthMax
    else proxyBytesLengthMax) + dataHeadSize + overheadLen

def transProxyFirstSliceProcess (data : Bytes) : SliceProcessor × SoftBusErrNo :=
  match softBusCalloc (firstSliceMaxLen head) with
  | none => (transProxyClearProcessor, .mallocErr)
  | some buf =>
    match memcpyS buf 0 data with
    | none =>
      ({ transProxyClearProcessor with data := some buf, bufLen := firstSliceMaxLen head },
        .sliceError)
    | some filled =>
      (⟨true, 0, head.sliceNum, 1, data.length, firstSliceMaxLen head, some filled⟩, .ok)

variable (processor : SliceProcessor) (head : SliceHead) (data : Bytes)

/-- The checks before a slice is added, and the buffer it is added to. -/
def transProxySliceProcessChkPkgIsValid : Except SoftBusErrNo Bytes :=
  if head.sliceNum ≠ processor.sliceNumber ∨ head.sliceSeq ≠ processor.expectedSeq then
    .error .transProxyAssemblePackNoInvalid
  else if processor.bufLen < data.length + processor.dataLen then
    .error .transProxyAssemblePackExceedLength
  else
    match processor.data with
    | none => .error .transProxyAssemblePackDataNull
    | some buf => .ok buf

/-- What a normal and a last slice have in common. -/
def transProxyAppendSlice : Except SoftBusErrNo SliceProcessor :=
  match transProxySliceProcessChkPkgIsValid processor head data with
  | .error ret => .error ret
  | .ok buf =>
    match memcpyS buf processor.dataLen data with
    | none => .error .memErr
    | some filled =>
      .ok { processor with
        data := some filled
        expectedSeq := processor.expectedSeq + 1
        dataLen := processor.dataLen + data.length }

def transProxyNormalSliceProcess : SliceProcessor × SoftBusErrNo :=
  match transProxyAppendSlice processor head data with
  | .error ret => (processor, ret)
  | .ok next => ({ next with timeout := 0 }, .ok)

def transProxyLastSliceProcess (processor : SliceProcessor) (head : SliceHead) (data : Bytes) :
    Option (SliceProcessor × SoftBusErrNo × List SessionEvent) :=
  match transProxyAppendSlice processor head data with
  | .error ret => some (processor, ret, [])
  | .ok next =>
    (transProxyNoSubPacketProc env channelId (next.data.getD [])).map fun done =>
      (if done.1 = .ok then transProxyClearProcessor else next, done.1, done.2)

/-- One slice at its processor. A processor whose slice failed is cleared. -/
def transProxySliceProcess (data : Bytes)
    (processor : SliceProcessor) : Option (SliceProcessor × SoftBusErrNo × List SessionEvent) :=
  let processed :=
    if head.sliceSeq = 0 then
      let first := transProxyFirstSliceProcess head data
      some (first.1, first.2, [])
    else if head.sliceNum = head.sliceSeq + 1 then
      transProxyLastSliceProcess env channelId processor head data
    else
      let normal := transProxyNormalSliceProcess processor head data
      some (normal.1, normal.2, [])
  processed.map fun done =>
    (if done.2.1 = .ok then done.1 else transProxyClearProcessor, done.2)

variable (processors : List ChannelSliceProcessor) (channelId : BitVec 32)

/-- The node of the channel, added in front if there is none yet. -/
def transProxyGetChannelSliceProcessor : List ChannelSliceProcessor × ChannelSliceProcessor :=
  match lookup ChannelSliceProcessor.channelId channelId processors with
  | some node => (processors, node)
  | none =>
    let node : ChannelSliceProcessor := ⟨channelId, fun _ => transProxyClearProcessor⟩
    (node :: processors, node)

def setSliceProcessor
    (priority : ProxyChannelPriority) (processor : SliceProcessor) : List ChannelSliceProcessor :=
  update ChannelSliceProcessor.channelId channelId
    (fun node => { node with processor := Function.update node.processor priority processor })
    (transProxyGetChannelSliceProcessor processors channelId).1

def transProxySubPacketProc (priority : ProxyChannelPriority) (head : SliceHead) (data : Bytes) :
    Option (List ChannelSliceProcessor × SoftBusErrNo × List SessionEvent) :=
  if data.length = 0 then some (processors, .invalidParam, [])
  else
    let node := (transProxyGetChannelSliceProcessor processors channelId).2
    (transProxySliceProcess env channelId head data (node.processor priority)).map fun done =>
      (setSliceProcessor processors channelId priority done.1, done.2)

def transOnNormalMsgReceived
    (data : Bytes) : Option (List ChannelSliceProcessor × SoftBusErrNo × List SessionEvent) :=
  if data.length ≤ sliceHeadLen then some (processors, .err, [])
  else
    let headSlice := SliceHead.ofBytes data
    match transProxyCheckSliceHead headSlice with
    | none => some (processors, .transProxyInvalidSliceHead, [])
    | some priority =>
      if headSlice.sliceNum = 1 then
        (transProxyNoSubPacketProc env channelId (data.drop sizeofSliceHead)).map fun done =>
          (processors, done)
      else
        transProxySubPacketProc env processors channelId priority headSlice
          (data.drop sizeofSliceHead)

def transProxyDelSliceProcessorByChannelId : List ChannelSliceProcessor :=
  remove ChannelSliceProcessor.channelId channelId processors

def tickProcessor (processor : SliceProcessor) : SliceProcessor :=
  if processor.active then
    if slicePacketTimeout ≤ processor.timeout + 1 then transProxyClearProcessor
    else { processor with timeout := processor.timeout + 1 }
  else processor

def transProxySliceTimerProc (processors : List ChannelSliceProcessor) :
    List ChannelSliceProcessor :=
  processors.map fun node => { node with processor := fun i => tickProcessor (node.processor i) }

end
end DSoftBus.Proxy
