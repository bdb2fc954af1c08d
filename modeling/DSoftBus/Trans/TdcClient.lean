import DSoftBus.Adapter
import DSoftBus.Lib.KeyedList

/-!
The packets of a TCP-direct channel and the client's receive buffer, from
client_trans_tcp_direct_message.c. Of a buffer only the bytes between `data` and `w` are
kept, next to its size; a function that would read others returns `none`. Lengths are
`uint32_t` and wrap where the source adds to them unchecked.

No other call touches the list while one works on its node. Sending an acknowledgement is
recorded, not carried out.
-/
namespace DSoftBus.Tdc
open ByteString KeyedList

inductive Flag where
  | bytes
  | ack
  | message
  | fileFirstFrame
  | fileOngoineFrame
  | fileLastFrame
  | fileOnlyoneFrame
  | fileAllfileSent
  | asyncMessage
  | setLowLatency
deriving DecidableEq

def Flag.code : Flag → BitVec 32
  | .bytes => 0
  | .ack => 1
  | .message => 2
  | .fileFirstFrame => 3
  | .fileOngoineFrame => 4
  | .fileLastFrame => 5
  | .fileOnlyoneFrame => 6
  | .fileAllfileSent => 7
  | .asyncMessage => 8
  | .setLowLatency => 9

inductive SessionPktType where
  | bytes
  | message

structure TcpDataPacketHead where
  magicNumber : BitVec 32
  seq : BitVec 32
  flags : BitVec 32
  dataLen : BitVec 32

open TcpDataPacketHead

variable (head : TcpDataPacketHead)

def TcpDataPacketHead.bytes : Bytes :=
  putWord 4 head.magicNumber ++ (putWord 4 head.seq ++ (putWord 4 head.flags ++
    putWord 4 head.dataLen))

def TcpDataPacketHead.ofBytes (data : Bytes) : TcpDataPacketHead :=
  ⟨getWord 32 4 data, getWord 32 4 (data.drop 4), getWord 32 4 (data.drop 8),
    getWord 32 4 (data.drop 12)⟩

def dcDataHeadSize : Nat := 16
def magicNumber : BitVec 32 := 0xBABEFACE
def ackSize : Nat := 4
def dataExtendLen : Nat := dcDataHeadSize + overheadLen
def minBufLen : Nat := 1024 + dataExtendLen

lemma TcpDataPacketHead.length_bytes : head.bytes.length = dcDataHeadSize := by
  simp [bytes, dcDataHeadSize]

lemma TcpDataPacketHead.ofBytes_append (rest) :
    ofBytes (head.bytes ++ rest) = head := by
  simp [ofBytes, bytes, getWord_putWord_append]

lemma TcpDataPacketHead.ofBytes_take (data) :
    ofBytes (data.take dcDataHeadSize) = ofBytes data := by
  simp [ofBytes, getWord, List.drop_take, List.take_take, dcDataHeadSize]

/-- An acknowledgement carries its sequence number in network byte order. -/
def transTdcPackData (gcm : AesGcm) (sessionKey : Bytes) (iv : GcmIv) (sequence : BitVec 32)
    (data : Bytes) (flags : Flag) : Option Bytes :=
  let dataLen := BitVec.ofNat 32 (data.length + overheadLen)
  if maxMallocSize < (dataLen + BitVec.ofNat 32 dcDataHeadSize).toNat then none
  else
    let finalSeq := if flags = .ack then getWord 32 4 data else sequence
    let finalData := if flags = .ack then (putWord 4 finalSeq).reverse else data
    let pktHead : TcpDataPacketHead := ⟨magicNumber, finalSeq, flags.code, dataLen⟩
    match softBusEncryptDataWithSeq gcm sessionKey iv finalData finalSeq with
    | .error _ => none
    | .ok encrypted => some (pktHead.bytes ++ encrypted)

structure TcpDirectChannelInfo where
  channelId : BitVec 32
  fd : BitVec 32
  sequence : BitVec 32
  sessionKey : Bytes

/-- The cipher with a fresh random vector, the number of bytes the socket takes, and how the
wait for an acknowledgement ends. -/
structure TdcSendContext where
  gcm : AesGcm
  iv : GcmIv
  sendTcpData : (fd : BitVec 32) → Bytes → Nat
  procPendingPacket : (channelId seqNum : BitVec 32) → SoftBusErrNo

/-- The copy that is handed out still has the old sequence number. -/
def transTdcGetInfoByIdWithIncSeq (channels : List TcpDirectChannelInfo) (channelId : BitVec 32) :
    List TcpDirectChannelInfo × Option TcpDirectChannelInfo :=
  (update TcpDirectChannelInfo.channelId channelId
      (fun item => { item with sequence := item.sequence + 1 }) channels,
    lookup TcpDirectChannelInfo.channelId channelId channels)

def transTdcProcessPostData (env : TdcSendContext) (channel : TcpDirectChannelInfo)
    (data : Bytes) (flags : Flag) : SoftBusErrNo :=
  match transTdcPackData env.gcm channel.sessionKey env.iv channel.sequence data flags with
  | none => .encryptErr
  | some buf => if env.sendTcpData channel.fd buf ≠ buf.length then .err else .ok

def transTdcSendMessage (env : TdcSendContext) (channels : List TcpDirectChannelInfo)
    (channelId : BitVec 32) (data : Bytes) : List TcpDirectChannelInfo × SoftBusErrNo :=
  let found := transTdcGetInfoByIdWithIncSeq channels channelId
  match found.2 with
  | none => (found.1, .err)
  | some channel =>
    let ret := transTdcProcessPostData env channel data .message
    (found.1, if ret ≠ .ok then ret else env.procPendingPacket channelId channel.sequence)

structure ClientDataBuf where
  channelId : BitVec 32
  fd : BitVec 32
  size : Nat
  received : Bytes
  fits : received.length ≤ size

def ClientDataBuf.recvLen (node : ClientDataBuf) : Nat := node.size - node.received.length

/-- The `memmove_s` of what follows the first `end` bytes. -/
def ClientDataBuf.moveFront (node : ClientDataBuf) (pkgEnd : Nat) : ClientDataBuf :=
  { node with
    received := node.received.drop pkgEnd
    fits := by
      rw [List.length_drop]
      exact le_trans (Nat.sub_le _ _) node.fits }

structure TdcContext where
  gcm : AesGcm
  sessionKey : (channelId : BitVec 32) → Option Bytes
  onDataReceived : (channelId : BitVec 32) → Bytes → SessionPktType → SoftBusErrNo
  maxBytesLen : Nat
  maxBytesLen_lt : maxBytesLen < 2 ^ 31

def TdcContext.dataBufferMaxLen (env : TdcContext) : Nat := env.maxBytesLen + dataExtendLen

inductive TdcEvent where
  | processDataByFlag (channelId flag seqNum : BitVec 32) (plain : Bytes)
  | onDataReceived (channelId : BitVec 32) (plain : Bytes) (type : SessionPktType)
  | setPendingPacket (channelId seq : BitVec 32)
  | sendAck (channelId seq : BitVec 32)

section
variable (env : TdcContext)

/-- The result of matching the acknowledged packet is not looked at. -/
def transTdcSetPendingPacket (channelId : BitVec 32) (data : Bytes) : List TdcEvent :=
  if data.length ≠ ackSize then []
  else [.setPendingPacket channelId (getWord 32 4 data.reverse)]

def transTdcProcessDataByFlag (flag seqNum channelId : BitVec 32) (plain : Bytes) :
    SoftBusErrNo × List TdcEvent :=
  let call := TdcEvent.processDataByFlag channelId flag seqNum plain
  if flag = Flag.bytes.code then
    (env.onDataReceived channelId plain .bytes, [call, .onDataReceived channelId plain .bytes])
  else if flag = Flag.ack.code then (.ok, call :: transTdcSetPendingPacket channelId plain)
  else if flag = Flag.message.code then
    (env.onDataReceived channelId plain .message,
      [call, .sendAck channelId seqNum, .onDataReceived channelId plain .message])
  else (.err, [call])

def transTdcProcessData (node : ClientDataBuf) :
    Option (ClientDataBuf × SoftBusErrNo × List TdcEvent) :=
  match env.sessionKey node.channelId with
  | none => some (node, .err, [])
  | some sessionKey =>
    let pktHead := ofBytes node.received
    match softBusCalloc (pktHead.dataLen - BitVec.ofNat 32 overheadLen).toNat with
    | none => some (node, .mallocErr, [])
    | some _ =>
      let pkgEnd := dcDataHeadSize + pktHead.dataLen.toNat
      if node.received.length < pkgEnd then none
      else
        match softBusDecryptData env.gcm sessionKey
            ((node.received.drop dcDataHeadSize).take pktHead.dataLen.toNat) with
        | .error _ => some (node, .decryptErr, [])
        | .ok plain =>
          some (node.moveFront pkgEnd, transTdcProcessDataByFlag env pktHead.flags pktHead.seq
            node.channelId plain)

def transResizeDataBuffer (oldBuf : ClientDataBuf) (pkgLen : Nat) : ClientDataBuf × SoftBusErrNo :=
  match softBusCalloc pkgLen with
  | none => (oldBuf, .memErr)
  | some _ =>
    if fits : oldBuf.received.length ≤ pkgLen then
      ({ oldBuf with size := pkgLen, fits := fits }, .ok)
    else (oldBuf, .memErr)

def transTdcProcAllDataLoop : Nat → ClientDataBuf →
    Option (ClientDataBuf × SoftBusErrNo × List TdcEvent)
  | 0, _ => none
  | fuel + 1, node =>
    let bufLen := node.received.length
    if bufLen < dcDataHeadSize then some (node, .dataNotEnough, [])
    else
      let pktHead := ofBytes node.received
      if pktHead.magicNumber ≠ magicNumber then some (node, .err, [])
      else
        let pkgLen := (pktHead.dataLen + BitVec.ofNat 32 dcDataHeadSize).toNat
        if env.dataBufferMaxLen < pkgLen then some (node, .err, [])
        else if node.size < pkgLen then
          let resized := transResizeDataBuffer node pkgLen
          some (resized.1, resized.2, [])
        else if bufLen < pkgLen then some (node, .dataNotEnough, [])
        else
          match transTdcProcessData env node with
          | none => none
          | some (next, ret, events) =>
            if ret ≠ .ok then some (next, .err, events)
            else
              (transTdcProcAllDataLoop fuel next).map fun done =>
                (done.1, done.2.1, events ++ done.2.2)

/-- Every round takes at least a head out of the buffer, so this is enough fuel. -/
def transTdcProcAllData (node : ClientDataBuf) :
    Option (ClientDataBuf × SoftBusErrNo × List TdcEvent) :=
  transTdcProcAllDataLoop env (node.received.length + 1) node

variable (nodes : List ClientDataBuf)

def transAddDataBufNode (channelId fd : BitVec 32) :
    List ClientDataBuf := ⟨channelId, fd, minBufLen, [], Nat.zero_le _⟩ :: nodes

def transDelDataBufNode (channelId : BitVec 32) : List ClientDataBuf :=
  remove ClientDataBuf.channelId channelId nodes

/-- `chunk` is what the socket returns; it is at most what was asked for, and it is
empty when the socket is closed or fails. -/
def transTdcRecvData (channelId : BitVec 32)
    (chunk : Bytes) : Option (List ClientDataBuf × SoftBusErrNo × List TdcEvent) :=
  match lookup ClientDataBuf.channelId channelId nodes with
  | none => some (nodes, .err, [])
  | some node =>
    if chunk.length = 0 then some (nodes, .err, [])
    else if fits : (node.received ++ chunk).length ≤ node.size then
      (transTdcProcAllData env
        { node with received := node.received ++ chunk, fits := fits }).map fun done =>
          (update ClientDataBuf.channelId channelId (fun _ => done.1) nodes, done.2)
    else none

inductive TdcInput where
  | recvData (channelId : BitVec 32) (chunk : Bytes)
  | addNode (channelId fd : BitVec 32)
  | delNode (channelId : BitVec 32)

/-- A call of `TransTdcRecvData` has its return code and its events as output. -/
def tdcStep : TdcInput → Option (List ClientDataBuf × List (SoftBusErrNo × List TdcEvent))
  | .recvData channelId chunk =>
    (transTdcRecvData env nodes channelId chunk).map fun done => (done.1, [done.2])
  | .addNode channelId fd => some (transAddDataBufNode nodes channelId fd, [])
  | .delNode channelId => some (transDelDataBufNode nodes channelId, [])

end
end DSoftBus.Tdc
