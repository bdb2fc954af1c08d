import DSoftBus.Auth.SessionKey

/-!
The control packets of a TCP-direct channel on the server side, from
trans_tcp_direct_message.c: how they are posted, and the buffer of 4096 bytes in which
they are received. Of a buffer only the bytes between `data` and `w` are kept; a function
that would read others returns `none`. Lengths are `uint32_t` and wrap where the source
subtracts unchecked. A call of TransTdcSrvRecvData reads once and handles at most one
packet.
-/
namespace DSoftBus.TdcServer
open ByteString Auth

structure TdcPacketHead where
  magicNumber : BitVec 32
  module : BitVec 32
  seq : BitVec 64
  flags : BitVec 32
  dataLen : BitVec 32

open TdcPacketHead

variable (head : TdcPacketHead)

def TdcPacketHead.bytes : Bytes :=
  putWord 4 head.magicNumber ++ (putWord 4 head.module ++ (putWord 8 head.seq ++
    (putWord 4 head.flags ++ putWord 4 head.dataLen)))

def TdcPacketHead.ofBytes (data : Bytes) : TdcPacketHead :=
  ⟨getWord 32 4 data, getWord 32 4 (data.drop 4), getWord 64 8 (data.drop 8),
    getWord 32 4 (data.drop 16), getWord 32 4 (data.drop 20)⟩

def dcMsgPacketHeadSize : Nat := 24
def sessionKeyIndexSize : Nat := 4
def messageIndexSize : Nat := 4
def magicNumber : BitVec 32 := 0xBABEFACE
def moduleSession : BitVec 32 := 6
def flagRequest : BitVec 32 := 0
def flagReply : BitVec 32 := 1
def authConnServerSide : BitVec 64 := 0x01
def maxDataBuf : Nat := 4096

lemma TdcPacketHead.length_bytes : head.bytes.length = dcMsgPacketHeadSize := by
  simp [bytes, dcMsgPacketHeadSize]

lemma TdcPacketHead.ofBytes_append (rest) : ofBytes (head.bytes ++ rest) = head := by
  simp [ofBytes, bytes, getWord_putWord_append]

lemma TdcPacketHead.ofBytes_take (data) :
    ofBytes (data.take dcMsgPacketHeadSize) = ofBytes data := by
  simp [ofBytes, getWord, List.drop_take, List.take_take, dcMsgPacketHeadSize]

/-- The address of the peer of a session, the session keys with a fresh random vector, and the
number of bytes the socket takes. -/
structure PostContext where
  gcm : AesGcm
  iv : GcmIv
  keys : List SessionKeyList
  sessionConn : (channelId : BitVec 32) → Option ConnectOption
  sendTcpData : (channelId : BitVec 32) → Bytes → Nat

/-- A request that is encrypted with a key of the server side says so in its number. -/
def packBytes (env : PostContext) (channelId : BitVec 32) (data : Bytes)
    (packetHead : TdcPacketHead) : Except SoftBusErrNo Bytes :=
  match env.sessionConn channelId with
  | none => .error .err
  | some option =>
    let len := packetHead.dataLen - BitVec.ofNat 32 sessionKeyIndexSize -
      BitVec.ofNat 32 overheadLen
    match authEncrypt env.gcm env.iv option (data.take len.toNat) packetHead.dataLen.toNat
        env.keys with
    | .error _ => .error .err
    | .ok (side, message) =>
      let seq := if packetHead.flags = flagRequest ∧ side = .server then
        packetHead.seq ||| authConnServerSide else packetHead.seq
      .ok ({ packetHead with seq := seq }.bytes ++ message)

def transTdcPostBytes (env : PostContext) (channelId : BitVec 32) (packetHead : TdcPacketHead)
    (data : Bytes) : SoftBusErrNo :=
  let bufferLen := packetHead.dataLen + BitVec.ofNat 32 dcMsgPacketHeadSize
  if bufferLen.toNat ≤ overheadLen + messageIndexSize + dcMsgPacketHeadSize then .invalidParam
  else if maxMallocSize < bufferLen.toNat then .mallocErr
  else
    match packBytes env channelId data packetHead with
    | .error _ => .encryptErr
    | .ok buffer => if env.sendTcpData channelId buffer ≠ bufferLen.toNat then .err else .ok

structure ServerDataBuf where
  channelId : BitVec 32
  fd : BitVec 32
  size : Nat
  received : Bytes
  fits : received.length ≤ size

def ServerDataBuf.recvLen (node : ServerDataBuf) : Nat := node.size - node.received.length

def ServerDataBuf.moveFront (node : ServerDataBuf) (pkgEnd : Nat) : ServerDataBuf :=
  { node with
    received := node.received.drop pkgEnd
    fits := by
      rw [List.length_drop]
      exact le_trans (Nat.sub_le _ _) node.fits }

/-- The address of the peer of a session, the session keys, and how requests and replies are
answered. -/
structure ServerContext where
  gcm : AesGcm
  keys : List SessionKeyList
  sessionConn : (channelId : BitVec 32) → Option ConnectOption
  cJsonParse : Bytes → Option JsonObject
  openDataBusReply : (channelId : BitVec 32) → (seq : BitVec 64) → JsonObject → SoftBusErrNo
  openDataBusRequest : (channelId : BitVec 32) → (seq : BitVec 64) → JsonObject → SoftBusErrNo

/-- `packet` is the call of ProcessReceivedData with the length in the head and the number of
received bytes; `message` is what it has decrypted and taken out of the buffer. -/
inductive ServerEvent where
  | delTrigger (fd : BitVec 32)
  | packet (channelId dataLen : BitVec 32) (received : Nat)
  | message (channelId flags : BitVec 32) (seq : BitVec 64) (plain : Bytes)
deriving DecidableEq

section
variable (env : ServerContext)

def decryptMessage (channelId : BitVec 32) (input : Bytes) (bufLen : Nat) :
    Except SoftBusErrNo Bytes :=
  match env.sessionConn channelId with
  | none => .error .err
  | some option =>
    match authDecrypt env.gcm option .client input bufLen env.keys with
    | .error _ => .error .err
    | .ok plain => .ok plain

def processMessage (channelId flags : BitVec 32) (seq : BitVec 64) (packet : JsonObject) :
    SoftBusErrNo :=
  if flags &&& flagReply ≠ 0 then env.openDataBusReply channelId seq packet
  else env.openDataBusRequest channelId seq packet

/-- The room for the plain text, with the closing zero. -/
def plainLen (inLen : BitVec 32) : BitVec 32 :=
  inLen - BitVec.ofNat 32 sessionKeyIndexSize - BitVec.ofNat 32 overheadLen + 1

/-- The length in the head is not compared with the overhead. -/
def processReceivedData (node : ServerDataBuf) :
    Option (ServerDataBuf × SoftBusErrNo × List ServerEvent) :=
  let pktHead := ofBytes node.received
  let call := ServerEvent.packet node.channelId pktHead.dataLen node.received.length
  if pktHead.module ≠ moduleSession then some (node, .err, [call])
  else
    match softBusCalloc (plainLen pktHead.dataLen).toNat with
    | none => some (node, .mallocErr, [call])
    | some _ =>
      let pkgEnd := dcMsgPacketHeadSize + pktHead.dataLen.toNat
      if node.received.length < pkgEnd then none
      else
        match decryptMessage env node.channelId
            ((node.received.drop dcMsgPacketHeadSize).take pktHead.dataLen.toNat)
            (plainLen pktHead.dataLen).toNat with
        | .error _ => some (node, .err, [call])
        | .ok plain =>
          let ret := match env.cJsonParse plain with
            | none => .err
            | some packet =>
              processMessage env node.channelId pktHead.flags pktHead.seq packet
          some (node.moveFront pkgEnd, ret,
            [call, .message node.channelId pktHead.flags pktHead.seq plain])

/-- Once a packet is complete the socket is not watched for input any more. -/
def transTdcSrvProcData (node : ServerDataBuf) :
    Option (ServerDataBuf × SoftBusErrNo × List ServerEvent) :=
  let bufLen := node.received.length
  if bufLen < dcMsgPacketHeadSize then some (node, .dataNotEnough, [])
  else
    let pktHead := ofBytes node.received
    if pktHead.magicNumber ≠ magicNumber then some (node, .err, [])
    else if node.size - dcMsgPacketHeadSize < pktHead.dataLen.toNat then some (node, .err, [])
    else if bufLen < pktHead.dataLen.toNat + dcMsgPacketHeadSize then
      some (node, .dataNotEnough, [])
    else
      (processReceivedData env node).map fun done =>
        (done.1, done.2.1, .delTrigger node.fd :: done.2.2)

variable (nodes : List ServerDataBuf)

def transSrvAddDataBufNode (channelId fd : BitVec 32) :
    List ServerDataBuf := nodes ++ [⟨channelId, fd, maxDataBuf, [], Nat.zero_le _⟩]

def transSrvDelDataBufNode (channelId : BitVec 32) :
    List ServerDataBuf := KeyedList.remove ServerDataBuf.channelId channelId nodes

/-- `chunk` is what the socket returns; it is at most what was asked for, and it is empty when the
socket is closed or fails. -/
def transTdcSrvRecvData (channelId : BitVec 32)
    (chunk : Bytes) : Option (List ServerDataBuf × SoftBusErrNo × List ServerEvent) :=
  match KeyedList.lookup ServerDataBuf.channelId channelId nodes with
  | none => some (nodes, .err, [])
  | some node =>
    if chunk.length = 0 then some (nodes, .err, [])
    else if fits : (node.received ++ chunk).length ≤ node.size then
      (transTdcSrvProcData env
        { node with received := node.received ++ chunk, fits := fits }).map fun done =>
          (KeyedList.update ServerDataBuf.channelId channelId (fun _ => done.1) nodes, done.2)
    else none

inductive ServerInput where
  | recvData (channelId : BitVec 32) (chunk : Bytes)
  | addNode (channelId fd : BitVec 32)
  | delNode (channelId : BitVec 32)

def serverStep : ServerInput → Option (List ServerDataBuf × List ServerEvent)
  | .recvData channelId chunk =>
    (transTdcSrvRecvData env nodes channelId chunk).map fun done => (done.1, done.2.2)
  | .addNode channelId fd => some (transSrvAddDataBufNode nodes channelId fd, [])
  | .delNode channelId => some (transSrvDelDataBufNode nodes channelId, [])

end
end DSoftBus.TdcServer
