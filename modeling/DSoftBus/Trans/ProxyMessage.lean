import DSoftBus.Auth.SessionKey

/-!
The records of the proxy channel and the parsing of its messages, from
softbus_proxychannel_message.c and its header. Records travel as their memory
image on a little-endian device. The application data of a channel is left out
except for the session key, and so is what only the handshake reads.
-/
namespace DSoftBus.Proxy
open ByteString

inductive MsgType where
  | normal
  | handshake
  | handshakeAck
  | reset
  | keepalive
  | keepaliveAck
deriving DecidableEq

def MsgType.code : MsgType → BitVec 8
  | .normal => 0
  | .handshake => 1
  | .handshakeAck => 2
  | .reset => 3
  | .keepalive => 4
  | .keepaliveAck => 5

/-- A code from `PROXYCHANNEL_MSG_TYPE_MAX` on is no message type. -/
def MsgType.ofCode (code : BitVec 8) : Option MsgType :=
  [.normal, .handshake, .handshakeAck, .reset, .keepalive, .keepaliveAck].find?
    (fun type => type.code = code)

structure ProxyMessageHead where
  type : BitVec 8
  chiper : BitVec 8
  myId : BitVec 16
  peerId : BitVec 16
  reserved : BitVec 16

def ProxyMessageHead.bytes (head : ProxyMessageHead) : Bytes :=
  putWord 1 head.type ++ (putWord 1 head.chiper ++ (putWord 2 head.myId ++
    (putWord 2 head.peerId ++ putWord 2 head.reserved)))

structure ProxyMessage where
  type : MsgType
  chiper : BitVec 8
  myId : BitVec 16
  peerId : BitVec 16
  data : Bytes
  connId : BitVec 32
  chiperSide : BitVec 32

inductive ProxyChannelStatus where
  | pyhConnected
  | pyhConnecting
  | handshakeing
  | keepliveing
  | timeout
  | handshakeTimeout
  | completed
deriving DecidableEq

structure ProxyChannelInfo where
  channelId : BitVec 32
  status : ProxyChannelStatus
  timeout : BitVec 16
  myId : BitVec 16
  peerId : BitVec 16
  connId : BitVec 32
  seq : BitVec 32
  sessionKey : Bytes

def version : BitVec 8 := 1
def proxyChannelHeadLen : Nat := 8
def versionShift : Nat := 4
def fourBitMask : BitVec 8 := 0xF
def encrypted : BitVec 8 := 0x1
def authServerSide : BitVec 8 := 0x2
def proxyBytesLengthMax : Nat := 4 * 1024
def proxyMessageLengthMax : Nat := 1024

/-- What parsing an encrypted message asks: the cipher side of a channel, the connect option of
a connection, and the session keys. -/
structure CipherContext where
  chiperSide : BitVec 16 → Option Auth.AuthSideFlag
  connectOption : BitVec 32 → Option Auth.ConnectOption
  gcm : AesGcm
  keys : List Auth.SessionKeyList

variable (cipher : CipherContext)

def chiperSideProc (msg : ProxyMessage) : Option Auth.AuthSideFlag :=
  if msg.type = .handshake then
    some (if msg.chiper &&& authServerSide ≠ 0 then .client else .server)
  else cipher.chiperSide msg.myId

variable (connId : BitVec 32)

/-- The ids change places: the sender's own id is the receiver's peer. -/
def transProxyParseMessageHead (data : Bytes) : Option ProxyMessage :=
  let firstByte := getWord 8 1 data
  if (firstByte >>> versionShift) &&& fourBitMask ≠ version then none
  else
    (MsgType.ofCode (firstByte &&& fourBitMask)).map fun type =>
      { type := type
        chiper := getWord 8 1 (data.drop 1)
        peerId := getWord 16 2 (data.drop 2)
        myId := getWord 16 2 (data.drop 4)
        data := data.drop proxyChannelHeadLen
        connId := connId
        chiperSide := 0 }

def transProxyParseMessage (data : Bytes) : Option ProxyMessage :=
  if data.length ≤ proxyChannelHeadLen then none
  else do
    let msg ← transProxyParseMessageHead connId data
    if msg.chiper &&& encrypted ≠ 0 then
      let side ← chiperSideProc cipher msg
      let option ← cipher.connectOption connId
      let deBuf ← softBusCalloc (data.length - proxyChannelHeadLen)
      let plain ← (Auth.authDecrypt cipher.gcm option side (data.drop proxyChannelHeadLen)
        deBuf.length cipher.keys).toOption
      some { msg with data := plain, chiperSide := side.code }
    else some msg

lemma length_proxyMessageHead (head : ProxyMessageHead) :
    head.bytes.length = proxyChannelHeadLen := by
  simp [ProxyMessageHead.bytes, proxyChannelHeadLen]

variable (type : MsgType) (myId peerId : BitVec 16)

def plainHead : ProxyMessageHead :=
  ⟨(type.code &&& fourBitMask) ||| (version <<< versionShift), 0, myId, peerId, 0⟩

lemma transProxyParseMessageHead_plain (body : Bytes) :
    transProxyParseMessageHead connId ((plainHead type myId peerId).bytes ++ body) =
      some ⟨type, 0, peerId, myId, body, connId, 0⟩ := by
  cases type <;>
    simp [transProxyParseMessageHead, plainHead, ProxyMessageHead.bytes, getWord_putWord_append,
      proxyChannelHeadLen, MsgType.code, MsgType.ofCode, fourBitMask, version, versionShift]

lemma transProxyParseMessage_plain {body} (nonempty : 0 < body.length) :
    transProxyParseMessage cipher connId ((plainHead type myId peerId).bytes ++ body) =
      some ⟨type, 0, peerId, myId, body, connId, 0⟩ := by
  have long : ¬ ((plainHead type myId peerId).bytes ++ body).length ≤ proxyChannelHeadLen := by
    rw [List.length_append, length_proxyMessageHead]
    omega
  have unencrypted : ¬ (0#8 &&& encrypted ≠ 0) := by decide
  rw [transProxyParseMessage, if_neg long, transProxyParseMessageHead_plain,
    Option.bind_eq_bind, Option.bind_some]
  exact if_neg unencrypted

end DSoftBus.Proxy
