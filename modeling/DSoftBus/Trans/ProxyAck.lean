import DSoftBus.Trans.PendingPacket
import DSoftBus.Trans.ProxyRoundTrip

/-!
The acknowledgement of a synchronous send on its way back. The receiver copies the
sequence number as it stands in its memory, and the sender reads it in network byte order.
Between little-endian devices the bytes come back the other way round, and the waiting
entry is found only if that makes no difference.
-/
namespace DSoftBus.Proxy
open ByteString Execution Pending KeyedList List PendingPktInfo

/-- The conversion on a little-endian device. -/
def ntohl (word : BitVec 32) : BitVec 32 := getWord 32 4 (putWord 4 word).reverse

lemma transProxyTransDataSendMsg_single {env channels channelId info packet}
    (posts : ∀ connId priority buf, env.connPostBytes connId priority buf)
    (found : lookup ProxyChannelInfo.channelId channelId channels = some info)
    (completed : info.status = .completed) (nonempty : 0 < packet.length)
    (short : packet.length ≤ maxSendLength) (flag) :
    (transProxyTransDataSendMsg env channels channelId packet flag).2.2 =
      [⟨info.connId, proxyTypeToConnPri flag,
        sliceBytes info.myId info.peerId flag packet 1 0⟩] := by
  have maximum : maxSendLength = 1024 := rfl
  have single : (packet.length + maxSendLength - 1) / maxSendLength = 1 := by
    rw [maximum] at short ⊢
    omega
  have usable : ¬ (info.touch.status ≠ .completed ∧ info.touch.status ≠ .keepliveing) := by
    rw [info.touch_fields.1, completed]
    exact fun both => both.1 rfl
  obtain ⟨_, myId, peerId, connId, _⟩ := info.touch_fields
  have packed : transProxyPackAppNormalMsg (plainHead .normal info.myId info.peerId)
      (sliceHeadAt flag 1 0) packet = some (sliceBytes info.myId info.peerId flag packet 1 0) := by
    rw [transProxyPackAppNormalMsg, softBusCalloc_eq_some]
    · rfl
    · simp only [proxyChannelHeadLen]
      omega
    · simp only [proxyChannelHeadLen, sizeofSliceHead, maxMallocSize]
      omega
  rw [transProxyTransDataSendMsg, (lookup_touched found).1]
  simp [if_neg usable, transProxyTransAppNormalMsg, single, transProxyPostSlices, slicePayload,
    myId, peerId, connId, packed, posts]

/-- A synchronous send whose receiver answers on the same channel; both ends hold the same key.
-/
structure AckReturn {send : SessionSend} (peer : SessionPeer send) where
  synchronous : send.flag = .message
  context : SendContext
  posts : ∀ connId priority buf, context.connPostBytes connId priority buf
  channels : List ProxyChannelInfo
  info : ProxyChannelInfo
  found : lookup ProxyChannelInfo.channelId peer.channelId channels = some info
  completed : info.status = .completed
  sameCipher : context.gcm = send.context.gcm
  sameKey : info.sessionKey = send.info.sessionKey
  home : ReceiveContext
  homeCipher : home.gcm = send.context.gcm
  homeKey : home.sessionKey send.channelId = some send.info.sessionKey
  connId : BitVec 32

/-- What the calls of SetPendingPacket among the events make of the waiting entries. -/
def setPendingPackets (pendingList : List PendingPktInfo) : List SessionEvent → List PendingPktInfo
  | [] => pendingList
  | .setPendingPacket channelId seq :: rest =>
    setPendingPackets (setPendingPacket pendingList channelId seq).1 rest
  | _ :: rest => setPendingPackets pendingList rest

namespace AckReturn
variable {send : SessionSend} {peer : SessionPeer send} (ack : AckReturn peer)

/-- The buffers of the acknowledgements that receiving the message makes the peer post. -/
def posted : List ConnPostData :=
  peer.events.flatMap fun
    | .postAck channelId data =>
      (transProxyPostPacketData ack.context ack.channels channelId data .ack).2.2
    | _ => []

def homeContext (pendingList : List PendingPktInfo) : ReceiveContext :=
  { ack.home with
    setPendingPacket := fun channelId seq => (setPendingPacket pendingList channelId seq).2 }

/-- The waiting entries of the sender after the acknowledgement has been delivered. -/
def delivered (processors : List ChannelSliceProcessor) (pendingList : List PendingPktInfo) :
    Option (List PendingPktInfo) :=
  (run (receiveStep (ack.homeContext pendingList)) processors
    (ack.posted.map fun post => .message send.channelId ack.connId post.buf)).map
      fun done => setPendingPackets pendingList done.2

def CompletesOwn : Prop :=
  ∀ processors pendingList, (lookup key (send.channelId, send.info.seq) pendingList).isSome →
    ack.delivered processors pendingList =
      some (update key (send.channelId, send.info.seq) .find pendingList)

def packet (send : SessionSend) (cipherText : Bytes) : Bytes :=
  (PacketHead.mk magicNumber send.info.seq ProxyPacketType.ack.code
    (BitVec.ofNat 32 cipherText.length)).bytes ++ cipherText

abbrev number (send : SessionSend) : Bytes := putWord proxyAckSize send.info.seq

lemma length_number : (number send).length = 4 := length_putWord ..

def Seals (cipherText : Bytes) : Prop :=
  softBusEncryptDataWithSeq ack.context.gcm ack.info.sessionKey ack.context.iv (number send)
    send.info.seq = .ok cipherText

lemma exists_cipherText : ∃ cipherText, ack.Seals cipherText ∧ cipherText.length = 32 := by
  have encrypted := @softBusEncryptData_eq_ok ack.context.gcm ack.info.sessionKey (number send)
    (ack.context.iv.withSeq send.info.seq) (by rw [length_number]; decide)
  refine ⟨_, encrypted, ?_⟩
  rw [length_softBusEncryptData encrypted, length_number]
  rfl

lemma transProxyPackBytes_ack {cipherText} (encrypted : ack.Seals cipherText) :
    transProxyPackBytes ack.context ack.channels peer.channelId (number send) .ack =
      (update ProxyChannelInfo.channelId peer.channelId .touch ack.channels,
        .ok (send.info.seq, packet send cipherText)) := by
  have allocated : softBusCalloc ((number send).length + overheadLen + sizeofPacketHead) =
      some (replicate ((number send).length + overheadLen + sizeofPacketHead) 0) := by
    rw [length_number]
    exact softBusCalloc_eq_some (by decide) (by decide)
  have own : transProxyGetPktSeqId ack.channels peer.channelId (number send) .ack =
      (ack.channels, send.info.seq) := by
    have read := @getWord_putWord_append 32 4 (by decide) send.info.seq []
    rw [append_nil] at read
    rw [transProxyGetPktSeqId, if_pos ⟨rfl, le_of_eq length_number⟩]
    exact congrArg (Prod.mk ack.channels) read
  rw [transProxyPackBytes, allocated]
  simp only [own, transProxyEncryptPacketData_encrypted ack.found encrypted]
  rfl

lemma posted_eq {cipherText} (encrypted : ack.Seals cipherText) (len : cipherText.length = 32) :
    ack.posted.map (·.buf) =
      [sliceBytes ack.info.myId ack.info.peerId .ack (packet send cipherText) 1 0] := by
  have total : (packet send cipherText).length = 48 := by
    rw [packet, length_append, PacketHead.length_bytes, len]
    rfl
  obtain ⟨status, myId, peerId, _⟩ := ack.info.touch_fields
  have nonempty : 0 < (packet send cipherText).length := by omega
  have short : (packet send cipherText).length ≤ maxSendLength := by
    rw [total]
    decide
  have sent := transProxyTransDataSendMsg_single ack.posts (lookup_touched ack.found).2
    (status.trans ack.completed) nonempty short .ack
  have events : peer.events = [.notifySession peer.channelId send.flag.code send.info.seq
      send.payload, .postAck peer.channelId (number send),
      .clientMsgReceived peer.channelId send.payload .message] := by
    rw [SessionPeer.events, ack.synchronous]
    rfl
  rw [posted, events]
  simp [transProxyPostPacketData, ack.transProxyPackBytes_ack encrypted, sent, myId, peerId]

/-- The sender looks for an entry under the number that its conversion makes of the
acknowledged one. -/
lemma delivered_eq (processors pendingList) : ack.delivered processors pendingList =
      some (update key (send.channelId, ntohl send.info.seq) .find pendingList) := by
  obtain ⟨cipherText, encrypted, len⟩ := ack.exists_cipherText
  have opened : softBusEncryptDataWithSeq (ack.homeContext pendingList).gcm
      send.info.sessionKey ack.context.iv (number send) send.info.seq = .ok cipherText := by
    rw [← ack.sameKey, ← encrypted, ack.sameCipher, ← ack.homeCipher]
    rfl
  have four := @length_number send
  obtain ⟨ret, processed⟩ := @transProxyNoSubPacketProc_encrypted (ack.homeContext pendingList)
    send.channelId send.info.sessionKey ack.context.iv ProxyPacketType.ack.code send.info.seq
    (number send) cipherText ack.homeKey opened (by omega) (by omega) rfl []
  rw [append_nil] at processed
  have long : 16 < (slicePayload (packet send cipherText) 1 0).length := by
    rw [slicePayload, if_neg (by decide), packet, length_append, PacketHead.length_bytes, len]
    decide
  have received : receiveStep (ack.homeContext pendingList) processors (.message send.channelId
      ack.connId (sliceBytes ack.info.myId ack.info.peerId .ack (packet send cipherText) 1 0)) =
      some (processors, [.notifySession send.channelId ProxyPacketType.ack.code send.info.seq
        (number send), .setPendingPacket send.channelId (ntohl send.info.seq)]) := by
    rw [receiveStep_single long, packet, processed]
    rfl
  have inputs : (ack.posted.map fun post => SliceInput.message send.channelId ack.connId
      post.buf) = [.message send.channelId ack.connId
        (sliceBytes ack.info.myId ack.info.peerId .ack (packet send cipherText) 1 0)] := by
    have buffers := congrArg (map (SliceInput.message send.channelId ack.connId))
      (ack.posted_eq encrypted len)
    rw [map_map] at buffers
    exact buffers
  rw [delivered, inputs, run_singleton, received, ← setPendingPacket_list]
  rfl

/-- The acknowledgement completes the entry of its send, and no other, exactly if the sequence
number reads the same in both directions. -/
theorem completesOwn_iff : ack.CompletesOwn ↔ ntohl send.info.seq = send.info.seq := by
  constructor
  · intro completes
    by_contra different
    let waiting : PendingPktInfo := ⟨send.channelId, send.info.seq, false⟩
    have missed : waiting.key ≠ (send.channelId, ntohl send.info.seq) :=
      fun same => different (congrArg Prod.snd same).symm
    have here : waiting.key = (send.channelId, send.info.seq) := rfl
    have done := completes [] [waiting] (by rw [lookup_cons_self here]; rfl)
    rw [delivered_eq, update, if_neg missed, update, update, if_pos here] at done
    have found : false := congrArg finded
      (cons.inj (Option.some.inj done)).1
    cases found
  · intro same processors pendingList _
    rw [delivered_eq, same]

end AckReturn

def secondSend : SessionSend where
  context := ⟨.identity, .zero, fun _ _ _ => true, fun _ _ => .timout⟩
  posts _ _ _ := rfl
  channels := [⟨1, .completed, 0, 1, 2, 1, 1, []⟩]
  channelId := 1
  info := ⟨1, .completed, 0, 1, 2, 1, 1, []⟩
  found := rfl
  completed := rfl
  flag := .message
  payload := [0]
  nonempty := by decide
  bounded := Or.inr ⟨rfl, by decide⟩

def secondPeer : SessionPeer secondSend where
  context := ⟨.identity, ⟨fun _ => none, fun _ => none, .identity, []⟩, fun _ => some [],
    fun _ _ _ => .ok, fun _ _ => .err⟩
  channelId := 2
  connId := 1
  sameCipher := rfl
  sameKey := rfl

def secondAck : AckReturn secondPeer where
  synchronous := rfl
  context := secondSend.context
  posts _ _ _ := rfl
  channels := [⟨2, .completed, 0, 2, 1, 1, 0, []⟩]
  info := ⟨2, .completed, 0, 2, 1, 1, 0, []⟩
  found := rfl
  completed := rfl
  sameCipher := rfl
  sameKey := rfl
  home := secondPeer.context
  homeCipher := rfl
  homeKey := rfl
  connId := 1

/-- The acknowledgement of message 1 completes the entry of message 0x01000000 instead. -/
theorem secondAck_completes_other : ¬ secondAck.CompletesOwn ∧
      secondAck.delivered [] [⟨1, 0x01000000, false⟩, ⟨1, 1, false⟩] =
        some [⟨1, 0x01000000, true⟩, ⟨1, 1, false⟩] := by
  constructor
  · intro completes
    have done := completes [] [⟨1, 0x01000000, false⟩, ⟨1, 1, false⟩] (by decide)
    rw [AckReturn.delivered_eq] at done
    revert done
    decide
  · rw [AckReturn.delivered_eq]
    decide

end DSoftBus.Proxy
