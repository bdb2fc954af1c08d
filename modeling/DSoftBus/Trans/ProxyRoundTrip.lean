import DSoftBus.Trans.ProxySlicing

/-!
Session data from the sender's call to the receiver's notification. The packet is 44 bytes
longer than the data. If it needs several slices and the last carries at most 16 bytes,
the receiver refuses that slice and the data is lost; in every other case it is delivered
exactly once, whatever traffic the slices meet.
-/
namespace DSoftBus.Proxy
open ByteString Execution KeyedList List ProxyChannelInfo

lemma ProxyChannelInfo.touch_fields (info : ProxyChannelInfo) :
    info.touch.status = info.status ∧ info.touch.myId = info.myId ∧
      info.touch.peerId = info.peerId ∧ info.touch.connId = info.connId ∧
      info.touch.sessionKey = info.sessionKey ∧ info.touch.channelId = info.channelId := by
  rw [touch]
  split
  · exact ⟨rfl, rfl, rfl, rfl, rfl, rfl⟩
  · exact ⟨rfl, rfl, rfl, rfl, rfl, rfl⟩

variable {chans : List ProxyChannelInfo} {cid : BitVec 32}

lemma lookup_touched {info} (h : lookup ProxyChannelInfo.channelId cid chans = some info) :
    transProxyGetSendMsgChanInfo chans cid =
        (update ProxyChannelInfo.channelId cid .touch chans, some info.touch) ∧
      lookup ProxyChannelInfo.channelId cid
        (update ProxyChannelInfo.channelId cid .touch chans) = some info.touch := by
  have after : lookup ProxyChannelInfo.channelId cid
      (update ProxyChannelInfo.channelId cid .touch chans) = some info.touch := by
    rw [lookup_update_self
      (fun info here => info.touch_fields.2.2.2.2.2.trans here), h]
    rfl
  exact ⟨by rw [transProxyGetSendMsgChanInfo, after], after⟩

lemma transProxyEncryptPacketData_encrypted {env seq info inData cipherText}
    (h : lookup ProxyChannelInfo.channelId cid chans = some info)
    (encrypted : softBusEncryptDataWithSeq env.gcm info.sessionKey env.iv inData seq =
      .ok cipherText) : transProxyEncryptPacketData env chans cid seq inData =
      (update ProxyChannelInfo.channelId cid .touch chans, .ok cipherText) := by
  have len : cipherText.length = inData.length + overheadLen := length_softBusEncryptData encrypted
  rw [transProxyEncryptPacketData, transProxyGetSessionKeyByChanId, (lookup_touched h).1]
  simp only [Option.map_some, info.touch_fields.2.2.2.2.1, encrypted]
  exact if_neg (not_not.mpr len)

/-- One call to send session data: the channel is completed, the length is allowed, and the
connection layer takes every buffer. -/
structure SessionSend where
  context : SendContext
  posts : ∀ connId priority buf, context.connPostBytes connId priority buf
  channels : List ProxyChannelInfo
  channelId : BitVec 32
  info : ProxyChannelInfo
  found : lookup ProxyChannelInfo.channelId channelId channels = some info
  completed : info.status = .completed
  flag : ProxyPacketType
  payload : Bytes
  nonempty : 1 ≤ payload.length
  bounded : flag = .bytes ∧ payload.length ≤ 4096 ∨ flag = .message ∧ payload.length ≤ 1024

namespace SessionSend
variable (send : SessionSend)

def posted : List ConnPostData :=
  (transProxyPostPacketData send.context send.channels send.channelId send.payload send.flag).2.2

def cipherText : Bytes :=
  (send.context.iv.withSeq send.info.seq).bytes ++
    (send.context.gcm.cryptAndTag send.info.sessionKey
      (send.context.iv.withSeq send.info.seq).bytes send.payload).1 ++
    (send.context.gcm.cryptAndTag send.info.sessionKey
      (send.context.iv.withSeq send.info.seq).bytes send.payload).2

def packetHead : PacketHead :=
  ⟨magicNumber, send.info.seq, send.flag.code, BitVec.ofNat 32 send.cipherText.length⟩

def packet : Bytes := send.packetHead.bytes ++ send.cipherText

def sliceNum : Nat := (send.packet.length + maxSendLength - 1) / maxSendLength

abbrev part (i : Nat) : Bytes := slicePayload send.packet send.sliceNum i

lemma encrypt_eq :
    softBusEncryptDataWithSeq send.context.gcm send.info.sessionKey send.context.iv send.payload
      send.info.seq = .ok send.cipherText := softBusEncryptData_eq_ok send.nonempty

lemma length_cipherText : send.cipherText.length = send.payload.length + 28 :=
  length_softBusEncryptData send.encrypt_eq

lemma length_packet : send.packet.length = send.payload.length + 44 := by
  rw [packet, length_append, PacketHead.length_bytes, length_cipherText, sizeofPacketHead]
  omega

lemma payload_le : send.payload.length ≤ 4096 := by
  have := send.bounded
  omega

lemma sliceNum_bounds : 0 < send.sliceNum ∧ send.sliceNum ≤ 5 ∧
    (send.sliceNum - 1) * 1024 < send.packet.length ∧
    send.packet.length ≤ send.sliceNum * 1024 := by
  have len := send.length_packet
  have small := send.payload_le
  have large := send.nonempty
  simp only [sliceNum, maxSendLength]
  omega

lemma slicePayload_front (i) (inside : i < send.sliceNum) :
    send.part i = (send.packet.drop (i * maxSendLength)).take (send.part i).length := by
  rw [part, slicePayload]
  split
  · rw [length_take, ← take_eq_take_min]
  · have single : i = 0 := by omega
    rw [single, zero_mul, drop_zero, take_length]

lemma length_slicePayload (i : Nat) (inside : i < send.sliceNum) :
    (send.part i).length = if i + 1 = send.sliceNum then send.packet.length - i * 1024
      else 1024 := by
  obtain ⟨positive, _, low, high⟩ := send.sliceNum_bounds
  have covered : i + 1 < send.sliceNum → (i + 1) * 1024 < send.packet.length := by
    intro inner
    exact lt_of_le_of_lt (Nat.mul_le_mul_right 1024 (Nat.le_sub_one_of_lt inner)) low
  rw [part, slicePayload]
  by_cases last : i + 1 = send.sliceNum
  · rw [if_pos last]
    split
    · rw [if_pos (by omega), length_take, length_drop, maxSendLength]
      omega
    · rw [show i = 0 by omega, zero_mul, Nat.sub_zero]
  · have room := covered (by omega)
    rw [if_neg last, if_pos (by omega), if_neg (by omega), length_take, length_drop, maxSendLength]
    omega

lemma transProxyEncryptPacketData_eq {chans info}
    (h : lookup ProxyChannelInfo.channelId send.channelId chans = some info)
    (key : info.sessionKey = send.info.sessionKey) :
    transProxyEncryptPacketData send.context chans send.channelId send.info.seq
        send.payload = (update ProxyChannelInfo.channelId send.channelId .touch chans,
        .ok send.cipherText) := transProxyEncryptPacketData_encrypted h (key ▸ send.encrypt_eq)

/-- Packing takes the channel's next sequence number and leaves the channel as the
sending that follows needs it. -/
lemma transProxyPackBytes_eq :
    ∃ chans info, transProxyPackBytes send.context send.channels send.channelId send.payload
        send.flag = (chans, .ok (send.info.seq, send.packet)) ∧
      lookup ProxyChannelInfo.channelId send.channelId chans = some info ∧
      info.status = .completed ∧ info.myId = send.info.myId ∧ info.peerId = send.info.peerId := by
  have small := send.payload_le
  have notAck : ¬ (send.flag = .ack ∧ send.payload.length ≤ 4) := by
    intro both
    cases send.bounded with
    | inl bytes => rw [both.1] at bytes; cases bytes.1
    | inr message => rw [both.1] at message; cases message.1
  have allocated : softBusCalloc (send.payload.length + overheadLen + sizeofPacketHead) =
      some (replicate (send.payload.length + overheadLen + sizeofPacketHead) 0) :=
    softBusCalloc_eq_some (by simp only [sizeofPacketHead]; omega)
      (by simp only [overheadLen, gcmIvLen, tagLen, sizeofPacketHead, maxMallocSize]; omega)
  have seq : (transProxyGetNewChanSeq send.channels send.channelId).2 = send.info.seq := by
    rw [transProxyGetNewChanSeq, send.found]
    rfl
  have counted : lookup ProxyChannelInfo.channelId send.channelId
      (transProxyGetNewChanSeq send.channels send.channelId).1 =
      some { send.info with seq := send.info.seq + 1 } := by
    rw [transProxyGetNewChanSeq, lookup_update_self, send.found]
    · rfl
    · exact fun _ here => here
  refine ⟨_, _, ?_, (lookup_touched counted).2, ?_, ?_, ?_⟩
  · rw [transProxyPackBytes, allocated, transProxyGetPktSeqId, if_neg notAck]
    simp only [seq, send.transProxyEncryptPacketData_eq counted rfl]
    rfl
  · rw [(touch_fields _).1]
    exact send.completed
  · rw [(touch_fields _).2.1]
  · rw [(touch_fields _).2.2.1]

lemma transProxyPostSlices_eq {info} (indices : List Nat)
    (inside : ∀ i ∈ indices, i < send.sliceNum) :
    transProxyPostSlices send.context info send.packet send.flag send.sliceNum indices =
      (.ok, indices.map fun i => ⟨info.connId, proxyTypeToConnPri send.flag,
        sliceBytes info.myId info.peerId send.flag send.packet send.sliceNum i⟩) := by
  induction indices with
  | nil => rfl
  | cons i rest ih =>
    have here := inside i mem_cons_self
    have len := send.length_slicePayload i here
    have packed : transProxyPackAppNormalMsg (plainHead .normal info.myId info.peerId)
        (sliceHeadAt send.flag send.sliceNum i) (send.part i) = 
          (sliceBytes info.myId info.peerId send.flag send.packet send.sliceNum i) := by
      have total := send.length_packet
      have small := send.payload_le
      rw [transProxyPackAppNormalMsg, softBusCalloc_eq_some]
      · rfl
      · simp only [proxyChannelHeadLen]
        omega
      · simp only [proxyChannelHeadLen, sizeofSliceHead, maxMallocSize]
        split at len <;> omega
    rw [transProxyPostSlices, packed]
    simp only [send.posts, if_true]
    rw [ih (fun j mem => inside j (mem_cons_of_mem i mem))]
    rfl

/-- The buffers the connection layer gets are the slices of the packet in order. -/
lemma posted_eq : send.posted.map (·.buf) = (range send.sliceNum).map
    (sliceBytes send.info.myId send.info.peerId send.flag send.packet send.sliceNum) := by
  obtain ⟨chans, info, packed, found, completed, myId, peerId⟩ := send.transProxyPackBytes_eq
  have open_ : ¬ (info.touch.status ≠ .completed ∧ info.touch.status ≠ .keepliveing) := by
    rw [info.touch_fields.1, completed]
    exact fun both => both.1 rfl
  have sent : transProxyTransDataSendMsg send.context chans send.channelId send.packet
      send.flag = (update ProxyChannelInfo.channelId send.channelId .touch chans,
        .ok, (range send.sliceNum).map fun i =>
          ⟨info.touch.connId, proxyTypeToConnPri send.flag,
            sliceBytes info.touch.myId info.touch.peerId send.flag send.packet
              send.sliceNum i⟩) := by
    rw [transProxyTransDataSendMsg, (lookup_touched found).1]
    simp only [if_neg open_]
    rw [transProxyTransAppNormalMsg]
    exact congrArg _ (send.transProxyPostSlices_eq _ (fun i mem => mem_range.mp mem))
  have buffers : ((range send.sliceNum).map fun i => (⟨info.touch.connId,
      proxyTypeToConnPri send.flag, sliceBytes info.touch.myId info.touch.peerId send.flag
        send.packet send.sliceNum i⟩ : ConnPostData)).map (·.buf) = (range send.sliceNum).map
        (sliceBytes send.info.myId send.info.peerId send.flag send.packet send.sliceNum) := by
    rw [map_map, info.touch_fields.2.1, info.touch_fields.2.2.1, myId, peerId]
    rfl
  rw [posted, transProxyPostPacketData, packed]
  simp only [transProxyTransDataSendSyncMsg, sent]
  split
  · exact buffers
  · exact buffers

end SessionSend

/-- A whole packet whose data was encrypted with the key of the channel is handed to the
session, whatever follows it in the buffer. -/
lemma transProxyNoSubPacketProc_encrypted {env cid sessionKey iv flags seq payload cipherText}
    (keyed : env.sessionKey cid = some sessionKey)
    (encrypted : softBusEncryptDataWithSeq env.gcm sessionKey iv payload seq = .ok cipherText)
    (nonempty : 1 ≤ payload.length) (small : payload.length ≤ 4096)
    (checked : transProxySessionDataLenCheck payload.length flags) (rest) :
    ∃ ret, transProxyNoSubPacketProc env cid ((PacketHead.mk magicNumber seq flags
        (BitVec.ofNat 32 cipherText.length)).bytes ++ cipherText ++ rest) =
      some (ret, (transProxyNotifySession env cid flags seq payload).2) := by
  have len : cipherText.length = payload.length + 28 := length_softBusEncryptData encrypted
  have toInt : (BitVec.ofNat 32 cipherText.length).toInt = cipherText.length :=
    toInt_ofNat_of_lt (by omega)
  have toNat : (BitVec.ofNat 32 cipherText.length).toNat = cipherText.length := by
    rw [BitVec.toNat_ofNat]
    exact Nat.mod_eq_of_lt (by omega)
  have process : ∃ ret, transProxyProcessSessionData env cid
      ⟨magicNumber, seq, flags, BitVec.ofNat 32 cipherText.length⟩ (cipherText ++ rest) =
      some (ret, (transProxyNotifySession env cid flags seq payload).2) := by
    have overhead : overheadLen = 28 := rfl
    have allocated : softBusCalloc (cipherText.length - overheadLen) =
        some (replicate (cipherText.length - overheadLen) 0) :=
      softBusCalloc_eq_some (by omega) (by simp only [maxMallocSize]; omega)
    have present : ¬ (cipherText ++ rest).length < cipherText.length := by
      rw [length_append]
      omega
    have opened : transProxyDecryptPacketData env cid cipherText = .ok payload := by
      rw [transProxyDecryptPacketData, keyed]
      simp only [softBusDecryptData_encrypted encrypted]
    simp only [transProxyProcessSessionData, toInt, toNat]
    rw [if_neg (by omega), allocated]
    simp only [if_neg present, take_left, opened]
    exact ⟨_, if_pos checked⟩
  obtain ⟨ret, done⟩ := process
  rw [transProxyNoSubPacketProc, append_assoc, PacketHead.ofBytes_append,
    drop_left' (PacketHead.length_bytes _)]
  simp only [toInt, ne_eq, not_true_eq_false, if_false]
  rw [if_neg (by omega), done]
  exact ⟨_, rfl⟩

structure SessionPeer (send : SessionSend) where
  context : ReceiveContext
  channelId : BitVec 32
  connId : BitVec 32
  sameCipher : context.gcm = send.context.gcm
  sameKey : context.sessionKey channelId = some send.info.sessionKey

namespace SessionPeer
variable {send : SessionSend} (peer : SessionPeer send)

/-- What the receiver does with the data once it has the whole packet. -/
def events : List SessionEvent :=
  (transProxyNotifySession peer.context peer.channelId send.flag.code send.info.seq
    send.payload).2

def slices : List SliceInput :=
  send.posted.map fun post => .message peer.channelId peer.connId post.buf

lemma lenCheck_payload : transProxySessionDataLenCheck send.payload.length send.flag.code := by
  cases send.bounded with
  | inl bytes =>
    rw [bytes.1]
    exact decide_eq_true bytes.2
  | inr message =>
    rw [message.1]
    exact decide_eq_true message.2

lemma transProxyNoSubPacketProc_packet (rest) :
    ∃ ret, transProxyNoSubPacketProc peer.context peer.channelId (send.packet ++ rest) =
      some (ret, peer.events) := by
  have encrypted := send.encrypt_eq
  rw [← peer.sameCipher] at encrypted
  exact transProxyNoSubPacketProc_encrypted peer.sameKey encrypted send.nonempty send.payload_le
    lenCheck_payload rest

def Progress (k ticks : Nat) (processors : List ChannelSliceProcessor) : Prop :=
  0 < k → k < send.sliceNum → Assembling send.packet send.sliceNum k ticks
    (processorAt processors peer.channelId (proxyTypeToProxyIndex send.flag))

abbrev slice (i : Nat) : SliceInput := .message peer.channelId peer.connId
  (sliceBytes send.info.myId send.info.peerId send.flag send.packet send.sliceNum i)

lemma slices_eq : peer.slices = (range send.sliceNum).map peer.slice := by
  have buffers := congrArg (map (SliceInput.message peer.channelId peer.connId)) send.posted_eq
  rw [map_map, map_map] at buffers
  exact buffers

lemma slices_getElem {k input} (h : peer.slices[k]? = some input) :
    k < send.sliceNum ∧ input = peer.slice k := by
  rw [slices_eq, List.getElem?_map, Option.map_eq_some_iff] at h
  obtain ⟨i, found, rfl⟩ := h
  obtain ⟨inside, same⟩ := List.getElem?_eq_some_iff.mp found
  rw [List.getElem_range] at same
  rw [List.length_range] at inside
  exact ⟨inside, by rw [same]⟩

def LongSlices (send : SessionSend) : Prop :=
  ∀ i, i < send.sliceNum → 16 < (slicePayload send.packet send.sliceNum i).length

lemma receiveStep_own (long : LongSlices send) {k ticks procs} (inside : k < send.sliceNum)
    (progress : peer.Progress k ticks procs) :
    ∃ next, receiveStep peer.context procs (peer.slice k) =
        some (next, if k + 1 = send.sliceNum then peer.events else []) ∧
      peer.Progress (k + 1) ticks next := by
  obtain ⟨_, few, low, _⟩ := send.sliceNum_bounds
  have few' : send.sliceNum < 2 ^ 31 := by omega
  have len := send.length_slicePayload k inside
  have front := send.slicePayload_front k inside
  have advance : ∀ processor, Assembling send.packet send.sliceNum (k + 1) 0 processor →
      peer.Progress (k + 1) ticks (setSliceProcessor procs peer.channelId
        (proxyTypeToProxyIndex send.flag) processor) := by
    intro processor assembling _ _
    rw [processorAt_set, if_pos ⟨rfl, rfl⟩]
    exact assembling.later ticks
  have finished : ∀ next, k + 1 = send.sliceNum → peer.Progress (k + 1) ticks next := by
    intro next last _ more
    omega
  by_cases single : send.sliceNum = 1
  · obtain ⟨ret, delivered⟩ := peer.transProxyNoSubPacketProc_packet []
    rw [append_nil] at delivered
    have start : k = 0 := by omega
    have longSingle := long 0 (by omega)
    subst start
    rw [single] at longSingle
    rw [slice, single]
    refine ⟨procs, ?_, fun _ more => by omega⟩
    rw [receiveStep_single longSingle, delivered]
    rfl
  · rw [receiveStep_sliced (long k inside) (by omega) inside few']
    by_cases start : k = 0
    · subst start
      rw [if_neg (by omega)] at len ⊢
      rw [zero_mul, drop_zero] at front
      have small : send.packet.length ≤ 5148 := by
        have := send.length_packet
        have := send.payload_le
        omega
      obtain ⟨next, done, assembling⟩ :=
        assembling_first peer.context peer.channelId
          (processorAt procs peer.channelId (proxyTypeToProxyIndex send.flag)) send.flag
          send.sliceNum len front small
      exact ⟨_, by rw [done]; rfl, advance next assembling⟩
    · have assembling := progress (by omega) inside
      by_cases last : k + 1 = send.sliceNum
      · rw [if_pos last] at len ⊢
        have before : k * maxSendLength < send.packet.length := by
          rw [show k = send.sliceNum - 1 by omega]
          exact low
        obtain ⟨rest, done⟩ := assembling.last peer.context peer.channelId send.flag
          (by omega) last few' (by have := long k inside; omega) front
          (by rw [len]; simp only [maxSendLength] at before ⊢; omega)
        obtain ⟨ret, delivered⟩ := peer.transProxyNoSubPacketProc_packet rest
        exact ⟨_, by rw [done, delivered]; rfl, finished _ last⟩
      · rw [if_neg last] at len ⊢
        obtain ⟨next, done, assembling'⟩ := assembling.normal peer.context peer.channelId
          send.flag (by omega) (by omega) few' len front
        exact ⟨_, by rw [done]; rfl, advance next assembling'⟩

def isNotifySession : SessionEvent → Bool
  | .notifySession .. => true
  | _ => false

/-- An input that belongs to another channel or priority and that the receiver can
process without leaving its buffers. -/
def Elsewhere (processors : List ChannelSliceProcessor) (i : SliceInput) : Prop :=
  Foreign peer.context peer.channelId (proxyTypeToProxyIndex send.flag) i ∧
    (receiveStep peer.context processors i).isSome

/-- The data reaches the session exactly once, with its number and type, if the slices come in
order: from any state of the receiver and among any inputs that belong elsewhere, as long as
the timer runs less often than an assembly may wait. -/
def DeliveredOnce : Prop :=
  ∀ (processors : List ChannelSliceProcessor) (inputs : List (Bool × SliceInput)),
    marked inputs = peer.slices →
    (inputs.map fun i => if i.1 then 0 else timerCost i.2).sum < slicePacketTimeout →
    AllSteps (markedStep (receiveStep peer.context))
      (fun state i => i.1 = false → peer.Elsewhere state i.2) processors inputs →
    ∃ final out, run (markedStep (receiveStep peer.context)) processors inputs = some (final, out) ∧
      (marked out).filter isNotifySession =
        [.notifySession peer.channelId send.flag.code send.info.seq send.payload]

lemma filter_events : peer.events.filter isNotifySession =
    [.notifySession peer.channelId send.flag.code send.info.seq send.payload] := by
  cases send.bounded with
  | inl bytes =>
    rw [events, bytes.1]
    rfl
  | inr message =>
    rw [events, message.1]
    rfl

def eventsFrom (k : Nat) : List SessionEvent :=
  if k < send.sliceNum then peer.events else []

lemma progress_elsewhere (k ticks procs i) (bounded : ticks + timerCost i < slicePacketTimeout)
    (progress : peer.Progress k ticks procs) (other : peer.Elsewhere procs i) :
    ∃ next events, receiveStep peer.context procs i = some (next, events) ∧
      peer.Progress k (ticks + timerCost i) next := by
  obtain ⟨⟨next, events⟩, hStep⟩ := Option.isSome_iff_exists.mp other.2
  refine ⟨next, events, hStep, ?_⟩
  intro started inside
  rw [processorAt_foreign other.1 hStep]
  exact (progress started inside).tick bounded

lemma progress_own (long : LongSlices send) (k ticks procs i) (here : peer.slices[k]? = some i)
    (progress : peer.Progress k ticks procs) :
    ∃ next events, receiveStep peer.context procs i = some (next, events) ∧
      peer.Progress (k + 1) ticks next ∧ peer.eventsFrom k = events ++ peer.eventsFrom (k + 1) := by
  obtain ⟨inside, rfl⟩ := peer.slices_getElem here
  obtain ⟨next, hStep, after⟩ := peer.receiveStep_own long inside progress
  refine ⟨next, _, hStep, after, ?_⟩
  rw [eventsFrom, eventsFrom, if_pos inside]
  by_cases last : k + 1 = send.sliceNum
  · rw [if_pos last, if_neg (by omega), append_nil]
  · rw [if_neg last, if_pos (by omega), nil_append]

lemma deliveredOnce_of_longSlices (long : LongSlices send) : peer.DeliveredOnce := by
  intro procs inputs own cheap others
  have none_left : peer.eventsFrom peer.slices.length = [] := by
    rw [slices_eq, length_map, length_range]
    exact if_neg (Nat.lt_irrefl _)
  have start : peer.Progress 0 0 procs := fun started => absurd started (Nat.lt_irrefl 0)
  obtain ⟨final, out, hRun, caused⟩ :=
    run_interleaved peer.progress_elsewhere (peer.progress_own long) none_left start own
      (Nat.zero_le _) (by rw [Nat.zero_add]; exact cheap) others
  refine ⟨final, out, hRun, ?_⟩
  rw [caused, eventsFrom, if_pos send.sliceNum_bounds.1]
  exact peer.filter_events

lemma receiveStep_inner {k} (inner : k + 1 < send.sliceNum) (procs) :
    ∃ next, receiveStep peer.context procs (peer.slice k) = some (next, []) := by
  have few := send.sliceNum_bounds.2.1
  have long : 16 < (send.part k).length := by
    rw [send.length_slicePayload k (by omega), if_neg (by omega)]
    decide
  have notLast : ¬ (sliceHeadAt send.flag send.sliceNum k).sliceNum =
      (sliceHeadAt send.flag send.sliceNum k).sliceSeq + 1 := by
    simp only [sliceHeadAt]
    bv_omega
  rw [receiveStep_sliced long (by omega) (by omega) (by omega), transProxySliceProcess,
    if_neg notLast]
  split
  · exact ⟨_, rfl⟩
  · exact ⟨_, rfl⟩

lemma not_deliveredOnce_of_shortLast (several : 1 < send.sliceNum)
    (short : (send.part (send.sliceNum - 1)).length ≤ 16) : ¬ peer.DeliveredOnce := by
  intro delivered
  have silent : ∀ procs i, i ∈ peer.slices.map (Prod.mk true) →
      ∃ next, markedStep (receiveStep peer.context) procs i = some (next, []) := by
    intro procs i mem
    obtain ⟨input, own, rfl⟩ := mem_map.mp mem
    obtain ⟨k, here⟩ := mem_iff_getElem?.mp own
    obtain ⟨inside, rfl⟩ := peer.slices_getElem here
    by_cases last : k + 1 = send.sliceNum
    · rw [← show send.sliceNum - 1 = k by omega]
      exact ⟨procs, markedStep_eq_some true (receiveStep_short short)⟩
    · have inner : k + 1 < send.sliceNum := by omega
      obtain ⟨next, hStep⟩ := peer.receiveStep_inner inner procs
      exact ⟨next, markedStep_eq_some true hStep⟩
  obtain ⟨next, hSilent⟩ := run_silent silent []
  obtain ⟨final, out, hRun, once⟩ := delivered [] (peer.slices.map (Prod.mk true))
    (marked_map true peer.slices) (by simp [Function.comp_def, slicePacketTimeout]) (by
      intro pre i post split _ _ _ unmarked
      have mem : i ∈ peer.slices.map (Prod.mk true) := by rw [split]; simp
      obtain ⟨input, _, rfl⟩ := mem_map.mp mem
      cases unmarked)
  obtain ⟨_, empty⟩ := run_unique hRun hSilent
  rw [empty] at once
  cases once

/-- The receiver refuses a last slice of 1 to 16 bytes, and delivers the data in every other
case. -/
theorem deliveredOnce_iff : peer.DeliveredOnce ↔
    send.payload.length + 44 ≤ 1024 ∨ (send.payload.length + 44) % 1024 = 0 ∨
      16 < (send.payload.length + 44) % 1024 := by
  obtain ⟨positive, few, low, high⟩ := send.sliceNum_bounds
  have len := send.length_packet
  constructor
  · intro delivered
    by_contra lost
    refine peer.not_deliveredOnce_of_shortLast (by omega) ?_ delivered
    rw [send.length_slicePayload _ (by omega), if_pos (by omega)]
    omega
  · intro whole
    apply peer.deliveredOnce_of_longSlices
    intro i inside
    rw [send.length_slicePayload i inside]
    split
    · rw [show i = send.sliceNum - 1 by omega]
      omega
    · decide

end SessionPeer

/-- 981 bytes make a packet of 1025 bytes, whose second slice carries one byte. -/
def lostSend : SessionSend where
  context := ⟨.identity, .zero, fun _ _ _ => true, fun _ _ => .ok⟩
  posts _ _ _ := rfl
  channels := [⟨1, .completed, 0, 1, 2, 1, 0, []⟩]
  channelId := 1
  info := ⟨1, .completed, 0, 1, 2, 1, 0, []⟩
  found := rfl
  completed := rfl
  flag := .bytes
  payload := replicate 981 0
  nonempty := by rw [length_replicate]; decide
  bounded := Or.inl ⟨rfl, by rw [length_replicate]; decide⟩

def lostPeer : SessionPeer lostSend where
  context := ⟨.identity, ⟨fun _ => none, fun _ => none, .identity, []⟩, fun _ => some [],
    fun _ _ _ => .ok, fun _ _ => .ok⟩
  channelId := 2
  connId := 1
  sameCipher := rfl
  sameKey := rfl

theorem lostPeer_not_deliveredOnce : ¬ lostPeer.DeliveredOnce := by
  have len : lostSend.packet.length = 1025 := by
    rw [lostSend.length_packet]
    exact congrArg (· + 44) length_replicate
  have two : lostSend.sliceNum = 2 := by
    rw [SessionSend.sliceNum, len]
    rfl
  apply lostPeer.not_deliveredOnce_of_shortLast
  · rw [two]
    decide
  · rw [lostSend.length_slicePayload _ (by rw [two]; decide), two, len]
    decide

end DSoftBus.Proxy
