import DSoftBus.Trans.ProxySession

/-!
The slices of one packet at the receiver. Each channel and priority has its own
assembly, which no other slice touches, so the receiver can be followed at one
assembly while the rest of the traffic goes on. The packet arrives whole unless
its last slice is so short that the receiver takes it for a broken one.
-/
namespace DSoftBus.Proxy
open ByteString Execution KeyedList List SliceHead

/-- What reaches the receiver: a message of a connection with the channel it belongs
to, the timer, and the end of a channel. -/
inductive SliceInput where
  | message (channelId connId : BitVec 32) (data : Bytes)
  | timer
  | delChannel (channelId : BitVec 32)

section
variable (env : ReceiveContext)

def receiveStep (processors : List ChannelSliceProcessor) :
    SliceInput → Option (List ChannelSliceProcessor × List SessionEvent)
  | .message channelId connId data =>
    match transProxyParseMessage env.cipher connId data with
    | none => some (processors, [])
    | some msg =>
      if msg.type = .normal then
        (transOnNormalMsgReceived env processors channelId msg.data).map
          fun done => (done.1, done.2.2)
      else some (processors, [])
  | .timer => some (transProxySliceTimerProc processors, [])
  | .delChannel channelId => some (transProxyDelSliceProcessorByChannelId processors channelId, [])

/-- The assembly of a channel and priority; a channel without a node has a clear one. -/
def processorAt (processors : List ChannelSliceProcessor) (channelId : BitVec 32)
    (priority : ProxyChannelPriority) : SliceProcessor :=
  ((lookup ChannelSliceProcessor.channelId channelId processors).map
    (·.processor priority)).getD transProxyClearProcessor

def Foreign (channelId : BitVec 32) (priority : ProxyChannelPriority) : SliceInput → Prop
  | .message other connId data => other ≠ channelId ∨
      ∀ msg, transProxyParseMessage env.cipher connId data = some msg →
        (ofBytes msg.data).priority ≠ priority.code
  | .timer => True
  | .delChannel other => other ≠ channelId

end

section
variable {env : ReceiveContext} {procs next : List ChannelSliceProcessor}
  {chan other : BitVec 32} {priority index : ProxyChannelPriority}

lemma processorAt_getChannel :
    (transProxyGetChannelSliceProcessor procs chan).2.processor priority =
      processorAt procs chan priority := by
  rw [transProxyGetChannelSliceProcessor, processorAt]
  cases lookup ChannelSliceProcessor.channelId chan procs <;> rfl

lemma lookup_getChannel : lookup ChannelSliceProcessor.channelId chan
      (transProxyGetChannelSliceProcessor procs chan).1 =
      some (transProxyGetChannelSliceProcessor procs chan).2 := by
  rw [transProxyGetChannelSliceProcessor]
  cases found : lookup ChannelSliceProcessor.channelId chan procs with
  | some node => exact found
  | none => exact lookup_cons_self rfl procs

lemma lookup_getChannel_of_ne (different : other ≠ chan) :
    lookup ChannelSliceProcessor.channelId other (transProxyGetChannelSliceProcessor procs chan).1 =
      lookup ChannelSliceProcessor.channelId other procs := by
  rw [transProxyGetChannelSliceProcessor]
  cases lookup ChannelSliceProcessor.channelId chan procs with
  | some node => rfl
  | none => exact lookup_cons_of_ne (fun same => different same.symm) procs

lemma processorAt_set (proc) :
    processorAt (setSliceProcessor procs chan priority proc) other index =
      if other = chan ∧ index = priority then proc else processorAt procs other index := by
  by_cases same : other = chan
  · subst same
    rw [processorAt, setSliceProcessor, lookup_update_self, lookup_getChannel]
    · change Function.update _ _ _ index = _
      by_cases here : index = priority
      · rw [here, Function.update_self, if_pos ⟨rfl, rfl⟩]
      · rw [Function.update_of_ne here, processorAt_getChannel, if_neg (fun both => here both.2)]
    · exact fun _ found => found
  · rw [if_neg (fun both => same both.1), processorAt, setSliceProcessor,
      lookup_update_of_ne _ same, lookup_getChannel_of_ne same, ← processorAt]
    exact fun _ found => found

lemma priority_of_checkSliceHead {head}
    (h : transProxyCheckSliceHead head = some index) : head.priority = index.code := by
  rw [transProxyCheckSliceHead] at h
  split at h
  · cases h
  · have found := find?_some h
    exact (of_decide_eq_true found).symm

lemma processorAt_timer : processorAt (transProxySliceTimerProc procs) chan priority =
      tickProcessor (processorAt procs chan priority) := by
  rw [processorAt, transProxySliceTimerProc, lookup_map, processorAt]
  · cases lookup ChannelSliceProcessor.channelId chan procs <;> rfl
  · exact fun _ => rfl

variable {events : List SessionEvent}

lemma processorAt_onNormalMsg {data ret}
    (h : transOnNormalMsgReceived env procs other data = some (next, ret, events))
    (apart : other ≠ chan ∨ (ofBytes data).priority ≠ priority.code) :
    processorAt next chan priority = processorAt procs chan priority := by
  simp only [transOnNormalMsgReceived] at h
  split at h
  · cases h
    rfl
  split at h
  · cases h
    rfl
  rename_i index checked
  split at h
  · obtain ⟨done, _, same⟩ := Option.map_eq_some_iff.mp h
    cases same
    rfl
  · simp only [transProxySubPacketProc] at h
    split at h
    · cases h
      rfl
    · obtain ⟨done, _, same⟩ := Option.map_eq_some_iff.mp h
      rw [← (Prod.mk.inj same).1, processorAt_set, if_neg]
      intro both
      cases apart with
      | inl different => exact different both.1.symm
      | inr different =>
        exact different (by rw [both.2]; exact priority_of_checkSliceHead checked)

def timerCost : SliceInput → Nat
  | .timer => 1
  | _ => 0

lemma processorAt_foreign {i} (foreign : Foreign env chan priority i)
    (h : receiveStep env procs i = some (next, events)) : processorAt next chan priority =
      tickProcessor^[timerCost i] (processorAt procs chan priority) := by
  cases i with
  | message other connId data =>
    simp only [receiveStep] at h
    cases parsed : transProxyParseMessage env.cipher connId data with
    | none =>
      simp only [parsed] at h
      cases h
      rfl
    | some msg =>
      simp only [parsed] at h
      split at h
      · obtain ⟨done, received, same⟩ := Option.map_eq_some_iff.mp h
        cases same
        exact processorAt_onNormalMsg received (foreign.imp_right (fun all => all msg parsed))
      · cases h
        rfl
  | timer =>
    cases h
    exact processorAt_timer
  | delChannel other =>
    cases h
    rw [transProxyDelSliceProcessorByChannelId, processorAt,
      lookup_remove_of_ne (fun same => foreign same.symm)]
    rfl

end

section
variable (env : ReceiveContext) (chan : BitVec 32) {pkt data : Bytes}
  {proc : SliceProcessor} {num k ticks : Nat}

/-- The first `k` slices of the packet are in the buffer, and the timer has run at
most `ticks` times since the last one. -/
structure Assembling (packet : Bytes) (sliceNum k ticks : Nat)
    (processor : SliceProcessor) : Prop where
  active : processor.active
  timeout : processor.timeout ≤ ticks
  sliceNumber : processor.sliceNumber = BitVec.ofNat 32 sliceNum
  expectedSeq : processor.expectedSeq = BitVec.ofNat 32 k
  dataLen : processor.dataLen = k * maxSendLength
  buffer : ∃ buf, processor.data = some buf ∧ buf.length = processor.bufLen ∧
    packet.length ≤ buf.length ∧ buf.take (k * maxSendLength) = packet.take (k * maxSendLength)

lemma Assembling.later (h : Assembling pkt num k 0 proc) (ticks) :
    Assembling pkt num k ticks proc :=
  ⟨h.active, Nat.le_trans h.timeout (Nat.zero_le ticks), h.sliceNumber, h.expectedSeq, h.dataLen,
    h.buffer⟩

lemma Assembling.tick (h : Assembling pkt num k ticks proc) {cost}
    (bounded : ticks + cost < slicePacketTimeout) :
    Assembling pkt num k (ticks + cost) (tickProcessor^[cost] proc) := by
  induction cost with
  | zero => exact h
  | succ cost ih =>
    have before := ih (by omega)
    have alive : ¬ slicePacketTimeout ≤ (tickProcessor^[cost] proc).timeout + 1 := by
      have := before.timeout
      omega
    rw [Function.iterate_succ_apply', tickProcessor, if_pos before.active, if_neg alive]
    exact ⟨before.active, by have := before.timeout; simp only; omega, before.sliceNumber,
      before.expectedSeq, before.dataLen, before.buffer⟩

lemma Assembling.append (h : Assembling pkt num k ticks proc) (flag) (nonempty : 0 < data.length)
    (front : data = (pkt.drop (k * maxSendLength)).take data.length) :
    ∃ buf, transProxyAppendSlice proc (sliceHeadAt flag num k) data = .ok { proc with
          data := some buf
          expectedSeq := proc.expectedSeq + 1
          dataLen := proc.dataLen + data.length } ∧
      buf.length = proc.bufLen ∧ pkt.length ≤ buf.length ∧
      buf.take (k * maxSendLength + data.length) = pkt.take (k * maxSendLength + data.length) := by
  obtain ⟨buf, hasBuf, bufLen, room, filled⟩ := h.buffer
  have inside : k * maxSendLength + data.length ≤ pkt.length := by
    have len := congrArg length front
    rw [length_take, length_drop] at len
    omega
  refine ⟨overwrite buf (k * maxSendLength) data, ?_, ?_, ?_, ?_⟩
  · have matches_ : ¬ ((sliceHeadAt flag num k).sliceNum ≠ proc.sliceNumber ∨
        (sliceHeadAt flag num k).sliceSeq ≠ proc.expectedSeq) := by
      rw [h.sliceNumber, h.expectedSeq]
      exact fun either => either.elim (fun ne => ne rfl) (fun ne => ne rfl)
    have fits : ¬ proc.bufLen < data.length + proc.dataLen := by
      rw [h.dataLen]
      omega
    rw [transProxyAppendSlice, transProxySliceProcessChkPkgIsValid, if_neg matches_, if_neg fits,
      hasBuf, h.dataLen]
    simp only [memcpyS_eq_some (show k * maxSendLength < buf.length by omega)
      (show k * maxSendLength + data.length ≤ buf.length by omega)]
  · rw [length_overwrite (by omega), bufLen]
  · rw [length_overwrite (by omega)]
    exact room
  · rw [take_overwrite (by omega), filled, take_add, ← front]

lemma firstSliceMaxLen_bounds (head) :
    5148 ≤ firstSliceMaxLen head ∧ firstSliceMaxLen head ≤ 8220 := by
  simp only [firstSliceMaxLen, proxyMessageLengthMax, proxyBytesLengthMax, dataHeadSize,
    overheadLen, gcmIvLen, tagLen]
  split <;> omega

lemma softBusCalloc_firstSlice (head) :
    softBusCalloc (firstSliceMaxLen head) = some (replicate (firstSliceMaxLen head) 0) := by
  have bounds := firstSliceMaxLen_bounds head
  exact softBusCalloc_eq_some (by omega) (by simp only [maxMallocSize]; omega)

lemma firstSlice_eq {head} (proc) (zero : head.sliceSeq = 0)
    (fits : data.length ≤ firstSliceMaxLen head) :
    ∃ buf, buf.length = firstSliceMaxLen head ∧ buf.take data.length = data ∧
      transProxySliceProcess env chan head data proc = some (⟨true, 0, head.sliceNum, 1,
        data.length, firstSliceMaxLen head, some buf⟩, .ok, []) := by
  have bounds := firstSliceMaxLen_bounds head
  have allocated := softBusCalloc_firstSlice head
  generalize hBuf : replicate (firstSliceMaxLen head) (0 : UInt8) = buf at allocated
  have size : buf.length = firstSliceMaxLen head := by rw [← hBuf, length_replicate]
  have filled : (overwrite buf 0 data).take (0 + data.length) = buf.take 0 ++ data :=
    take_overwrite (Nat.zero_le _)
  rw [Nat.zero_add, take_zero, nil_append] at filled
  refine ⟨overwrite buf 0 data, by rw [length_overwrite (by omega), size], filled, ?_⟩
  have first : transProxyFirstSliceProcess head data = (⟨true, 0, head.sliceNum, 1,
      data.length, firstSliceMaxLen head, some (overwrite buf 0 data)⟩, .ok) := by
    unfold transProxyFirstSliceProcess
    rw [allocated]
    dsimp only
    rw [memcpyS_eq_some (by omega) (by omega)]
  rw [transProxySliceProcess, if_pos zero, first]
  rfl

lemma assembling_first (proc flag num)
    (len : data.length = maxSendLength) (front : data = pkt.take data.length)
    (small : pkt.length ≤ 5148) :
    ∃ next, transProxySliceProcess env chan (sliceHeadAt flag num 0) data proc =
        some (next, .ok, []) ∧ Assembling pkt num 1 0 next := by
  generalize hHead : sliceHeadAt flag num 0 = head
  have number : head.sliceNum = BitVec.ofNat 32 num := by rw [← hHead]; rfl
  have zero : head.sliceSeq = 0 := by rw [← hHead]; rfl
  have bounds := firstSliceMaxLen_bounds head
  obtain ⟨buf, size, filled, processed⟩ := firstSlice_eq env chan proc zero
    (show data.length ≤ _ by rw [len, maxSendLength]; omega)
  refine ⟨_, processed, rfl, le_refl 0, number, rfl, by rw [one_mul, len], buf, rfl,
    size, by omega, ?_⟩
  rw [one_mul, ← len, filled]
  exact front

lemma Assembling.normal (h : Assembling pkt num k ticks proc)
    (flag) (started : 0 < k) (inner : k + 1 < num)
    (few : num < 2 ^ 31) (len : data.length = maxSendLength)
    (front : data = (pkt.drop (k * maxSendLength)).take data.length) :
    ∃ next, transProxySliceProcess env chan (sliceHeadAt flag num k) data proc =
        some (next, .ok, []) ∧ Assembling pkt num (k + 1) 0 next := by
  obtain ⟨buf, appended, bufLen, room, filled⟩ := h.append flag (by rw [len]; decide) front
  have notFirst : ¬ (sliceHeadAt flag num k).sliceSeq = 0 := by
    simp only [sliceHeadAt]
    bv_omega
  have notLast : ¬ (sliceHeadAt flag num k).sliceNum = (sliceHeadAt flag num k).sliceSeq + 1 := by
    simp only [sliceHeadAt]
    bv_omega
  refine ⟨{ proc with
    timeout := 0
    data := some buf
    expectedSeq := proc.expectedSeq + 1
    dataLen := proc.dataLen + data.length }, ?_, ?_⟩
  · rw [transProxySliceProcess, if_neg notFirst, if_neg notLast, transProxyNormalSliceProcess,
      appended]
    rfl
  · have next : (k + 1) * maxSendLength = k * maxSendLength + data.length := by
      rw [len, Nat.succ_mul]
    refine ⟨h.active, le_refl 0, h.sliceNumber, ?_, ?_, buf, rfl, bufLen, room, ?_⟩
    · simp only [h.expectedSeq]
      exact (BitVec.ofNat_add k 1).symm
    · rw [next, ← h.dataLen]
    · rw [next]
      exact filled

/-- The last slice hands the whole packet on; what the buffer holds behind it does
not matter. -/
lemma Assembling.last (h : Assembling pkt num k ticks proc) (flag)
    (started : 0 < k) (final : k + 1 = num) (few : num < 2 ^ 31)
    (nonempty : 0 < data.length) (front : data = (pkt.drop (k * maxSendLength)).take data.length)
    (whole : k * maxSendLength + data.length = pkt.length) :
    ∃ rest, transProxySliceProcess env chan (sliceHeadAt flag num k) data proc =
      (transProxyNoSubPacketProc env chan (pkt ++ rest)).map
        fun done => (transProxyClearProcessor, done) := by
  obtain ⟨buf, appended, bufLen, room, filled⟩ := h.append flag nonempty front
  have notFirst : ¬ (sliceHeadAt flag num k).sliceSeq = 0 := by
    simp only [sliceHeadAt]
    bv_omega
  have isLast : (sliceHeadAt flag num k).sliceNum = (sliceHeadAt flag num k).sliceSeq + 1 := by
    simp only [sliceHeadAt, ← final]
    exact BitVec.ofNat_add k 1
  rw [whole, take_length] at filled
  have split : buf = pkt ++ buf.drop pkt.length := by
    rw [← filled, length_take, min_eq_left room, take_append_drop]
  refine ⟨buf.drop pkt.length, ?_⟩
  rw [transProxySliceProcess, if_neg notFirst, if_pos isLast, transProxyLastSliceProcess, appended]
  simp only [Option.getD_some]
  rw [← split, Option.map_map]
  congr 1
  funext done
  simp only [Function.comp_apply]
  split
  · rfl
  · rfl

end

section
variable {env : ReceiveContext} {procs : List ChannelSliceProcessor}
  {chan connId : BitVec 32} {flag : ProxyPacketType} {myId peerId : BitVec 16}
  {pkt : Bytes} {num i : Nat}

def sliceBytes (myId peerId : BitVec 16) (flag : ProxyPacketType) (packet : Bytes)
    (sliceNum i : Nat) : Bytes :=
  (plainHead .normal myId peerId).bytes ++
    ((sliceHeadAt flag sliceNum i).bytes ++ slicePayload packet sliceNum i)

lemma receiveStep_sliceBytes : receiveStep env procs
        (.message chan connId (sliceBytes myId peerId flag pkt num i)) =
      (transOnNormalMsgReceived env procs chan
        ((sliceHeadAt flag num i).bytes ++ slicePayload pkt num i)).map
          fun done => (done.1, done.2.2) := by
  have nonempty : 0 < ((sliceHeadAt flag num i).bytes ++ slicePayload pkt num i).length := by
    rw [length_append, length_bytes, sizeofSliceHead]
    omega
  rw [receiveStep, sliceBytes, transProxyParseMessage_plain _ _ _ _ _ nonempty]
  rfl

lemma checkSliceHead_sliceHeadAt (inside : i < num) (few : num < 2 ^ 31) :
    transProxyCheckSliceHead (sliceHeadAt flag num i) = some (proxyTypeToProxyIndex flag) := by
  have ordered : ¬ ((sliceHeadAt flag num i).sliceNum.toInt ≠ 1 ∧
      (sliceHeadAt flag num i).sliceNum.toInt ≤ (sliceHeadAt flag num i).sliceSeq.toInt) := by
    simp only [sliceHeadAt, toInt_ofNat_of_lt few, toInt_ofNat_of_lt (lt_trans inside few)]
    omega
  rw [transProxyCheckSliceHead, if_neg ordered]
  exact ProxyChannelPriority.ofCode_code _

lemma length_slice_le_iff : ((sliceHeadAt flag num i).bytes ++ slicePayload pkt num i).length ≤
      sliceHeadLen ↔ (slicePayload pkt num i).length ≤ 16 := by
  rw [length_append, length_bytes, sliceHeadLen, sizeofSliceHead, sizeofPacketHead]
  omega

lemma receiveStep_short (short : (slicePayload pkt num i).length ≤ 16) : receiveStep env procs
        (.message chan connId (sliceBytes myId peerId flag pkt num i)) = some (procs, []) := by
  rw [receiveStep_sliceBytes, transOnNormalMsgReceived, if_pos (length_slice_le_iff.mpr short)]
  rfl

lemma transOnNormalMsgReceived_slice (long : 16 < (slicePayload pkt num i).length)
    (inside : i < num) (few : num < 2 ^ 31) : transOnNormalMsgReceived env procs chan
        ((sliceHeadAt flag num i).bytes ++ slicePayload pkt num i) = if num = 1 then
        (transProxyNoSubPacketProc env chan (slicePayload pkt num i)).map fun done => (procs, done)
      else transProxySubPacketProc env procs chan (proxyTypeToProxyIndex flag)
          (sliceHeadAt flag num i) (slicePayload pkt num i) := by
  have single : (sliceHeadAt flag num i).sliceNum = 1 ↔ num = 1 := by
    simp only [sliceHeadAt]
    bv_omega
  rw [transOnNormalMsgReceived, if_neg (mt length_slice_le_iff.mp (not_le.mpr long))]
  simp only [ofBytes_append, checkSliceHead_sliceHeadAt inside few, single,
    drop_left' (length_bytes (sliceHeadAt flag num i))]

lemma receiveStep_single (long : 16 < (slicePayload pkt 1 0).length) : receiveStep env procs
        (.message chan connId (sliceBytes myId peerId flag pkt 1 0)) =
      (transProxyNoSubPacketProc env chan pkt).map fun done => (procs, done.2) := by
  rw [receiveStep_sliceBytes, transOnNormalMsgReceived_slice long (by decide) (by decide),
    if_pos rfl, Option.map_map]
  rfl

lemma receiveStep_sliced (long : 16 < (slicePayload pkt num i).length)
    (several : 1 < num) (inside : i < num) (few : num < 2 ^ 31) : receiveStep env procs
        (.message chan connId (sliceBytes myId peerId flag pkt num i)) =
      (transProxySliceProcess env chan (sliceHeadAt flag num i) (slicePayload pkt num i)
        (processorAt procs chan (proxyTypeToProxyIndex flag))).map fun done =>
          (setSliceProcessor procs chan (proxyTypeToProxyIndex flag) done.1, done.2.2) := by
  rw [receiveStep_sliceBytes, transOnNormalMsgReceived_slice long inside few,
    if_neg (by omega), transProxySubPacketProc, if_neg (by omega)]
  simp only [processorAt_getChannel, Option.map_map]
  rfl

end
end DSoftBus.Proxy
