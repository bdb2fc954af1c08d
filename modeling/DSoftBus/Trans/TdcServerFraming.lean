import DSoftBus.Lib.Framing
import DSoftBus.Trans.TdcServer

/-!
The receive buffer of the server under a stream of control packets and under any input. A
read that completes two packets leaves the second one until something else arrives, so the
packets come out in time exactly when no read completes more than one. A packet is never
looked for behind the received bytes, but a head may announce less than the overhead, and
then the length of the plain text wraps.
-/
namespace DSoftBus.TdcServer
open List hiding lookup_append
open ByteString Execution Framing Auth KeyedList Nat TdcPacketHead ServerDataBuf

/-- Two devices with a session between them, and the keys they have stored for each other. -/
structure ControlLink where
  post : PostContext
  server : ServerContext
  fromId : BitVec 32
  toId : BitVec 32
  sender : ConnectOption
  receiver : ConnectOption
  toReceiver : post.sessionConn fromId = some receiver
  toSender : server.sessionConn toId = some sender
  sameCipher : server.gcm = post.gcm
  stored : List StoredKey
  storedThere : List StoredKey
  keys : post.keys = keysAfter stored
  keysThere : server.keys = keysAfter storedThere
  shared : pairsFor receiver stored = pairsFor sender storedThere
  recent : storedThere.reverse.findIdx (StoredKey.isFor sender) < maxKeyListSize

/-- A packet as the callers of TransTdcPostBytes have it packed, no longer than the buffer. -/
structure ControlPacket (link : ControlLink) where
  iv : GcmIv
  seq : BitVec 64
  flags : BitVec 32
  payload : Bytes
  bytes : Bytes
  nonempty : 1 ≤ payload.length
  bounded : payload.length + encryptOverHeadLen + dcMsgPacketHeadSize ≤ maxDataBuf
  packed : packBytes { link.post with iv := iv } link.fromId payload
    ⟨magicNumber, moduleSession, seq, flags,
      BitVec.ofNat 32 (payload.length + encryptOverHeadLen)⟩ = .ok bytes

namespace ControlPacket
variable {link : ControlLink} (p : ControlPacket link)

def head : TdcPacketHead := ofBytes p.bytes

def message : ServerEvent := .message link.toId p.flags p.head.seq p.payload

lemma toNat_dataLen : (BitVec.ofNat 32 (p.payload.length + encryptOverHeadLen)).toNat =
    p.payload.length + encryptOverHeadLen := by
  have small := p.bounded
  have limit : maxDataBuf = 4096 := rfl
  rw [BitVec.toNat_ofNat]
  exact mod_eq_of_lt (by omega)

lemma bytes_eq : ∃ seq body, p.bytes = (TdcPacketHead.mk magicNumber moduleSession seq p.flags
      (BitVec.ofNat 32 (p.payload.length + encryptOverHeadLen))).bytes ++ body ∧
    body.length = p.payload.length + encryptOverHeadLen ∧ ∀ bufLen, p.payload.length ≤ bufLen →
      decryptMessage link.server link.toId body bufLen = .ok p.payload := by
  have small := p.bounded
  have limit : maxDataBuf = 4096 := rfl
  have overhead : encryptOverHeadLen = 32 := rfl
  have len : (BitVec.ofNat 32 (p.payload.length + encryptOverHeadLen) -
      BitVec.ofNat 32 sessionKeyIndexSize - BitVec.ofNat 32 overheadLen).toNat =
      p.payload.length := by
    have index : sessionKeyIndexSize = 4 := rfl
    have tags : overheadLen = 28 := rfl
    bv_omega
  have packed := p.packed
  rw [packBytes, link.toReceiver] at packed
  simp only [len, take_length, p.toNat_dataLen] at packed
  split at packed
  · cases packed
  rename_i side body encrypted
  rw [link.keys] at encrypted
  obtain ⟨stored, cipherText, newest, hBody, rfl⟩ := authEncrypt_shared link.shared encrypted
  refine ⟨_, _, (Except.ok.inj packed).symm, ?_, fun bufLen room => ?_⟩
  · rw [length_append, length_putWord, length_softBusEncryptData hBody]
    simp only [encryptOverHeadLen]
    omega
  · have opened := authDecrypt_eq_ok newest link.recent hBody room .client
    rw [decryptMessage, link.toSender]
    simp only [link.sameCipher, link.keysThere, opened]

lemma head_eq : p.head = ⟨magicNumber, moduleSession, p.head.seq, p.flags,
    BitVec.ofNat 32 (p.payload.length + encryptOverHeadLen)⟩ := by
  obtain ⟨seq, body, split, _⟩ := p.bytes_eq
  rw [head, split, ofBytes_append]

lemma length_bytes : p.bytes.length =
    dcMsgPacketHeadSize + (p.payload.length + encryptOverHeadLen) := by
  obtain ⟨seq, body, split, length, _⟩ := p.bytes_eq
  rw [split, length_append, TdcPacketHead.length_bytes, length]

variable {p} {held coming : Bytes} {frames : List Bytes}

lemma ofBytes_held (stream : held ++ coming = (p.bytes :: frames).flatten)
    (enough : dcMsgPacketHeadSize ≤ held.length) : ofBytes held = p.head := by
  have inFrame : dcMsgPacketHeadSize ≤ p.bytes.length := by
    rw [length_bytes]
    exact le_add_right _ _
  rw [← ofBytes_take, take_held stream enough inFrame, ofBytes_take]
  rfl

end ControlPacket

def ServerEvent.isMessage : ServerEvent → Bool
  | .message .. => true
  | _ => false

def messages (events : List ServerEvent) : List ServerEvent := events.filter ServerEvent.isMessage

lemma messages_append (front back) :
    messages (front ++ back) = messages front ++ messages back := filter_append ..

section
variable {link : ControlLink} {node : ServerDataBuf}

lemma processReceivedData_packet (p : ControlPacket link) {coming frames}
    (own : node.channelId = link.toId)
    (stream : node.received ++ coming = (p.bytes :: frames).flatten)
    (complete : p.bytes.length ≤ node.received.length) :
    ∃ ret call, processReceivedData link.server node =
        some (node.moveFront p.bytes.length, ret, [call, p.message]) ∧ call.isMessage = false := by
  have small := p.bounded
  have limit : maxDataBuf = 4096 := rfl
  have overhead : encryptOverHeadLen = 32 := rfl
  have length := p.length_bytes
  have dataLen := p.toNat_dataLen
  have headHeld : ofBytes node.received = p.head := ControlPacket.ofBytes_held stream (by omega)
  have plain : (plainLen (BitVec.ofNat 32 (p.payload.length + encryptOverHeadLen))).toNat =
      p.payload.length + 1 := by
    have index : sessionKeyIndexSize = 4 := rfl
    have tags : overheadLen = 28 := rfl
    rw [plainLen]
    bv_omega
  have allocated : softBusCalloc (p.payload.length + 1) =
      some (replicate (p.payload.length + 1) 0) :=
    softBusCalloc_eq_some (succ_pos _) (by simp only [maxMallocSize]; omega)
  obtain ⟨seq, body, split, bodyLength, opened⟩ := p.bytes_eq
  have data : (node.received.drop dcMsgPacketHeadSize).take
      (p.payload.length + encryptOverHeadLen) = body := by
    rw [(take_frame stream complete).1, split, append_assoc,
      drop_left' (length_bytes _), take_left' bodyLength]
  have head := p.head_eq
  have result : ∃ ret, processReceivedData link.server node = some (node.moveFront p.bytes.length,
      ret, [.packet link.toId p.head.dataLen node.received.length, p.message]) := by
    rw [processReceivedData, headHeld, head]
    simp only [ne_eq, not_true_eq_false, if_false, plain, allocated, dataLen, data, own,
      opened _ (le_succ _)]
    rw [if_neg (by omega), length]
    exact ⟨_, rfl⟩
  obtain ⟨ret, result⟩ := result
  exact ⟨ret, _, result, rfl⟩

lemma transTdcSrvProcData_stalled {packets : List (ControlPacket link)} {coming : Bytes}
    (sized : node.size = maxDataBuf)
    (stream : node.received ++ coming = (packets.map ControlPacket.bytes).flatten)
    (stalled : Stalled (packets.map ControlPacket.bytes) node.received) :
    transTdcSrvProcData link.server node = some (node, .dataNotEnough, []) := by
  by_cases short : node.received.length < dcMsgPacketHeadSize
  · exact if_pos short
  cases packets with
  | nil =>
    have none := congrArg length stream
    rw [length_append, map_nil, flatten_nil, length_nil] at none
    simp only [dcMsgPacketHeadSize] at short
    omega
  | cons p rest =>
    have less := stalled p.bytes (rest.map ControlPacket.bytes) rfl
    have small := p.bounded
    have head : ofBytes node.received = p.head :=
      ControlPacket.ofBytes_held stream (not_lt.mp short)
    rw [transTdcSrvProcData, if_neg short, head, p.head_eq]
    simp only [ne_eq, not_true_eq_false, if_false, p.toNat_dataLen]
    rw [p.length_bytes] at less
    rw [if_neg (by omega), if_pos (by omega)]

lemma transTdcSrvProcData_packet (p : ControlPacket link) {coming frames}
    (sized : node.size = maxDataBuf) (own : node.channelId = link.toId)
    (stream : node.received ++ coming = (p.bytes :: frames).flatten)
    (complete : p.bytes.length ≤ node.received.length) :
    ∃ ret events, transTdcSrvProcData link.server node =
        some (node.moveFront p.bytes.length, ret, events) ∧ messages events = [p.message] := by
  have small := p.bounded
  have length := p.length_bytes
  have head : ofBytes node.received = p.head := ControlPacket.ofBytes_held stream (by omega)
  obtain ⟨ret, call, processed, silent⟩ := processReceivedData_packet p own stream complete
  refine ⟨ret, [.delTrigger node.fd, call, p.message], ?_, ?_⟩
  · rw [transTdcSrvProcData, if_neg (by omega), head, p.head_eq]
    simp only [ne_eq, not_true_eq_false, if_false, p.toNat_dataLen]
    rw [if_neg (by omega), if_neg (by omega), processed]
    rfl
  · rw [messages, filter_cons_of_neg Bool.false_ne_true, filter_cons_of_neg (by simp [silent])]
    rfl

end

def Fits (nodes : List ServerDataBuf) : ServerInput → Prop
  | .recvData channelId chunk => ∀ node,
      lookup ServerDataBuf.channelId channelId nodes = some node → chunk.length ≤ node.recvLen
  | _ => True

instance (nodes : List ServerDataBuf) (i : ServerInput) : Decidable (Fits nodes i) := by
  unfold Fits
  split <;> infer_instance

section
variable {link : ControlLink} {node : ServerDataBuf} {nodes : List ServerDataBuf}

def Holding (link : ControlLink) (nodes : List ServerDataBuf) (held : Bytes) : Prop :=
  ∃ node, lookup channelId link.toId nodes = some node ∧
    node.size = maxDataBuf ∧ node.received = held

lemma serverStep_stream (packets : List (ControlPacket link)) {held chunk coming : Bytes}
    (holding : Holding link nodes held) (nonempty : chunk.length ≠ 0)
    (fits : Fits nodes (.recvData link.toId chunk))
    (stream : held ++ (chunk ++ coming) = (packets.map ControlPacket.bytes).flatten)
    (once : completed (packets.map ControlPacket.bytes) (held.length + chunk.length) ≤ 1) :
    ∃ next events left done held', serverStep link.server nodes (.recvData link.toId chunk) =
        some (next, events) ∧ Holding link next held' ∧ packets = done ++ left ∧
      messages events = done.map ControlPacket.message ∧
      held' ++ coming = (left.map ControlPacket.bytes).flatten ∧
      Stalled (left.map ControlPacket.bytes) held' ∧
      held.length + chunk.length =
        (done.map ControlPacket.bytes).flatten.length + held'.length := by
  obtain ⟨node, found, sized, rfl⟩ := holding
  have room := fits node found
  have inside := node.fits
  have fitting : (node.received ++ chunk).length ≤ node.size := by
    rw [recvLen] at room
    rw [length_append]
    omega
  let grown : ServerDataBuf := { node with received := node.received ++ chunk, fits := fitting }
  have grownSized : grown.size = maxDataBuf := sized
  have own : grown.channelId = link.toId := (mem_of_lookup found).2
  have recv : transTdcSrvRecvData link.server nodes link.toId chunk =
      (transTdcSrvProcData link.server grown).map fun done =>
        (update channelId link.toId (fun _ => done.1) nodes, done.2) := by
    rw [transTdcSrvRecvData, found]
    simp only [if_neg nonempty, dif_pos fitting]
    rfl
  have after (next) (same : next.channelId = link.toId) : lookup channelId link.toId
        (update channelId link.toId (fun _ => next) nodes) = some next := by
    rw [lookup_update_self (fun _ _ => same), found]
    rfl
  have stream' : grown.received ++ coming = (packets.map ControlPacket.bytes).flatten := by
    rw [← stream, ← append_assoc]
  have total : grown.received.length = node.received.length + chunk.length := length_append ..
  by_cases stalled : Stalled (packets.map ControlPacket.bytes) grown.received
  · have processed := transTdcSrvProcData_stalled grownSized stream' stalled
    refine ⟨_, [], packets, [], grown.received, ?_, ⟨grown, after grown own, sized, rfl⟩,
      rfl, rfl, stream', stalled, ?_⟩
    · rw [serverStep, recv, processed]
      rfl
    · rw [total]
      exact (zero_add _).symm
  · cases packets with
    | nil => exact absurd (fun _ _ none => by cases none) stalled
    | cons p rest =>
      rw [stalled_iff_completed, total] at stalled
      have complete : p.bytes.length ≤ grown.received.length := by
        by_contra incomplete
        rw [total] at incomplete
        exact stalled (if_neg incomplete)
      obtain ⟨ret, events, processed, taken⟩ :=
        transTdcSrvProcData_packet p grownSized own stream' complete
      let next := grown.moveFront p.bytes.length
      have left : p.bytes.length + next.received.length = grown.received.length := by
        rw [show next.received = grown.received.drop p.bytes.length from rfl, length_drop]
        omega
      refine ⟨_, events, rest, [p], next.received, ?_, ⟨next, after next own, sized, rfl⟩,
        rfl, taken, (take_frame stream' complete).2, ?_, ?_⟩
      · rw [serverStep, recv, processed]
        rfl
      · rw [← total, ← left, map_cons, completed_cons] at once
        exact stalled_iff_completed.mpr (by omega)
      · rw [← total, ← left]
        simp

/-- After every read exactly those packets have been taken out that are complete. -/
def TakenInTime (link : ControlLink) (nodes : List ServerDataBuf)
    (packets : List (ControlPacket link)) (chunks : List Bytes) : Prop :=
  ∀ pre post, chunks = pre ++ post →
    ∃ last events, run (serverStep link.server) nodes (pre.map (.recvData link.toId)) =
        some (last, events) ∧
      messages events = (packets.take (completed (packets.map ControlPacket.bytes)
        pre.flatten.length)).map ControlPacket.message

lemma run_oneAtATime (chunks : List Bytes) (packets : List (ControlPacket link))
    {held} (holding : Holding link nodes held)
    (stream : held ++ chunks.flatten = (packets.map ControlPacket.bytes).flatten)
    (stalled : Stalled (packets.map ControlPacket.bytes) held)
    (nonempty : ∀ chunk ∈ chunks, chunk.length ≠ 0)
    (fits : AllSteps (serverStep link.server) Fits nodes (chunks.map (.recvData link.toId)))
    (once : OneAtATime (packets.map ControlPacket.bytes) held.length chunks)
    {pre post} (split : chunks = pre ++ post) :
    ∃ last events, run (serverStep link.server) nodes (pre.map (.recvData link.toId)) =
        some (last, events) ∧
      messages events = (packets.take (completed (packets.map ControlPacket.bytes)
        (held.length + pre.flatten.length))).map ControlPacket.message := by
  induction pre generalizing chunks packets held nodes with
  | nil =>
    refine ⟨nodes, [], rfl, ?_⟩
    rw [flatten_nil, length_nil, add_zero, stalled_iff_completed.mp stalled]
    rfl
  | cons chunk pre ih =>
    subst split
    rw [cons_append] at stream once fits
    rw [flatten_cons] at stream
    have none := stalled_iff_completed.mp stalled
    obtain ⟨next, events, left, done, held', hStep, holding', packs, taken, stream', stalled',
        total⟩ := serverStep_stream packets holding (nonempty chunk mem_cons_self)
      fits.head stream (by have first := once.1; omega)
    have frames : packets.map ControlPacket.bytes =
        done.map ControlPacket.bytes ++ left.map ControlPacket.bytes := by
      rw [packs, map_append]
    have rest := once.2
    rw [frames, total] at rest
    obtain ⟨last, events', ran, taken'⟩ := ih (pre ++ post) left holding' stream' stalled'
      (fun chunk mem => nonempty chunk (mem_cons_of_mem _ mem)) (fits.tail hStep)
      (oneAtATime_append rest) rfl
    refine ⟨last, events ++ events', run_cons_eq_some.mpr
      ⟨next, events, events', hStep, ran, rfl⟩, ?_⟩
    have count : completed (packets.map ControlPacket.bytes)
        (held.length + (chunk :: pre).flatten.length) = done.length +
        completed (left.map ControlPacket.bytes) (held'.length + pre.flatten.length) := by
      rw [flatten_cons, length_append, ← add_assoc, total, add_assoc, frames,
        completed_append, length_map]
    rw [messages_append, taken, taken', count, packs, take_length_add_append, map_append]

end

section
variable {env : ServerContext} {node next : ServerDataBuf} {ret : SoftBusErrNo}
  {events : List ServerEvent}

/-- What a packet makes happen: it is looked at once, and its message is taken out at most once. -/
inductive Looked (channelId : BitVec 32) (received : Bytes) : List ServerEvent → Prop
  | dropped : Looked channelId received
      [.packet channelId (ofBytes received).dataLen received.length]
  | taken (id flags seq plain) : Looked channelId received
      [.packet channelId (ofBytes received).dataLen received.length, .message id flags seq plain]

lemma processReceivedData_looked (h : processReceivedData env node = some (next, ret, events)) :
    Looked node.channelId node.received events := by
  rw [processReceivedData] at h
  simp only at h
  split at h
  · cases h
    exact .dropped
  split at h
  · cases h
    exact .dropped
  split at h
  · cases h
  split at h
  · cases h
    exact .dropped
  · cases h
    exact .taken ..

lemma transTdcSrvProcData_events (h : transTdcSrvProcData env node = some (next, ret, events)) :
    events = [] ∨ (ofBytes node.received).dataLen.toNat + dcMsgPacketHeadSize ≤
        node.received.length ∧
      ∃ tail, events = .delTrigger node.fd :: tail ∧ Looked node.channelId node.received tail := by
  rw [transTdcSrvProcData] at h
  simp only at h
  split at h
  · cases h
    exact .inl rfl
  split at h
  · cases h
    exact .inl rfl
  split at h
  · cases h
    exact .inl rfl
  split at h
  · cases h
    exact .inl rfl
  next enough =>
    rw [Option.map_eq_some_iff] at h
    obtain ⟨⟨next', ret', events'⟩, processed, result⟩ := h
    cases result
    exact .inr ⟨not_lt.mp enough, events', rfl, processReceivedData_looked processed⟩

lemma serverStep_events {nodes nodes' i} (h : serverStep env nodes i = some (nodes', events)) :
    events = [] ∨ ∃ channelId chunk node, i = .recvData channelId chunk ∧
      lookup ServerDataBuf.channelId channelId nodes = some node ∧
      (ofBytes (node.received ++ chunk)).dataLen.toNat + dcMsgPacketHeadSize ≤
        (node.received ++ chunk).length ∧
      ∃ tail, events = .delTrigger node.fd :: tail ∧
        Looked node.channelId (node.received ++ chunk) tail := by
  cases i with
  | addNode channelId fd | delNode channelId =>
    cases h
    exact .inl rfl
  | recvData channelId chunk =>
    rw [serverStep, Option.map_eq_some_iff] at h
    obtain ⟨⟨after, ret, events'⟩, received, result⟩ := h
    cases result
    rw [transTdcSrvRecvData] at received
    split at received
    · cases received
      exact .inl rfl
    rename_i node found
    split at received
    · cases received
      exact .inl rfl
    split at received
    · rw [Option.map_eq_some_iff] at received
      obtain ⟨⟨next, ret', events'⟩, processed, result⟩ := received
      cases result
      cases transTdcSrvProcData_events processed with
      | inl none => exact .inl none
      | inr shape => exact .inr ⟨channelId, chunk, node, rfl, found, shape⟩
    · cases received

lemma length_messages_le_one {nodes nodes' i}
    (h : serverStep env nodes i = some (nodes', events)) : (messages events).length ≤ 1 := by
  cases serverStep_events h with
  | inl none => rw [none]; exact zero_le _
  | inr shape =>
    obtain ⟨_, _, _, _, _, _, tail, rfl, looked⟩ := shape
    cases looked with
    | dropped => exact zero_le _
    | taken => exact le_refl _

end

/-- A packet that is looked at has at least the overhead and ends within the received bytes, and
the length of its plain text does not wrap. -/
def SafeCalls (_ : List ServerDataBuf) (_ : ServerInput) (_ : List ServerDataBuf)
    (events : List ServerEvent) : Prop :=
  ∀ channelId dataLen received, .packet channelId dataLen received ∈ events →
    encryptOverHeadLen ≤ dataLen.toNat ∧ dataLen.toNat + dcMsgPacketHeadSize ≤ received ∧
      (plainLen dataLen).toNat = dataLen.toNat - encryptOverHeadLen + 1

def LongHeads (nodes : List ServerDataBuf) : ServerInput → Prop
  | .recvData channelId chunk => ∀ node,
      lookup ServerDataBuf.channelId channelId nodes = some node →
      dcMsgPacketHeadSize ≤ (node.received ++ chunk).length →
      encryptOverHeadLen ≤ (ofBytes (node.received ++ chunk)).dataLen.toNat
  | _ => True

instance (nodes : List ServerDataBuf) (i : ServerInput) : Decidable (LongHeads nodes i) := by
  unfold LongHeads
  split <;> infer_instance

lemma safeCalls_of_longHeads {env} (nodes i nodes' events) (long : LongHeads nodes i)
    (h : serverStep env nodes i = some (nodes', events)) : SafeCalls nodes i nodes' events := by
  intro id dataLen received mem
  cases serverStep_events h with
  | inl none =>
    simp [none] at mem
  | inr shape =>
    obtain ⟨channelId, chunk, node, rfl, found, inside, tail, rfl, looked⟩ := shape
    have atLeast := long node found (le_trans (le_add_left _ _) inside)
    have mine : (ServerEvent.packet id dataLen received) = .packet node.channelId
        (ofBytes (node.received ++ chunk)).dataLen
        (node.received ++ chunk).length := by
      cases looked <;> simpa using mem
    cases mine
    refine ⟨atLeast, inside, ?_⟩
    have index : sessionKeyIndexSize = 4 := rfl
    have tags : overheadLen = 28 := rfl
    have overhead : encryptOverHeadLen = 32 := rfl
    rw [plainLen]
    bv_omega

section
variable {link : ControlLink} {nodes : List ServerDataBuf}

lemma oneAtATime_of_takenInTime {packets chunks} (taken : TakenInTime link nodes packets chunks) :
    OneAtATime (packets.map ControlPacket.bytes) 0 chunks := by
  refine oneAtATime_of_prefixes fun pre chunk post split => ?_
  have whole : chunks = (pre ++ [chunk]) ++ post := by
    rw [split, append_assoc]
    rfl
  obtain ⟨before, events, ran, messages₁⟩ := taken pre (chunk :: post) split
  obtain ⟨after, events', ran', messages₂⟩ := taken (pre ++ [chunk]) post whole
  rw [map_append, map_singleton] at ran'
  obtain ⟨mid, out, outs, ranPre, hStep, rfl⟩ := run_concat_eq_some.mp ran'
  obtain ⟨rfl, rfl⟩ := run_unique ranPre ran
  have one := length_messages_le_one hStep
  have counted := congrArg length messages₂
  rw [messages_append, messages₁, length_append, length_map, length_map,
    length_take, length_take] at counted
  have some₁ := completed_le (packets.map ControlPacket.bytes) pre.flatten.length
  have some₂ := completed_le (packets.map ControlPacket.bytes) (pre ++ [chunk]).flatten.length
  rw [length_map] at some₁ some₂
  rw [zero_add, zero_add]
  omega

lemma holding_added (fd) (fresh : ∀ node ∈ nodes, node.channelId ≠ link.toId) :
    Holding link (transSrvAddDataBufNode nodes link.toId fd) [] := by
  refine ⟨⟨link.toId, fd, maxDataBuf, [], zero_le _⟩, ?_, rfl, rfl⟩
  rw [transSrvAddDataBufNode, lookup_append, lookup_eq_none.mpr fresh, Option.none_or]
  exact lookup_cons_self rfl _

/-- The packets of a new channel are taken out once, in order and as soon as they are complete,
exactly if no read completes two; and under any input whose heads announce at least the
overhead, every packet looked at lies within the received bytes. -/
theorem control_framing (link : ControlLink) (nodes : List ServerDataBuf) (fd : BitVec 32)
    (fresh : ∀ node ∈ nodes, node.channelId ≠ link.toId) (chunks : List (List UInt8))
    (packets : List (ControlPacket link))
    (stream : chunks.flatten = (packets.map ControlPacket.bytes).flatten)
    (nonempty : ∀ chunk ∈ chunks, chunk.length ≠ 0)
    (fits : AllSteps (serverStep link.server) Fits (transSrvAddDataBufNode nodes link.toId fd)
      (chunks.map (.recvData link.toId))) :
    (TakenInTime link (transSrvAddDataBufNode nodes link.toId fd) packets chunks ↔
        OneAtATime (packets.map ControlPacket.bytes) 0 chunks) ∧
      ∀ env start inputs, AllSteps (serverStep env) LongHeads start inputs →
        AllResults (serverStep env) SafeCalls start inputs := by
  refine ⟨⟨oneAtATime_of_takenInTime, fun once pre post split => ?_⟩, fun env start inputs long =>
    long.results safeCalls_of_longHeads⟩
  have empty : Stalled (packets.map ControlPacket.bytes) [] := by
    intro frame rest first
    obtain ⟨p, _, _, rfl, _⟩ := map_eq_cons_iff.mp first
    rw [p.length_bytes]
    exact Nat.add_pos_left (by decide) _
  have ran := run_oneAtATime chunks packets (holding_added fd fresh) stream empty nonempty fits once
    split
  rwa [length_nil, zero_add] at ran

end

def peerKey (address : String) (side : AuthSideFlag) : StoredKey :=
  ⟨⟨.tcp, cString address, 0⟩, side, 5, [], [87], nofun, zero_le _, by decide⟩

def sampleLink : ControlLink where
  post := ⟨.identity, .zero, keysAfter [peerKey "B" .client],
    fun _ => some ⟨.tcp, cString "B", 0⟩, fun _ buffer => buffer.length⟩
  server := ⟨.identity, keysAfter [peerKey "A" .server], fun _ => some ⟨.tcp, cString "A", 0⟩,
    fun _ => some [], fun _ _ _ => .ok, fun _ _ _ => .ok⟩
  fromId := 1
  toId := 2
  sender := ⟨.tcp, cString "A", 0⟩
  receiver := ⟨.tcp, cString "B", 0⟩
  toReceiver := rfl
  toSender := rfl
  sameCipher := rfl
  stored := [peerKey "B" .client]
  storedThere := [peerKey "A" .server]
  keys := rfl
  keysThere := rfl
  shared := by decide +kernel
  recent := by decide +kernel

def samplePacket : ControlPacket sampleLink where
  iv := .zero
  seq := 3
  flags := flagRequest
  payload := [123, 125]
  bytes := (packBytes sampleLink.post 1 [123, 125]
    ⟨magicNumber, moduleSession, 3, flagRequest, 34⟩).toOption.getD []
  nonempty := by decide
  bounded := by decide
  packed := rfl

/-- Two packets in three reads, the second of which ends one packet and begins the other. -/
def threeReads : List Bytes :=
  [samplePacket.bytes.take 30, samplePacket.bytes.drop 30 ++ samplePacket.bytes.take 10,
    samplePacket.bytes.drop 10]

theorem control_framing_threeReads :
    TakenInTime sampleLink (transSrvAddDataBufNode [] 2 7) [samplePacket, samplePacket] threeReads ∧
      AllResults (serverStep sampleLink.server) SafeCalls (transSrvAddDataBufNode [] 2 7)
        (threeReads.map (.recvData 2)) := by
  have framed := control_framing sampleLink [] 7 nofun threeReads [samplePacket, samplePacket]
    (by decide +kernel) (by decide +kernel) (by decide +kernel)
  exact ⟨framed.1.mpr (by decide +kernel), framed.2 _ _ _ (by decide +kernel)⟩

/-- Both packets in one read, and a head that announces no data at all. -/
theorem twoPackets_not_takenInTime :
    ¬ TakenInTime sampleLink (transSrvAddDataBufNode [] 2 7) [samplePacket, samplePacket]
        [samplePacket.bytes ++ samplePacket.bytes] ∧
      ¬ AllResults (serverStep sampleLink.server) SafeCalls (transSrvAddDataBufNode [] 2 7)
        [.recvData 2 (mk magicNumber moduleSession 3 flagRequest 0).bytes] := by
  constructor
  · intro taken
    have once := oneAtATime_of_takenInTime taken
    revert once
    decide +kernel
  · intro safe
    have result : ∃ r ∈ serverStep sampleLink.server (transSrvAddDataBufNode [] 2 7)
        (.recvData 2 (mk magicNumber moduleSession 3 flagRequest 0).bytes),
        .packet 2 0 24 ∈ r.2 := by
      decide +kernel
    obtain ⟨⟨next, events⟩, hStep, called⟩ := result
    have atLeast := (safe [] _ [] rfl _ _ rfl next events hStep 2 0 24 called).1
    exact absurd atLeast (by decide)

end DSoftBus.TdcServer
