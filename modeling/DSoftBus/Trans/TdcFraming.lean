import DSoftBus.Lib.Execution
import DSoftBus.Lib.Framing
import DSoftBus.Trans.TdcClient

/-!
The receive buffer of a TCP-direct channel under any input, and under a stream of
packets. Whatever the peer sends, a call that does not fail leaves room for the
next byte. If the peer sends packets, they come out one by one however the stream
is cut into chunks.
-/
namespace DSoftBus.Tdc
open ByteString Execution Framing KeyedList List Nat TcpDataPacketHead

/-- A client without encryption, with the least configured length. -/
def plainContext : TdcContext where
  gcm := .identity
  sessionKey _ := some []
  onDataReceived _ _ _ := .ok
  maxBytesLen := 1024
  maxBytesLen_lt := by decide

section
variable {env : TdcContext} {node next : ClientDataBuf} {ret : SoftBusErrNo}
  {events : List TdcEvent}

structure Sized (env : TdcContext) (node : ClientDataBuf) : Prop where
  atLeast : minBufLen ≤ node.size
  atMost : node.size ≤ max minBufLen env.dataBufferMaxLen

/-- A plain text could only be allocated if the length in the head is above the
overhead and far from the wrap. -/
lemma dataLen_of_calloc {dataLen buf}
    (h : softBusCalloc (dataLen - BitVec.ofNat 32 overheadLen).toNat = some buf) :
    overheadLen < dataLen.toNat ∧
      (dataLen + BitVec.ofNat 32 dcDataHeadSize).toNat = dcDataHeadSize + dataLen.toNat := by
  rw [softBusCalloc] at h
  split at h
  · cases h
  next inside =>
    simp only [maxMallocSize, overheadLen, gcmIvLen, tagLen, dcDataHeadSize] at inside ⊢
    bv_omega

lemma transTdcProcessData_defined (env node) (complete : ((ofBytes node.received).dataLen +
      BitVec.ofNat 32 dcDataHeadSize).toNat ≤ node.received.length) :
    ∃ next ret events, transTdcProcessData env node = some (next, ret, events) ∧
      next.channelId = node.channelId ∧ next.size = node.size ∧
      (ret = .ok → next.received.length < node.received.length) := by
  rw [transTdcProcessData]
  split
  · exact ⟨node, .err, [], rfl, rfl, rfl, fun h => by cases h⟩
  simp only
  split
  · exact ⟨node, .mallocErr, [], rfl, rfl, rfl, fun h => by cases h⟩
  rename_i allocated
  obtain ⟨_, exact_⟩ := dataLen_of_calloc allocated
  rw [if_neg (by omega)]
  split
  · exact ⟨node, .decryptErr, [], rfl, rfl, rfl, fun h => by cases h⟩
  · refine ⟨_, _, _, rfl, rfl, rfl, ?_⟩
    intro _
    rw [ClientDataBuf.moveFront, length_drop]
    simp only [dcDataHeadSize] at exact_ complete ⊢
    omega

lemma transResizeDataBuffer_cases (node pkgLen) :
    transResizeDataBuffer node pkgLen = (node, .memErr) ∨
      ∃ fits, transResizeDataBuffer node pkgLen =
        ({ node with size := pkgLen, fits := fits }, .ok) := by
  rw [transResizeDataBuffer]
  split
  · exact .inl rfl
  · split
    · exact .inr ⟨‹_›, rfl⟩
    · exact .inl rfl

lemma transResizeDataBuffer_eq_ok {pkgLen} (larger : node.size < pkgLen)
    (small : pkgLen ≤ maxMallocSize) : ∃ fits, transResizeDataBuffer node pkgLen =
      ({ node with size := pkgLen, fits := fits }, .ok) := by
  have fits : node.received.length ≤ pkgLen := le_trans node.fits (le_of_lt larger)
  rw [transResizeDataBuffer, softBusCalloc_eq_some (zero_lt_of_lt larger) small]
  exact ⟨fits, dif_pos fits⟩

/-- The call has a result, the size of the buffer stays within its bounds, and the buffer has
room if the call did not fail. -/
def LeavesRoom (env : TdcContext) (node : ClientDataBuf)
    (result : Option (ClientDataBuf × SoftBusErrNo × List TdcEvent)) : Prop :=
  ∃ next ret events, result = some (next, ret, events) ∧ next.channelId = node.channelId ∧
    Sized env next ∧ (ret = .ok ∨ ret = .dataNotEnough → next.received.length < next.size)

lemma leavesRoom_of_err (sameId : next.channelId = node.channelId) (sized : Sized env next) :
    LeavesRoom env node (some (next, .err, events)) :=
  ⟨next, .err, events, rfl, sameId, sized, fun h => by cases h <;> contradiction⟩

lemma leavesRoom_of_room (sized : Sized env node) (room : node.received.length < node.size) :
    LeavesRoom env node (some (node, ret, events)) :=
  ⟨node, ret, events, rfl, rfl, sized, fun _ => room⟩

lemma leavesRoom_resized {pkgLen} (sized : Sized env node)
    (atMost : pkgLen ≤ env.dataBufferMaxLen) (larger : node.size < pkgLen) :
    LeavesRoom env node (some ((transResizeDataBuffer node pkgLen).1,
      (transResizeDataBuffer node pkgLen).2, events)) := by
  cases transResizeDataBuffer_cases node pkgLen with
  | inl kept =>
    rw [kept]
    exact ⟨node, .memErr, events, rfl, rfl, sized, fun h => by cases h <;> contradiction⟩
  | inr resized =>
    obtain ⟨fits, resized⟩ := resized
    have grown : minBufLen ≤ pkgLen := le_trans sized.atLeast (le_of_lt larger)
    have room : node.received.length < pkgLen := lt_of_le_of_lt node.fits larger
    rw [resized]
    exact ⟨_, .ok, events, rfl, rfl, ⟨grown, le_max_of_le_right atMost⟩, fun _ => room⟩

/-- The loop ends within its fuel, reads only received bytes, and leaves room unless
it fails. -/
lemma transTdcProcAllDataLoop_leavesRoom (fuel node)
    (enough : node.received.length < fuel) (sized : Sized env node) :
    LeavesRoom env node (transTdcProcAllDataLoop env fuel node) := by
  induction fuel generalizing node with
  | zero => exact absurd enough (not_lt_zero _)
  | succ fuel ih =>
    rw [transTdcProcAllDataLoop]
    simp only
    split
    next short =>
      have least : dcDataHeadSize < minBufLen := by decide
      exact leavesRoom_of_room sized (by have := sized.atLeast; omega)
    split
    · exact leavesRoom_of_err rfl sized
    split
    · exact leavesRoom_of_err rfl sized
    rename_i withinMax
    split
    next larger => exact leavesRoom_resized sized (not_lt.mp withinMax) larger
    split
    · exact leavesRoom_of_room sized (by omega)
    rename_i complete
    obtain ⟨next, ret, events, processed, sameId, sameSize, shorter⟩ :=
      transTdcProcessData_defined env node (not_lt.mp complete)
    have nextSized : Sized env next := ⟨sameSize ▸ sized.atLeast, sameSize ▸ sized.atMost⟩
    rw [processed]
    simp only
    split
    · exact leavesRoom_of_err sameId nextSized
    next isOk =>
      have less := shorter (not_not.mp isOk)
      obtain ⟨last, ret', events', looped, sameId', after⟩ := ih next (by omega) nextSized
      rw [looped]
      exact ⟨last, ret', events ++ events', rfl, sameId'.trans sameId, after⟩

def Fits (nodes : List ClientDataBuf) : TdcInput → Prop
  | .recvData channelId chunk => ∀ node,
      lookup ClientDataBuf.channelId channelId nodes = some node → chunk.length ≤ node.recvLen
  | _ => True

/-- A call for the channel returns `SOFTBUS_OK` or `SOFTBUS_DATA_NOT_ENOUGH`. -/
def Succeeds (env : TdcContext) (channelId : BitVec 32) (nodes : List ClientDataBuf) :
    TdcInput → Prop
  | .recvData id chunk => id = channelId → ∀ next ret events,
      transTdcRecvData env nodes channelId chunk = some (next, ret, events) →
        ret = .ok ∨ ret = .dataNotEnough
  | _ => True

structure Roomy (env : TdcContext) (channelId : BitVec 32) (nodes : List ClientDataBuf) : Prop where
  sized : ∀ node ∈ nodes, Sized env node
  room : ∀ node ∈ nodes, node.channelId = channelId → node.received.length < node.size

variable {nodes : List ClientDataBuf}

lemma transTdcRecvData_received {channelId chunk}
    (found : lookup ClientDataBuf.channelId channelId nodes = some node)
    (nonempty : chunk.length ≠ 0) (fits : chunk.length ≤ node.recvLen) :
    ∃ grown : ClientDataBuf, grown.received = node.received ++ chunk ∧
      grown.size = node.size ∧ grown.channelId = channelId ∧
      transTdcRecvData env nodes channelId chunk = (transTdcProcAllData env grown).map fun done =>
          (update ClientDataBuf.channelId channelId (fun _ => done.1) nodes, done.2) := by
  have held := node.fits
  have room : (node.received ++ chunk).length ≤ node.size := by
    rw [ClientDataBuf.recvLen] at fits
    rw [length_append]
    omega
  refine ⟨{ node with received := node.received ++ chunk, fits := room }, rfl, rfl,
    (mem_of_lookup found).2, ?_⟩
  rw [transTdcRecvData, found]
  simp only [if_neg nonempty, dif_pos room]

lemma transTdcRecvData_sized {id chunk} (sized : ∀ node ∈ nodes, Sized env node)
    (fits : Fits nodes (.recvData id chunk)) :
    ∃ next ret events, transTdcRecvData env nodes id chunk = some (next, ret, events) ∧
      (∀ node ∈ next, Sized env node) ∧ ∀ node ∈ next, node ∈ nodes ∨ node.channelId = id ∧
        (ret = .ok ∨ ret = .dataNotEnough → node.received.length < node.size) := by
  cases found : lookup ClientDataBuf.channelId id nodes with
  | none => exact ⟨nodes, .err, [], by rw [transTdcRecvData, found], sized, fun _ => .inl⟩
  | some node =>
    by_cases empty : chunk.length = 0
    · refine ⟨nodes, .err, [], ?_, sized, fun _ => .inl⟩
      rw [transTdcRecvData, found]
      simp only [if_pos empty]
    obtain ⟨grown, _, sameSize, sameId, recv⟩ :=
      transTdcRecvData_received found empty (fits node found)
    have before := sized node (mem_of_lookup found).1
    obtain ⟨last, ret, events, looped, lastId, after, room⟩ :=
      transTdcProcAllDataLoop_leavesRoom (grown.received.length + 1) grown (lt_succ_self _)
        ⟨sameSize ▸ before.atLeast, sameSize ▸ before.atMost⟩
    refine ⟨_, ret, events, by rw [recv, transTdcProcAllData, looped]; rfl, ?_, ?_⟩
    · intro other mem
      cases mem_update mem with
      | inl kept => exact sized other kept
      | inr changed =>
        obtain ⟨_, _, rfl⟩ := changed
        exact after
    · intro other mem
      cases mem_update mem with
      | inl kept => exact .inl kept
      | inr changed =>
        obtain ⟨_, _, rfl⟩ := changed
        exact .inr ⟨lastId.trans sameId, room⟩

lemma tdcStep_sized (nodes input) (sized : ∀ node ∈ nodes, Sized env node)
    (fits : Fits nodes input) :
    ∃ next out, tdcStep env nodes input = some (next, out) ∧ ∀ node ∈ next, Sized env node := by
  cases input with
  | recvData id chunk =>
    obtain ⟨next, ret, events, recv, after, _⟩ := transTdcRecvData_sized sized fits
    exact ⟨next, _, by rw [tdcStep, recv]; rfl, after⟩
  | addNode id fd =>
    exact ⟨_, _, rfl, forall_mem_cons.mpr ⟨⟨le_rfl, le_max_left ..⟩, sized⟩⟩
  | delNode id => exact ⟨_, _, rfl, fun node mem => sized node (mem_of_mem_remove mem)⟩

lemma tdcStep_roomy (channelId nodes input) (roomy : Roomy env channelId nodes)
    (guarded : Fits nodes input ∧ Succeeds env channelId nodes input) :
    ∃ next out, tdcStep env nodes input = some (next, out) ∧ Roomy env channelId next := by
  obtain ⟨next, out, step, sized⟩ := tdcStep_sized nodes input roomy.sized guarded.1
  refine ⟨next, out, step, sized, fun node mem own => ?_⟩
  cases input with
  | recvData id chunk =>
    obtain ⟨_, ret, events, recv, _, room⟩ := transTdcRecvData_sized roomy.sized guarded.1
    rw [tdcStep, recv] at step
    cases step
    cases room node mem with
    | inl kept => exact roomy.room node kept own
    | inr changed =>
      have same : id = channelId := changed.1.symm.trans own
      exact changed.2 (guarded.2 same _ ret events (same ▸ recv))
  | addNode id fd =>
    cases step
    cases mem_cons.mp mem with
    | inl new =>
      have least : 0 < minBufLen := by decide
      rw [new]
      exact least
    | inr old => exact roomy.room node old own
  | delNode id =>
    cases step
    exact roomy.room node (mem_of_mem_remove mem) own

/-- After every call of a run in which no call for the channel fails, the socket will be asked
for at least one byte. -/
theorem recvLen_pos_of_succeeds (configured : 1024 ≤ env.maxBytesLen) (channelId : BitVec 32)
    {front back : List TdcInput}
    (guarded : AllSteps (tdcStep env) (fun nodes input => Fits nodes input ∧
      Succeeds env channelId nodes input) [] (front ++ back)) :
    ∃ nodes out, run (tdcStep env) [] front = some (nodes, out) ∧
      ∀ node ∈ nodes, node.channelId = channelId →
        node.received.length < node.size ∧ node.size ≤ env.dataBufferMaxLen ∧ 1 ≤ node.recvLen := by
  have start : Roomy env channelId [] :=
    ⟨by simp, by simp⟩
  obtain ⟨nodes, out, ran, roomy⟩ :=
    run_defined (tdcStep_roomy channelId) start guarded.front
  refine ⟨nodes, out, ran, fun node mem ofChannel => ?_⟩
  have room := roomy.room node mem ofChannel
  have least : minBufLen ≤ env.dataBufferMaxLen := Nat.add_le_add_right configured _
  exact ⟨room, max_eq_right least ▸ (roomy.sized node mem).atMost, Nat.sub_pos_of_lt room⟩

/-- A packet comes in two reads, and the second has the first byte of the next one. -/
def cutPacket : List TdcInput :=
  let packet := (transTdcPackData .identity [] .zero 1 [7] .message).getD []
  [.addNode 1 5, .recvData 1 (packet.take 20), .recvData 1 (packet.drop 20 ++ [0xCE])]

theorem recvLen_pos_cutPacket : ∃ nodes out, run (tdcStep plainContext) [] cutPacket =
      some (nodes, out) ∧ nodes.map (·.received) = [[0xCE]] ∧
      ∀ node ∈ nodes, node.channelId = 1 → node.received.length < node.size ∧
        node.size ≤ plainContext.dataBufferMaxLen ∧ 1 ≤ node.recvLen := by
  have guarded : AllSteps (tdcStep plainContext) (fun nodes input => Fits nodes input ∧
      Succeeds plainContext 1 nodes input) [] (cutPacket ++ []) := by
    refine .cons ⟨trivial, trivial⟩ rfl (.cons ⟨?_, ?_⟩ rfl (.cons ⟨?_, ?_⟩ rfl
      (allSteps_nil _ _)))
    case refine_1 | refine_3 =>
      intro node found
      cases found
      decide
    · intro _ next ret events recv
      cases recv
      exact .inr rfl
    · intro _ next ret events recv
      cases recv
      exact .inr rfl
  obtain ⟨nodes, out, ran, room⟩ := recvLen_pos_of_succeeds (le_refl _) 1 guarded
  have left : ∃ r ∈ run (tdcStep plainContext) [] cutPacket, r.1.map (·.received) = [[0xCE]] :=
    ⟨_, rfl, rfl⟩
  obtain ⟨_, same, rest⟩ := left
  cases ran.symm.trans same
  exact ⟨nodes, out, ran, rest, room⟩

end

/-- A packet as the peer packs it for the channel, within the configured length. -/
structure SessionPacket (env : TdcContext) (sessionKey : Bytes) where
  iv : GcmIv
  sequence : BitVec 32
  flag : Flag
  payload : Bytes
  bytes : Bytes
  session : flag = .bytes ∨ flag = .message
  nonempty : 1 ≤ payload.length
  bounded : payload.length ≤ env.maxBytesLen
  packed : transTdcPackData env.gcm sessionKey iv sequence payload flag = some bytes

namespace SessionPacket
variable {env : TdcContext} {sessionKey : Bytes} (p : SessionPacket env sessionKey)

def head : TcpDataPacketHead :=
  ⟨magicNumber, p.sequence, p.flag.code, BitVec.ofNat 32 (p.payload.length + overheadLen)⟩

def call (channelId : BitVec 32) : TdcEvent :=
  .processDataByFlag channelId p.flag.code p.sequence p.payload

lemma toNat_dataLen : p.head.dataLen.toNat = p.payload.length + overheadLen := by
  have small := p.bounded
  have limit := env.maxBytesLen_lt
  rw [head, BitVec.toNat_ofNat]
  exact mod_eq_of_lt (by simp only [overheadLen, gcmIvLen, tagLen]; omega)

lemma toNat_pkgLen : (p.head.dataLen + BitVec.ofNat 32 dcDataHeadSize).toNat =
    p.payload.length + dataExtendLen := by
  have small := p.bounded
  have limit := env.maxBytesLen_lt
  rw [BitVec.toNat_add, toNat_dataLen, BitVec.toNat_ofNat]
  simp only [dataExtendLen, overheadLen, gcmIvLen, tagLen, dcDataHeadSize]
  omega

lemma bytes_eq : p.payload.length + dataExtendLen ≤ maxMallocSize ∧
    ∃ encrypted, p.bytes = p.head.bytes ++ encrypted ∧
      encrypted.length = p.payload.length + overheadLen ∧
      softBusDecryptData env.gcm sessionKey encrypted = .ok p.payload := by
  have notAck : p.flag ≠ .ack := by
    cases p.session with
    | inl h => rw [h]; decide
    | inr h => rw [h]; decide
  have packed := p.packed
  rw [transTdcPackData] at packed
  simp only [if_neg notAck] at packed
  split at packed
  · cases packed
  next small =>
    refine ⟨p.toNat_pkgLen ▸ not_lt.mp small, ?_⟩
    split at packed
    · cases packed
    next encrypted done =>
      exact ⟨encrypted, (Option.some.inj packed).symm, length_softBusEncryptData done,
        softBusDecryptData_encrypted done⟩

lemma length_bytes : p.bytes.length = p.payload.length + dataExtendLen := by
  obtain ⟨_, encrypted, split, length, _⟩ := p.bytes_eq
  rw [split, length_append, TcpDataPacketHead.length_bytes, length, dataExtendLen]
  omega

variable {p} {held coming : Bytes} {frames : List Bytes}

lemma ofBytes_held (stream : held ++ coming = (p.bytes :: frames).flatten)
    (enough : dcDataHeadSize ≤ held.length) : ofBytes held = p.head := by
  obtain ⟨_, encrypted, split, _⟩ := p.bytes_eq
  have inFrame : dcDataHeadSize ≤ p.bytes.length := by
    rw [length_bytes, dataExtendLen]
    omega
  rw [← ofBytes_take, take_held stream enough inFrame, ofBytes_take, split, ofBytes_append]

end SessionPacket

open SessionPacket

def TdcEvent.isProcessDataByFlag : TdcEvent → Bool
  | .processDataByFlag .. => true
  | _ => false

def handed (events : List TdcEvent) : List TdcEvent := events.filter TdcEvent.isProcessDataByFlag

lemma handed_append (front back) :
    handed (front ++ back) = handed front ++ handed back := filter_append ..

section
variable {env : TdcContext} {sessionKey : Bytes} {channelId : BitVec 32}

/-- The calls have taken some of the packets; what is held and what is coming are the
others, of which the first is not complete. -/
def Taken (channelId : BitVec 32) (packets : List (SessionPacket env sessionKey))
    (coming : Bytes) (held : Bytes) (events : List TdcEvent) : Prop :=
  ∃ done left, packets = done ++ left ∧ handed events = done.map (call · channelId) ∧
    held ++ coming = (left.map SessionPacket.bytes).flatten ∧
    Stalled (left.map SessionPacket.bytes) held

lemma taken_none {p : SessionPacket env sessionKey} {rest : List (SessionPacket env sessionKey)}
    {held coming : Bytes} (stream : held ++ coming = ((p :: rest).map SessionPacket.bytes).flatten)
    (short : held.length < p.bytes.length) : Taken channelId (p :: rest) coming held [] := by
  refine ⟨[], p :: rest, rfl, rfl, stream, ?_⟩
  intro frame others first
  injection first with first _
  rwa [← first]

variable (keyed : env.sessionKey channelId = some sessionKey)
  (accepted : ∀ plain type, env.onDataReceived channelId plain type = .ok)
include accepted

lemma transTdcProcessDataByFlag_packet (p : SessionPacket env sessionKey) :
    ∃ events, transTdcProcessDataByFlag env p.flag.code p.sequence channelId p.payload =
        (.ok, events) ∧ handed events = [p.call channelId] := by
  cases p.session with
  | inl isBytes =>
    refine ⟨[p.call channelId, .onDataReceived channelId p.payload .bytes], ?_, rfl⟩
    rw [transTdcProcessDataByFlag, call, accepted, isBytes]
    rfl
  | inr isMessage =>
    refine ⟨[p.call channelId, .sendAck channelId p.sequence,
      .onDataReceived channelId p.payload .message], ?_, rfl⟩
    simp only [transTdcProcessDataByFlag, call, accepted, isMessage]
    rfl

include keyed

lemma transTdcProcessData_packet (p : SessionPacket env sessionKey) {node rest}
    (own : node.channelId = channelId) (front : node.received = p.bytes ++ rest) :
    ∃ next events, transTdcProcessData env node = some (next, .ok, events) ∧
      next.channelId = channelId ∧ next.received = rest ∧ handed events = [p.call channelId] := by
  obtain ⟨small, encrypted, split, length, decrypted⟩ := p.bytes_eq
  obtain ⟨events, processed, calls⟩ := transTdcProcessDataByFlag_packet accepted p
  have head : ofBytes node.received = p.head := by
    rw [front, split, append_assoc, ofBytes_append]
  have plainLen : (p.head.dataLen - BitVec.ofNat 32 overheadLen).toNat = p.payload.length := by
    have dataLen := p.toNat_dataLen
    simp only [overheadLen, gcmIvLen, tagLen] at dataLen ⊢
    bv_omega
  have allocated := softBusCalloc_eq_some p.nonempty (le_of_add_right_le small)
  have pkgEnd : dcDataHeadSize + p.head.dataLen.toNat = p.bytes.length := by
    rw [p.toNat_dataLen, p.length_bytes, dataExtendLen]
    omega
  have body : (node.received.drop dcDataHeadSize).take p.head.dataLen.toNat = encrypted := by
    rw [front, split, append_assoc, drop_left' p.head.length_bytes, p.toNat_dataLen,
      take_left' length]
  have inside : ¬ node.received.length < p.bytes.length := by
    rw [front, length_append]
    omega
  refine ⟨node.moveFront p.bytes.length, events, ?_, own, ?_, calls⟩
  · rw [transTdcProcessData, own, keyed]
    simp only [head, plainLen, allocated, pkgEnd, if_neg inside, body, decrypted]
    rw [← processed]
    rfl
  · change node.received.drop p.bytes.length = rest
    rw [front, drop_left' rfl]

variable (packets : List (SessionPacket env sessionKey))

lemma transTdcProcAllDataLoop_stream (fuel : Nat) (node : ClientDataBuf) {coming : Bytes}
    (enough : node.received.length < fuel) (own : node.channelId = channelId)
    (stream : node.received ++ coming = (packets.map SessionPacket.bytes).flatten) :
    ∃ next ret events, transTdcProcAllDataLoop env fuel node = some (next, ret, events) ∧
      (ret = .ok ∨ ret = .dataNotEnough) ∧ next.channelId = channelId ∧
      Taken channelId packets coming next.received events := by
  induction packets generalizing fuel node with
  | nil =>
    have empty : node.received = [] := (append_eq_nil_iff.mp stream).1
    obtain ⟨fuel, rfl⟩ := Nat.exists_eq_add_of_lt (Nat.zero_lt_of_lt enough)
    refine ⟨node, .dataNotEnough, [], ?_, .inr rfl, own, [], [], rfl, rfl, stream, ?_⟩
    · rw [zero_add, transTdcProcAllDataLoop, empty]
      rfl
    · intro frame others first
      cases first
  | cons p rest ih =>
    have length := p.length_bytes
    have bounded := p.bounded
    obtain ⟨fuel, rfl⟩ := Nat.exists_eq_add_of_lt (Nat.zero_lt_of_lt enough)
    rw [zero_add, transTdcProcAllDataLoop]
    simp only
    split
    next short =>
      refine ⟨node, _, _, rfl, .inr rfl, own, taken_none stream ?_⟩
      rw [length, dataExtendLen]
      omega
    rename_i hasHead
    have head := ofBytes_held stream (not_lt.mp hasHead)
    rw [head, p.toNat_pkgLen, ← length, if_neg (fun h => h rfl), if_neg (by
      rw [length, TdcContext.dataBufferMaxLen]; omega)]
    split
    next larger =>
      obtain ⟨fits, resized⟩ := transResizeDataBuffer_eq_ok larger (length ▸ p.bytes_eq.1)
      rw [resized]
      exact ⟨_, _, _, rfl, .inl rfl, own, taken_none stream (lt_of_le_of_lt node.fits larger)⟩
    split
    next short => exact ⟨node, _, _, rfl, .inr rfl, own, taken_none stream short⟩
    rename_i complete
    obtain ⟨front, behind⟩ := take_frame stream (not_lt.mp complete)
    obtain ⟨next, events, processed, nextId, received, calls⟩ :=
      transTdcProcessData_packet keyed accepted p own front
    have shorter : next.received.length < fuel := by
      rw [received, length_drop, length, dataExtendLen]
      have positive : 0 < dcDataHeadSize := by decide
      omega
    obtain ⟨last, ret, events', looped, success, lastId, done, left, split, calls', held,
      stalled⟩ :=
      ih fuel next shorter nextId (received ▸ behind)
    rw [processed]
    simp only [looped]
    refine ⟨last, ret, events ++ events', rfl, success, lastId, p :: done, left, ?_, ?_, held,
      stalled⟩
    · rw [split, cons_append]
    · rw [handed_append, calls, calls', map_cons]
      rfl

variable {nodes : List ClientDataBuf}

lemma transTdcRecvData_stream {node chunk coming}
    (found : lookup ClientDataBuf.channelId channelId nodes = some node)
    (nonempty : chunk.length ≠ 0) (fits : Fits nodes (.recvData channelId chunk))
    (stream : node.received ++ (chunk ++ coming) = (packets.map SessionPacket.bytes).flatten) :
    ∃ nodes' next ret events,
      transTdcRecvData env nodes channelId chunk = some (nodes', ret, events) ∧
      lookup ClientDataBuf.channelId channelId nodes' = some next ∧
      (ret = .ok ∨ ret = .dataNotEnough) ∧ Taken channelId packets coming next.received events := by
  obtain ⟨grown, received, _, own, recv⟩ :=
    transTdcRecvData_received found nonempty (fits node found)
  rw [← append_assoc, ← received] at stream
  obtain ⟨next, ret, events, looped, success, nextId, taken⟩ :=
    transTdcProcAllDataLoop_stream keyed accepted packets (grown.received.length + 1) grown
      (lt_succ_self _) own stream
  refine ⟨_, next, ret, events, by rw [recv, transTdcProcAllData, looped]; rfl, ?_, success, taken⟩
  rw [lookup_update_self (fun _ _ => nextId), found]
  rfl

lemma run_stream (chunks : List Bytes) {node}
    (found : lookup ClientDataBuf.channelId channelId nodes = some node)
    (stream : node.received ++ chunks.flatten = (packets.map SessionPacket.bytes).flatten)
    (stalled : Stalled (packets.map SessionPacket.bytes) node.received)
    (nonempty : ∀ chunk ∈ chunks, chunk.length ≠ 0)
    (fits : AllSteps (tdcStep env) Fits nodes (chunks.map (.recvData channelId))) :
    ∃ last out, run (tdcStep env) nodes (chunks.map (.recvData channelId)) = some (last, out) ∧
      handed (out.flatMap Prod.snd) = packets.map (call · channelId) ∧
      ∀ call ∈ out, call.1 = .ok ∨ call.1 = .dataNotEnough := by
  induction chunks generalizing nodes node packets with
  | nil =>
    have none := map_eq_nil_iff.mp (all_taken stream stalled)
    rw [none]
    exact ⟨nodes, [], rfl, rfl, by simp⟩
  | cons chunk rest ih =>
    obtain ⟨nodes', next, ret, events, recv, found', success, done, left, split, calls, held,
        stalled'⟩ := transTdcRecvData_stream keyed accepted packets found
      (nonempty chunk mem_cons_self) fits.head stream
    have hStep : tdcStep env nodes (.recvData channelId chunk) =
        some (nodes', [(ret, events)]) := by
      rw [tdcStep, recv]
      rfl
    obtain ⟨last, out, ran, calls', successes⟩ := ih left found' held stalled'
      (fun chunk mem => nonempty chunk (mem_cons_of_mem _ mem)) (fits.tail hStep)
    refine ⟨last, (ret, events) :: out, run_cons_eq_some.mpr ⟨nodes', _, out, hStep, ran, rfl⟩,
      ?_, ?_⟩
    · rw [flatMap_cons, handed_append, calls, calls', split, map_append]
    · intro call mem
      cases mem_cons.mp mem with
      | inl first => rw [first]; exact success
      | inr later => exact successes call later

/-- The receive side of a new channel hands over exactly the packed payloads, in order,
for every way to cut their stream into chunks that fit. -/
theorem run_packed_stream (nodes : List ClientDataBuf) (fd : BitVec 32)
    (chunks : List (List UInt8)) (packets : List (SessionPacket env sessionKey))
    (stream : chunks.flatten = (packets.map SessionPacket.bytes).flatten)
    (nonempty : ∀ chunk ∈ chunks, chunk.length ≠ 0)
    (fits : AllSteps (tdcStep env) Fits (transAddDataBufNode nodes channelId fd)
      (chunks.map (.recvData channelId))) :
    ∃ last out, run (tdcStep env) (transAddDataBufNode nodes channelId fd)
        (chunks.map (.recvData channelId)) = some (last, out) ∧
      handed (out.flatMap Prod.snd) = packets.map (call · channelId) ∧
      ∀ call ∈ out, call.1 = .ok ∨ call.1 = .dataNotEnough := by
  refine run_stream keyed accepted packets chunks (lookup_cons_self rfl nodes) stream ?_
    nonempty fits
  intro frame rest first
  obtain ⟨p, _, _, rfl, _⟩ := map_eq_cons_iff.mp first
  rw [p.length_bytes]
  exact Nat.add_pos_left p.nonempty _

end

def onePacket : SessionPacket plainContext [] where
  iv := .zero
  sequence := 1
  flag := .message
  payload := [7]
  bytes := (transTdcPackData .identity [] .zero 1 [7] .message).getD []
  session := Or.inr rfl
  nonempty := le_refl _
  bounded := by decide
  packed := rfl

theorem run_packed_stream_cut : ∃ last out, run (tdcStep plainContext) (transAddDataBufNode [] 1 5)
        ([onePacket.bytes.take 20, onePacket.bytes.drop 20].map (.recvData 1)) = some (last, out) ∧
      handed (out.flatMap Prod.snd) = [onePacket].map (call · 1) ∧
      ∀ call ∈ out, call.1 = .ok ∨ call.1 = .dataNotEnough := by
  refine run_packed_stream rfl (fun _ _ => rfl) [] 5 _ [onePacket] rfl ?_ ?_
  · decide
  · refine .cons ?_ rfl (.cons ?_ rfl (allSteps_nil _ _))
    · intro node found
      cases found
      decide
    · intro node found
      cases found
      decide

def ClientDataBuf.dataLen (node : ClientDataBuf) : BitVec 32 := (ofBytes node.received).dataLen

/-- The tests that a round of `TransTdcProcAllData` makes before `TransTdcProcessData`. -/
structure Admitted (env : TdcContext) (node : ClientDataBuf) : Prop where
  hasHead : dcDataHeadSize ≤ node.received.length
  magic : (ofBytes node.received).magicNumber = magicNumber
  allowed : (node.dataLen + BitVec.ofNat 32 dcDataHeadSize).toNat ≤ env.dataBufferMaxLen
  sized : (node.dataLen + BitVec.ofNat 32 dcDataHeadSize).toNat ≤ node.size
  complete : (node.dataLen + BitVec.ofNat 32 dcDataHeadSize).toNat ≤ node.received.length

def ClientDataBuf.InBounds (node : ClientDataBuf) : Prop :=
  overheadLen < node.dataLen.toNat ∧ dcDataHeadSize + node.dataLen.toNat ≤ node.received.length ∧
    node.received.length ≤ node.size

/-- The length in the head is above the overhead and does not wrap with the size of the head. -/
def ClientDataBuf.Announces (node : ClientDataBuf) : Prop :=
  overheadLen < node.dataLen.toNat ∧ node.dataLen.toNat + dcDataHeadSize < 2 ^ 32

/-- The rounds of TransTdcProcAllData on `node`: the buffers that TransTdcProcessData is
called with. -/
inductive Processes (env : TdcContext) : ClientDataBuf → ClientDataBuf → Prop
  | here {node} (admitted : Admitted env node) : Processes env node node
  | next {node next events round} (admitted : Admitted env node)
      (processed : transTdcProcessData env node = some (next, .ok, events))
      (later : Processes env next round) : Processes env node round

/-- A call of TransTdcRecvData comes to the round. -/
def Called (env : TdcContext) (nodes : List ClientDataBuf) (round : ClientDataBuf) :
    TdcInput → Prop
  | .recvData channelId chunk => ∃ node, ∃ fits : (node.received ++ chunk).length ≤ node.size,
      lookup ClientDataBuf.channelId channelId nodes = some node ∧ chunk.length ≠ 0 ∧
      Processes env { node with received := node.received ++ chunk, fits := fits } round
  | _ => False

section
variable {env : TdcContext} {node round : ClientDataBuf}

/-- A round that processes the front of the buffer reads only received bytes, but the head is
within its bounds only if its length is announced properly. -/
lemma admitted_inBounds_iff (width : node.size < 2 ^ 32) (admitted : Admitted env node) :
    (∀ fuel, transTdcProcAllDataLoop env (fuel + 1) node = match transTdcProcessData env node with
      | none => none
      | some (next, ret, events) =>
        if ret ≠ .ok then some (next, .err, events)
        else (transTdcProcAllDataLoop env fuel next).map fun done =>
          (done.1, done.2.1, events ++ done.2.2)) ∧
    transTdcProcessData env node ≠ none ∧ (node.InBounds ↔ node.Announces) := by
  obtain ⟨hasHead, magic, allowed, sized, complete⟩ := admitted
  obtain ⟨next, ret, events, defined, _⟩ := transTdcProcessData_defined env node complete
  refine ⟨fun fuel => ?_, by simp [defined], ?_⟩
  · refine (if_neg (not_lt.mpr hasHead)).trans ((if_neg (not_not.mpr magic)).trans ?_)
    refine (if_neg (not_lt.mpr allowed)).trans ((if_neg (not_lt.mpr sized)).trans ?_)
    exact if_neg (not_lt.mpr complete)
  · have held := node.fits
    simp only [ClientDataBuf.InBounds, ClientDataBuf.Announces, BitVec.toNat_add,
      BitVec.toNat_ofNat, dcDataHeadSize] at complete ⊢
    omega

lemma Processes.admitted (processes : Processes env node round) :
    Admitted env round ∧ round.size = node.size := by
  induction processes with
  | here admitted => exact ⟨admitted, rfl⟩
  | @next node _ _ _ admitted processed _ ih =>
    obtain ⟨_, _, _, same, _, sameSize, _⟩ := transTdcProcessData_defined env node admitted.complete
    cases processed.symm.trans same
    exact ⟨ih.1, ih.2.trans sameSize⟩

/-- After every run, a call reads only received bytes, but the head of one of its rounds is
within its bounds only if its length is announced properly. -/
theorem run_inBounds_iff {front : List TdcInput} {input : TdcInput}
    (fits : AllSteps (tdcStep env) Fits [] (front ++ [input])) :
    ∃ nodes out, run (tdcStep env) [] front = some (nodes, out) ∧ tdcStep env nodes input ≠ none ∧
      ∀ round, Called env nodes round input → (round.InBounds ↔ round.Announces) := by
  obtain ⟨nodes, out, ran, sized⟩ := run_defined tdcStep_sized (by simp) fits.front
  obtain ⟨_, _, step, _⟩ := tdcStep_sized nodes input sized (fits.after ran).head
  refine ⟨nodes, out, ran, by simp [step], fun round called => ?_⟩
  cases input with
  | recvData channelId chunk =>
    obtain ⟨node, _, found, _, processes⟩ := called
    obtain ⟨admitted, sameSize⟩ := processes.admitted
    have atMost := (sized node (mem_of_lookup found).1).atMost
    have width : round.size < 2 ^ 32 := by
      have limit := env.maxBytesLen_lt
      rw [sameSize]
      refine atMost.trans_lt (max_lt (by decide) ?_)
      exact (Nat.add_lt_add_right limit dataExtendLen).trans (by decide)
    exact (admitted_inBounds_iff width admitted).2.2
  | addNode _ _ | delNode _ => exact called.elim

end

/-- The second read completes a packet, and its round is within its bounds. -/
theorem onePacket_inBounds :
    let node : ClientDataBuf := ⟨1, 5, minBufLen, onePacket.bytes, by decide⟩
    ∃ nodes out, run (tdcStep plainContext) []
        [.addNode 1 5, .recvData 1 (onePacket.bytes.take 20)] = some (nodes, out) ∧
      Called plainContext nodes node (.recvData 1 (onePacket.bytes.drop 20)) ∧ node.InBounds := by
  have fits : AllSteps (tdcStep plainContext) Fits []
      ([.addNode 1 5, .recvData 1 (onePacket.bytes.take 20)] ++
        [.recvData 1 (onePacket.bytes.drop 20)]) := by
    refine .cons trivial rfl (.cons ?_ rfl (.cons ?_ rfl (allSteps_nil _ _)))
    · intro node found
      cases found
      decide
    · intro node found
      cases found
      decide
  obtain ⟨nodes, out, ran, _, bounds⟩ := run_inBounds_iff fits
  cases ran
  have called : Called plainContext
      [⟨1, 5, minBufLen, onePacket.bytes.take 20, by decide⟩]
      ⟨1, 5, minBufLen, onePacket.bytes, by decide⟩ (.recvData 1 (onePacket.bytes.drop 20)) :=
    ⟨_, by decide, rfl, by decide, .here ⟨by decide, by decide, by decide, by decide, by decide⟩⟩
  exact ⟨_, _, rfl, called, (bounds _ called).mpr ⟨by decide, by decide⟩⟩

/-- Sixteen bytes with a length of zero are processed; the length of the plain text is then
nearly 2^32. -/
theorem shortHead_admitted :
    let node : ClientDataBuf :=
      ⟨1, 5, minBufLen, (TcpDataPacketHead.mk magicNumber 0 0 0).bytes, by decide⟩
    run (tdcStep plainContext) [] [.addNode 1 5, .recvData 1 node.received] =
        some ([node], [(.err, [])]) ∧
      Admitted plainContext node ∧ ¬ overheadLen < node.dataLen.toNat ∧
      (node.dataLen - BitVec.ofNat 32 overheadLen).toNat = 2 ^ 32 - overheadLen :=
  ⟨rfl, ⟨by decide, by decide, by decide, by decide, by decide⟩, by decide, by decide⟩

end DSoftBus.Tdc
