import DSoftBus.Trans.ProxyAssembly

/-!
The lengths of a received message from TransProxyParseMessage to TransProxyNotifySession. The
length in the head of a packet is compared with the overhead of the encryption, but not with
the number of received bytes.
-/
namespace DSoftBus.Proxy
open ByteString Execution List

/-- What TransProxyNoSubPacketProc is called with: the bytes behind its pointer, and `len`. -/
structure ReceivedPacket where
  bytes : Bytes
  len : Nat

namespace ReceivedPacket
variable (packet : ReceivedPacket)

def head : PacketHead := PacketHead.ofBytes packet.bytes

/-- The packet is passed to the decryption. -/
def Decrypted : Prop :=
  packet.head.magicNumber = magicNumber ∧ overheadLen < packet.head.dataLen.toInt ∧
    (softBusCalloc (packet.head.dataLen.toNat - overheadLen)).isSome
deriving Decidable

def Inside : Prop := sizeofPacketHead + packet.head.dataLen.toNat ≤ packet.len
deriving Decidable

end ReceivedPacket

section
variable (env : ReceiveContext) (processors : List ChannelSliceProcessor) (channelId : BitVec 32)
  (data : Bytes)

def packetOf : Option ReceivedPacket :=
  let head := SliceHead.ofBytes data
  let payload := data.drop sizeofSliceHead
  if data.length ≤ sliceHeadLen then none
  else
    match transProxyCheckSliceHead head with
    | none => none
    | some priority =>
      if head.sliceNum = 1 then some ⟨payload, payload.length⟩
      else if head.sliceSeq ≠ 0 ∧ head.sliceNum = head.sliceSeq + 1 then
        match transProxyAppendSlice (processorAt processors channelId priority) head payload with
        | .error _ => none
        | .ok next => some ⟨next.data.getD [], next.dataLen⟩
      else none

/-- For a message of `len` bytes that carries `data`. The first three are the subtractions
before the packet; without a packet that is decrypted nothing reaches the session. -/
structure LengthsValid (len : Nat) : Prop where
  message : proxyChannelHeadLen ≤ len
  slice : sliceHeadLen < data.length → sizeofSliceHead ≤ data.length
  assembly : ∀ priority, (processorAt processors channelId priority).dataLen ≤
    (processorAt processors channelId priority).bufLen
  packet : ∀ packet ∈ packetOf processors channelId data, packet.Decrypted →
    overheadLen < packet.head.dataLen.toNat ∧ packet.Inside
  session : (∀ packet ∈ packetOf processors channelId data, ¬ packet.Decrypted) →
    ∃ next ret, transOnNormalMsgReceived env processors channelId data = some (next, ret, [])

/-- TransProxyParseMessage calls AuthDecrypt, which subtracts its overhead from the length. -/
def DecryptsMessage (connId : BitVec 32) (msg : ProxyMessage) : Prop :=
  msg.chiper &&& encrypted ≠ 0 ∧ (chiperSideProc env.cipher msg).isSome ∧
    (env.cipher.connectOption connId).isSome
deriving Decidable

def AllLengthsValid : SliceInput → Prop
  | .message channelId connId bytes =>
    (∀ msg ∈ transProxyParseMessageHead connId bytes, msg.type = .normal →
      proxyChannelHeadLen < bytes.length → DecryptsMessage env connId msg →
      Auth.encryptOverHeadLen ≤ bytes.length - proxyChannelHeadLen) ∧
    ∀ msg ∈ transProxyParseMessage env.cipher connId bytes,
      msg.type = .normal → LengthsValid env processors channelId msg.data bytes.length
  | .timer | .delChannel _ => True

end

/-- The packets in what is received: in one message, or in slices 0, 1, .. that come one after the
other on a channel with one priority. -/
inductive Carried (env : ReceiveContext) (inputs : List SliceInput) : Bytes → Prop
  | whole {channelId connId bytes msg} (mem : .message channelId connId bytes ∈ inputs)
      (parsed : transProxyParseMessage env.cipher connId bytes = some msg)
      (single : (SliceHead.ofBytes msg.data).sliceNum = 1) :
      Carried env inputs (msg.data.drop sizeofSliceHead)
  | sliced {channelId priority} {a : PartialPacket}
      (received : a.slices <:+: slicesAt env channelId priority inputs)
      (complete : a.sliceNum = BitVec.ofNat 32 a.parts.length) : Carried env inputs a.parts.flatten

/-- What the peers send: an encrypted message is not shorter than the overhead, and the head of a
packet announces no more than the peer has sent of it. -/
structure Announced (env : ReceiveContext) (inputs : List SliceInput) : Prop where
  encrypted : ∀ channelId connId bytes, .message channelId connId bytes ∈ inputs →
    ∀ msg ∈ transProxyParseMessageHead connId bytes, msg.type = .normal →
      msg.chiper &&& encrypted ≠ 0 → proxyChannelHeadLen + Auth.encryptOverHeadLen ≤ bytes.length
  packet : ∀ packet, Carried env inputs packet → ReceivedPacket.Decrypted ⟨packet, packet.length⟩ →
    ReceivedPacket.Inside ⟨packet, packet.length⟩

variable {env : ReceiveContext} {procs : List ChannelSliceProcessor} {cid : BitVec 32}
  {data : Bytes}

lemma noSubPacketProc_silent {len} (kept : ¬ (ReceivedPacket.mk data len).Decrypted) :
    ∃ ret, transProxyNoSubPacketProc env cid data = some (ret, []) := by
  rw [transProxyNoSubPacketProc]
  split
  · exact ⟨_, rfl⟩
  next magic =>
    split
    · exact ⟨_, rfl⟩
    rw [transProxyProcessSessionData]
    split
    · exact ⟨_, rfl⟩
    next long =>
      split
      · exact ⟨_, rfl⟩
      next buffer allocated =>
        refine absurd ⟨not_not.mp magic, not_le.mp long, ?_⟩ kept
        exact Option.isSome_iff_exists.mpr ⟨buffer, allocated⟩

lemma sliceProcess_silent {head processor} (kept : head.sliceSeq ≠ 0 →
      head.sliceNum = head.sliceSeq + 1 →
      ∀ next, transProxyAppendSlice processor head data = .ok next →
      ¬ (ReceivedPacket.mk (next.data.getD []) next.dataLen).Decrypted) :
    ∃ next ret, transProxySliceProcess env cid head data processor = some (next, ret, []) := by
  rw [transProxySliceProcess]
  split
  · exact ⟨_, _, rfl⟩
  next later =>
    split
    · rename_i last
      rw [transProxyLastSliceProcess]
      split
      · exact ⟨_, _, rfl⟩
      next next appended =>
        obtain ⟨ret, done⟩ := @noSubPacketProc_silent env cid _ _ (kept later last next appended)
        exact ⟨_, _, by rw [done]; rfl⟩
    · exact ⟨_, _, rfl⟩

lemma received_silent (kept : ∀ packet ∈ packetOf procs cid data, ¬ packet.Decrypted) :
    ∃ next ret, transOnNormalMsgReceived env procs cid data = some (next, ret, []) := by
  rw [transOnNormalMsgReceived]
  split
  · exact ⟨_, _, rfl⟩
  next long =>
    dsimp only
    split
    · exact ⟨_, _, rfl⟩
    next priority checked =>
      simp only [packetOf, if_neg long, checked] at kept
      split
      next single =>
        obtain ⟨ret, done⟩ := @noSubPacketProc_silent env cid _ _ (kept _ (if_pos single))
        exact ⟨_, _, by rw [done]; rfl⟩
      next several =>
        simp only [transProxySubPacketProc, processorAt_getChannel]
        split
        · exact ⟨_, _, rfl⟩
        obtain ⟨next, ret, done⟩ := @sliceProcess_silent env cid
          (data.drop sizeofSliceHead) (SliceHead.ofBytes data)
          (processorAt procs cid priority) fun first last next appended =>
            kept _ (by rw [if_neg several, if_pos ⟨first, last⟩, appended]; rfl)
        exact ⟨_, _, by rw [done]; rfl⟩

lemma lengthsValid_of_inside {len inputs} (assembles : Assembles env inputs procs)
    (message : proxyChannelHeadLen < len)
    (inside : ∀ packet ∈ packetOf procs cid data, packet.Decrypted → packet.Inside) :
    LengthsValid env procs cid data len := by
  refine ⟨message.le, fun long => ?_, fun priority => ?_, fun packet mem decrypted => ?_,
    received_silent⟩
  · exact le_trans (Nat.le_add_left ..) long.le
  · obtain ⟨asm, holds, _⟩ := assembles.holds cid priority
    cases asm with
    | none =>
      rw [show processorAt procs cid priority = _ from holds]
      exact le_rfl
    | some a => exact Represents.inside holds
  · refine ⟨?_, inside packet mem decrypted⟩
    have long := decrypted.2.1
    rw [BitVec.toInt_eq_toNat_cond] at long
    split at long <;> omega

lemma length_of_parsed {connId bytes msg}
    (parsed : transProxyParseMessage env.cipher connId bytes = some msg) :
    proxyChannelHeadLen < bytes.length := by
  by_contra short
  simp [transProxyParseMessage, if_pos (not_lt.mp short)] at parsed

lemma head_append {front : Bytes} (long : sizeofPacketHead ≤ front.length) (rest) :
    PacketHead.ofBytes (front ++ rest) = PacketHead.ofBytes front := by
  have take (data : Bytes) : PacketHead.ofBytes (data.take sizeofPacketHead) =
      PacketHead.ofBytes data := by
    simp [PacketHead.ofBytes, getWord, sizeofPacketHead, drop_take, take_take]
  rw [← take, take_append_of_le_length long, take]

lemma Carried.mono {front back packet} (carried : Carried env front packet) :
    Carried env (front ++ back) packet := by
  cases carried with
  | whole mem parsed single => exact .whole (mem_append_left back mem) parsed single
  | @sliced channelId priority a received complete =>
    have front : slicesAt env channelId priority front <:+:
        slicesAt env channelId priority (front ++ back) := by
      rw [slicesAt, slicesAt, filterMap_append]
      exact (prefix_append ..).isInfix
    exact .sliced (received.trans front) complete

/-- The last slice of a packet completes the slices before it, and the buffer begins with them. -/
lemma Assembles.completes {inputs input slice next} (assembles : Assembles env inputs procs)
    (found : sliceOf env input = some slice) (later : slice.head.sliceSeq ≠ 0)
    (last : slice.head.sliceNum = slice.head.sliceSeq + 1)
    (appended : transProxyAppendSlice (processorAt procs slice.channelId slice.priority) slice.head
      slice.payload = .ok next) : ∃ a : PartialPacket, ∃ rest,
      Carried env (inputs ++ [input]) a.parts.flatten ∧
      slice.payload.length ≤ a.parts.flatten.length ∧ next.dataLen = a.parts.flatten.length ∧
      next.data.getD [] = a.parts.flatten ++ rest := by
  obtain ⟨prio, nonempty, _⟩ := sliceOf_eq_some procs found
  obtain ⟨asm, holds, suffix⟩ := assembles.holds slice.channelId slice.priority
  cases asm with
  | none =>
    rw [show processorAt procs slice.channelId slice.priority = _ from holds,
      clear_refuses later] at appended
    cases appended
  | some a =>
    have rep : Represents _ _ a := holds
    by_cases expects : a.Expects (capacityOf slice.priority) slice.head slice.payload
    · obtain ⟨buf, result, _, filled⟩ := rep.append nonempty expects
      rw [result] at appended
      cases appended
      have slices : (a.add slice.payload).slices <:+:
          slicesAt env slice.channelId slice.priority (inputs ++ [input]) := by
        rw [slicesAt_concat, slicesAt_slice found, if_pos ⟨rfl, rfl⟩, a.slices_add, ← expects.1,
          ← expects.2.1]
        exact ((suffix_append_inj_of_length_eq rfl).mpr ⟨suffix a rfl, rfl⟩).isInfix
      have complete : (a.add slice.payload).sliceNum =
          BitVec.ofNat 32 (a.add slice.payload).parts.length := by
        simp [PartialPacket.add, ← expects.1, last, expects.2.1, BitVec.ofNat_add]
      refine ⟨a.add slice.payload, _, .sliced slices complete, ?_, rep.total,
        (filled ▸ take_append_drop _ buf).symm⟩
      simp [PartialPacket.add]
    · obtain ⟨ret, _, refused⟩ := rep.refuses expects
      rw [refused] at appended
      cases appended

/-- A packet that is handed up was carried by the inputs so far. -/
lemma packetOf_carried {inputs connId bytes msg packet} (assembles : Assembles env inputs procs)
    (parsed : transProxyParseMessage env.cipher connId bytes = some msg)
    (normal : msg.type = .normal) (here : packetOf procs cid msg.data = some packet) :
    ∃ carried, Carried env (inputs ++ [.message cid connId bytes]) carried ∧
      packet.head = PacketHead.ofBytes carried ∧ packet.len = carried.length := by
  rw [packetOf] at here
  split at here
  · cases here
  rename_i long
  split at here
  · cases here
  rename_i priority checked
  split at here
  next single =>
    cases here
    exact ⟨_, .whole mem_concat_self parsed single, rfl, rfl⟩
  next several =>
    split at here
    next last =>
      have found : sliceOf env (.message cid connId bytes) =
          some ⟨cid, priority, SliceHead.ofBytes msg.data, msg.data.drop sizeofSliceHead⟩ := by
        rw [sliceOf, parsed]
        simp only [normal, ne_eq, not_true, long, several, false_or, if_false, checked]
        rfl
      split at here
      · cases here
      next next appended =>
        cases here
        obtain ⟨a, rest, carried, longer, len, data⟩ :=
          assembles.completes found last.1 last.2 appended
        refine ⟨_, carried, ?_, len⟩
        rw [ReceivedPacket.head, data, head_append]
        simp only [sliceHeadLen, sizeofSliceHead, length_drop] at long longer ⊢
        omega
    · cases here

/-- Over every sequence of inputs the lengths are valid at every step if the peers announce no
more than they send. -/
theorem run_lengths_valid (env : ReceiveContext) {inputs : List SliceInput}
    (announced : Announced env inputs) :
    AllSteps (receiveStep env) (AllLengthsValid env) [] inputs := by
  intro pre input post split t out reached
  cases input with
  | timer | delChannel _ => trivial
  | message channelId connId bytes =>
    have mem : .message channelId connId bytes ∈ inputs := by simp [split]
    refine ⟨fun msg parsed normal long decrypts => ?_, fun msg parsed normal => ?_⟩
    · have enough := announced.encrypted _ _ _ mem msg parsed normal decrypts.1
      omega
    · have assembles := (assembles_nil env).run reached
      refine lengthsValid_of_inside assembles (length_of_parsed parsed)
        fun packet here decrypted => ?_
      obtain ⟨carried, isCarried, head, len⟩ := packetOf_carried assembles parsed normal here
      have known : Carried env inputs carried := by
        rw [split, ← singleton_append, ← append_assoc]
        exact isCarried.mono
      rw [ReceivedPacket.Decrypted, head] at decrypted
      rw [ReceivedPacket.Inside, head, len]
      exact announced.packet carried known decrypted

/-- A packet of one slice with `dataLen` in its head, as it is received on channel 1. -/
def wholePacket (dataLen : BitVec 32) (data : Bytes) : Bytes :=
  (plainHead .normal 1 2).bytes ++ ((SliceHead.mk ProxyChannelPriority.message.code 1 0 0).bytes ++
    ((PacketHead.mk magicNumber 0 0 dataLen).bytes ++ data))

theorem run_lengths_valid_wholePacket : AllSteps (receiveStep plainContext)
    (AllLengthsValid plainContext) [] [.message 1 1 (wholePacket 40 (replicate 40 0))] := by
  refine run_lengths_valid plainContext ⟨fun channelId connId bytes mem _ _ _ _ => ?_, ?_⟩
  · cases mem_singleton.mp mem
    decide
  · intro packet carried
    cases carried with
    | whole mem parsed single =>
      cases mem_singleton.mp mem
      rw [wholePacket, transProxyParseMessage_plain _ _ _ _ _ (by decide)] at parsed
      cases parsed
      decide +kernel
    | @sliced channelId priority a received complete =>
      have none : slicesAt plainContext channelId priority
          [.message 1 1 (wholePacket 40 (replicate 40 0))] = [] :=
        slicesAt_none (Option.isNone_iff_eq_none.mp (by decide +kernel)) ..
      rw [none, infix_nil] at received
      have empty : a.parts = [] := mapIdx_eq_nil_iff.mp received
      rw [empty]
      decide

/-- The message ends after its first encrypted byte. -/
def shortMessage : Bytes := [0x10, 1, 0, 0, 0, 0, 0, 0, 0]

/-- The decryption reads behind the received bytes of a packet that announces 100 bytes and
carries one; and the length of a short encrypted message wraps in AuthDecrypt. -/
theorem overstated_not_valid :
    (¬ AllLengthsValid plainContext [] (.message 1 1 (wholePacket 100 [0])) ∧
      receiveStep plainContext [] (.message 1 1 (wholePacket 100 [0])) = none) ∧
    ¬ AllLengthsValid { plainContext with
      cipher := ⟨fun _ => some .client, fun _ => some ⟨.br, [], 0⟩, .identity, []⟩ } []
      (.message 1 1 shortMessage) := by
  have packet : ∃ msg ∈ transProxyParseMessage plainContext.cipher 1 (wholePacket 100 [0]),
      msg.type = .normal ∧
      ∃ packet ∈ packetOf [] 1 msg.data, packet.Decrypted ∧ ¬ packet.Inside := by
    decide +kernel
  obtain ⟨msg, parsed, normal, packet, here, decrypted, outside⟩ := packet
  refine ⟨⟨fun valid => outside ((valid.2 msg parsed normal).packet packet here decrypted).2,
    Option.isNone_iff_eq_none.mp (by decide +kernel)⟩, fun valid => ?_⟩
  have long := valid.1 _ rfl rfl (by decide) (by decide)
  exact absurd long (by decide)

end DSoftBus.Proxy
