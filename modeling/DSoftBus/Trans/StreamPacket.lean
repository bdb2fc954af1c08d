import DSoftBus.Adapter

/-!
The packets of a common stream (stream_packetizer.cpp, stream_depacketizer.cpp) and how a
frame is taken apart (vtp_stream_socket.cpp). What was packed is unpacked again. But no
length of a packet is compared with the length of the plaintext, and behind it the memory
holds anything.
-/
namespace DSoftBus.Stream
open ByteString List

def alignTo4Bytes (x : Nat) : Nat := (x + 3) / 4 * 4

section
variable (mem : Bytes)

def ntohs (i : Nat) : BitVec 16 := getWordBE 16 2 (mem.drop i)

def ntohl (i : Nat) : BitVec 32 := getWordBE 32 4 (mem.drop i)

def getExtFlag : Bool := (ntohl mem 0).getLsbD 28

def getDataLen : BitVec 32 := ntohl mem 8

/-- The length of an extension is read if the first-level type has EXT_BUF_MASK. -/
def tlLength : Option Nat :=
  if (ntohs mem 16).getLsbD 0 then some (ntohs mem 22).toNat else none

def getExtLen : Nat := if getExtFlag mem then (tlLength mem).getD 0 else 0

/-- The place of the check sum, behind the extension. -/
def checkSumAt : Nat := (tlLength mem).elim 20 fun length => 24 + alignTo4Bytes length

def getCheckSum : BitVec 32 := ntohl mem (checkSumAt mem)

def tlvTotalLen : BitVec 32 := if getExtFlag mem then getCheckSum mem + 4 else 0

def dataLength : Int := (getDataLen mem - tlvTotalLen mem).toInt

structure Depacketized where
  streamType : BitVec 4
  streamId : BitVec 16
  seqNum : BitVec 16
  ext : Bytes
  extLen : Nat
  data : Bytes
  dataLength : Int

def depacketize : Depacketized where
  streamType := (ntohl mem 0 >>> 24).setWidth 4
  streamId := (ntohl mem 0).setWidth 16
  seqNum := (ntohl mem 12 >>> 16).setWidth 16
  ext := (mem.drop 24).take (getExtLen mem)
  extLen := getExtLen mem
  data := (mem.drop (16 + (tlvTotalLen mem).toInt).toNat).take (dataLength mem).toNat
  dataLength := dataLength mem

end

def padded (ext : Bytes) : Bytes := ext ++ replicate (alignTo4Bytes ext.length - ext.length) 0

def tlv (ext : Bytes) : Bytes :=
  if ext = [] then []
  else putWordBE 2 (1 : BitVec 16) ++
    (putWordBE 2 (1 : BitVec 16) ++ (putWordBE 2 (0 : BitVec 16) ++
    (putWordBE 2 (BitVec.ofNat 16 ext.length) ++ (padded ext ++
      putWordBE 4 (BitVec.ofNat 32 (8 + alignTo4Bytes ext.length))))))

/-- A video or an audio stream. `ext` is empty if there is no extension. -/
structure CommonStream where
  streamType : BitVec 4
  isCommon : streamType = 1 ∨ streamType = 2
  streamId : BitVec 16
  seqNum : BitVec 16
  ext : Bytes
  payload : Bytes
  extFits : ext.length < 65536
  small : 16 + (tlv ext).length + payload.length < 2 ^ 31

namespace CommonStream
variable (stream : CommonStream)

def common : BitVec 32 :=
  (if stream.ext = [] then 0 else 1 <<< 28) ||| stream.streamType.setWidth 32 <<< 24 |||
    stream.streamId.setWidth 32

/-- The packet, with the time at which it was made. -/
def packetizeStream (timestamp : BitVec 32) : Bytes :=
  putWordBE 4 stream.common ++ (putWordBE 4 timestamp ++
    (putWordBE 4 (BitVec.ofNat 32 ((tlv stream.ext).length + stream.payload.length)) ++
      (putWordBE 4 (stream.seqNum.setWidth 32 <<< 16) ++ (tlv stream.ext ++ stream.payload))))

lemma common_fields : stream.common.getLsbD 28 = decide (stream.ext ≠ []) ∧
    (stream.common >>> 24).setWidth 4 = stream.streamType ∧
    stream.common.setWidth 16 = stream.streamId := by
  unfold common
  refine ⟨by split <;> simp [*], ?_, ?_⟩ <;> apply BitVec.eq_of_getLsbD_eq <;> intro i hi
  · have : i = 0 ∨ i = 1 ∨ i = 2 ∨ i = 3 := by omega
    rcases this with rfl | rfl | rfl | rfl <;> split <;> simp
  · split <;> simp (disch := omega)

lemma length_padded (ext) : (padded ext).length = alignTo4Bytes ext.length := by
  rw [padded, length_append, length_replicate, alignTo4Bytes]
  omega

section
variable {mem beyond : Bytes} {timestamp : BitVec 32}
  (packed : mem = stream.packetizeStream timestamp ++ beyond)
include packed

lemma header_words : ntohl mem 0 = stream.common ∧
    getDataLen mem = BitVec.ofNat 32 ((tlv stream.ext).length + stream.payload.length) ∧
    ntohl mem 12 = stream.seqNum.setWidth 32 <<< 16 ∧
    mem.drop 16 = tlv stream.ext ++ (stream.payload ++ beyond) := by
  simp [packed, packetizeStream, getDataLen, ntohl, getWordBE_putWordBE_append]

lemma getExtFlag_eq : getExtFlag mem = decide (stream.ext ≠ []) := by
  rw [getExtFlag, (stream.header_words packed).1, stream.common_fields.1]

lemma tlv_words (present : stream.ext ≠ []) : tlLength mem = some stream.ext.length ∧
    mem.drop 24 = padded stream.ext ++
      (putWordBE 4 (BitVec.ofNat 32 (8 + alignTo4Bytes stream.ext.length)) ++
        (stream.payload ++ beyond)) := by
  have at16 := (stream.header_words packed).2.2.2
  rw [tlv, if_neg present] at at16
  have at22 := drop_drop ▸ congrArg (drop 6) at16
  have at24 := drop_drop ▸ congrArg (drop 8) at16
  simp [getWordBE_putWordBE_append, tlLength, ntohs, at16, at22, at24, stream.extFits]

lemma tlvTotalLen_eq : tlvTotalLen mem = BitVec.ofNat 32 (tlv stream.ext).length := by
  rw [tlvTotalLen, stream.getExtFlag_eq packed]
  by_cases present : stream.ext = []
  · simp [present, tlv]
  obtain ⟨length, at24⟩ := stream.tlv_words packed present
  have sum : getCheckSum mem = BitVec.ofNat 32 (8 + alignTo4Bytes stream.ext.length) := by
    rw [getCheckSum, checkSumAt, length, ntohl, Option.elim_some, ← drop_drop, at24,
      drop_left' (length_padded _), getWordBE_putWordBE_append (by decide)]
  rw [if_pos (by simpa using present), sum, tlv, if_neg present]
  simp only [length_append, length_putWordBE, length_padded]
  bv_omega

end

theorem depacketize_packetizeStream (timestamp : BitVec 32) (beyond : List UInt8) :
    depacketize (stream.packetizeStream timestamp ++ beyond) =
      ⟨stream.streamType, stream.streamId, stream.seqNum, stream.ext, stream.ext.length,
        stream.payload, stream.payload.length⟩ := by
  generalize packed : stream.packetizeStream timestamp ++ beyond = mem
  have packed := packed.symm
  have small := stream.small
  obtain ⟨common, dataLen, seqNum, body⟩ := stream.header_words packed
  have total := stream.tlvTotalLen_eq packed
  have length : dataLength mem = stream.payload.length := by
    rw [dataLength, dataLen, total, BitVec.ofNat_add, BitVec.add_comm,
      BitVec.add_sub_cancel]
    exact toInt_ofNat_of_lt (by omega)
  have extLen : getExtLen mem = stream.ext.length ∧
      (mem.drop 24).take stream.ext.length = stream.ext := by
    by_cases present : stream.ext = []
    · simp [getExtLen, stream.getExtFlag_eq packed, present]
    · obtain ⟨length, at24⟩ := stream.tlv_words packed present
      simp [getExtLen, stream.getExtFlag_eq packed, present, length, at24, padded]
  have data : (mem.drop (16 + (tlv stream.ext).length)).take stream.payload.length =
      stream.payload := by
    rw [← drop_drop, body, drop_left, take_left]
  have seq : (stream.seqNum.setWidth 32 <<< 16 >>> 16).setWidth 16 = stream.seqNum := by
    apply BitVec.eq_of_getLsbD_eq
    intro i hi
    simp (disch := omega)
  rw [depacketize, common, stream.common_fields.2.1, stream.common_fields.2.2, seqNum, seq,
    extLen.1, extLen.2, length, total, toInt_ofNat_of_lt (by omega)]
  exact congrArg (Depacketized.mk _ _ _ _ _ · _) data

end CommonStream
section
variable (mem : Bytes)

/-- The reads of TwoLevelsTlv::Depacketize. An extension, which is copied, has a header of
its own. -/
def tlvReads : List (Int × Int) :=
  (16, 4) :: (20, 4) :: (tlLength mem).elim []
    fun length => [(24, length), (checkSumAt mem, 4)]

/-- The offset in the plaintext and the length of every read. -/
def reads : List (Int × Int) :=
  (0, 16) :: ((if getExtFlag mem then tlvReads mem else []) ++
    if 0 < dataLength mem then [(16 + (tlvTotalLen mem).toInt, dataLength mem)] else [])

/-- The lengths that are used are those the packet announces. -/
def Unwrapped : Prop :=
  (getExtFlag mem → (tlvTotalLen mem).toInt = (getCheckSum mem).toNat + 4) ∧
    (0 < dataLength mem → dataLength mem = (getDataLen mem).toNat - (tlvTotalLen mem).toNat)

def Inside (len : Nat) : Prop :=
  Unwrapped mem ∧ ∀ read ∈ reads mem, 0 ≤ read.1 ∧ read.1 + read.2 ≤ len

/-- What the receiver would have to check. -/
def Fits (len : Nat) : Prop :=
  16 ≤ len ∧
    (getExtFlag mem → (getCheckSum mem).toNat + 4 < 2 ^ 31 ∧ checkSumAt mem + 4 ≤ len) ∧
    (0 < dataLength mem → (tlvTotalLen mem).toNat ≤ (getDataLen mem).toNat ∧
      16 + (getDataLen mem).toNat ≤ len)

variable {mem} {len : Nat}

lemma tlvReads_inside : (∀ read ∈ tlvReads mem, 0 ≤ read.1 ∧ read.1 + read.2 ≤ len) ↔
    checkSumAt mem + 4 ≤ len := by
  unfold tlvReads checkSumAt alignTo4Bytes
  cases tlLength mem <;> simp <;> omega

lemma tlvTotalLen_unwrapped_iff (flag : getExtFlag mem) :
    (tlvTotalLen mem).toInt = (getCheckSum mem).toNat + 4 ↔
      (getCheckSum mem).toNat + 4 < 2 ^ 31 := by
  have four : (4 : BitVec 32).toNat = 4 := rfl
  rw [tlvTotalLen, if_pos flag, BitVec.toInt_eq_toNat_cond, BitVec.toNat_add, four]
  split <;> omega

lemma dataLength_unwrapped_iff (more : 0 < dataLength mem) :
    dataLength mem = (getDataLen mem).toNat - (tlvTotalLen mem).toNat ↔
      (tlvTotalLen mem).toNat ≤ (getDataLen mem).toNat := by
  rw [dataLength, BitVec.toInt_eq_toNat_cond, BitVec.toNat_sub] at more ⊢
  split at more <;> omega

lemma Unwrapped.data_inside (unwrapped : Unwrapped mem) (more : 0 < dataLength mem) :
    (0 ≤ 16 + (tlvTotalLen mem).toInt ∧ 16 + (tlvTotalLen mem).toInt + dataLength mem ≤ len) ↔
      16 + (getDataLen mem).toNat ≤ len := by
  have small : (tlvTotalLen mem).toNat < 2 ^ 31 := by
    by_cases flag : getExtFlag mem
    · have := (tlvTotalLen_unwrapped_iff flag).mp (unwrapped.1 flag)
      rw [tlvTotalLen, if_pos flag]
      bv_omega
    · rw [tlvTotalLen, if_neg flag]
      decide
  rw [unwrapped.2 more, BitVec.toInt_eq_toNat_of_lt (by omega)]
  omega

lemma inside_iff : Inside mem len ↔ Fits mem len := by
  have within (unwrapped : Unwrapped mem) :
      (∀ read ∈ reads mem, 0 ≤ read.1 ∧ read.1 + read.2 ≤ len) ↔ 16 ≤ len ∧
        (getExtFlag mem → checkSumAt mem + 4 ≤ len) ∧
        (0 < dataLength mem → 16 + (getDataLen mem).toNat ≤ len) := by
    rw [reads, forall_mem_cons, forall_mem_append]
    refine and_congr ?_ (and_congr ?_ ?_)
    · simp
    · split <;> simp_all [← tlvReads_inside]
    · split <;> simp_all [unwrapped.data_inside]
  have announced := and_congr (forall_congr' (@tlvTotalLen_unwrapped_iff mem))
    (forall_congr' (@dataLength_unwrapped_iff mem))
  rw [Inside, and_congr_right within, Unwrapped, announced, Fits]
  simp only [imp_and]
  tauto

end

/-- The common-stream branch of DoStreamRecv goes on only with a plaintext. Behind it the
memory holds `beyond`. -/
def Contained (gcm : AesGcm) (key frame beyond : Bytes) : Prop :=
  (0 : Int) ≤ frame.length - overheadLen ∧ ∀ plain, softBusDecryptData gcm key frame = .ok plain →
    Inside (plain ++ beyond) plain.length

theorem contained_iff (gcm : AesGcm) (key frame beyond : List UInt8) :
    Contained gcm key frame beyond ↔ overheadLen ≤ frame.length ∧
      ∀ plain, softBusDecryptData gcm key frame = .ok plain →
        Fits (plain ++ beyond) plain.length := by
  unfold Contained
  simp only [inside_iff]
  exact and_congr (by omega) Iff.rfl

/-- A frame of twenty bytes, and one whose header announces a data byte that is not there. -/
theorem not_contained :
    ¬ Contained .identity [] (replicate 20 0) [] ∧
      ¬ Contained .identity [] (replicate 23 0 ++ 1 :: replicate 20 0) [] := by
  constructor
  · exact fun contained => absurd contained.1 (by decide)
  · intro contained
    have inside := (contained.2 _ rfl).2 (16, 1) (by decide)
    exact absurd inside.2 (by decide)

namespace CommonStream
variable (stream : CommonStream)

lemma length_packetizeStream (timestamp) : (stream.packetizeStream timestamp).length =
    16 + ((tlv stream.ext).length + stream.payload.length) := by
  simp [packetizeStream, ← Nat.add_assoc]

lemma packetizeStream_fits (timestamp beyond) : Fits (stream.packetizeStream timestamp ++ beyond)
    (stream.packetizeStream timestamp).length := by
  rw [length_packetizeStream]
  generalize packed : stream.packetizeStream timestamp ++ beyond = mem
  have packed := packed.symm
  have small := stream.small
  have total := stream.tlvTotalLen_eq packed
  have extension (flag : getExtFlag mem) : (getCheckSum mem).toNat + 4 = (tlv stream.ext).length ∧
      checkSumAt mem + 4 = 16 + (tlv stream.ext).length := by
    have present : stream.ext ≠ [] := by simpa [stream.getExtFlag_eq packed] using flag
    rw [tlvTotalLen, if_pos flag] at total
    rw [tlv, if_neg present] at total small ⊢
    simp only [checkSumAt, (stream.tlv_words packed present).1, Option.elim_some, length_append,
      length_putWordBE, length_padded] at total small ⊢
    constructor
    · bv_omega
    · omega
  rw [Fits, total, (stream.header_words packed).2.1, BitVec.toNat_ofNat, BitVec.toNat_ofNat]
  refine ⟨?_, fun flag => ?_, fun _ => ?_⟩
  · omega
  · have := extension flag
    omega
  · omega

/-- The receiver stays inside every frame of an honest sender. -/
theorem sent_contained (timestamp : BitVec 32) (gcm : AesGcm) (key : List UInt8) (iv : GcmIv)
    (beyond : List UInt8) :
    ∃ frame, softBusEncryptData gcm key iv (stream.packetizeStream timestamp) = .ok frame ∧
      Contained gcm key frame beyond := by
  have nonempty : 0 < (stream.packetizeStream timestamp).length := by
    rw [length_packetizeStream]
    omega
  have sent := @softBusEncryptData_eq_ok gcm key _ iv nonempty
  refine ⟨_, sent, ?_, fun plain opened => ?_⟩
  · have := length_softBusEncryptData sent
    omega
  · rw [softBusDecryptData_encrypted sent] at opened
    cases opened
    exact inside_iff.mpr (stream.packetizeStream_fits timestamp beyond)

end CommonStream

end DSoftBus.Stream
