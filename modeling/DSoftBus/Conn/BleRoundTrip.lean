import DSoftBus.Conn.BleTrans
import DSoftBus.Lib.Execution
import Mathlib.Data.Set.Card

/-!
Payloads sent with BleTransSend and put together by BleTransRecv. The packets of each
payload arrive in order, those of different payloads in any interleaving. As long as there
are caches for all payloads that have arrived in part, the used ones are theirs and hold
what has arrived.
-/
namespace DSoftBus.Ble
open ByteString Execution SlotTable List Function Nat BleTransHeader BleValue

structure Message where
  mtu : BitVec 32
  data : Bytes
  room : (bleTransHeaderSize + mtuHeaderSize : Int) < mtu.toInt
  nonempty : 0 < data.length
  small : data.length ≤ maxDataLen

namespace Message

variable (message : Message)

/-- The bytes of the payload in a full packet. -/
def step : Nat := message.mtu.toNat - (bleTransHeaderSize + mtuHeaderSize)

def packets (seq : BitVec 32) : List Bytes :=
  (bleTransSend true message.mtu seq message.data).1

def fragment (k : Nat) : Bytes := (message.data.drop (k * message.step)).take message.step

abbrev Starts (k : Nat) : Prop := k * message.step < message.data.length

def header (seq : BitVec 32) (k : Nat) : BleTransHeader where
  seq := seq
  size := BitVec.ofNat 32 (message.fragment k).length
  offset := BitVec.ofNat 32 (k * message.step)
  total := BitVec.ofNat 32 message.data.length

def packet (seq : BitVec 32) (k : Nat) : Bytes :=
  (message.header seq k).bytes ++ message.fragment k

end Message

open Message

section
variable {msg : Message} {seq : BitVec 32} {k : Nat}

lemma toNat_mtu (msg : Message) :
    msg.mtu.toInt = msg.mtu.toNat ∧ bleTransHeaderSize + mtuHeaderSize < msg.mtu.toNat := by
  have room := msg.room
  have positive : msg.mtu.toInt = msg.mtu.toNat := toInt_eq_toNat_of_nonneg (by omega)
  refine ⟨positive, ?_⟩
  rw [positive] at room
  exact_mod_cast room

lemma step_pos (msg : Message) : 0 < msg.step := Nat.sub_pos_of_lt (toNat_mtu msg).2

lemma dataLenMax_eq (msg : Message) :
    (msg.mtu - BitVec.ofNat 32 mtuHeaderSize - BitVec.ofNat 32 bleTransHeaderSize).toInt =
      msg.step := by
  obtain ⟨positive, room⟩ := toNat_mtu msg
  have bound := @BitVec.toInt_lt 32 msg.mtu
  have first : (BitVec.ofNat 32 mtuHeaderSize).toInt = mtuHeaderSize := by decide
  have second : (BitVec.ofNat 32 bleTransHeaderSize).toInt = bleTransHeaderSize := by decide
  rw [bleTransHeaderSize, mtuHeaderSize] at *
  have inner : (msg.mtu - BitVec.ofNat 32 3).toInt = msg.mtu.toInt - 3 := by
    rw [BitVec.toInt_sub, first]
    exact Int.bmod_eq_of_le (by omega) (by omega)
  rw [BitVec.toInt_sub, second, inner, step, bleTransHeaderSize, mtuHeaderSize]
  rw [Int.bmod_eq_of_le (by omega) (by omega)]
  omega

lemma getElem?_bleFragments {d} (positive : 0 < d) (total : BitVec 32) (offset : Nat)
    (data : Bytes) : (bleFragments d seq total offset data)[k]? = if k * d < data.length then
        some (bytes ⟨seq, BitVec.ofNat 32 ((data.drop (k * d)).take d).length,
          BitVec.ofNat 32 (offset + k * d), total⟩ ++ (data.drop (k * d)).take d) else none := by
  induction k generalizing offset data with
  | zero =>
    rw [bleFragments]
    by_cases empty : data.length = 0
    · simp [empty]
    · have some : 0 < data.length := pos_of_ne_zero empty
      simp [empty, some, ne_of_gt positive]
  | succ k ih =>
    rw [bleFragments]
    by_cases empty : data.length = 0
    · simp [empty]
    rw [dif_neg (by omega), getElem?_cons_succ, ih, drop_drop, length_drop]
    have next : d + k * d = (k + 1) * d := by rw [succ_mul, add_comm]
    by_cases more : (k + 1) * d < data.length
    · have full : (data.take d).length = d := by
        rw [length_take]
        omega
      rw [if_pos more, if_pos (by omega), full, next, add_assoc, next]
    · rw [if_neg more, if_neg (by omega)]

lemma getElem?_packets : (msg.packets seq)[k]? =
      if msg.Starts k then some (msg.packet seq k) else none := by
  have positive := step_pos msg
  have unfolded : msg.packets seq = bleFragments msg.step seq
      (BitVec.ofNat 32 msg.data.length) 0 msg.data := by
    have nonempty := msg.nonempty
    rw [packets, bleTransSend, dataLenMax_eq, if_neg (by omega), if_neg, Int.toNat_natCast]
    simp only [Bool.not_true, Bool.false_eq_true, or_false]
    omega
  rw [unfolded, getElem?_bleFragments positive, zero_add]
  rfl

lemma lt_length_packets : k < (msg.packets seq).length ↔ msg.Starts k := by
  rw [← not_iff_not, not_lt, ← getElem?_eq_none_iff, getElem?_packets]
  by_cases inside : msg.Starts k
  · simp [inside]
  · simp [inside]

lemma length_fragment (msg : Message) (k : Nat) :
    (msg.fragment k).length = min msg.step (msg.data.length - k * msg.step) := by
  rw [Message.fragment, length_take, length_drop]

section

variable (inside : msg.Starts k)
include inside

lemma fragment_eq_data (full : (msg.fragment k).length = msg.data.length) :
    k = 0 ∧ msg.fragment k = msg.data ∧ msg.data.length ≤ msg.step := by
  have positive := step_pos msg
  rw [length_fragment] at full
  have zero : k * msg.step = 0 := by omega
  have first : k = 0 := (Nat.mul_eq_zero.mp zero).resolve_right (by omega)
  subst first
  refine ⟨rfl, ?_, by omega⟩
  rw [Message.fragment, zero_mul, drop_zero, take_of_length_le (by omega)]

lemma toInt_header : (msg.header seq k).size.toInt = (msg.fragment k).length ∧
      (msg.header seq k).offset.toInt = (k * msg.step : Nat) ∧
      (msg.header seq k).total.toInt = msg.data.length := by
  have small := msg.small
  have length := length_fragment msg k
  rw [maxDataLen] at small
  exact ⟨toInt_ofNat_of_lt (by omega), toInt_ofNat_of_lt (by omega), toInt_ofNat_of_lt (by omega)⟩

lemma toNat_header : (msg.header seq k).size.toNat = (msg.fragment k).length ∧
      (msg.header seq k).offset.toNat = k * msg.step ∧
      (msg.header seq k).total.toNat = msg.data.length := by
  have small := msg.small
  have length := length_fragment msg k
  rw [maxDataLen] at small
  have value (n) (fits : n < 2 ^ 32) : (BitVec.ofNat 32 n).toNat = n := by
    rw [BitVec.toNat_ofNat, mod_eq_of_lt fits]
  exact ⟨value _ (by omega), value _ (by omega), value _ (by omega)⟩

lemma getTransHeader_packet (behind : Bytes) :
    getTransHeader ⟨msg.packet seq k, behind⟩ = some (msg.header seq k) := by
  obtain ⟨size, offset, total⟩ := @toInt_header msg seq k inside
  have small := msg.small
  have length := length_fragment msg k
  rw [maxDataLen] at small
  have read : read (memory ⟨msg.packet seq k, behind⟩) = msg.header seq k := by
    rw [memory, packet, append_assoc, read_bytes_append]
  have sum : ((msg.header seq k).size + (msg.header seq k).offset).toInt =
      ((msg.fragment k).length + k * msg.step : Nat) := by
    rw [header, ← BitVec.ofNat_add]
    exact toInt_ofNat_of_lt (by omega)
  have len : (msg.header seq k).size =
      BitVec.ofNat 32 (msg.packet seq k).length - BitVec.ofNat 32 bleTransHeaderSize := by
    rw [packet, length_append, length_bytes, BitVec.ofNat_add, BitVec.add_comm,
      BitVec.add_sub_cancel]
    rfl
  rw [getTransHeader, read]
  refine if_neg ?_
  rintro (wrong | wrong | wrong | wrong)
  · exact wrong len
  · rw [sum, total] at wrong
    omega
  · rw [offset] at wrong
    omega
  · rw [total, maxDataLen] at wrong
    omega

lemma memory_packet (behind) :
    ((memory ⟨msg.packet seq k, behind⟩).drop bleTransHeaderSize).take
      (msg.header seq k).size.toNat = msg.fragment k := by
  have drop : (memory ⟨msg.packet seq k, behind⟩).drop bleTransHeaderSize =
      msg.fragment k ++ behind := by
    rw [memory, packet, append_assoc, ← (msg.header seq k).length_bytes, drop_left]
  rw [drop, (toNat_header inside).1, take_left]

end

end

structure Collected (message : Message) (k : Nat) (entry : BleRecvCache) : Prop where
  currentSize : entry.currentSize = BitVec.ofNat 32 (k * message.step)
  cache : ∃ cache, entry.cache = some cache ∧ cache.length = maxDataLen ∧
    cache.take (k * message.step) = message.data.take (k * message.step)

section
variable {msg : Message} {seq : BitVec 32} {k : Nat} {entry old : BleRecvCache}
  {front back : List BleRecvCache}

lemma collected_open (memory : ∀ cache, entry.cache = some cache → cache.length = maxDataLen) :
    Collected msg 0 (openCache seq entry) := by
  refine ⟨by rw [zero_mul]; rfl, entry.cache.getD (replicate maxDataLen 0), rfl, ?_, ?_⟩
  · cases has : entry.cache with
    | none => exact length_replicate
    | some cache => exact memory cache has
  · rw [zero_mul, take_zero, take_zero]

lemma Collected.fill (collected : Collected msg k entry) (inside : msg.Starts k) (opens : Bool) :
    ∃ next copied, fillCache front.length opens (msg.header seq k) (msg.fragment k)
        (front ++ old :: back) entry = some ⟨front ++ next :: back, copied,
          if msg.Starts (k + 1) then none else some ⟨msg.data, some front.length⟩⟩ ∧
      next.isUsed = entry.isUsed ∧ next.seq = entry.seq ∧
      (∀ cache, next.cache = some cache → cache.length = maxDataLen) ∧
      (msg.Starts (k + 1) → Collected msg (k + 1) next) := by
  obtain ⟨cache, has, length, filled⟩ := collected.cache
  obtain ⟨sizeInt, offsetInt, _⟩ := @toInt_header msg seq k inside
  obtain ⟨size, offset, total⟩ := @toNat_header msg seq k inside
  have small := msg.small
  have fragment := length_fragment msg k
  have next : (k + 1) * msg.step = k * msg.step + msg.step := succ_mul _ _
  have copied : copyFragment cache (msg.fragment k) (msg.header seq k) =
      .ok (overwrite cache (k * msg.step) (msg.fragment k)) := by
    rw [← offset]
    apply copyFragment_inside <;> omega
  have front_eq : (overwrite cache (k * msg.step) (msg.fragment k)).take
      (k * msg.step + (msg.fragment k).length) =
      msg.data.take (k * msg.step + (msg.fragment k).length) := by
    rw [take_overwrite (by omega), filled, take_add]
    congr 1
    rw [Message.fragment, length_take, take_eq_take_iff]
    omega
  have sum : entry.currentSize + (msg.header seq k).size =
      BitVec.ofNat 32 (k * msg.step + (msg.fragment k).length) := by
    rw [collected.currentSize, header, ← BitVec.ofNat_add]
  have newLength : (overwrite cache (k * msg.step) (msg.fragment k)).length = maxDataLen := by
    rw [length_overwrite (by omega), length]
  have ret : (if entry.currentSize + (msg.header seq k).size = (msg.header seq k).total then
        some (⟨(overwrite cache (k * msg.step) (msg.fragment k)).take
          (msg.header seq k).total.toNat, some front.length⟩ : BleReturn)
      else none) = if msg.Starts (k + 1) then none
      else some ⟨msg.data, some front.length⟩ := by
    rw [maxDataLen] at small
    by_cases more : msg.Starts (k + 1)
    · rw [if_pos more, if_neg]
      intro same
      have value := congrArg BitVec.toNat same
      rw [sum, total, BitVec.toNat_ofNat, mod_eq_of_lt (by omega)] at value
      omega
    · have whole : k * msg.step + (msg.fragment k).length = msg.data.length := by omega
      have all : BitVec.ofNat 32 msg.data.length = (msg.header seq k).total := rfl
      rw [if_neg more, sum, whole, if_pos all, total]
      rw [whole, take_length] at front_eq
      rw [front_eq]
  rw [fillCache_split has copied, ret]
  refine ⟨_, _, rfl, rfl, rfl, ?_, fun more => ?_⟩
  · rintro _ ⟨⟩
    exact newLength
  · have full : k * msg.step + (msg.fragment k).length = (k + 1) * msg.step := by omega
    rw [full] at sum front_eq
    exact ⟨sum, _, rfl, newLength, front_eq⟩

end

/-- How many packets of each payload have been delivered, and the caches of the receiver. -/
structure BleLink where
  delivered : BitVec 32 → Nat
  recvCache : List BleRecvCache

def BleLink.init : BleLink := ⟨fun _ => 0, replicate maxCacheNumPerConn .init⟩

structure Delivery where
  seq : BitVec 32
  behind : Bytes

variable (messages : BitVec 32 → Message)

/-- The payloads are told apart by their sequence numbers. What BleTransRecv returns is recorded
with the number of the payload whose packet it was given. -/
def bleLinkStep (s : BleLink) (delivery : Delivery) :
    Option (BleLink × List (BitVec 32 × Option Bytes)) :=
  match ((messages delivery.seq).packets delivery.seq)[s.delivered delivery.seq]? with
  | none => none
  | some packet =>
    (bleRequestWriteCallback ⟨packet, delivery.behind⟩ s.recvCache).map fun result =>
      (⟨update s.delivered delivery.seq (s.delivered delivery.seq + 1), result.recvCache⟩,
        [(delivery.seq, result.ret.map (·.payload))])

def Incomplete (delivered : BitVec 32 → Nat) (seq : BitVec 32) :
    Prop := 0 < delivered seq ∧ delivered seq < ((messages seq).packets seq).length

structure Collecting (messages : BitVec 32 → Message) (s : BleLink) : Prop where
  length : s.recvCache.length = maxCacheNumPerConn
  nodup : (usedSeqs s.recvCache).Nodup
  used : ∀ seq, seq ∈ usedSeqs s.recvCache ↔ Incomplete messages s.delivered seq
  collected : ∀ entry ∈ s.recvCache, entry.isUsed →
    Collected (messages entry.seq) (s.delivered entry.seq) entry
  memory : ∀ entry ∈ s.recvCache, ∀ cache, entry.cache = some cache → cache.length = maxDataLen

/-- What the receiver is to return for the first `n` packets of a payload. -/
def expected (message : Message) (seq : BitVec 32) (n : Nat) : List (Option Bytes) :=
  (range n).map fun k =>
    if k + 1 = (message.packets seq).length then some message.data else none

lemma incomplete_succ {message : Message} {seq : BitVec 32} {k : Nat} (inside : message.Starts k) :
    k + 1 = (message.packets seq).length ↔ ¬ message.Starts (k + 1) := by
  have here := (@lt_length_packets message seq k).mpr inside
  have next := @lt_length_packets message seq (k + 1)
  rw [← next]
  omega

section
variable {msgs : BitVec 32 → Message} {s : BleLink} {seq : BitVec 32} {k : Nat}
  {front back : List BleRecvCache} {old next : BleRecvCache}

lemma ncard_of_nodup {keys : List (BitVec 32)} (nodup : keys.Nodup) :
    {q | q ∈ keys}.ncard = keys.length := by
  rw [← coe_toFinset, Set.ncard_coe_finset, toFinset_card_of_nodup nodup]

lemma Collecting.used_update (inv : Collecting msgs s) {keys : List (BitVec 32)}
    (others : ∀ q, q ≠ seq → (q ∈ keys ↔ q ∈ usedSeqs s.recvCache))
    (own : seq ∈ keys ↔ k + 1 < ((msgs seq).packets seq).length) (q) :
    q ∈ keys ↔ Incomplete msgs (update s.delivered seq (k + 1)) q := by
  by_cases same : q = seq
  · subst same
    rw [own, Incomplete, update_self]
    omega
  · rw [others q same, inv.used q, Incomplete, Incomplete, update_of_ne same]

lemma Collecting.replace (inv : Collecting msgs s) (split : s.recvCache = front ++ old :: back)
    (apart : ∀ entry ∈ front ++ back, entry.isUsed → entry.seq ≠ seq)
    (own : next.isUsed → next.seq = seq ∧ Collected (msgs seq) k next)
    (memory : ∀ cache, next.cache = some cache → cache.length = maxDataLen)
    (nodup : (usedSeqs (front ++ next :: back)).Nodup)
    (used : ∀ q, q ∈ usedSeqs (front ++ next :: back) ↔
      Incomplete msgs (update s.delivered seq k) q) :
    Collecting msgs ⟨update s.delivered seq k, front ++ next :: back⟩ := by
  have old_mem {entry} (mem : entry ∈ front ++ next :: back) :
      entry = next ∨ entry ∈ front ++ back := by
    simp only [mem_append, mem_cons] at mem ⊢
    tauto
  have kept {entry} (mem : entry ∈ front ++ back) : entry ∈ s.recvCache := by
    rw [split]
    simp only [mem_append, mem_cons] at mem ⊢
    tauto
  refine ⟨?_, nodup, used, fun entry mem inUse => ?_, fun entry mem => ?_⟩
  · have length := inv.length
    rw [split] at length
    simpa using length
  · rcases old_mem mem with rfl | mem
    · obtain ⟨same, collected⟩ := own inUse
      rw [same]
      change Collected _ (update s.delivered seq k seq) entry
      rwa [update_self]
    · change Collected _ (update s.delivered seq k entry.seq) entry
      rw [update_of_ne (apart entry mem inUse)]
      exact inv.collected entry (kept mem) inUse
  · rcases old_mem mem with rfl | mem
    · exact memory
    · exact inv.memory entry (kept mem)

lemma apart_of_not_used (closed : seq ∉ usedSeqs (front ++ old :: back)) :
    ∀ entry ∈ front ++ back, entry.isUsed → entry.seq ≠ seq := by
  intro entry mem inUse same
  apply closed
  refine mem_usedKeys.mpr ⟨entry, ?_, inUse, same⟩
  simp only [mem_append, mem_cons] at mem ⊢
  tauto

lemma apart_of_nodup (nodup : (usedSeqs (front ++ old :: back)).Nodup) (inUse : old.isUsed) :
    ∀ entry ∈ front ++ back, entry.isUsed → entry.seq ≠ old.seq := by
  rw [usedSeqs, usedKeys_split, if_pos inUse, append_assoc, singleton_append, nodup_middle] at nodup
  intro entry mem entryUsed same
  apply (nodup_cons.mp nodup).1
  rw [mem_append, mem_usedKeys, mem_usedKeys]
  rcases mem_append.mp mem with mem | mem
  · exact .inl ⟨entry, mem, entryUsed, same⟩
  · exact .inr ⟨entry, mem, entryUsed, same⟩

section

variable (inv : Collecting msgs s)
include inv

lemma Collecting.full (inside : (msgs seq).Starts k) (here : s.delivered seq = k)
    (full : ((msgs seq).fragment k).length = (msgs seq).data.length)
    (behind) : bleRequestWriteCallback ⟨(msgs seq).packet seq k, behind⟩ s.recvCache =
      some ⟨s.recvCache, none, some ⟨(msgs seq).data, none⟩⟩ ∧
    k + 1 = ((msgs seq).packets seq).length ∧
    Collecting msgs ⟨update s.delivered seq (k + 1), s.recvCache⟩ := by
  obtain ⟨rfl, data, short⟩ := fragment_eq_data inside full
  have same : ((msgs seq).header seq 0).size = ((msgs seq).header seq 0).total := by
    rw [header, full]
  have last : 0 + 1 = ((msgs seq).packets seq).length := by
    rw [incomplete_succ inside]
    omega
  have apart {q} (isOpen : q ∈ usedSeqs s.recvCache) : q ≠ seq := by
    rintro rfl
    have started := ((inv.used q).mp isOpen).1
    omega
  refine ⟨?_, last, inv.length, inv.nodup, inv.used_update (fun _ _ => Iff.rfl)
    (iff_of_false (fun isOpen => apart isOpen rfl) (last ▸ lt_irrefl _)), fun entry mem inUse => ?_,
    inv.memory⟩
  · rw [bleRequestWriteCallback, bleTransRecv, getTransHeader_packet inside]
    simp only [if_pos same, Option.map_some]
    rw [← same, memory_packet inside, data]
  · have other := apart (mem_usedKeys.mpr ⟨entry, mem, inUse, rfl⟩)
    change Collected _ (update s.delivered seq (0 + 1) entry.seq) entry
    rw [update_of_ne other]
    exact inv.collected entry mem inUse

lemma Collecting.first (here : s.delivered seq = 0) (goesOn : (msgs seq).Starts (0 + 1))
    (few : {q | Incomplete msgs (update s.delivered seq 1) q}.ncard ≤ maxCacheNumPerConn)
    (behind : Bytes) : ∃ recvCache copied,
      bleRequestWriteCallback ⟨(msgs seq).packet seq 0, behind⟩ s.recvCache =
        some ⟨recvCache, copied, none⟩ ∧ Collecting msgs ⟨update s.delivered seq 1, recvCache⟩ := by
  have inside : (msgs seq).Starts 0 := by
    rw [Message.Starts, zero_mul]
    exact (msgs seq).nonempty
  have part : ((msgs seq).header seq 0).size ≠ ((msgs seq).header seq 0).total := by
    intro same
    have value := congrArg BitVec.toNat same
    rw [(toNat_header inside).1, (toNat_header inside).2.2, length_fragment] at value
    omega
  have closed : seq ∉ usedSeqs s.recvCache := by
    intro isOpen
    have started := ((inv.used seq).mp isOpen).1
    omega
  have opened : ∀ q, q ∈ seq :: usedSeqs s.recvCache ↔
      Incomplete msgs (update s.delivered seq 1) q :=
    inv.used_update (fun q own => mem_cons.trans (or_iff_right own))
      (iff_of_true mem_cons_self (lt_length_packets.mpr goesOn))
  have nodup : (seq :: usedSeqs s.recvCache).Nodup := nodup_cons.mpr ⟨closed, inv.nodup⟩
  have room : (usedSeqs s.recvCache).length < s.recvCache.length := by
    have all : {q | Incomplete msgs (update s.delivered seq 1) q} =
        {q | q ∈ seq :: usedSeqs s.recvCache} := by
      ext q
      exact (opened q).symm
    rw [all, ncard_of_nodup nodup, length_cons] at few
    rw [inv.length]
    omega
  obtain ⟨front, entry, back, split, free, selected⟩ := selectCache_free closed room
  have memory := inv.memory entry (by rw [split]; simp)
  obtain ⟨next, copied, filled, inUse, sameSeq, nextMemory, collected⟩ :=
    @Collected.fill (msgs seq) seq 0 _ entry front back (@collected_open _ seq _ memory)
      inside true
  have perm : (usedSeqs (front ++ next :: back)).Perm (seq :: usedSeqs s.recvCache) := by
    have taken := @usedKeys_take _ _ _ BleRecvCache.seq front back _ _ free inUse
    rw [split]
    rwa [sameSeq] at taken
  refine ⟨front ++ next :: back, copied, ?_, ?_⟩
  · have received := bleTransRecv_split (getTransHeader_packet inside behind) part split selected
    rw [memory_packet inside, if_pos rfl] at received
    rw [bleRequestWriteCallback, received, header]
    rw [header] at filled
    simp only [filled, if_pos goesOn, Option.map_some]
  · refine inv.replace split ?_ (fun _ => ⟨sameSeq, collected goesOn⟩) nextMemory
      (perm.nodup_iff.mpr nodup) fun q => perm.mem_iff.trans (opened q)
    exact apart_of_not_used (split ▸ closed)

lemma Collecting.later (inside : (msgs seq).Starts k) (here : s.delivered seq = k)
    (started : 0 < k) (behind) : ∃ recvCache copied ret,
      bleRequestWriteCallback ⟨(msgs seq).packet seq k, behind⟩ s.recvCache =
        some ⟨recvCache, copied, ret⟩ ∧
    ret.map (·.payload) = (if (msgs seq).Starts (k + 1) then none else some (msgs seq).data) ∧
    Collecting msgs ⟨update s.delivered seq (k + 1), recvCache⟩ := by
  have part : ((msgs seq).header seq k).size ≠ ((msgs seq).header seq k).total := by
    intro same
    have value := congrArg BitVec.toNat same
    rw [(toNat_header inside).1, (toNat_header inside).2.2] at value
    exact absurd (fragment_eq_data inside value).1 (ne_of_gt started)
  have begun : Incomplete msgs s.delivered seq := by
    rw [Incomplete, here]
    exact ⟨started, lt_length_packets.mpr inside⟩
  obtain ⟨front, entry, back, split, inUse, sameSeq, selected⟩ :=
    selectCache_used ((inv.used seq).mpr begun)
  have collected := inv.collected entry (by rw [split]; simp) inUse
  rw [sameSeq, here] at collected
  obtain ⟨next, copied, filled, nextUse, nextSeq, memory, more⟩ :=
    @Collected.fill (msgs seq) seq k entry entry front back collected inside false
  have apart : ∀ other ∈ front ++ back, other.isUsed → other.seq ≠ seq := by
    rw [← sameSeq]
    exact apart_of_nodup (split ▸ inv.nodup) inUse
  have received := bleTransRecv_split (getTransHeader_packet inside behind) part split selected
  rw [memory_packet inside, if_neg Bool.false_ne_true, filled] at received
  rw [bleRequestWriteCallback, received]
  by_cases goesOn : (msgs seq).Starts (k + 1)
  · have same : usedSeqs (front ++ next :: back) = usedSeqs s.recvCache := by
      rw [split]
      exact usedKeys_keep inUse (nextUse.trans inUse) nextSeq
    simp only [if_pos goesOn, Option.map_some]
    refine ⟨_, _, _, rfl, rfl, inv.replace split apart
      (fun _ => ⟨nextSeq.trans sameSeq, more goesOn⟩) memory (same ▸ inv.nodup) ?_⟩
    exact inv.used_update (fun q _ => by rw [same])
      (iff_of_true (same ▸ (inv.used seq).mpr begun) (lt_length_packets.mpr goesOn))
  · have perm := @usedKeys_take _ _ _ BleRecvCache.seq front back
      { next with isUsed := false, cache := none } entry rfl inUse
    rw [sameSeq, ← split] at perm
    obtain ⟨gone, nodupAfter⟩ := nodup_cons.mp (perm.nodup_iff.mp inv.nodup)
    have last := (@incomplete_succ _ seq _ inside).mpr goesOn
    simp only [if_neg goesOn, Option.map_some, bleTransCacheFree_split]
    refine ⟨_, _, _, rfl, rfl, inv.replace split apart (fun used => by cases used)
      (fun _ none => by cases none) nodupAfter ?_⟩
    refine inv.used_update (fun q own => ?_) (iff_of_false gone (last ▸ lt_irrefl _))
    exact (or_iff_right own).symm.trans (mem_cons.symm.trans perm.mem_iff.symm)

lemma Collecting.deliver (delivery : Delivery)
    (inside : s.delivered delivery.seq < ((msgs delivery.seq).packets delivery.seq).length)
    (few : {q | Incomplete msgs (update s.delivered delivery.seq
      (s.delivered delivery.seq + 1)) q}.ncard ≤ maxCacheNumPerConn) :
    ∃ recvCache, bleLinkStep msgs s delivery =
      some (⟨update s.delivered delivery.seq (s.delivered delivery.seq + 1), recvCache⟩,
        [(delivery.seq, if s.delivered delivery.seq + 1 =
          ((msgs delivery.seq).packets delivery.seq).length
          then some (msgs delivery.seq).data else none)]) ∧
      Collecting msgs ⟨update s.delivered delivery.seq
        (s.delivered delivery.seq + 1), recvCache⟩ := by
  obtain ⟨seq, behind⟩ := delivery
  dsimp only at *
  generalize here : s.delivered seq = k at *
  rw [lt_length_packets] at inside
  simp only [bleLinkStep, here, getElem?_packets, if_pos inside]
  by_cases full : ((msgs seq).fragment k).length = (msgs seq).data.length
  · obtain ⟨callback, last, after⟩ := inv.full inside here full behind
    refine ⟨s.recvCache, ?_, after⟩
    rw [callback, if_pos last]
    rfl
  · rcases Nat.eq_zero_or_pos k with rfl | started
    · have more : (msgs seq).Starts (0 + 1) := by
        rw [length_fragment] at full
        omega
      obtain ⟨recvCache, copied, callback, after⟩ := inv.first here more few behind
      refine ⟨recvCache, ?_, after⟩
      have notLast : ¬ 0 + 1 = ((msgs seq).packets seq).length := by
        rw [incomplete_succ inside]
        omega
      rw [callback, if_neg notLast]
      rfl
    · obtain ⟨recvCache, copied, ret, callback, payload, after⟩ :=
        inv.later inside here started behind
      refine ⟨recvCache, ?_, after⟩
      simp only [callback, Option.map_some, payload, incomplete_succ inside]
      by_cases goesOn : (msgs seq).Starts (k + 1) <;>
        simp [goesOn]

end

end

variable (before : BitVec 32 → Nat)

end DSoftBus.Ble
