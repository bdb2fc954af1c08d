import DSoftBus.Adapter
import DSoftBus.Lib.SlotTable

/-!
Fragmentation on a BLE connection (softbus_ble_trans_manager.c). A payload is sent in
packets of at most the mtu, each with the sequence number of the payload, its own size and
offset and the size of the whole. The receiver collects them in one of a few caches and
hands the payload over when as many bytes have been copied as the last header announces.

A packet that is the whole payload is handed over as it is. A packet shorter than a header
is completed by the memory behind it. Sizes and offsets are `int32_t`, their sum wraps. A
cache keeps its memory when a copy fails, and the copy has cleared what it was to write.
-/
namespace DSoftBus.Ble
open ByteString SlotTable

def maxDataLen : Nat := 4096
def maxCacheNumPerConn : Nat := 3
def mtuHeaderSize : Nat := 3

structure BleTransHeader where
  seq : BitVec 32
  size : BitVec 32
  offset : BitVec 32
  total : BitVec 32

def bleTransHeaderSize : Nat := 16

namespace BleTransHeader

variable (header : BleTransHeader)

def bytes : Bytes :=
  putWordBE 4 header.seq ++ (putWordBE 4 header.size ++ (putWordBE 4 header.offset ++
    putWordBE 4 header.total))

def read (bytes : Bytes) : BleTransHeader where
  seq := getWordBE 32 4 bytes
  size := getWordBE 32 4 (bytes.drop 4)
  offset := getWordBE 32 4 (bytes.drop 8)
  total := getWordBE 32 4 (bytes.drop 12)

lemma length_bytes : header.bytes.length = bleTransHeaderSize := by
  simp [bytes, bleTransHeaderSize]

lemma read_bytes_append (rest) : read (header.bytes ++ rest) = header := by
  simp [read, bytes, getWordBE_putWordBE_append]

end BleTransHeader

structure BleValue where
  value : Bytes
  behind : Bytes

variable (v : BleValue)

def BleValue.memory : Bytes := v.value ++ v.behind

def getTransHeader : Option BleTransHeader :=
  let header := BleTransHeader.read v.memory
  if header.size ≠ BitVec.ofNat 32 v.value.length - BitVec.ofNat 32 bleTransHeaderSize ∨
      header.total.toInt < (header.size + header.offset).toInt ∨ header.offset.toInt < 0 ∨
      maxDataLen < header.total.toInt then none
  else some header

structure BleRecvCache where
  isUsed : Bool
  seq : BitVec 32
  currentSize : BitVec 32
  cache : Option Bytes

def BleRecvCache.init : BleRecvCache := ⟨false, 0, 0, none⟩

/-- The entry that the loop over the caches ends with, and whether it has to be opened. -/
def selectCache (seq : BitVec 32) (recvCache : List BleRecvCache) : Option (Nat × Bool) :=
  match recvCache.findIdx? fun entry => entry.isUsed && entry.seq = seq with
  | some index => some (index, false)
  | none => (recvCache.findIdx? fun entry => !entry.isUsed).map fun index => (index, true)

/-- Memory that the entry still has is not cleared. -/
def openCache (seq : BitVec 32) (entry : BleRecvCache) : BleRecvCache where
  isUsed := true
  seq := seq
  currentSize := 0
  cache := some (entry.cache.getD (List.replicate maxDataLen 0))

/-- `memcpy_s(cache + offset, MAX_DATA_LEN - offset, payload, size)`: the copy, or what a failed
one leaves. -/
def copyFragment (cache payload : Bytes) (header : BleTransHeader) : Except Bytes Bytes :=
  let offset := header.offset.toNat
  if header.offset.toInt < 0 ∨ maxDataLen ≤ offset then .error cache
  else if header.size.toInt < 0 ∨ maxDataLen - offset < header.size.toNat then
    .error (cache.take offset ++ List.replicate (maxDataLen - offset) 0)
  else .ok (overwrite cache offset payload)

/-- What BleTransRecv copies: the entry, whether it was opened for it, and the fragment. -/
structure BleCopy where
  index : Nat
  opens : Bool
  header : BleTransHeader
  payload : Bytes

/-- The payload that is returned, and the entry it is in unless it is a full packet. -/
structure BleReturn where
  payload : Bytes
  index : Option Nat
deriving DecidableEq

structure BleRecv where
  recvCache : List BleRecvCache
  copied : Option BleCopy
  ret : Option BleReturn

def fillCache (index : Nat) (opens : Bool) (header : BleTransHeader) (payload : Bytes)
    (recvCache : List BleRecvCache) (entry : BleRecvCache) : Option BleRecv :=
  match entry.cache with
  | none => none
  | some cache =>
    match copyFragment cache payload header with
    | .error left =>
      some ⟨recvCache.set index { entry with isUsed := false, cache := some left }, none, none⟩
    | .ok filled =>
      let currentSize := entry.currentSize + header.size
      some ⟨recvCache.set index { entry with currentSize := currentSize, cache := some filled },
        some ⟨index, opens, header, payload⟩, if currentSize = header.total then
          some ⟨filled.take header.total.toNat, some index⟩
        else none⟩

variable (recvCache : List BleRecvCache)

/-- A null pointer is not written to. -/
def bleTransRecv : Option BleRecv :=
  match getTransHeader v with
  | none => some ⟨recvCache, none, none⟩
  | some header =>
    let rest := v.memory.drop bleTransHeaderSize
    if header.size = header.total then
      some ⟨recvCache, none, some ⟨rest.take header.total.toNat, none⟩⟩
    else
      match selectCache header.seq recvCache with
      | none => some ⟨recvCache, none, none⟩
      | some (index, opens) =>
        match recvCache[index]? with
        | none => none
        | some entry => fillCache index opens header (rest.take header.size.toNat) recvCache
            (if opens then openCache header.seq entry else entry)

def bleTransCacheFree (index : Nat) (recvCache : List BleRecvCache) : List BleRecvCache :=
  recvCache.modify index fun entry => { entry with isUsed := false, cache := none }

/-- What BleRequestWriteCallback does with a string: an entry whose payload was returned is freed
after use. -/
def bleRequestWriteCallback : Option BleRecv :=
  (bleTransRecv v recvCache).map fun result =>
    match result.ret with
    | some ⟨_, some index⟩ =>
      { result with recvCache := bleTransCacheFree index result.recvCache }
    | _ => result

/-- The packets of the loop in BleTransSend, of at most `dataLenMax` bytes each. -/
def bleFragments (dataLenMax : Nat) (seq total : BitVec 32) (offset : Nat) (data : Bytes) :
    List Bytes :=
  if _h : data.length = 0 ∨ dataLenMax = 0 then []
  else
    let sendData := data.take dataLenMax
    let header : BleTransHeader :=
      ⟨seq, BitVec.ofNat 32 sendData.length, BitVec.ofNat 32 offset, total⟩
    (header.bytes ++ sendData) ::
      bleFragments dataLenMax seq total (offset + sendData.length) (data.drop dataLenMax)
termination_by data.length
decreasing_by
  rw [List.length_drop]
  omega

/-- The packets sent and whether SOFTBUS_OK is returned. With no room for data in a packet the first
copy fails; a client cannot send. -/
def bleTransSend (isServer : Bool) (mtu : BitVec 32) (seq : BitVec 32) (data : Bytes) :
    List Bytes × Bool :=
  let dataLenMax := (mtu - BitVec.ofNat 32 mtuHeaderSize - BitVec.ofNat 32 bleTransHeaderSize).toInt
  if data.length = 0 then ([], true)
  else if dataLenMax ≤ 0 ∨ !isServer then ([], false)
  else (bleFragments dataLenMax.toNat seq (BitVec.ofNat 32 data.length) 0 data, true)

def usedSeqs : List (BitVec 32) := usedKeys BleRecvCache.isUsed BleRecvCache.seq recvCache

section
variable {seq : BitVec 32} {recvCache front back : List BleRecvCache} {entry old : BleRecvCache}
  {header : BleTransHeader} {payload cache : Bytes} {v : BleValue}

lemma selectCache_used (open_ : seq ∈ usedSeqs recvCache) :
    ∃ front entry back, recvCache = front ++ entry :: back ∧ entry.isUsed ∧
      entry.seq = seq ∧ selectCache seq recvCache = some (front.length, false) := by
  obtain ⟨entry, mem, used, same⟩ := mem_usedKeys.mp open_
  obtain ⟨front, found, back, split, both, index⟩ := findIdx?_split
    (p := fun entry : BleRecvCache => entry.isUsed && entry.seq = seq)
    ⟨entry, mem, by simp [used, same]⟩
  rw [Bool.and_eq_true] at both
  exact ⟨front, found, back, split, both.1, of_decide_eq_true both.2, by rw [selectCache, index]⟩

lemma findIdx?_of_not_used (closed : seq ∉ usedSeqs recvCache) :
    recvCache.findIdx? (fun entry => entry.isUsed && entry.seq = seq) = none := by
  rw [List.findIdx?_eq_none_iff]
  intro entry mem
  by_contra both
  rw [Bool.not_eq_false, Bool.and_eq_true] at both
  exact closed (mem_usedKeys.mpr ⟨entry, mem, both.1, of_decide_eq_true both.2⟩)

lemma selectCache_free (closed : seq ∉ usedSeqs recvCache)
    (room : (usedSeqs recvCache).length < recvCache.length) :
    ∃ front entry back, recvCache = front ++ entry :: back ∧ entry.isUsed = false ∧
      selectCache seq recvCache = some (front.length, true) := by
  obtain ⟨front, found, back, split, free, index⟩ := findIdx?_split (exists_free room)
  refine ⟨front, found, back, split, by simpa using free, ?_⟩
  rw [selectCache, findIdx?_of_not_used closed]
  simp [index]

lemma copyFragment_inside (nonneg : 0 ≤ header.offset.toInt) (size : 0 ≤ header.size.toInt)
    (fits : header.offset.toNat + header.size.toNat ≤ maxDataLen)
    (inside : header.offset.toNat < maxDataLen) :
    copyFragment cache payload header = .ok (overwrite cache header.offset.toNat payload) := by
  rw [copyFragment, if_neg (by omega), if_neg (by omega)]

variable {opens : Bool}

lemma fillCache_split (has : entry.cache = some cache) {filled}
    (copied : copyFragment cache payload header = .ok filled) :
    fillCache front.length opens header payload (front ++ old :: back) entry =
      some ⟨front ++ { entry with
          currentSize := entry.currentSize + header.size, cache := some filled } :: back,
        some ⟨front.length, opens, header, payload⟩,
        if entry.currentSize + header.size = header.total then
          some ⟨filled.take header.total.toNat, some front.length⟩
        else none⟩ := by
  rw [fillCache, has]
  simp only [copied, set_split]

lemma bleTransRecv_split (valid : getTransHeader v = some header)
    (part : header.size ≠ header.total) (split : recvCache = front ++ entry :: back)
    (selected : selectCache header.seq recvCache = some (front.length, opens)) :
    bleTransRecv v recvCache = fillCache front.length opens header
      ((v.memory.drop bleTransHeaderSize).take header.size.toNat) (front ++ entry :: back)
      (if opens then openCache header.seq entry else entry) := by
  subst split
  rw [bleTransRecv, valid]
  simp only [if_neg part, selected, getElem?_split]

lemma bleTransCacheFree_split : bleTransCacheFree front.length (front ++ entry :: back) =
      front ++ { entry with isUsed := false, cache := none } :: back := modify_split

lemma selectCache_eq_some {index} (h : selectCache seq recvCache = some (index, opens)) :
    ∃ front entry back, recvCache = front ++ entry :: back ∧ front.length = index ∧
      (opens = false → entry.isUsed ∧ entry.seq = seq) ∧ (opens → entry.isUsed = false) := by
  rw [selectCache] at h
  split at h
  next found first =>
    cases h
    obtain ⟨front, entry, back, split, both, position⟩ := split_of_findIdx? first
    rw [Bool.and_eq_true] at both
    exact ⟨front, entry, back, split, position, fun _ => ⟨both.1, of_decide_eq_true both.2⟩,
      by simp⟩
  · obtain ⟨found, first, same⟩ := Option.map_eq_some_iff.mp h
    cases same
    obtain ⟨front, entry, back, split, free, position⟩ := split_of_findIdx? first
    exact ⟨front, entry, back, split, position, by simp, fun _ => by simpa using free⟩

end

end DSoftBus.Ble
