import DSoftBus.Conn.BleTrans
import DSoftBus.Lib.Execution
import DSoftBus.Lib.Ranges

/-!
What an arbitrary peer can make BleTransRecv put together. A copied fragment lies inside
the announced total and the cache. But completion is decided by counting the copied bytes
against the total of the last header, so fragments that overlap or announce different
totals complete a payload with bytes that none has written. If the fragments of each entry
are disjoint and announce one total, every byte of a returned payload was written there by
a fragment of its sequence number.

The fragments copied into each entry since it was opened are kept as a history.
-/
namespace DSoftBus.Ble
open ByteString Execution SlotTable Function BleTransHeader BitVec

structure BleHistory where
  recvCache : List BleRecvCache
  written : Nat → List BleCopy

def BleHistory.init : BleHistory := ⟨List.replicate maxCacheNumPerConn .init, fun _ => []⟩

def addCopy (copy : BleCopy) (written : Nat → List BleCopy) : Nat → List BleCopy :=
  update written copy.index
    (if copy.opens then [copy] else written copy.index ++ [copy])

def bleReceiveStep (s : BleHistory) (v : BleValue) :
    Option (BleHistory × List (Option BleCopy × Option BleReturn)) :=
  (bleRequestWriteCallback v s.recvCache).map fun result =>
    (⟨result.recvCache, match result.copied with
        | none => s.written
        | some copy => addCopy copy s.written⟩, [(result.copied, result.ret)])

def BleTransHeader.range (header : BleTransHeader) : Finset Nat :=
  Finset.Ico header.offset.toNat (header.offset.toNat + header.size.toNat)

structure BleTransHeader.Inside (header : BleTransHeader) : Prop where
  offset_nonneg : 0 ≤ header.offset.toInt
  size_nonneg : 0 ≤ header.size.toInt
  sum_le : header.offset.toInt + header.size.toInt ≤ header.total.toInt
  total_le : header.total.toInt ≤ maxDataLen

def Bounded (_ : BleHistory) (_ : BleValue) (_ : BleHistory)
    (out : List (Option BleCopy × Option BleReturn)) : Prop :=
  ∀ copy ret, (some copy, ret) ∈ out → copy.header.Inside

def Uniform (_ : BleHistory) (_ : BleValue) (t : BleHistory)
    (out : List (Option BleCopy × Option BleReturn)) : Prop :=
  ∀ copy ret, (some copy, ret) ∈ out → ∀ other ∈ t.written copy.index,
    other.header.total = copy.header.total ∧ other.header.seq = copy.header.seq

/-- Every byte of a payload that was put together comes from a fragment of its entry. -/
def Covered (_ : BleHistory) (_ : BleValue) (t : BleHistory)
    (out : List (Option BleCopy × Option BleReturn)) : Prop :=
  ∀ copied payload index, (copied, some ⟨payload, some index⟩) ∈ out →
    ∀ k < payload.length, ∃ copy ∈ t.written index, k ∈ copy.header.range ∧
      payload[k]? = copy.payload[k - copy.header.offset.toNat]?

/-- The fragment announces the same total as those that its entry has, and is disjoint from
them. -/
def Consistent (s : BleHistory) (v : BleValue) : Prop :=
  ∀ header, getTransHeader v = some header → ∀ index entry, s.recvCache[index]? = some entry →
    entry.isUsed → entry.seq = header.seq → ∀ copy ∈ s.written index,
      copy.header.total = header.total ∧ Disjoint copy.header.range header.range

structure Allocated (recvCache : List BleRecvCache) : Prop where
  used : ∀ entry ∈ recvCache, entry.isUsed → entry.cache.isSome
  size : ∀ entry ∈ recvCache, ∀ cache, entry.cache = some cache → cache.length = maxDataLen

inductive Outcome (v : BleValue) (recvCache : List BleRecvCache) : BleRecv → Prop
  /-- No entry is touched, though a full packet may be returned. -/
  | ignored (ret : Option BleReturn) (full : ∀ payload index, ret ≠ some ⟨payload, some index⟩) :
      Outcome v recvCache ⟨recvCache, none, ret⟩
  /-- The copy fails and the entry is given up. -/
  | givenUp {front back : List BleRecvCache} {entry next : BleRecvCache}
      (split : recvCache = front ++ entry :: back) (unused : next.isUsed = false)
      (size : ∀ cache, next.cache = some cache → cache.length = maxDataLen) :
      Outcome v recvCache ⟨front ++ next :: back, none, none⟩
  | copied {front back : List BleRecvCache} {entry start : BleRecvCache} {header : BleTransHeader}
      {opens : Bool} {cache payload : Bytes}
      (split : recvCache = front ++ entry :: back) (valid : getTransHeader v = some header)
      (continues : opens = false → entry.isUsed ∧ entry.seq = header.seq ∧ start = entry)
      (begins : opens → start.isUsed ∧ start.seq = header.seq ∧ start.currentSize = 0)
      (has : start.cache = some cache) (size : cache.length = maxDataLen)
      (inside : header.Inside) (length : payload.length = header.size.toNat)
      {recvCache' : List BleRecvCache} {ret : Option BleReturn}
      (complete : if start.currentSize + header.size = header.total then
          recvCache' = front ++ { start with
            isUsed := false, currentSize := start.currentSize + header.size,
            cache := none } :: back ∧
          ret = some ⟨(overwrite cache header.offset.toNat payload).take header.total.toNat,
            some front.length⟩
        else recvCache' = front ++ { start with
            currentSize := start.currentSize + header.size
            cache := some (overwrite cache header.offset.toNat payload) } :: back ∧ ret = none) :
      Outcome v recvCache ⟨recvCache', some ⟨front.length, opens, header, payload⟩, ret⟩

section
variable {v : BleValue} {recvCache : List BleRecvCache} {head : BleTransHeader}

section

variable (valid : getTransHeader v = some head)
include valid

lemma getTransHeader_eq_some :
    head.size = BitVec.ofNat 32 v.value.length - BitVec.ofNat 32 bleTransHeaderSize ∧
      (head.size + head.offset).toInt ≤ head.total.toInt ∧ 0 ≤ head.offset.toInt ∧
      head.total.toInt ≤ maxDataLen := by
  rw [getTransHeader] at valid
  split at valid
  · cases valid
  next good =>
    cases valid
    push Not at good
    exact good

/-- What `memcpy_s` accepts is inside of the total as well: the sum does not wrap. -/
lemma inside_of_copied {cache body filled}
    (copied : copyFragment cache body head = .ok filled) :
    head.Inside ∧ filled = overwrite cache head.offset.toNat body := by
  obtain ⟨_, sum, offset, total⟩ := getTransHeader_eq_some valid
  rw [copyFragment] at copied
  split at copied
  · cases copied
  split at copied
  · cases copied
  rename_i low fits
  cases copied
  push Not at low fits
  have size := toInt_eq_toNat_of_nonneg fits.1
  have position := toInt_eq_toNat_of_nonneg offset
  have exact : (head.size + head.offset).toInt = head.size.toInt + head.offset.toInt := by
    rw [toInt_add]
    rw [maxDataLen] at *
    exact Int.bmod_eq_of_le (by omega) (by omega)
  exact ⟨⟨offset, by omega, by omega, total⟩, rfl⟩

lemma length_payload (inside : head.Inside) :
    ((v.memory.drop bleTransHeaderSize).take head.size.toNat).length = head.size.toNat := by
  obtain ⟨size, _⟩ := getTransHeader_eq_some valid
  have nonneg := inside.size_nonneg
  have value : head.size.toNat = (2 ^ 32 - 16 + v.value.length % 2 ^ 32) % 2 ^ 32 := by
    rw [size, toNat_sub, toNat_ofNat, bleTransHeaderSize]
    rfl
  have small : 2 * head.size.toNat < 2 ^ 32 := by
    have high := @toInt_lt 32 head.size
    rw [toInt_eq_toNat_of_nonneg nonneg] at high
    omega
  rw [List.length_take, List.length_drop, BleValue.memory, List.length_append, bleTransHeaderSize]
  omega

end

lemma length_left {cache body left} (size : cache.length = maxDataLen)
    (failed : copyFragment cache body head = .error left) : left.length = maxDataLen := by
  rw [copyFragment] at failed
  split at failed
  · cases failed
    exact size
  · split at failed
    · cases failed
      rw [List.length_append, List.length_take, List.length_replicate]
      omega
    · cases failed

lemma allocated_start {entry opens} (alloc : Allocated recvCache)
    (mem : entry ∈ recvCache) (used : opens = false → entry.isUsed) :
    ∃ cache, (if opens then openCache head.seq entry else entry).cache = some cache ∧
      cache.length = maxDataLen := by
  cases opens with
  | false =>
    obtain ⟨cache, has⟩ := Option.isSome_iff_exists.mp (alloc.used entry mem (used rfl))
    exact ⟨cache, has, alloc.size entry mem cache has⟩
  | true =>
    refine ⟨_, rfl, ?_⟩
    cases has : entry.cache with
    | none => exact List.length_replicate
    | some cache => exact alloc.size entry mem cache has

lemma bleRequestWriteCallback_outcome (alloc : Allocated recvCache) :
    ∃ result, bleRequestWriteCallback v recvCache = some result ∧ Outcome v recvCache result := by
  have untouched : Outcome v recvCache ⟨recvCache, none, none⟩ :=
    .ignored none (fun _ _ same => by cases same)
  rw [bleRequestWriteCallback, bleTransRecv]
  cases valid : getTransHeader v with
  | none => exact ⟨_, rfl, untouched⟩
  | some head =>
    dsimp only
    by_cases full : head.size = head.total
    · rw [if_pos full]
      exact ⟨_, rfl, .ignored _ (fun _ _ same => by cases same)⟩
    rw [if_neg full]
    cases selected : selectCache head.seq recvCache with
    | none => exact ⟨_, rfl, untouched⟩
    | some selection =>
      obtain ⟨index, opens⟩ := selection
      obtain ⟨front, entry, back, rfl, rfl, cont, begins⟩ := selectCache_eq_some selected
      have mem : entry ∈ front ++ entry :: back := by simp
      obtain ⟨cache, has, size⟩ := @allocated_start _ head entry opens alloc mem
        fun no => (cont no).1
      dsimp only
      rw [getElem?_split]
      dsimp only
      generalize hStart : (if opens then openCache head.seq entry else entry) = start at *
      have body := length_payload valid
      generalize (v.memory.drop bleTransHeaderSize).take head.size.toNat = fragment at *
      cases copied : copyFragment cache fragment head with
      | error left =>
        rw [fillCache, has]
        simp only [copied, set_split, Option.map_some]
        refine ⟨_, rfl, .givenUp rfl rfl ?_⟩
        rintro _ ⟨⟩
        exact length_left size copied
      | ok filled =>
        obtain ⟨inside, rfl⟩ := inside_of_copied valid copied
        rw [fillCache_split has copied, Option.map_some]
        refine ⟨_, rfl, ?_⟩
        have same (no : opens = false) : entry.isUsed ∧ entry.seq = head.seq ∧ start = entry := by
          rw [if_neg (by rw [no]; decide)] at hStart
          exact ⟨(cont no).1, (cont no).2, hStart.symm⟩
        have new (yes : opens) : start.isUsed ∧ start.seq = head.seq ∧ start.currentSize = 0 := by
          rw [if_pos yes] at hStart
          rw [← hStart]
          exact ⟨rfl, rfl, rfl⟩
        by_cases complete : start.currentSize + head.size = head.total
        · simp only [if_pos complete, bleTransCacheFree_split]
          refine .copied rfl valid same new has size inside (body inside) ?_
          rw [if_pos complete]
          exact ⟨rfl, rfl⟩
        · simp only [if_neg complete]
          refine .copied rfl valid same new has size inside (body inside) ?_
          rw [if_neg complete]
          exact ⟨rfl, rfl⟩

end

/-- The entry holds the fragments of its history, which are disjoint and of one payload. -/
structure Logged (log : List BleCopy) (entry : BleRecvCache) : Prop where
  cache : ∃ cache, entry.cache = some cache ∧ cache.length = maxDataLen ∧
    ∀ copy ∈ log, ∀ k ∈ copy.header.range, cache[k]? = copy.payload[k - copy.header.offset.toNat]?
  seq : ∀ copy ∈ log, copy.header.seq = entry.seq
  inside : ∀ copy ∈ log, copy.header.Inside
  apart : (log.map (·.header.range)).Pairwise Disjoint
  size : entry.currentSize = BitVec.ofNat 32 ((log.map (·.header.range)).map Finset.card).sum

section
variable {log : List BleCopy} {entry : BleRecvCache} {head : BleTransHeader}
  {cache body : Bytes}

lemma BleTransHeader.Inside.toNat (inside : head.Inside) :
    head.offset.toNat + head.size.toNat ≤ head.total.toNat ∧ head.total.toNat ≤ maxDataLen := by
  obtain ⟨offset, size, sum, bound⟩ := inside
  have total : 0 ≤ head.total.toInt := by omega
  rw [toInt_eq_toNat_of_nonneg total] at sum bound
  rw [toInt_eq_toNat_of_nonneg offset, toInt_eq_toNat_of_nonneg size] at sum
  omega

lemma logged_nil (has : entry.cache = some cache) (size : cache.length = maxDataLen)
    (zero : entry.currentSize = 0) : Logged [] entry where
  cache := ⟨cache, has, size, fun _ mem => absurd mem List.not_mem_nil⟩
  seq := fun _ mem => absurd mem List.not_mem_nil
  inside := fun _ mem => absurd mem List.not_mem_nil
  apart := List.Pairwise.nil
  size := zero

lemma Logged.add (logged : Logged log entry) {index opens}
    (has : entry.cache = some cache) (sameSeq : head.seq = entry.seq) (inside : head.Inside)
    (length : body.length = head.size.toNat)
    (apart : ∀ copy ∈ log, Disjoint copy.header.range head.range) :
    Logged (log ++ [⟨index, opens, head, body⟩]) { entry with
      currentSize := entry.currentSize + head.size
      cache := some (overwrite cache head.offset.toNat body) } := by
  obtain ⟨old, hasOld, size, holds⟩ := logged.cache
  rw [has] at hasOld
  cases hasOld
  obtain ⟨sum, total⟩ := inside.toNat
  have fits : head.offset.toNat + body.length ≤ cache.length := by omega
  refine ⟨⟨_, rfl, by rw [length_overwrite fits, size], ?_⟩, ?_, ?_, ?_, ?_⟩
  · intro copy mem k inRange
    rw [getElem?_overwrite fits]
    rcases List.mem_append.mp mem with old | last
    · have elsewhere : k ∉ head.range := Finset.disjoint_left.mp (apart copy old) inRange
      rw [range, Finset.mem_Ico] at elsewhere
      rw [if_neg (by rwa [length]), holds copy old k inRange]
    · rw [List.mem_singleton.mp last] at inRange ⊢
      rw [range, Finset.mem_Ico] at inRange
      rw [if_pos (by rwa [length])]
  · intro copy mem
    rcases List.mem_append.mp mem with old | last
    · exact logged.seq copy old
    · rw [List.mem_singleton.mp last]
      exact sameSeq
  · intro copy mem
    rcases List.mem_append.mp mem with old | last
    · exact logged.inside copy old
    · rw [List.mem_singleton.mp last]
      exact inside
  · rw [List.map_append, List.pairwise_append]
    refine ⟨logged.apart, List.pairwise_singleton _ _, fun range mem other last => ?_⟩
    obtain ⟨copy, copyMem, rfl⟩ := List.mem_map.mp mem
    rw [List.map_singleton, List.mem_singleton] at last
    rw [last]
    exact apart copy copyMem
  · have card : head.range.card = head.size.toNat := by
      rw [range, Nat.card_Ico, Nat.add_sub_cancel_left]
    change entry.currentSize + head.size = _
    rw [logged.size, List.map_append, List.map_append, List.sum_append, List.map_singleton,
      List.map_singleton, List.sum_singleton, card, ofNat_add, ofNat_toNat,
      setWidth_eq]

lemma Logged.covers (logged : Logged log entry) {total}
    (same : ∀ copy ∈ log, copy.header.total = total) (complete : entry.currentSize = total)
    (bound : total.toNat ≤ maxDataLen) {k} (small : k < total.toNat) :
    ∃ copy ∈ log, k ∈ copy.header.range := by
  have inside : ∀ range ∈ log.map (·.header.range), range ⊆ Finset.range total.toNat := by
    intro range mem
    obtain ⟨copy, copyMem, rfl⟩ := List.mem_map.mp mem
    intro j inRange
    have fits := (logged.inside copy copyMem).toNat.1
    rw [same copy copyMem] at fits
    rw [range, Finset.mem_Ico] at inRange
    exact Finset.mem_range.mpr (by omega)
  have few := Ranges.sum_card_le inside logged.apart
  have enough : ((log.map (·.header.range)).map Finset.card).sum = total.toNat := by
    have value := congrArg BitVec.toNat (logged.size.symm.trans complete)
    rw [maxDataLen] at bound
    rwa [toNat_ofNat, Nat.mod_eq_of_lt (by omega)] at value
  obtain ⟨range, mem, inRange⟩ := Ranges.exists_mem_of_sum_card inside logged.apart enough small
  obtain ⟨copy, copyMem, rfl⟩ := List.mem_map.mp mem
  exact ⟨copy, copyMem, inRange⟩

end

structure Tracked (s : BleHistory) : Prop where
  allocated : Allocated s.recvCache
  logged : ∀ index entry, s.recvCache[index]? = some entry → entry.isUsed →
    Logged (s.written index) entry

section
variable {s t : BleHistory} {v : BleValue} {out : List (Option BleCopy × Option BleReturn)}
  {front back : List BleRecvCache} {entry next : BleRecvCache}

lemma Allocated.replace (alloc : Allocated (front ++ entry :: back))
    (used : next.isUsed → next.cache.isSome)
    (size : ∀ cache, next.cache = some cache → cache.length = maxDataLen) :
    Allocated (front ++ next :: back) := by
  constructor
  · intro other mem
    rcases mem_replaced mem with rfl | old
    · exact used
    · exact alloc.used other old
  · intro other mem
    rcases mem_replaced mem with rfl | old
    · exact size
    · exact alloc.size other old

lemma Allocated.outcome {recvCache result}
    (alloc : Allocated recvCache) (outcome : Outcome v recvCache result) :
    Allocated result.recvCache := by
  cases outcome with
  | ignored ret full => exact alloc
  | givenUp split unused size =>
    subst split
    exact alloc.replace (fun used => by rw [unused] at used; cases used) size
  | copied split valid cont begins has size inside length complete =>
    subst split
    split at complete
    · rw [complete.1]
      exact alloc.replace (fun used => by cases used) (fun cache none => by cases none)
    · rw [complete.1]
      refine alloc.replace (fun _ => rfl) ?_
      rintro _ ⟨⟩
      have fits := inside.toNat
      rw [length_overwrite (by omega), size]

lemma Tracked.replace (tracked : Tracked s) (split : s.recvCache = front ++ entry :: back)
    (alloc : Allocated (front ++ next :: back)) {log} (logged : next.isUsed → Logged log next) :
    Tracked ⟨front ++ next :: back, update s.written front.length log⟩ := by
  refine ⟨alloc, fun index other found used => ?_⟩
  change Logged (update s.written front.length log index) other
  by_cases here : index = front.length
  · subst here
    rw [getElem?_split] at found
    cases found
    rw [update_self]
    exact logged used
  · rw [update_of_ne here]
    rw [getElem?_replaced here, ← split] at found
    exact tracked.logged index other found used

lemma bleReceiveStep_tracked (tracked : Tracked s) (consistent : Consistent s v)
    (stepped : bleReceiveStep s v = some (t, out)) :
    Tracked t ∧ Uniform s v t out ∧ Covered s v t out := by
  obtain ⟨result, received, outcome⟩ := @bleRequestWriteCallback_outcome v _ tracked.allocated
  have alloc := tracked.allocated.outcome outcome
  rw [bleReceiveStep, received] at stepped
  cases outcome with
  | ignored ret full =>
    cases stepped
    refine ⟨tracked, fun copy ret mem => ?_, fun copied body index mem => ?_⟩
    · cases List.mem_singleton.mp mem
    · cases List.mem_singleton.mp mem
      exact absurd rfl (full body index)
  | @givenUp front back entry next split unused size =>
    cases stepped
    have quiet : next.isUsed → Logged (s.written front.length) next := by
      rw [unused]
      exact fun no => by cases no
    have still := tracked.replace split alloc quiet
    rw [update_eq_self] at still
    refine ⟨still, fun copy ret mem => ?_, fun copied body index mem => ?_⟩
    · cases List.mem_singleton.mp mem
    · cases List.mem_singleton.mp mem
  | @copied front back entry start head opens cache body split valid cont begins has size
      inside length recvCache' ret complete =>
      cases stepped
      -- The history that the fragment is added to.
      obtain ⟨log, log_eq, logged, sameSeq, before⟩ : ∃ log,
          (if opens then [⟨front.length, opens, head, body⟩]
            else s.written front.length ++ [⟨front.length, opens, head, body⟩]) =
            log ++ [(⟨front.length, opens, head, body⟩ : BleCopy)] ∧
          Logged log start ∧ head.seq = start.seq ∧
          ∀ copy ∈ log, copy.header.total = head.total ∧ Disjoint copy.header.range head.range := by
        cases opens with
        | true =>
          obtain ⟨_, seq, zero⟩ := begins rfl
          exact ⟨[], rfl, logged_nil has size zero, seq.symm,
            fun copy mem => absurd mem List.not_mem_nil⟩
        | false =>
          obtain ⟨used, seq, rfl⟩ := cont rfl
          have found : s.recvCache[front.length]? = some start := by
            rw [split, getElem?_split]
          exact ⟨s.written front.length, rfl, tracked.logged _ _ found used, seq.symm,
            consistent head valid _ _ found used seq⟩
      have added := @Logged.add _ _ head _ body logged front.length opens has sameSeq inside
        length fun copy mem => (before copy mem).2
      have totals : ∀ copy ∈ log ++ [⟨front.length, opens, head, body⟩],
          copy.header.total = head.total := by
        intro copy mem
        rcases List.mem_append.mp mem with old | last
        · exact (before copy old).1
        · rw [List.mem_singleton.mp last]
      have written : addCopy ⟨front.length, opens, head, body⟩ s.written =
          update s.written front.length
            (log ++ [⟨front.length, opens, head, body⟩]) := by
        rw [addCopy, log_eq]
      refine ⟨?_, fun copy ret mem other otherMem => ?_, fun copied value index mem k small => ?_⟩
      · change Tracked ⟨recvCache', addCopy _ s.written⟩
        rw [written]
        change Allocated recvCache' at alloc
        split at complete
        · rw [complete.1] at alloc ⊢
          exact tracked.replace split alloc fun used => by cases used
        · rw [complete.1] at alloc ⊢
          exact tracked.replace split alloc fun _ => added
      · cases List.mem_singleton.mp mem
        change other ∈ addCopy _ s.written front.length at otherMem
        rw [written, update_self] at otherMem
        exact ⟨totals other otherMem, (added.seq other otherMem).trans sameSeq.symm⟩
      · have last := List.mem_singleton.mp mem
        rw [Prod.mk.injEq] at last
        obtain ⟨_, hRet⟩ := last
        split at complete
        next enough =>
          rw [complete.2, Option.some.injEq, BleReturn.mk.injEq, Option.some.injEq] at hRet
          obtain ⟨rfl, rfl⟩ := hRet
          change ∃ copy ∈ addCopy _ s.written front.length, _
          rw [written, update_self]
          rw [List.length_take] at small
          obtain ⟨copy, copyMem, inRange⟩ := added.covers totals enough inside.toNat.2
            (show k < head.total.toNat by omega)
          obtain ⟨filled, hasFilled, _, holds⟩ := added.cache
          cases hasFilled
          refine ⟨copy, copyMem, inRange, ?_⟩
          rw [List.getElem?_take_of_lt (by omega)]
          exact holds copy copyMem k inRange
        · simp [complete.2] at hRet

end

lemma allocated_init : Allocated BleHistory.init.recvCache := by
  have entry_eq {entry} (mem : entry ∈ BleHistory.init.recvCache) : entry = .init :=
    List.eq_of_mem_replicate mem
  constructor
  · intro entry mem used
    rw [entry_eq mem] at used
    cases used
  · intro entry mem cache has
    rw [entry_eq mem] at has
    cases has

lemma tracked_init : Tracked .init := by
  refine ⟨allocated_init, fun index entry found used => ?_⟩
  rw [List.eq_of_mem_replicate (List.mem_of_getElem? found)] at used
  cases used

lemma bleReceiveStep_allocated {s} (alloc : Allocated s.recvCache) (v) :
    ∃ t out, bleReceiveStep s v = some (t, out) ∧ Allocated t.recvCache ∧ Bounded s v t out := by
  obtain ⟨result, received, outcome⟩ := @bleRequestWriteCallback_outcome v _ alloc
  rw [bleReceiveStep, received]
  refine ⟨_, _, rfl, alloc.outcome outcome, fun copy ret mem => ?_⟩
  cases outcome with
  | ignored _ full | givenUp split unused size => cases List.mem_singleton.mp mem
  | copied split valid cont begins has size inside length complete =>
    cases List.mem_singleton.mp mem
    exact inside

/-- Whatever strings come, what is copied is inside. If the fragments of each entry are
disjoint and announce one total, the returned payloads are made of them. -/
theorem bleTransRecv_sound (values : List BleValue) :
    (∃ t outs, run bleReceiveStep .init values = some (t, outs)) ∧
      AllResults bleReceiveStep Bounded .init values ∧
      (AllSteps bleReceiveStep Consistent .init values →
        AllResults bleReceiveStep (fun s v t out => Uniform s v t out ∧ Covered s v t out) .init
          values) := by
  have free : AllSteps bleReceiveStep (fun _ _ => True) .init values :=
    fun _ _ _ _ _ _ _ => trivial
  refine ⟨?_, ?_, fun consistent => ?_⟩
  · obtain ⟨t, outs, hRun, _⟩ := @run_defined _ _ _ bleReceiveStep _
      (fun s : BleHistory => Allocated s.recvCache) (fun s v allocated _ => by
        obtain ⟨t, out, hStep, after, _⟩ := bleReceiveStep_allocated allocated v
        exact ⟨t, out, hStep, after⟩) _ _ allocated_init free
    exact ⟨t, outs, hRun⟩
  · refine AllSteps.results_of_inv (I := fun s : BleHistory => Allocated s.recvCache) ?_
      allocated_init free
    intro s v t out allocated _ hStep
    obtain ⟨u, out', hStep', after, bounded⟩ := bleReceiveStep_allocated allocated v
    rw [hStep] at hStep'
    cases hStep'
    exact ⟨after, bounded⟩
  · exact AllSteps.results_of_inv (fun s v t out => bleReceiveStep_tracked) tracked_init consistent

def fourBytePart (offset : BitVec 32) (payload : Bytes) : BleValue :=
  ⟨bytes ⟨1, BitVec.ofNat 32 payload.length, offset, 4⟩ ++ payload, []⟩

instance (s : BleHistory) (v : BleValue) : Decidable (Consistent s v) :=
  decidable_of_iff (∀ header ∈ getTransHeader v, ∀ index : Fin s.recvCache.length,
    (s.recvCache.get index).isUsed → (s.recvCache.get index).seq = header.seq →
    ∀ copy ∈ s.written index,
      copy.header.total = header.total ∧ Disjoint copy.header.range header.range)
    (forall₂_congr fun _ _ => ⟨fun all index entry found => by
      obtain ⟨inside, rfl⟩ := List.getElem?_eq_some_iff.mp found
      exact all ⟨index, inside⟩,
      fun all index => all index _ (List.getElem?_eq_getElem index.isLt)⟩)

theorem bleTransRecv_sound_twoParts :
    AllSteps bleReceiveStep Consistent .init [fourBytePart 2 [3, 4], fourBytePart 0 [1, 2]] ∧
      AllResults bleReceiveStep (fun s v t out => Uniform s v t out ∧ Covered s v t out) .init
        [fourBytePart 2 [3, 4], fourBytePart 0 [1, 2]] := by
  have consistent : AllSteps bleReceiveStep Consistent .init
      [fourBytePart 2 [3, 4], fourBytePart 0 [1, 2]] := by
    decide +kernel
  exact ⟨consistent, (bleTransRecv_sound _).2.2 consistent⟩

/-- The first half arrives twice and is taken for the whole: the last two bytes were never
received. -/
theorem repeated_part_not_covered :
    (run bleReceiveStep .init [fourBytePart 0 [1, 2], fourBytePart 0 [1, 2]]).map
        (fun result => (result.2.map (·.2), (result.1.written 0).map (·.header.range))) =
      some ([none, some ⟨[1, 2, 0, 0], some 0⟩], [{0, 1}, {0, 1}]) ∧
    ¬ AllResults bleReceiveStep Covered .init [fourBytePart 0 [1, 2], fourBytePart 0 [1, 2]] := by
  refine ⟨by decide +kernel, fun all => ?_⟩
  have uncovered : ∃ r ∈ run bleReceiveStep .init [fourBytePart 0 [1, 2]],
      ∃ q ∈ bleReceiveStep r.1 (fourBytePart 0 [1, 2]), ∃ returned ∈ q.2,
        returned.2 = some ⟨[1, 2, 0, 0], some 0⟩ ∧
        ∀ copy ∈ q.1.written 0, 2 ∉ copy.header.range := by
    decide +kernel
  obtain ⟨⟨t, outs⟩, first, ⟨u, out⟩, second, ⟨copied, _⟩, mem, rfl, outside⟩ := uncovered
  obtain ⟨copy, written, inside, _⟩ :=
    all _ _ [] rfl t outs first u out second copied [1, 2, 0, 0] 0 mem 2 (by decide)
  exact outside copy written inside

end DSoftBus.Ble
