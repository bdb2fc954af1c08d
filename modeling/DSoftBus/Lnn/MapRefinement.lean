import DSoftBus.Lib.Execution
import DSoftBus.Lib.ModularCounter
import DSoftBus.Lnn.MapTable
import Mathlib.Data.Set.Card

/-!
The string map against a finite map. What a sequence of calls has stored is read off
their results; the buckets hold exactly that, each key once and in the bucket of its
hash, as long as the number of keys fits `nodeSize`.
-/
namespace DSoftBus.Lnn
open Execution HashBuckets KeyedList List Function Nat

/-- The finite map after a call. A call that failed has no effect. -/
def valueAfter (stored : CString → Option Bytes) : MapEvent → CString → Option Bytes
  | .set key value .ok => update stored key (some value)
  | .erased key .ok => update stored key none
  | _ => stored

variable (events : List MapEvent)

def valueOf : CString → Option Bytes := events.foldl valueAfter fun _ => none

lemma valueOf_concat (event) : valueOf (events ++ [event]) = valueAfter (valueOf events) event := by
  rw [valueOf, foldl_append]
  rfl

def liveKeys : Set CString := { key | (valueOf events key).isSome }

/-- The map is as it was made, or its buckets hold what is stored and `nodeSize` is their
number of nodes. -/
inductive Refines (charValue : UInt8 → BitVec 32) : Map → (CString → Option Bytes) → Prop
  | init : Refines charValue lnnMapInit fun _ => none
  | table {bucketSize : BitVec 32} {buckets : List (List MapNode)}
      {stored : CString → Option Bytes}
      (holds : Table charValue bucketSize buckets stored) :
      Refines charValue ⟨some buckets, BitVec.ofNat 32 buckets.flatten.length, bucketSize⟩ stored

def Map.count (map : Map) : Nat := (map.nodes.getD []).flatten.length

section
variable {chars : UInt8 → BitVec 32} {map : Map} {stored : CString → Option Bytes}
  {key : CString} {value : Bytes}

lemma Refines.mapFind_values (ref : Refines chars map stored) (small : map.count < 2 ^ 32)
    (key) : ∃ found, mapFind map (mapHash chars key) key = some found ∧
      stored key = found.map MapNode.value := by
  cases ref with
  | init => exact ⟨none, rfl, rfl⟩
  | table holds =>
    rename_i bucketSize bs
    have few : bs.flatten.length < 2 ^ 32 := small
    refine ⟨lookup MapNode.id (mapHash chars key, key) bs.flatten, ?_, holds.values key⟩
    rw [mapFind]
    simp only
    split
    next zero =>
      have none : bs.flatten.length = 0 := by
        have count := congrArg BitVec.toNat zero
        rwa [BitVec.toNat_ofNat, mod_eq_of_lt few] at count
      rw [length_eq_zero_iff.mp none]
      rfl
    · have found := getElem?_eq_getElem (holds.sound.inside (mapHash chars key, key))
      exact (congrArg _ found).trans (congrArg some (holds.sound.lookup_chain found))

lemma toNat_of_calloc {size : BitVec 32} {j : Nat} {memory : Bytes}
    (pow : size.toNat = 2 ^ j) (few : j ≤ 28)
    (allocated : softBusCalloc (size.toNat * 8 % 2 ^ 32) = some memory) : j ≤ 26 := by
  rw [softBusCalloc] at allocated
  split at allocated
  · cases allocated
  rename_i fits
  have bound : 2 ^ j * 8 ≤ 2 ^ 31 := by
    have := Nat.pow_le_pow_right (n := 2) (by decide) few
    omega
  rw [pow, Nat.mod_eq_of_lt (by omega)] at fits
  by_contra more
  have := Nat.pow_le_pow_right (n := 2) (by decide) (not_le.mp more)
  simp only [maxMallocSize] at fits
  omega

lemma mapResize_table {bucketSize size n bs} (holds : Table chars bucketSize bs stored)
    (pow : ∃ j, 3 ≤ j ∧ j ≤ 28 ∧ size.toNat = 2 ^ j) : ∃ bucketSize' buckets' ret,
      mapResize ⟨some bs, n, bucketSize⟩ size = some (⟨some buckets', n, bucketSize'⟩, ret) ∧
      Table chars bucketSize' buckets' stored ∧ buckets'.flatten.length = bs.flatten.length := by
  obtain ⟨j, large, few, eq⟩ := pow
  rw [mapResize]
  cases allocated : softBusCalloc (size.toNat * 8 % 2 ^ 32) with
  | none => exact ⟨bucketSize, bs, .memErr, rfl, holds, rfl⟩
  | some memory =>
    have fits := toNat_of_calloc eq few allocated
    obtain ⟨moved, count⟩ := holds.rehash ⟨j, large, fits, eq⟩
    refine ⟨size, _, .ok, ?_, moved, count⟩
    have whole : bs.take bucketSize.toNat = bs := by
      rw [← holds.length, take_length]
    have inside : ∀ id, hashIdx size id < (replicate size.toNat ([] : List MapNode)).length :=
      fun id => by
        rw [length_replicate]
        exact hashIdx_lt id (eq ▸ Nat.two_pow_pos j)
    simp only [if_neg (not_lt_of_ge (le_of_eq holds.length.symm)), whole]
    rw [foldlM_mapAddNode _ _ _ inside]
    rfl

lemma toNat_enlarge {bucketSize : BitVec 32} {j : Nat} (few : j ≤ 26)
    (pow : bucketSize.toNat = 2 ^ j) : (bucketSize <<< hdfEnlargeFactor).toNat = 2 ^ (j + 2) := by
  have bound := Nat.pow_le_pow_right (n := 2) (by decide) few
  rw [BitVec.toNat_shiftLeft, pow, hdfEnlargeFactor, Nat.shiftLeft_eq, Nat.pow_add]
  exact Nat.mod_eq_of_lt (by omega)

lemma enlarged_table (ref : Refines chars map stored) : ∃ bucketSize bs,
      (if map.bucketSize ≤ map.nodeSize then
        (mapResize map (if map.bucketSize < hdfMinMapSize then hdfMinMapSize
          else map.bucketSize <<< hdfEnlargeFactor)).map Prod.fst else some map) =
        some ⟨some bs, BitVec.ofNat 32 bs.flatten.length, bucketSize⟩ ∧
      Table chars bucketSize bs stored ∧ bs.flatten.length = map.count := by
  cases ref with
  | init => exact ⟨8, replicate 8 [], rfl, table_empty ⟨3, by decide, by decide, rfl⟩, rfl⟩
  | table holds =>
    rename_i bucketSize bs
    simp only
    split
    · obtain ⟨j, large, few, pow⟩ := holds.pow
      have enough : ¬ bucketSize < hdfMinMapSize := by
        have bound := Nat.pow_le_pow_right (n := 2) (by decide) large
        rw [BitVec.lt_def, pow]
        exact not_lt_of_ge bound
      rw [if_neg enough]
      obtain ⟨bucketSize', buckets', ret, resized, holds', count⟩ :=
        mapResize_table (n := BitVec.ofNat 32 bs.flatten.length) holds
          ⟨j + 2, by omega, by omega, toNat_enlarge few pow⟩
      exact ⟨bucketSize', buckets', by rw [resized, count]; rfl, holds', count⟩
    · exact ⟨bucketSize, bs, rfl, holds, rfl⟩

/-- Sizes that `LnnMapSet` takes. -/
def Accepted (key : CString) (value : Bytes) : Prop :=
  value.length ≠ 0 ∧ value.length ≤ hdfMapKeyMaxSize ∧ key.strlen ≤ hdfMapValueMaxSize

lemma lnnMapSet_refused (refused : ¬ Accepted key value) :
    lnnMapSet chars map key value = some (map, .invalidParam) := by
  rw [lnnMapSet]
  split
  · rfl
  next nonempty =>
    refine if_pos ?_
    by_contra fits
    exact refused ⟨nonempty, by omega, by omega⟩

lemma mapCreateNode_eq_some (accepted : Accepted key value) (hash) :
    mapCreateNode key hash value = some ⟨hash, key, value⟩ := by
  have h₁ := accepted.2.1
  have h₂ := accepted.2.2
  simp only [hdfMapKeyMaxSize, hdfMapValueMaxSize] at h₁ h₂
  rw [mapCreateNode, softBusCalloc_eq_some (by omega) (by simp only [maxMallocSize]; omega)]

section

variable (ref : Refines chars map stored)
include ref

section

variable (small : map.count < 2 ^ 32)
include small

lemma lnnMapSet_fresh (accepted : Accepted key value) (fresh : stored key = none) :
    ∃ next, lnnMapSet chars map key value = some (next, .ok) ∧
      Refines chars next (update stored key (some value)) ∧ next.count = map.count + 1 := by
  obtain ⟨found, searched, values⟩ := ref.mapFind_values small key
  have absent : found = none := by
    rw [fresh] at values
    exact Option.map_eq_none_iff.mp values.symm
  obtain ⟨bucketSize, bs, enlarged, holds, count⟩ := enlarged_table ref
  obtain ⟨pushed, more⟩ := holds.push ⟨mapHash chars key, key, value⟩ rfl fresh
  have inside := holds.sound.inside (mapHash chars key, key)
  have h₁ := accepted.2.1
  have h₂ := accepted.2.2
  refine ⟨_, ?_, .table pushed, ?_⟩
  · rw [lnnMapSet, if_neg accepted.1, if_neg (by omega)]
    simp only [searched, absent, enlarged, mapCreateNode_eq_some accepted]
    rw [mapAddNode_eq_some inside, more, BitVec.ofNat_add]
    rfl
  · rw [← count]
    exact more

lemma lnnMapSet_present (accepted : Accepted key value) {old} (has : stored key = some old) :
    ∃ next ret, lnnMapSet chars map key value = some (next, ret) ∧
      Refines chars next (valueAfter stored (.set key value ret)) ∧
      (old.length = value.length → ret = .ok) := by
  obtain ⟨found, searched, values⟩ := ref.mapFind_values small key
  rw [has] at values
  obtain ⟨node, rfl, rfl⟩ := Option.map_eq_some_iff.mp values.symm
  have h₁ := accepted.2.1
  have h₂ := accepted.2.2
  rw [lnnMapSet, if_neg accepted.1, if_neg (by omega)]
  simp only [searched]
  split
  next other => exact ⟨map, .invalidParam, rfl, ref, fun same => absurd same other⟩
  cases ref with
  | init => cases has
  | table holds =>
    obtain ⟨changed, count⟩ := holds.overwrite (by rw [has]; rfl) value
    refine ⟨_, .ok, rfl, ?_, fun _ => rfl⟩
    have next := Refines.table changed
    rw [count] at next
    exact next

lemma lnnMapSet_refines (key value) : ∃ next ret, lnnMapSet chars map key value = some (next, ret) ∧
      Refines chars next (valueAfter stored (.set key value ret)) ∧ (Accepted key value →
        (∀ old ∈ stored key, old.length = value.length) → ret = .ok) := by
  by_cases accepted : Accepted key value
  · cases has : stored key with
    | none =>
      obtain ⟨next, set, kept, _⟩ := lnnMapSet_fresh ref small accepted has
      exact ⟨next, .ok, set, kept, fun _ _ => rfl⟩
    | some old =>
      obtain ⟨next, ret, set, kept, ok⟩ := lnnMapSet_present ref small accepted has
      exact ⟨next, ret, set, kept, fun _ same => ok (same old rfl)⟩
  · exact ⟨map, .invalidParam, lnnMapSet_refused accepted, ref, fun taken => absurd taken accepted⟩

lemma lnnMapErase_refines (key) : ∃ next ret, lnnMapErase chars map key = some (next, ret) ∧
      Refines chars next (valueAfter stored (.erased key ret)) ∧
      (ret = .ok ∨ stored key = none) := by
  obtain ⟨found, searched, values⟩ := ref.mapFind_values small key
  rw [lnnMapErase]
  split
  next refused =>
    have nothing : mapFind map (mapHash chars key) key = some none := by
      rw [mapFind]
      cases nodes : map.nodes with
      | none => rfl
      | some buckets => exact if_pos (refused.resolve_right (by simp [nodes]))
    cases searched.symm.trans nothing
    exact ⟨map, .invalidParam, rfl, ref, .inr values⟩
  simp only [searched]
  cases found with
  | none => exact ⟨map, .err, rfl, ref, .inr values⟩
  | some node =>
    cases ref with
    | init => cases values
    | table holds =>
      have has : (stored key).isSome := by
        rw [values]
        rfl
      obtain ⟨changed, count⟩ := holds.erase has
      have next := Refines.table changed
      rw [← BitVec.add_sub_cancel (BitVec.ofNat 32 (length _)) 1,
        ModularCounter.ofNat_succ, count] at next
      exact ⟨_, .ok, rfl, next, .inl rfl⟩

lemma mapStep_refines (call) : ∃ next event, mapStep chars map call = some (next, [event]) ∧
      Refines chars next (valueAfter stored event) := by
  cases call with
  | set key value =>
    obtain ⟨next, ret, done, kept, _⟩ := lnnMapSet_refines ref small key value
    exact ⟨next, _, by rw [mapStep, done]; rfl, kept⟩
  | get key =>
    obtain ⟨found, searched, _⟩ := ref.mapFind_values small key
    exact ⟨map, .got key (found.map MapNode.value), by rw [mapStep, lnnMapGet, searched]; rfl, ref⟩
  | erase key =>
    obtain ⟨next, ret, done, kept, _⟩ := lnnMapErase_refines ref small key
    exact ⟨next, _, by rw [mapStep, done]; rfl, kept⟩

end

end

end

section
variable {chars : UInt8 → BitVec 32} {map : Map} {stored : CString → Option Bytes}
  {key : CString}

section
variable (ref : Refines chars map stored)
include ref

lemma Refines.ncard_live : { key | (stored key).isSome }.ncard = map.count := by
  cases ref with
  | init => simp [Map.count, lnnMapInit]
  | table holds =>
    rename_i bucketSize bs
    have live : { key | (stored key).isSome } =
        ((bs.flatten.map MapNode.key).toFinset : Set CString) := by
      ext key
      simp only [Set.mem_ofPred_eq, holds.isSome_iff, coe_toFinset, mem_map]
    rw [live, Set.ncard_coe_finset, toFinset_card_of_nodup holds.nodup_keys, length_map]
    rfl

def Map.InBucket (map : Map) (i : Nat) (key : CString) : Prop :=
  ∃ chain, (map.nodes.getD [])[i]? = some chain ∧ ∃ node ∈ chain, node.key = key

lemma Refines.inBucket_iff (i) :
    map.InBucket i key ↔ (stored key).isSome ∧
      i = (mapHash chars key).toNat % map.bucketSize.toNat := by
  cases ref with
  | init => simp [Map.InBucket, lnnMapInit]
  | table holds =>
    rename_i bucketSize bs
    obtain ⟨j, _, _, pow⟩ := holds.pow
    constructor
    · intro inBucket
      obtain ⟨chain, atI, node, mem, rfl⟩ := inBucket
      have inTable := mem_flatten.mpr ⟨chain, mem_of_getElem? atI, mem⟩
      refine ⟨holds.isSome_iff.mpr ⟨node, inTable, rfl⟩, ?_⟩
      rw [← holds.sound.placed i chain atI node mem, hashIdx_eq_mod _ pow,
        ← holds.hashed node inTable]
      rfl
    · intro live
      obtain ⟨has, rfl⟩ := live
      obtain ⟨node, inTable, rfl⟩ := holds.isSome_iff.mp has
      obtain ⟨chain, inBuckets, mem⟩ := mem_flatten.mp inTable
      obtain ⟨i, atI⟩ := mem_iff_getElem?.mp inBuckets
      have place := holds.sound.placed i chain atI node mem
      rw [hashIdx_eq_mod _ pow] at place
      refine ⟨chain, ?_, node, mem, rfl⟩
      rw [← holds.hashed node inTable]
      exact place ▸ atI

lemma Refines.nodup_keys : ((map.nodes.getD []).flatten.map MapNode.key).Nodup := by
  cases ref with
  | init => exact nodup_nil
  | table holds => exact holds.nodup_keys

lemma Refines.nodeSize_eq : map.nodeSize = BitVec.ofNat 32 map.count := by
  cases ref with
  | init => rfl
  | table holds => rfl

end

/-- In a run in which the number of live keys stays below `2 ^ 32`, the map refines the
finite map of the calls. -/
lemma run_refines_of_small (calls)
    (small : ∀ front call back, calls = front ++ call :: back → ∀ map events,
      run (mapStep chars) lnnMapInit front = some (map, events) →
        (liveKeys events).ncard < 2 ^ 32) :
    ∃ map events, run (mapStep chars) lnnMapInit calls = some (map, events) ∧
      Refines chars map (valueOf events) := by
  induction calls using reverseRecOn with
  | nil => exact ⟨lnnMapInit, [], rfl, .init⟩
  | append_singleton front call ih =>
    obtain ⟨map, events, ran, ref⟩ := ih fun front' call' back split =>
      small front' call' (back ++ [call]) (by rw [split]; simp)
    have few : map.count < 2 ^ 32 := by
      rw [← ref.ncard_live]
      exact small front call [] rfl map events ran
    obtain ⟨next, event, stepped, ref'⟩ := mapStep_refines ref few call
    refine ⟨next, events ++ [event],
      run_concat_eq_some.mpr ⟨map, events, [event], ran, stepped, rfl⟩, ?_⟩
    rw [valueOf_concat]
    exact ref'

/-- The number of live keys never reaches `2 ^ 32`. -/
def FewKeys (charValue : UInt8 → BitVec 32) (calls : List MapCall) : Prop :=
  ∀ front back, calls = front ++ back → ∀ map events,
    run (mapStep charValue) lnnMapInit front = some (map, events) → (liveKeys events).ncard < 2 ^ 32

lemma FewKeys.front {front back} (few : FewKeys chars (front ++ back)) : FewKeys chars front := by
  intro before after split
  exact few before (after ++ back) (by rw [split, append_assoc])

/-- A call makes at most one key live. -/
lemma ncard_liveKeys_le (events : List MapEvent) :
    (liveKeys events).Finite ∧ (liveKeys events).ncard ≤ events.length := by
  have grows (stored event) : ∃ key : CString, ∀ other, other ≠ key →
      valueAfter stored event other = stored other := by
    cases event with
    | set key value ret =>
      refine ⟨key, fun other ne => ?_⟩
      cases ret <;> first | rfl | exact update_of_ne ne ..
    | got key value => exact ⟨key, fun _ _ => rfl⟩
    | erased key ret =>
      refine ⟨key, fun other ne => ?_⟩
      cases ret <;> first | rfl | exact update_of_ne ne ..
  induction events using reverseRecOn with
  | nil => simp [liveKeys, valueOf]
  | append_singleton events event ih =>
    obtain ⟨key, kept⟩ := grows (valueOf events) event
    have inside : liveKeys (events ++ [event]) ⊆ insert key (liveKeys events) := by
      intro other has
      by_cases same : other = key
      · exact .inl same
      · simp only [liveKeys, valueOf_concat, Set.mem_ofPred_eq, kept other same] at has
        exact .inr has
    have finite := ih.1.insert key
    refine ⟨finite.subset inside, (Set.ncard_le_ncard inside finite).trans ?_⟩
    rw [length_append]
    exact (Set.ncard_insert_le key _).trans (Nat.succ_le_succ ih.2)

lemma length_events {calls map next events}
    (ran : run (mapStep chars) map calls = some (next, events)) : events.length = calls.length := by
  induction calls generalizing map events with
  | nil => cases ran; rfl
  | cons call rest ih =>
    obtain ⟨_, out, outs, step, later, rfl⟩ := run_cons_eq_some.mp ran
    have one : out.length = 1 := by
      cases call <;> obtain ⟨_, _, same⟩ := Option.map_eq_some_iff.mp step <;>
        exact congrArg (length ∘ Prod.snd) same.symm
    rw [length_append, one, ih later, length_cons, add_comm]

lemma fewKeys_of_short {calls : List MapCall} (short : calls.length < 2 ^ 32) :
    FewKeys chars calls := by
  rintro front back rfl map events ran
  have count := (ncard_liveKeys_le events).2
  rw [length_events ran] at count
  rw [length_append] at short
  omega

lemma FewKeys.refines {calls} (few : FewKeys chars calls) :
    ∃ map events, run (mapStep chars) lnnMapInit calls = some (map, events) ∧
      Refines chars map (valueOf events) ∧ map.count < 2 ^ 32 ∧ map.nodeSize.toNat = map.count := by
  obtain ⟨map, events, ran, ref⟩ := run_refines_of_small calls fun front call back split =>
    few front (call :: back) split
  have small : map.count < 2 ^ 32 :=
    ref.ncard_live ▸ few calls [] (append_nil _).symm map events ran
  refine ⟨map, events, ran, ref, small, ?_⟩
  rw [ref.nodeSize_eq, BitVec.toNat_ofNat]
  exact mod_eq_of_lt small

theorem lnnMap_refines {calls : List MapCall} (few : FewKeys charValue calls) :
    ∃ map events, run (mapStep charValue) lnnMapInit calls = some (map, events) ∧
      (∀ key, lnnMapGet charValue map key = some (valueOf events key)) ∧
      map.nodeSize.toNat = (liveKeys events).ncard ∧
      (∀ key i, map.InBucket i key ↔ key ∈ liveKeys events ∧
        i = (mapHash charValue key).toNat % map.bucketSize.toNat) ∧
      ((map.nodes.getD []).flatten.map MapNode.key).Nodup := by
  obtain ⟨map, events, ran, ref, small, count⟩ := few.refines
  refine ⟨map, events, ran, fun key => ?_, count.trans ref.ncard_live.symm,
    fun key i => ref.inBucket_iff i, ref.nodup_keys⟩
  obtain ⟨found, searched, values⟩ := ref.mapFind_values small key
  rw [lnnMapGet, searched, values]
  rfl

end

/-- A platform whose `char` is unsigned. -/
def unsignedChar (c : UInt8) : BitVec 32 := c.toBitVec.setWidth 32

/-- The 32 bits of a number, written as the characters 1 and 2. -/
def numberKey (i : Nat) : CString where
  bytes := (range 32).map fun b => if i.testBit b then 2 else 1
  noNul := by
    intro mem
    obtain ⟨b, _, zero⟩ := mem_map.mp mem
    split at zero <;> contradiction

lemma numberKey_inj {i j} (hi : i < 2 ^ 32) (hj : j < 2 ^ 32)
    (same : numberKey i = numberKey j) : i = j := by
  have bytes : (range 32).map (fun b => if i.testBit b then (2 : UInt8) else 1) =
      (range 32).map fun b => if j.testBit b then 2 else 1 := congrArg CString.bytes same
  apply eq_of_testBit_eq
  intro b
  by_cases inside : b < 32
  · have bit := map_inj_left.mp bytes b (mem_range.mpr inside)
    revert bit
    cases i.testBit b <;> cases j.testBit b <;> decide
  · have large : 2 ^ 32 ≤ 2 ^ b := Nat.pow_le_pow_right (by decide) (by omega)
    rw [Nat.testBit_lt_two_pow (by omega), Nat.testBit_lt_two_pow (by omega)]

lemma accepted_numberKey (i) : Accepted (numberKey i) [1] := by
  refine ⟨by decide, by decide, ?_⟩
  rw [CString.strlen, numberKey, length_map]
  decide

/-- A call that adds a key, one that overwrites, and one that erases another. -/
def mixedCalls : List MapCall :=
  [.set (numberKey 5) [1], .set (numberKey 6) [2], .set (numberKey 7) [3], .set (numberKey 5) [4],
    .get (numberKey 6), .erase (numberKey 6)]

theorem lnnMap_refines_mixed :
    ∃ map events, run (mapStep unsignedChar) lnnMapInit mixedCalls = some (map, events) ∧
      [5, 6, 7].map (lnnMapGet unsignedChar map ∘ numberKey) =
        [some (some [4]), some none, some (some [3])] ∧
      (∀ key, lnnMapGet unsignedChar map key = some (valueOf events key)) ∧
      map.nodeSize.toNat = (liveKeys events).ncard ∧
      (∀ key i, map.InBucket i key ↔ key ∈ liveKeys events ∧
        i = (mapHash unsignedChar key).toNat % map.bucketSize.toNat) ∧
      ((map.nodes.getD []).flatten.map MapNode.key).Nodup := by
  obtain ⟨map, events, ran, refined⟩ :=
    lnnMap_refines (fewKeys_of_short (by decide) : FewKeys unsignedChar mixedCalls)
  have result : ∃ r ∈ run (mapStep unsignedChar) lnnMapInit mixedCalls,
      [5, 6, 7].map (lnnMapGet unsignedChar r.1 ∘ numberKey) =
        [some (some [4]), some none, some (some [3])] := by
    decide +kernel
  obtain ⟨_, same, got⟩ := result
  cases ran.symm.trans same
  exact ⟨map, events, ran, got, refined⟩

def numberedSets (n : Nat) : List MapCall := (range n).map fun i => .set (numberKey i) [1]

def numberedEvents (n : Nat) : List MapEvent := (range n).map fun i => .set (numberKey i) [1] .ok

lemma valueOf_numberedEvents {n} : (∀ i < n, valueOf (numberedEvents n) (numberKey i) = some [1]) ∧
      ∀ key, (∀ i < n, key ≠ numberKey i) → valueOf (numberedEvents n) key = none := by
  induction n with
  | zero => exact ⟨fun i below => absurd below (not_lt_zero i), fun _ _ => rfl⟩
  | succ n ih =>
    have last : numberedEvents (n + 1) = numberedEvents n ++ [.set (numberKey n) [1] .ok] := by
      rw [numberedEvents, range_succ, map_append]
      rfl
    rw [last, valueOf_concat]
    refine ⟨fun i below => ?_, fun key others => ?_⟩
    · by_cases same : numberKey i = numberKey n
      · rw [same]
        exact update_self ..
      · have before : i < n := lt_of_le_of_ne (le_of_lt_succ below) fun eq => same (by rw [eq])
        exact (update_of_ne same ..).trans (ih.1 i before)
    · have new := others n (lt_succ_self n)
      exact (update_of_ne new ..).trans
        (ih.2 key fun i below => others i (lt_succ_of_lt below))

lemma run_numberedSets (chars : UInt8 → BitVec 32) (n) (le : n ≤ 2 ^ 32) :
    ∃ map, run (mapStep chars) lnnMapInit (numberedSets n) = some (map, numberedEvents n) ∧
      Refines chars map (valueOf (numberedEvents n)) ∧ map.count = n := by
  induction n with
  | zero => exact ⟨lnnMapInit, rfl, .init, rfl⟩
  | succ n ih =>
    obtain ⟨map, ran, ref, count⟩ := ih (le_of_lt le)
    have fresh : valueOf (numberedEvents n) (numberKey n) = none :=
      valueOf_numberedEvents.2 _ fun i below same =>
        ne_of_gt below (numberKey_inj (by omega) (by omega) same)
    obtain ⟨next, set, ref', count'⟩ := lnnMapSet_fresh ref (by omega) (accepted_numberKey n) fresh
    have calls : numberedSets (n + 1) = numberedSets n ++ [.set (numberKey n) [1]] := by
      rw [numberedSets, range_succ, map_append]
      rfl
    have events : numberedEvents (n + 1) = numberedEvents n ++ [.set (numberKey n) [1] .ok] := by
      rw [numberedEvents, range_succ, map_append]
      rfl
    refine ⟨next, ?_, ?_, by rw [count', count]⟩
    · rw [calls, events]
      refine run_concat_eq_some.mpr ⟨map, _, [.set (numberKey n) [1] .ok], ran, ?_, rfl⟩
      rw [mapStep, set]
      rfl
    · rw [events, valueOf_concat]
      exact ref'

lemma run_wrapped : ∃ map, run (mapStep unsignedChar) lnnMapInit (numberedSets (2 ^ 32)) =
      some (map, numberedEvents (2 ^ 32)) ∧
    valueOf (numberedEvents (2 ^ 32)) (numberKey 0) = some [1] ∧ map.nodeSize = 0 := by
  obtain ⟨map, ran, ref, count⟩ := run_numberedSets unsignedChar (2 ^ 32) (le_refl _)
  refine ⟨map, ran, valueOf_numberedEvents.1 0 (by decide), ?_⟩
  rw [ref.nodeSize_eq, count]
  rfl

/-- With `2 ^ 32` keys the count is zero again, and nothing is found any more. -/
theorem lost_after_wrap :
    ∃ map events, run (mapStep unsignedChar) lnnMapInit (numberedSets (2 ^ 32)) =
        some (map, events) ∧ valueOf events (numberKey 0) = some [1] ∧
      lnnMapGet unsignedChar map (numberKey 0) = some none ∧ map.nodeSize = 0 := by
  obtain ⟨map, ran, first, zero⟩ := run_wrapped
  refine ⟨map, numberedEvents (2 ^ 32), ran, first, ?_, zero⟩
  rw [lnnMapGet, mapFind]
  split
  · rfl
  · rw [if_pos zero]
    rfl

end DSoftBus.Lnn
