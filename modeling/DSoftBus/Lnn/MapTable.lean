import DSoftBus.Lib.HashBuckets
import DSoftBus.Lnn.Map

/-!
The buckets of the string map. They hold a finite map when each key is in the bucket
of its hash, once, with the value stored for it; adding, overwriting, erasing and
moving to more buckets are the corresponding changes of the finite map.
-/
namespace DSoftBus.Lnn
open HashBuckets KeyedList List Function

def hashIdx (bucketSize : BitVec 32) (id : BitVec 32 × CString) : Nat :=
  (id.1 &&& (bucketSize - 1)).toNat

section
variable {chars : UInt8 → BitVec 32} {bucketSize : BitVec 32} {buckets : List (List MapNode)}
  {stored : CString → Option Bytes} {key : CString}

structure Table (charValue : UInt8 → BitVec 32) (bucketSize : BitVec 32)
    (buckets : List (List MapNode)) (stored : CString → Option Bytes) : Prop where
  pow : ∃ j, 3 ≤ j ∧ j ≤ 26 ∧ bucketSize.toNat = 2 ^ j
  length : buckets.length = bucketSize.toNat
  sound : Sound MapNode.id (hashIdx bucketSize) buckets
  hashed : ∀ node ∈ buckets.flatten, node.hash = mapHash charValue node.key
  values : ∀ key, stored key =
    (lookup MapNode.id (mapHash charValue key, key) buckets.flatten).map MapNode.value

lemma hashIdx_lt (id) (positive : 0 < bucketSize.toNat) :
    hashIdx bucketSize id < bucketSize.toNat := by
  have le : (id.1 &&& (bucketSize - 1)).toNat ≤ (bucketSize - 1).toNat := by
    rw [BitVec.toNat_and]
    exact Nat.and_le_right
  have pred : (bucketSize - 1).toNat = bucketSize.toNat - 1 := by bv_omega
  rw [hashIdx]
  omega

lemma hashIdx_eq_mod (id) {j} (pow : bucketSize.toNat = 2 ^ j) :
    hashIdx bucketSize id = id.1.toNat % bucketSize.toNat := by
  have positive : 0 < 2 ^ j := Nat.two_pow_pos j
  have pred : (bucketSize - 1).toNat = 2 ^ j - 1 := by bv_omega
  rw [hashIdx, BitVec.toNat_and, pred, pow, Nat.and_two_pow_sub_one_eq_mod]

namespace Table

section

variable (table : Table chars bucketSize buckets stored)
include table

lemma stored_eq_none : stored key = none ↔
      lookup MapNode.id (mapHash chars key, key) buckets.flatten = none := by
  rw [table.values, Option.map_eq_none_iff]

lemma push (node) (hash : node.hash = mapHash chars node.key) (fresh : stored node.key = none) :
    Table chars bucketSize (buckets.modify (hashIdx bucketSize node.id) (node :: ·))
        (update stored node.key (some node.value)) ∧
      (buckets.modify (hashIdx bucketSize node.id) (node :: ·)).flatten.length =
        buckets.flatten.length + 1 := by
  have absent := table.stored_eq_none.mp fresh
  rw [← hash] at absent
  obtain ⟨sound, perm⟩ := table.sound.push absent
  refine ⟨⟨table.pow, (length_modify ..).trans table.length, sound, ?_, ?_⟩, perm.length_eq⟩
  · intro other mem
    cases mem_cons.mp (perm.mem_iff.mp mem) with
    | inl new => rw [new, hash]
    | inr old => exact table.hashed other old
  · intro key
    rw [lookup_perm sound.distinct perm]
    by_cases same : key = node.key
    · have here : node.id = (mapHash chars node.key, node.key) := Prod.ext hash rfl
      rw [same, update_self, lookup_cons_self here]
      rfl
    · rw [update_of_ne same, table.values key, lookup_cons_of_ne]
      intro ids
      exact same (congrArg Prod.snd ids).symm

lemma overwrite (has : (stored key).isSome) (value) :
    Table chars bucketSize (buckets.modify (hashIdx bucketSize (mapHash chars key, key))
        (KeyedList.update MapNode.id (mapHash chars key, key) fun node =>
          { node with value := value })) (update stored key (some value)) ∧
      (buckets.modify (hashIdx bucketSize (mapHash chars key, key))
        (KeyedList.update MapNode.id (mapHash chars key, key) fun node =>
          { node with value := value })).flatten.length = buckets.flatten.length := by
  have keeps : ∀ node : MapNode, node.id = (mapHash chars key, key) →
      ({ node with value := value } : MapNode).id = (mapHash chars key, key) :=
    fun _ same => same
  obtain ⟨sound, searched, count⟩ := table.sound.update keeps
  refine ⟨⟨table.pow, (length_modify ..).trans table.length, sound, ?_, ?_⟩, count⟩
  · intro node mem
    have found := (lookup_eq_some sound.distinct).mpr ⟨mem, rfl⟩
    rw [searched] at found
    split at found
    next same =>
      obtain ⟨old, atKey, rfl⟩ := Option.map_eq_some_iff.mp found
      exact table.hashed old (mem_of_lookup atKey).1
    · exact table.hashed node (mem_of_lookup found).1
  · intro other
    rw [searched]
    by_cases same : other = key
    · rw [table.values] at has
      obtain ⟨old, atKey⟩ := Option.isSome_iff_exists.mp (Option.isSome_map ▸ has)
      rw [same, if_pos rfl, update_self, atKey]
      rfl
    · rw [update_of_ne same, if_neg (fun ids => same (congrArg Prod.snd ids)), table.values other]

lemma erase (has : (stored key).isSome) :
    Table chars bucketSize (buckets.modify (hashIdx bucketSize (mapHash chars key, key))
        (KeyedList.remove MapNode.id (mapHash chars key, key)))
        (update stored key none) ∧ (buckets.modify (hashIdx bucketSize (mapHash chars key, key))
        (KeyedList.remove MapNode.id (mapHash chars key, key))).flatten.length + 1 =
        buckets.flatten.length := by
  rw [table.values] at has
  obtain ⟨old, atKey⟩ := Option.isSome_iff_exists.mp (Option.isSome_map ▸ has)
  obtain ⟨sound, perm⟩ := table.sound.remove atKey
  have isOld : old.id = (mapHash chars key, key) := (mem_of_lookup atKey).2
  have distinct := (perm.map MapNode.id).nodup_iff.mp table.sound.distinct
  rw [map_cons, nodup_cons] at distinct
  refine ⟨⟨table.pow, (length_modify ..).trans table.length, sound, ?_, ?_⟩, perm.length_eq.symm⟩
  · exact fun node mem => table.hashed node (perm.mem_iff.mpr (mem_cons_of_mem _ mem))
  · intro other
    by_cases same : other = key
    · have gone : lookup MapNode.id (mapHash chars key, key) (buckets.modify
          (hashIdx bucketSize (mapHash chars key, key))
          (KeyedList.remove MapNode.id (mapHash chars key, key))).flatten = none :=
        lookup_eq_none.mpr fun node mem here =>
          distinct.1 (mem_map.mpr ⟨node, mem, here.trans isOld.symm⟩)
      rw [same, update_self, gone]
      rfl
    · rw [update_of_ne same, table.values other, lookup_perm table.sound.distinct perm,
        lookup_cons_of_ne]
      intro ids
      exact same (congrArg Prod.snd (ids.symm.trans isOld))

lemma rehash {size}
    (pow : ∃ j, 3 ≤ j ∧ j ≤ 26 ∧ size.toNat = 2 ^ j) : Table chars size (buckets.flatten.foldl
        (fun all node => all.modify (hashIdx size node.id) (node :: ·))
        (replicate size.toNat [])) stored ∧
      (buckets.flatten.foldl (fun all node => all.modify (hashIdx size node.id) (node :: ·))
        (replicate size.toNat [])).flatten.length = buckets.flatten.length := by
  have inside : ∀ id, hashIdx size id < size.toNat := by
    obtain ⟨j, _, _, eq⟩ := pow
    exact fun id => hashIdx_lt id (eq ▸ Nat.two_pow_pos j)
  have empty : Sound MapNode.id (hashIdx size) (replicate size.toNat []) := sound_replicate inside
  have none : buckets.flatten ++ (replicate size.toNat ([] : List MapNode)).flatten =
      buckets.flatten := by
    rw [flatten_replicate_nil, append_nil]
  obtain ⟨sound, perm⟩ := empty.pushAll buckets.flatten (by rw [none]; exact table.sound.distinct)
  rw [none] at perm
  refine ⟨⟨pow, ?_, sound, ?_, ?_⟩, perm.length_eq⟩
  · rw [length_pushAll, length_replicate]
  · exact fun node mem => table.hashed node (perm.mem_iff.mp mem)
  · intro key
    rw [lookup_perm sound.distinct perm]
    exact table.values key

end

lemma isSome_iff (holds : Table chars bucketSize buckets stored) :
    (stored key).isSome ↔ ∃ node ∈ buckets.flatten, node.key = key := by
  rw [holds.values, Option.isSome_map, Option.isSome_iff_exists]
  constructor
  · intro found
    obtain ⟨node, atKey⟩ := found
    obtain ⟨mem, id⟩ := mem_of_lookup atKey
    exact ⟨node, mem, congrArg Prod.snd id⟩
  · intro has
    obtain ⟨node, mem, rfl⟩ := has
    exact ⟨node, (lookup_eq_some holds.sound.distinct).mpr
      ⟨mem, Prod.ext (holds.hashed node mem) rfl⟩⟩

lemma nodup_keys (holds : Table chars bucketSize buckets stored) :
    (buckets.flatten.map MapNode.key).Nodup := by
  have ids : buckets.flatten.map MapNode.id =
      (buckets.flatten.map MapNode.key).map fun key => (mapHash chars key, key) := by
    rw [map_map]
    exact map_congr_left fun node mem => Prod.ext (holds.hashed node mem) rfl
  have distinct := holds.sound.distinct
  rw [ids] at distinct
  exact distinct.of_map _

end Table

lemma table_empty {size} (pow : ∃ j, 3 ≤ j ∧ j ≤ 26 ∧ size.toNat = 2 ^ j) :
    Table chars size (replicate size.toNat []) fun _ => none := by
  obtain ⟨j, large, small, eq⟩ := pow
  have none : (replicate size.toNat ([] : List MapNode)).flatten = [] := flatten_replicate_nil
  refine ⟨⟨j, large, small, eq⟩, length_replicate,
    sound_replicate fun id => hashIdx_lt id (eq ▸ Nat.two_pow_pos j), ?_, ?_⟩
  · rw [none]
    simp
  · intro key
    rw [none]
    rfl

lemma mapAddNode_eq_some {all n node} (inside : hashIdx bucketSize node.id < all.length) :
    mapAddNode ⟨some all, n, bucketSize⟩ node = some
      ⟨some (all.modify (hashIdx bucketSize node.id) (node :: ·)), n, bucketSize⟩ :=
  if_pos inside

lemma foldlM_mapAddNode (nodes : List MapNode) (all : List (List MapNode)) (n : BitVec 32)
    (inside : ∀ id, hashIdx bucketSize id < all.length) :
    nodes.foldlM mapAddNode ⟨some all, n, bucketSize⟩ = some ⟨some (nodes.foldl
      (fun all node => all.modify (hashIdx bucketSize node.id) (node :: ·)) all),
      n, bucketSize⟩ := by
  induction nodes generalizing all with
  | nil => rfl
  | cons node rest ih =>
    rw [foldlM_cons, mapAddNode_eq_some (inside node.id), foldl_cons]
    exact ih _ (fun id => by rw [length_modify]; exact inside id)

end

end DSoftBus.Lnn
