import DSoftBus.Lnn.MapRefinement

/-!
The iterator of the string map. What it has still to visit is the rest of its chain and
the buckets it has not come to; every step takes the first node of that.
-/
namespace DSoftBus.Lnn
open Execution KeyedList List

/-- `node` is the chain from the current node on. -/
structure MapIterator where
  node : List MapNode
  bucketNum : BitVec 32
  nodeNum : BitVec 32

def lnnMapInitIterator : MapIterator := ⟨[], 0, 0⟩

section
variable (map : Map)

def lnnMapHasNext (it : MapIterator) : Bool := it.nodeNum < map.nodeSize

/-- The loop of `LnnMapNext` over the buckets; one that does not exist cannot be read. -/
def nextBucket : Nat → MapIterator → Option MapIterator
  | 0, _ => none
  | fuel + 1, it =>
    if it.bucketNum < map.bucketSize then
      match (map.nodes.getD [])[it.bucketNum.toNat]? with
      | none => none
      | some [] => nextBucket fuel { it with bucketNum := it.bucketNum + 1 }
      | some (node :: rest) => some ⟨node :: rest, it.bucketNum + 1, it.nodeNum + 1⟩
    else some it

def lnnMapNext (it : MapIterator) : Option MapIterator :=
  if lnnMapHasNext map it then
    match it.node with
    | _ :: node :: rest => some { it with node := node :: rest, nodeNum := it.nodeNum + 1 }
    | _ => nextBucket map (map.bucketSize.toNat + 1) it
  else some it

/-- The nodes that `while (LnnMapHasNext(it)) LnnMapNext(it)` comes to. -/
def iterate : Nat → MapIterator → Option (List MapNode)
  | 0, _ => none
  | fuel + 1, it =>
    if lnnMapHasNext map it then
      match lnnMapNext map it with
      | some ⟨node :: rest, bucketNum, nodeNum⟩ =>
        (iterate fuel ⟨node :: rest, bucketNum, nodeNum⟩).map (node :: ·)
      | _ => none
    else some []

def MapIterator.left (it : MapIterator) : List MapNode :=
  it.node.tail ++ ((map.nodes.getD []).drop it.bucketNum.toNat).flatten

end

section
variable {map : Map} (whole : (map.nodes.getD []).length = map.bucketSize.toNat)
include whole

lemma nextBucket_eq (fuel) (it : MapIterator)
    (enough : map.bucketSize.toNat < fuel + it.bucketNum.toNat) {node left}
    (remaining : ((map.nodes.getD []).drop it.bucketNum.toNat).flatten = node :: left) :
    ∃ rest bucketNum, nextBucket map fuel it = some ⟨node :: rest, bucketNum, it.nodeNum + 1⟩ ∧
      left = rest ++ ((map.nodes.getD []).drop bucketNum.toNat).flatten := by
  induction fuel generalizing it with
  | zero =>
    rw [drop_eq_nil_of_le (by omega)] at remaining
    cases remaining
  | succ fuel ih =>
    have inside : it.bucketNum.toNat < (map.nodes.getD []).length := by
      by_contra outside
      rw [drop_eq_nil_of_le (not_lt.mp outside)] at remaining
      cases remaining
    have next : (it.bucketNum + 1).toNat = it.bucketNum.toNat + 1 := by bv_omega
    rw [drop_eq_getElem_cons inside, flatten_cons] at remaining
    rw [nextBucket, if_pos (by bv_omega), getElem?_eq_getElem inside]
    cases chain : (map.nodes.getD [])[it.bucketNum.toNat] with
    | nil =>
      rw [chain, nil_append, ← next] at remaining
      exact ih { it with bucketNum := it.bucketNum + 1 } (by simp only [next]; omega) remaining
    | cons first rest =>
      rw [chain, cons_append, cons_eq_cons, ← next] at remaining
      exact ⟨rest, _, by rw [remaining.1], remaining.2.symm⟩

lemma lnnMapNext_eq {it} (more : lnnMapHasNext map it) {node left}
    (remaining : it.left map = node :: left) :
    ∃ rest bucketNum, lnnMapNext map it = some ⟨node :: rest, bucketNum, it.nodeNum + 1⟩ ∧
      MapIterator.left map ⟨node :: rest, bucketNum, it.nodeNum + 1⟩ = left := by
  rw [MapIterator.left] at remaining
  rw [lnnMapNext, if_pos more]
  split
  next chain =>
    rw [chain, tail_cons, cons_append, cons_eq_cons] at remaining
    exact ⟨_, it.bucketNum, by rw [remaining.1], remaining.2⟩
  next last =>
    have ended : it.node.tail = [] := by
      match atNode : it.node with
      | [] => rfl
      | [_] => rfl
      | first :: second :: rest => exact absurd atNode (last first second rest)
    rw [ended, nil_append] at remaining
    obtain ⟨rest, bucketNum, found, split⟩ :=
      nextBucket_eq whole (map.bucketSize.toNat + 1) it (by omega) remaining
    exact ⟨rest, bucketNum, found, split.symm⟩

/-- The counter reaches `nodeSize` exactly when nothing is left. -/
lemma iterate_eq (left) (fuel) (it : MapIterator) (enough : left.length < fuel)
    (counted : it.nodeNum.toNat + left.length = map.nodeSize.toNat)
    (remaining : it.left map = left) : iterate map fuel it = some left := by
  induction left generalizing fuel it with
  | nil =>
    obtain ⟨fuel, rfl⟩ := Nat.exists_eq_add_of_lt enough
    have ended : ¬ lnnMapHasNext map it := by
      simp only [lnnMapHasNext, decide_eq_true_eq, length_nil] at counted ⊢
      bv_omega
    rw [iterate, if_neg ended]
  | cons node left ih =>
    obtain ⟨fuel, rfl⟩ := Nat.exists_eq_add_of_lt (Nat.zero_lt_of_lt enough)
    simp only [length_cons] at enough counted
    have more : lnnMapHasNext map it := by
      simp only [lnnMapHasNext, decide_eq_true_eq]
      bv_omega
    obtain ⟨rest, bucketNum, next, remains⟩ := lnnMapNext_eq whole more remaining
    have later := ih (0 + fuel) _ (by omega) (by simp only; bv_omega) remains
    rw [iterate, if_pos more, next]
    simp only [later, Option.map_some]

end

variable {charValue : UInt8 → BitVec 32} {map : Map} {stored : CString → Option Bytes}

lemma Refines.length_nodes (ref : Refines charValue map stored) :
    (map.nodes.getD []).length = map.bucketSize.toNat := by
  cases ref with
  | init => rfl
  | table holds => exact holds.length

lemma Refines.stored_eq_some (ref : Refines charValue map stored) {key value} :
    stored key = some value ↔
      ∃ node ∈ (map.nodes.getD []).flatten, node.key = key ∧ node.value = value := by
  cases ref with
  | init => simp [lnnMapInit]
  | table holds =>
    rw [holds.values, Option.map_eq_some_iff]
    simp only [lookup_eq_some holds.sound.distinct, Option.getD_some]
    constructor
    · rintro ⟨node, ⟨mem, id⟩, rfl⟩
      exact ⟨node, mem, congrArg Prod.snd id, rfl⟩
    · rintro ⟨node, mem, rfl, rfl⟩
      exact ⟨node, ⟨mem, Prod.ext (holds.hashed node mem) rfl⟩, rfl⟩

lemma FewKeys.iterates {calls} (few : FewKeys charValue calls) :
    ∃ map events, run (mapStep charValue) lnnMapInit calls = some (map, events) ∧
      Refines charValue map (valueOf events) ∧
      iterate map (map.nodeSize.toNat + 1) lnnMapInitIterator =
        some (map.nodes.getD []).flatten := by
  obtain ⟨map, events, ran, ref, _, count⟩ := few.refines
  refine ⟨map, events, ran, ref, iterate_eq ref.length_nodes _ _ _ ?_ ?_ rfl⟩
  · exact count ▸ lt_add_one _
  · rw [count]
    exact zero_add _

/-- After every run whose live keys fit `nodeSize` the iteration ends, reads no bucket that
does not exist, and visits every live entry once. -/
theorem iterate_visits {calls : List MapCall} (few : FewKeys charValue calls) :
    ∃ map events visited, run (mapStep charValue) lnnMapInit calls = some (map, events) ∧
      iterate map (map.nodeSize.toNat + 1) lnnMapInitIterator = some visited ∧
      (visited.map MapNode.key).Nodup ∧
      ∀ key value, valueOf events key = some value ↔
        ∃ node ∈ visited, node.key = key ∧ node.value = value := by
  obtain ⟨map, events, ran, ref, visits⟩ := few.iterates
  exact ⟨map, events, _, ran, visits, ref.nodup_keys, fun key value => ref.stored_eq_some⟩

theorem iterate_visits_mixed :
    ∃ map events visited, run (mapStep unsignedChar) lnnMapInit mixedCalls = some (map, events) ∧
      iterate map (map.nodeSize.toNat + 1) lnnMapInitIterator = some visited ∧
      visited.length = 2 ∧ (visited.map MapNode.key).Nodup ∧
      ∀ key value, valueOf events key = some value ↔
        ∃ node ∈ visited, node.key = key ∧ node.value = value := by
  obtain ⟨map, events, visited, ran, visits, each⟩ :=
    iterate_visits (fewKeys_of_short (by decide) : FewKeys unsignedChar mixedCalls)
  have result : ∃ r ∈ run (mapStep unsignedChar) lnnMapInit mixedCalls,
      ∃ nodes ∈ iterate r.1 (r.1.nodeSize.toNat + 1) lnnMapInitIterator, nodes.length = 2 := by
    decide +kernel
  obtain ⟨_, same, _, iterated, two⟩ := result
  cases ran.symm.trans same
  cases visits.symm.trans iterated
  exact ⟨map, events, visited, ran, visits, two, each⟩

/-- With `2 ^ 32` keys the iteration ends at once. -/
theorem iterate_after_wrap :
    ∃ map events, run (mapStep unsignedChar) lnnMapInit (numberedSets (2 ^ 32)) =
        some (map, events) ∧ valueOf events (numberKey 0) = some [1] ∧
      ∀ fuel, iterate map (fuel + 1) lnnMapInitIterator = some [] := by
  obtain ⟨map, ran, first, zero⟩ := run_wrapped
  refine ⟨map, _, ran, first, fun fuel => ?_⟩
  rw [iterate, if_neg (by simp [lnnMapHasNext, zero])]

end DSoftBus.Lnn
