import DSoftBus.Lib.KeyedList
import Mathlib.Data.List.Perm.Basic

/-!
Chained hash tables. A record is in the chain that its key is hashed to, and no
two records have one key; so a search of one chain finds what a search of all
records would, and every change of one chain is a change of the records. Nothing is
assumed of the hash.
-/
namespace HashBuckets
open List hiding lookup_append
open KeyedList
variable {κ ν : Type*} {key : ν → κ} {index : κ → Nat} {bs : List (List ν)}

structure Sound (key : ν → κ) (index : κ → Nat) (buckets : List (List ν)) : Prop where
  inside : ∀ k, index k < buckets.length
  placed : ∀ i chain, buckets[i]? = some chain → ∀ a ∈ chain, index (key a) = i
  distinct : (buckets.flatten.map key).Nodup

lemma flatten_modify {i} (inside : i < bs.length) :
    ∃ chain others, bs[i]? = some chain ∧ bs.flatten.Perm (chain ++ others) ∧
      ∀ f, (bs.modify i f).flatten.Perm (f chain ++ others) := by
  induction bs generalizing i with
  | nil => exact absurd inside (Nat.not_lt_zero _)
  | cons first rest ih =>
    cases i with
    | zero => exact ⟨first, rest.flatten, rfl, List.Perm.refl _, fun f => List.Perm.refl _⟩
    | succ i =>
      obtain ⟨chain, others, found, whole, changed⟩ := ih (Nat.lt_of_succ_lt_succ inside)
      refine ⟨chain, first ++ others, found, ?_, fun f => ?_⟩
      · exact (whole.append_left first).trans (perm_append_comm_assoc ..)
      · exact ((changed f).append_left first).trans (perm_append_comm_assoc ..)

lemma Sound.other_index (sound : Sound key index bs) {i chain others}
    (found : bs[i]? = some chain) (whole : bs.flatten.Perm (chain ++ others)) {a}
    (mem : a ∈ others) : index (key a) ≠ i := by
  intro here
  obtain ⟨chain', inBuckets, inChain⟩ :=
    mem_flatten.mp (whole.mem_iff.mpr (mem_append_right chain mem))
  obtain ⟨j, atJ⟩ := mem_iff_getElem?.mp inBuckets
  have same : j = i := (sound.placed j chain' atJ a inChain).symm.trans here
  rw [same, found] at atJ
  cases atJ
  have distinct := (whole.map key).nodup_iff.mp sound.distinct
  rw [map_append] at distinct
  exact (nodup_append.mp distinct).2.2 _ (mem_map_of_mem inChain) _
    (mem_map_of_mem mem) rfl

lemma Sound.placed_modify (sound : Sound key index bs) {i f}
    (keeps : ∀ chain, bs[i]? = some chain → ∀ a ∈ f chain, index (key a) = i) :
    ∀ j chain, (bs.modify i f)[j]? = some chain → ∀ a ∈ chain, index (key a) = j := by
  intro j chain found a mem
  by_cases same : i = j
  · subst same
    rw [getElem?_modify_eq] at found
    obtain ⟨old, atI, rfl⟩ := Option.map_eq_some_iff.mp found
    exact keeps old atI a mem
  · rw [getElem?_modify_ne _ _ same] at found
    exact sound.placed j chain found a mem

lemma sound_replicate {n} (inside : ∀ k, index k < n) : Sound key index (replicate n []) := by
  refine ⟨fun k => ?_, fun i chain found a mem => ?_, ?_⟩
  · rw [length_replicate]
    exact inside k
  · have empty := eq_of_mem_replicate (mem_of_getElem? found)
    simp [empty] at mem
  · rw [flatten_replicate_nil]
    exact nodup_nil

lemma length_pushAll (key : ν → κ) (index : κ → Nat) (records : List ν) (bs : List (List ν)) :
    (records.foldl (fun all a => all.modify (index (key a)) (a :: ·)) bs).length =
      bs.length := by
  induction records generalizing bs with
  | nil => rfl
  | cons a rest ih => rw [foldl_cons, ih, length_modify]

variable [DecidableEq κ] {k : κ} {a : ν}

section

variable (sound : Sound key index bs)
include sound

lemma Sound.lookup_chain {chain} (found : bs[index k]? = some chain) :
    lookup key k chain = lookup key k bs.flatten := by
  obtain ⟨chain', others, found', whole, _⟩ := flatten_modify (sound.inside k)
  rw [found] at found'
  cases found'
  have none : lookup key k others = none :=
    lookup_eq_none.mpr fun a mem same => sound.other_index found whole mem (by rw [same])
  rw [lookup_perm sound.distinct whole, lookup_append, none, Option.or_none]

lemma Sound.push (fresh : lookup key (key a) bs.flatten = none) :
    Sound key index (bs.modify (index (key a)) (a :: ·)) ∧
      (bs.modify (index (key a)) (a :: ·)).flatten.Perm (a :: bs.flatten) := by
  obtain ⟨chain, others, found, whole, changed⟩ := flatten_modify (sound.inside (key a))
  have perm := (changed (a :: ·)).trans (whole.symm.cons a)
  refine ⟨⟨?_, ?_, ?_⟩, perm⟩
  · intro k
    rw [length_modify]
    exact sound.inside k
  · refine sound.placed_modify fun chain' found' b mem => ?_
    cases mem_cons.mp mem with
    | inl new => rw [new]
    | inr old => exact sound.placed _ chain' found' b old
  · refine (perm.map key).nodup_iff.mpr ?_
    rw [map_cons, nodup_cons]
    refine ⟨fun mem => ?_, sound.distinct⟩
    obtain ⟨b, inside, same⟩ := mem_map.mp mem
    exact lookup_eq_none.mp fresh b inside same

lemma Sound.update {f} (keeps : ∀ a, key a = k → key (f a) = k) :
    Sound key index (bs.modify (index k) (update key k f)) ∧
      (∀ j, lookup key j (bs.modify (index k) (update key k f)).flatten =
        if j = k then (lookup key k bs.flatten).map f else lookup key j bs.flatten) ∧
      (bs.modify (index k) (update key k f)).flatten.length = bs.flatten.length := by
  obtain ⟨chain, others, found, whole, changed⟩ := flatten_modify (sound.inside k)
  have perm := changed (KeyedList.update key k f)
  have keys : ((KeyedList.update key k f chain ++ others).map key) = (chain ++ others).map key := by
    rw [map_append, map_append, map_key_update keeps]
  have distinct : ((KeyedList.update key k f chain ++ others).map key).Nodup := by
    rw [keys]
    exact (whole.map key).nodup_iff.mp sound.distinct
  have distinct' := (perm.map key).nodup_iff.mpr distinct
  refine ⟨⟨?_, ?_, distinct'⟩, ?_, ?_⟩
  · intro j
    rw [length_modify]
    exact sound.inside j
  · refine sound.placed_modify fun chain' found' b mem => ?_
    cases mem_update mem with
    | inl old => exact sound.placed _ chain' found' b old
    | inr new =>
      obtain ⟨old, atK, rfl⟩ := new
      rw [keeps old (mem_of_lookup atK).2]
  · intro j
    rw [lookup_perm distinct' perm, lookup_append]
    split
    next same =>
      subst same
      have none : lookup key j others = none :=
        lookup_eq_none.mpr fun a mem same => sound.other_index found whole mem (by rw [same])
      rw [lookup_update_self keeps, none, Option.or_none, sound.lookup_chain found]
    next other =>
      rw [lookup_update_of_ne keeps other, lookup_perm sound.distinct whole, lookup_append]
  · have lengths := congrArg length keys
    rw [length_map, length_map] at lengths
    rw [perm.length_eq, lengths, whole.length_eq]

lemma Sound.remove (found : lookup key k bs.flatten = some a) :
    Sound key index (bs.modify (index k) (remove key k)) ∧
      bs.flatten.Perm (a :: (bs.modify (index k) (remove key k)).flatten) := by
  obtain ⟨chain, others, atK, whole, changed⟩ := flatten_modify (sound.inside k)
  have inChain : lookup key k chain = some a := (sound.lookup_chain atK).trans found
  have perm : bs.flatten.Perm
      (a :: (bs.modify (index k) (KeyedList.remove key k)).flatten) :=
    whole.trans (((perm_cons_remove inChain).append_right others).trans
      ((changed (KeyedList.remove key k)).symm.cons a))
  refine ⟨⟨?_, ?_, ?_⟩, perm⟩
  · intro j
    rw [length_modify]
    exact sound.inside j
  · exact sound.placed_modify fun chain' found' b mem =>
      sound.placed _ chain' found' b (mem_of_mem_remove mem)
  · have distinct := (perm.map key).nodup_iff.mp sound.distinct
    exact (nodup_cons.mp distinct).2

end

lemma Sound.pushAll (records) (sound : Sound key index bs)
    (distinct : ((records ++ bs.flatten).map key).Nodup) :
    Sound key index (records.foldl (fun all a => all.modify (index (key a)) (a :: ·)) bs) ∧
      (records.foldl (fun all a => all.modify (index (key a)) (a :: ·)) bs).flatten.Perm
        (records ++ bs.flatten) := by
  induction records generalizing bs with
  | nil => exact ⟨sound, List.Perm.refl _⟩
  | cons a rest ih =>
    rw [cons_append, map_cons, nodup_cons] at distinct
    have fresh : lookup key (key a) bs.flatten = none :=
      lookup_eq_none.mpr fun b mem same =>
        distinct.1 (mem_map.mpr ⟨b, mem_append_right rest mem, same⟩)
    obtain ⟨pushed, perm⟩ := sound.push fresh
    have moved : (rest ++ (bs.modify (index (key a)) (a :: ·)).flatten).Perm
        (a :: (rest ++ bs.flatten)) := (perm.append_left rest).trans perm_middle
    have distinct' := (moved.map key).nodup_iff.mpr
      (by rw [map_cons, nodup_cons]; exact distinct)
    obtain ⟨all, whole⟩ := ih pushed distinct'
    exact ⟨all, whole.trans moved⟩

end HashBuckets
