import DSoftBus.Trans.ProxyRefinement

/-!
The numbers of proxy channels. TransProxyGetNewMyId tries 100 values of a counter and returns
INVALID_CHANNEL_ID when all of them are in use, which neither caller notices. While fewer than
100 channels are live and the counter, a 16 bit number with a sign, stays clear of the negative
values, a number is found and all live channels differ.
-/
namespace DSoftBus.Proxy
open List hiding map_map modify_id
open Execution RecordHeap BitVec

/-- One of the MYID_MAX_NUM numbers that are given out, as they stand in messages. -/
def ProperId (id : BitVec 16) : Prop := ∃ k, 0 < k ∧ k ≤ myIdMaxNum ∧ id = BitVec.ofNat 16 (256 * k)

section
variable {ids : List (BitVec 16)} {myId : BitVec 16}

lemma endianSwap16_small : ∀ k : Fin 101,
    endianSwap16 (BitVec.ofNat 16 k) = BitVec.ofNat 16 (256 * k) := by
  decide

lemma idOfCounter_small (small : myId.toNat < 2 ^ 15) :
    idOfCounter myId = BitVec.ofNat 16 (256 * (myId.toNat % 100 + 1)) := by
  have positive : myId.msb = false := by
    rw [msb_eq_false_iff_two_mul_lt]
    omega
  have rem : myId.srem 100 + 1 = BitVec.ofNat 16 (myId.toNat % 100 + 1) := by
    have hundred : (100 : BitVec 16).msb = false := by decide
    apply eq_of_toNat_eq
    simp only [srem, positive, hundred]
    simp
  have below : myId.toNat % 100 + 1 < 101 := by omega
  rw [idOfCounter, rem, endianSwap16_small ⟨_, below⟩]

def triedIds (myId : BitVec 16) (cnt : Nat) : List (BitVec 16) :=
  (range cnt).map fun k => idOfCounter (myId + 1 + BitVec.ofNat 16 k)

lemma findNewMyId_eq (cnt) :
    (findNewMyId ids cnt myId).2 = (triedIds myId cnt).find? (myIdIsValid ids) := by
  induction cnt generalizing myId with
  | zero => rfl
  | succ cnt ih =>
    have tail : triedIds myId (cnt + 1) = idOfCounter (myId + 1) :: triedIds (myId + 1) cnt := by
      rw [triedIds, List.range_succ_eq_map, List.map_cons, List.map_map, triedIds,
        ofNat_eq_ofNat, BitVec.add_zero]
      refine congrArg (_ :: ·) (map_congr_left fun k _ => congrArg idOfCounter ?_)
      rw [BitVec.add_assoc (myId + 1#16)]
      refine congrArg (myId + 1#16 + ·) (eq_of_toNat_eq ?_)
      simp [add_comm]
    rw [findNewMyId, tail]
    split
    next valid => rw [find?_cons_of_pos valid]
    next used => rw [find?_cons_of_neg used, ih]

lemma triedIds_append (myId front back) :
    ∃ rest, triedIds myId (front + back) = triedIds myId front ++ rest := by
  rw [triedIds, range_add, map_append]
  exact ⟨_, rfl⟩

variable {cnt : Nat} (small : (myId + 1).toNat + cnt ≤ 2 ^ 15)
include small

lemma triedId_small {k} (tried : k < cnt) : idOfCounter (myId + 1 + BitVec.ofNat 16 k) =
      BitVec.ofNat 16 (256 * (((myId + 1).toNat + k) % 100 + 1)) := by
  have sum : (myId + 1 + BitVec.ofNat 16 k).toNat = (myId + 1).toNat + k := by
    rw [toNat_add (myId + 1), toNat_ofNat]
    omega
  rw [idOfCounter_small (by rw [sum]; omega), sum]

lemma nodup_triedIds (few : cnt ≤ myIdMaxNum) : (triedIds myId cnt).Nodup := by
  refine List.Nodup.map_on (fun j hj k hk same => ?_) nodup_range
  rw [mem_range] at hj hk
  rw [triedId_small small hj, triedId_small small hk] at same
  have equal := congrArg BitVec.toNat same
  simp only [toNat_ofNat] at equal
  simp only [myIdMaxNum] at few
  omega

lemma properId_of_tried {id} (tried : id ∈ triedIds myId cnt) : ProperId id := by
  obtain ⟨k, below, rfl⟩ := mem_map.mp tried
  rw [mem_range] at below
  refine ⟨_, Nat.succ_pos _, ?_, triedId_small small below⟩
  simp only [myIdMaxNum]
  omega

omit small

lemma findNewMyId_found (small : (myId + 1).toNat + ids.length < 2 ^ 15)
    (room : ids.length < myIdMaxNum) :
    ∃ id, (findNewMyId ids myIdMaxNum myId).2 = some id ∧ id ∉ ids ∧ ProperId id := by
  obtain ⟨more, enough⟩ := Nat.exists_eq_add_of_le (Nat.succ_le_of_lt room)
  obtain ⟨rest, split⟩ := triedIds_append myId (ids.length + 1) more
  rw [findNewMyId_eq, enough, split, find?_append]
  cases found : (triedIds myId (ids.length + 1)).find? (myIdIsValid ids) with
  | none =>
    have used : triedIds myId (ids.length + 1) ⊆ ids := by
      intro id mem
      have invalid := find?_eq_none.mp found id mem
      simpa [myIdIsValid] using invalid
    have many := (nodup_triedIds small room).length_le_of_subset used
    rw [triedIds, length_map, length_range] at many
    exact absurd many (Nat.not_succ_le_self _)
  | some id =>
    have valid := find?_some found
    exact ⟨id, rfl, by simpa [myIdIsValid] using valid,
      properId_of_tried small (mem_of_find?_eq_some found)⟩

end

/-- Channels are only added while a number is left and the counter is not about to run over. -/
def roomForIds : Permits :=
  { Permits.everything with
    adds := fun l => l.channels.cells.length < myIdMaxNum &&
      (l.counter + 1).toNat + l.channels.cells.length < 2 ^ 15 }

def Ledger.numbers (l : Ledger) : RecordHeap (BitVec 16) := l.channels.map Role.myId

structure Numbered (l : Ledger) (past : Told) : Prop where
  distinct : l.ids.Nodup
  proper : ∀ id ∈ l.ids, ProperId id
  few : l.numbers.cells.length ≤ myIdMaxNum
  cnt : l.cnt = BitVec.ofNat 32 l.numbers.cells.length
  added : ∀ cell ∈ l.numbers.cells, (cell.1, some cell.2) ∈ past.additions
  found : ∀ item ∈ past.additions, item.2 ≠ none

namespace Numbered
variable {l l' : Ledger} {past told : Told} {newId : Option (BitVec 16)} {role : Role}

lemma ids_eq : l.ids = l.numbers.cells.map Prod.snd := by
  rw [Ledger.numbers, RecordHeap.map, List.map_map]
  rfl

lemma shrinks (inv : Numbered l past) (fewer : l'.numbers.cells.Sublist l.numbers.cells)
    (cnt : l'.cnt = BitVec.ofNat 32 l'.numbers.cells.length)
    (found : ∀ item ∈ told.additions, item.2 ≠ none) : Numbered l' (past ++ told) := by
  have ids : l'.ids.Sublist l.ids := by
    rw [ids_eq, ids_eq]
    exact fewer.map Prod.snd
  have additions := Told.additions_append past told
  exact
    { distinct := ids.nodup inv.distinct
      proper := fun id mem => inv.proper id (ids.subset mem)
      few := le_trans fewer.length_le inv.few
      cnt := cnt
      added := fun cell mem =>
        additions ▸ mem_append_left _ (inv.added cell (fewer.subset mem))
      found := additions ▸ forall_mem_append.mpr ⟨inv.found, found⟩ }

lemma same (inv : Numbered l past) (numbers : l'.numbers.cells = l.numbers.cells)
    (cnt : l'.cnt = l.cnt) (silent : told.additions = []) : Numbered l' (past ++ told) :=
  inv.shrinks (numbers ▸ List.Sublist.refl _) (by rw [cnt, numbers, inv.cnt]) (by simp [silent])

lemma dropped {h} (inv : Numbered l past) (here : l.channels.get? h = some role)
    (channels : l'.channels = l.channels.free h) (cnt : l'.cnt = l.cnt - 1)
    (silent : told.additions = []) : Numbered l' (past ++ told) := by
  have numbers : l'.numbers = l.numbers.free h := by
    rw [Ledger.numbers, channels, map_free]
    rfl
  have here' : l.numbers.get? h = some role.myId := by
    rw [Ledger.numbers, get?_map, here]
    rfl
  refine inv.shrinks ?_ ?_ (by simp [silent])
  · rw [numbers]
    exact eraseP_sublist
  · rw [cnt, inv.cnt, numbers, length_free here']
    apply eq_of_toNat_eq
    simp
    omega

lemma droppedAll {p} (inv : Numbered l past) (channels : l'.channels = l.channels.freeAll p)
    (cnt : l'.cnt = l.cnt - BitVec.ofNat 32 (l.channels.all p).length)
    (silent : told.additions = []) : Numbered l' (past ++ told) := by
  have length (l : Ledger) : l.numbers.cells.length = l.channels.cells.length := length_map ..
  refine inv.shrinks ?_ ?_ (by simp [silent])
  · rw [Ledger.numbers, channels]
    exact filter_sublist.map _
  · rw [cnt, inv.cnt, length, length, length_freeAll (p := p), channels]
    apply eq_of_toNat_eq
    simp
    omega

lemma finds (new : NewRole roomForIds l newId role) : l.ids.length < myIdMaxNum ∧
      ∃ id, newId = some id ∧ role.myId = id ∧ id ∉ l.ids ∧ ProperId id := by
  have room := new.allowed
  simp only [roomForIds, Bool.and_eq_true, decide_eq_true_eq] at room
  have length : l.ids.length = l.channels.cells.length := length_map ..
  rw [← length] at room
  obtain ⟨id, found, fresh, proper⟩ := findNewMyId_found room.2 room.1
  have newId : newId = some id := new.found.trans found
  refine ⟨room.1, id, newId, ?_, fresh, proper⟩
  rw [new.myId, newId]
  rfl

lemma adds (inv : Numbered l past) (new : NewRole roomForIds l newId role)
    (channels : l'.channels = l.channels.alloc role) (cnt : l'.cnt = l.cnt + 1)
    (told_eq : told.additions = [(l.channels.next, newId)]) : Numbered l' (past ++ told) := by
  obtain ⟨room, id, rfl, rfl, fresh, proper⟩ := finds new
  have numbers : l'.numbers.cells = (l.channels.next, role.myId) :: l.numbers.cells := by
    rw [Ledger.numbers, channels]
    rfl
  have ids : l'.ids = role.myId :: l.ids := by
    rw [ids_eq, numbers, ids_eq]
    rfl
  have additions : (past ++ told).additions =
      past.additions ++ [(l.channels.next, some role.myId)] := by
    rw [Told.additions_append, told_eq]
  exact
    { distinct := ids ▸ nodup_cons.mpr ⟨fresh, inv.distinct⟩
      proper := ids ▸ forall_mem_cons.mpr ⟨proper, inv.proper⟩
      few := by
        rw [ids_eq, length_map] at room
        rw [numbers]
        exact room
      cnt := by
        rw [cnt, inv.cnt, numbers, length_cons, ofNat_add]
        rfl
      added := by
        rw [numbers, additions]
        refine forall_mem_cons.mpr ⟨mem_concat_self, ?_⟩
        exact fun cell mem => mem_append_left _ (inv.added cell mem)
      found := by
        rw [additions]
        refine forall_mem_append.mpr ⟨inv.found, ?_⟩
        simp }

lemma passes (inv : Numbered l past) (new : NewRole roomForIds l newId role)
    (numbers : l'.numbers.cells = l.numbers.cells) (cnt : l'.cnt = l.cnt)
    (told_eq : told.additions = [(l.channels.next, newId)]) : Numbered l' (past ++ told) := by
  obtain ⟨_, id, rfl, _⟩ := finds new
  refine inv.shrinks (numbers ▸ List.Sublist.refl _) ?_ (by simp [told_eq])
  rw [cnt, numbers, inv.cnt]

lemma numbers_connectAll (reqId connId) : (l.connectAll reqId connId).numbers = l.numbers := by
  rw [Ledger.numbers, Ledger.connectAll, map_map, Ledger.numbers]
  refine congrArg l.channels.map (funext fun role => ?_)
  rw [Function.comp_apply, Role.connect]
  split <;> rfl

lemma move (inv : Numbered l past) (move : Move roomForIds l told l') :
    Numbered l' (past ++ told) := by
  cases move with
  | quiet | refused | orphan | releasedLater | noticed => exact inv.same rfl rfl rfl
  | @acked h role here =>
    have kept : ∀ role, l.channels.get? h = some role → role.open_.myId = id role.myId :=
      fun _ _ => rfl
    have numbers : (l.channels.modify h Role.open_).map Role.myId = l.channels.map Role.myId := by
      rw [map_modify kept, modify_id]
    exact inv.same (congrArg RecordHeap.cells numbers) rfl rfl
  | waits _ new | attached _ new | requested _ new | stranded _ new | admitted _ new =>
    exact inv.adds new rfl rfl rfl
  | woken | connected => exact inv.same (congrArg RecordHeap.cells (numbers_connectAll ..)) rfl rfl
  | turnedAway _ new | connectRefused _ new => exact inv.passes new rfl rfl rfl
  | lost | failed => exact inv.droppedAll rfl rfl rfl
  | closed here | timedOut here | released here => exact inv.dropped here rfl rfl rfl

lemma init : Numbered ProxyManager.init.ledger {} where
  distinct := nodup_nil
  proper := nofun
  few := Nat.zero_le _
  cnt := rfl
  added := nofun
  found := nofun

end Numbered

structure ChannelIds (s : ProxyManager) (out : List ProxyEvent) : Prop where
  distinct : s.ids.Nodup
  proper : ∀ id ∈ s.ids, ProperId id
  added : ∀ h chan, s.channels.get? h = some chan → (h, some chan.myId) ∈ (toldBy out).additions
  found : ∀ item ∈ (toldBy out).additions, item.2 ≠ none
  cnt : s.cnt.toNat = s.channels.cells.length

lemma Numbered.channelIds {s out} (inv : Numbered s.ledger (toldBy out)) : ChannelIds s out where
  distinct := ids_ledger ▸ inv.distinct
  proper := ids_ledger ▸ inv.proper
  added := by
    intro h chan here
    have number : s.ledger.numbers.get? h = some chan.myId := by
      rw [Ledger.numbers, get?_map, get?_ledger here]
      rfl
    exact inv.added (h, chan.myId) (mem_of_get? number)
  found := inv.found
  cnt := by
    have length : s.ledger.numbers.cells.length = s.channels.cells.length := by
      rw [Ledger.numbers, ProxyManager.ledger, map_map]
      exact length_map ..
    have few := inv.few
    have cnt : s.cnt = _ := inv.cnt
    rw [myIdMaxNum, length] at few
    rw [cnt, length, toNat_ofNat]
    omega

theorem run_channelIds {inputs : List (Env × ManagerInput)} {s : ProxyManager}
    {out : List ProxyEvent}
    (room : AllSteps managerStep (fun s input => guarded roomForIds s input) .init inputs)
    (result : run managerStep .init inputs = some (s, out)) : ChannelIds s out := by
  have moves := run_moves room result
  have inv := moves.invariant (fun _ _ _ _ inv move => Numbered.move inv move) Numbered.init
  rw [Told.nil_append] at inv
  exact inv.channelIds

theorem run_channelIds_openedChannel :
    AllSteps managerStep (fun s input => guarded roomForIds s input) .init openedChannel ∧
      ∃ s out, run managerStep .init openedChannel = some (s, out) ∧ s.ids = [0x200] ∧
        ChannelIds s out := by
  have room : AllSteps managerStep (fun s input => guarded roomForIds s input) .init
      openedChannel := by
    decide +kernel
  have reached : ∃ r ∈ run managerStep .init openedChannel, r.1.ids = [0x200] := by
    decide +kernel
  obtain ⟨⟨s, out⟩, result, ids⟩ := reached
  exact ⟨room, s, out, result, ids, run_channelIds room result⟩

/-- An application that opens channels to a device that never answers. -/
def manyOpens (count : Nat) : List (Env × ManagerInput) :=
  replicate count (.good, .openChannel networking (.br [0x42]))

set_option maxRecDepth 100000 in
/-- The channels 101 and 102 both get the number INVALID_CHANNEL_ID. -/
theorem manyOpens_not_channelIds :
    ∃ s out, run managerStep .init (manyOpens 102) = some (s, out) ∧ ¬ ChannelIds s out := by
  have reached : ∃ r ∈ run managerStep .init (manyOpens 102),
      r.1.ids.take 2 = [0xFFFF, 0xFFFF] := by
    decide +kernel
  obtain ⟨⟨s, out⟩, result, twice⟩ := reached
  refine ⟨s, out, result, fun holds => ?_⟩
  have distinct := (take_sublist 2 s.ids).nodup holds.distinct
  rw [twice] at distinct
  exact absurd distinct (by decide)

end DSoftBus.Proxy
