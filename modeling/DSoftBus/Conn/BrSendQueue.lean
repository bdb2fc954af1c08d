import DSoftBus.Conn.BrConnection
import DSoftBus.Lib.PriorityOrder

/-!
The send queue of br_connection.c: PostBytes, the iterations of SendHandlerLoop and
ClearSendItemByConnId. All items wait in one list, and a second list has a node for each
pid with the number of its items. The worker serves the pid at the front of the second
list, takes its first item from the first one and puts the pid to the end, unless its
number has become 0.

When the search finds no item of the pid, the last item of the list is sent and freed
without being taken out, and nothing is said of the list afterwards. ClearSendItemByConnId
removes the node of every pid that loses an item.

The undeclared variable for the pid is taken to keep its value between iterations. The
number of a node stays within the length of the list, so it is an integer here.
-/
namespace DSoftBus.Br
open Execution PriorityOrder List KeyedList

structure SendItemStruct where
  connectionId : BitVec 32
  pid : BitVec 32
  priority : Nat
  data : Bytes
deriving DecidableEq

structure DataPidQueueStruct where
  pid : BitVec 32
  itemCount : Int

open DataPidQueueStruct

structure DataQueueStruct where
  sendList : List SendItemStruct
  pidList : List DataPidQueueStruct

def connMiddle : BitVec 32 := 2
def connHigh : BitVec 32 := 3

def getPriority (flag : BitVec 32) : Nat :=
  if flag = connHigh then 64 else if flag = connMiddle then 8 else 1

variable (property : BrProperty)

def checkSendQueueLength (queue : DataQueueStruct) : SoftBusErrNo :=
  if property.brSendQueueMaxLen < queue.sendList.length then .connectionErrSendqueueFull else .ok

variable (pid : BitVec 32) (pidList : List DataPidQueueStruct)

def creatNewPidNode : List DataPidQueueStruct := pidList ++ [⟨pid, 0⟩]

def DataPidQueueStruct.increase (node : DataPidQueueStruct) : DataPidQueueStruct :=
  { node with itemCount := node.itemCount + 1 }

/-- The number of the pid's node is increased; the node is created if there is none. -/
def countItem : List DataPidQueueStruct :=
  let nodes :=
    match lookup (·.pid) pid pidList with
    | none => creatNewPidNode pid pidList
    | some _ => pidList
  update (·.pid) pid increase nodes

/-- Only items of the same pid are passed by one of a higher priority. -/
def createNewSendItem (item : SendItemStruct) (sendList : List SendItemStruct) :
    List SendItemStruct :=
  insertBefore (fun a => a.pid = item.pid ∧ a.priority < item.priority) item sendList

def DataQueueStruct.post (queue : DataQueueStruct) (item : SendItemStruct) : DataQueueStruct :=
  { sendList := createNewSendItem item queue.sendList
    pidList := countItem item.pid queue.pidList }

def postBytes (conns : List BrConnectionInfo) (item : SendItemStruct)
    (queue : DataQueueStruct) : Except SoftBusErrNo DataQueueStruct :=
  if checkSendQueueLength property queue ≠ .ok then .error .connectionErrSendqueueFull
  else
    match getConnectionRef item.connectionId conns with
    | none => .error .brconnectionPostbytesError
    | some _ => .ok (queue.post item)

def clearDataPidByPid : List DataPidQueueStruct := pidList.filter (·.pid ≠ pid)

def clearSendItemByConnId (connectionId : BitVec 32) :
    List SendItemStruct → List DataPidQueueStruct → DataQueueStruct
  | [], pidList => ⟨[], pidList⟩
  | item :: rest, pidList =>
    if item.connectionId = connectionId then
      clearSendItemByConnId connectionId rest (clearDataPidByPid item.pid pidList)
    else
      let others := clearSendItemByConnId connectionId rest pidList
      { others with sendList := item :: others.sendList }

/-- The worker beside the queue. `freed` says that an item of the list has been freed. -/
structure SendState where
  queue : DataQueueStruct
  sendPid : BitVec 32
  freed : Bool

inductive SendOutput where
  | posted (item : SendItemStruct)
  | refused (ret : SoftBusErrNo)
  | sent (item : SendItemStruct)
  | sentListed (item : SendItemStruct)
  | cleared (item : SendItemStruct)
deriving DecidableEq

open SendOutput

variable (sendPid : BitVec 32)

def takeTurn : List DataPidQueueStruct → BitVec 32 × List DataPidQueueStruct
  | [] => (sendPid, [])
  | node :: rest =>
    let left := { node with itemCount := node.itemCount - 1 }
    (node.pid, if left.itemCount = 0 then rest else rest ++ [left])

variable (s : SendState)

/-- One iteration; with an empty list the worker waits. -/
def sendHandlerLoop : SendState × List SendOutput :=
  match s.queue.sendList.getLast? with
  | none => (s, [])
  | some last =>
    let turn := takeTurn s.sendPid s.queue.pidList
    match lookup (·.pid) turn.1 s.queue.sendList with
    | some item =>
      (⟨⟨remove (·.pid) turn.1 s.queue.sendList, turn.2⟩, turn.1, false⟩, [.sent item])
    | none => (⟨⟨s.queue.sendList, turn.2⟩, turn.1, true⟩, [.sentListed last])

inductive SendEvent where
  | postBytes (conns : List BrConnectionInfo) (connectionId : BitVec 32) (data : Bytes)
      (pid flag : BitVec 32)
  | sendHandlerLoop
  | clearSendItemByConnId (connectionId : BitVec 32)

def sendStep (event : SendEvent) : Option (SendState × List SendOutput) :=
  if s.freed then none
  else
    match event with
    | .postBytes conns connectionId data pid flag =>
      let item := ⟨connectionId, pid, getPriority flag, data⟩
      match postBytes property conns item s.queue with
      | .error ret => some (s, [.refused ret])
      | .ok queue => some ({ s with queue := queue }, [.posted item])
    | .sendHandlerLoop => some (sendHandlerLoop s)
    | .clearSendItemByConnId connectionId =>
      some ({ s with
          queue := clearSendItemByConnId connectionId s.queue.sendList s.queue.pidList },
        (s.queue.sendList.filter (·.connectionId = connectionId)).map .cleared)

/-- Nothing queued; `sendPid` is whatever the variable holds. -/
def SendState.init : SendState := ⟨⟨[], []⟩, sendPid, false⟩

namespace DataQueueStruct

def turns (queue : DataQueueStruct) : List (BitVec 32) := queue.pidList.map (·.pid)

def queuedOf (queue : DataQueueStruct) (pid : BitVec 32) : List SendItemStruct :=
  queue.sendList.filter (·.pid = pid)

/-- The two lists agree: one node for each pid that has items, with their number. -/
structure Bookkept (queue : DataQueueStruct) : Prop where
  once : queue.turns.Nodup
  nodes : ∀ pid, pid ∈ queue.turns ↔ queue.queuedOf pid ≠ []
  counts : ∀ node ∈ queue.pidList, node.itemCount = (queue.queuedOf node.pid).length

end DataQueueStruct

open DataQueueStruct

section
variable {pid other : BitVec 32} {pidList : List DataPidQueueStruct}

lemma increase_keeps (pid : BitVec 32) (node : DataPidQueueStruct) (same : node.pid = pid) :
    node.increase.pid = pid := same

lemma map_pid_countItem (pid : BitVec 32) (pidList : List DataPidQueueStruct) :
    (countItem pid pidList).map (·.pid) =
      if pid ∈ pidList.map (·.pid) then pidList.map (·.pid) else pidList.map (·.pid) ++ [pid] := by
  rw [countItem, map_key_update (increase_keeps pid)]
  cases found : lookup (·.pid) pid pidList with
  | none =>
    have absent : pid ∉ pidList.map (·.pid) := fun mem => by
      obtain ⟨node, inList, same⟩ := mem_map.mp mem
      exact lookup_eq_none.mp found node inList same
    simp [absent, creatNewPidNode]
  | some node =>
    obtain ⟨mem, same⟩ := mem_of_lookup found
    have present : pid ∈ pidList.map (·.pid) := mem_map.mpr ⟨node, mem, same⟩
    simp [present]

lemma lookup_countItem_of_ne (ne : other ≠ pid) :
    lookup (·.pid) other (countItem pid pidList) = KeyedList.lookup (·.pid) other pidList := by
  rw [countItem, KeyedList.lookup_update_of_ne (increase_keeps pid) ne]
  cases found : KeyedList.lookup (·.pid) pid pidList with
  | none =>
    have absent : KeyedList.lookup (·.pid) other [mk pid 0] = none :=
      KeyedList.lookup_cons_of_ne ne.symm []
    simp [creatNewPidNode, KeyedList.lookup_append, absent]
  | some node => rfl

lemma lookup_countItem_self (pid : BitVec 32) (pidList : List DataPidQueueStruct) :
    lookup (·.pid) pid (countItem pid pidList) =
      some ⟨pid, (KeyedList.lookup (·.pid) pid pidList).elim 0 (·.itemCount) + 1⟩ := by
  rw [countItem, KeyedList.lookup_update_self (increase_keeps pid)]
  cases found : KeyedList.lookup (·.pid) pid pidList with
  | none =>
    have made : KeyedList.lookup (·.pid) pid [mk pid 0] = some ⟨pid, 0⟩ :=
      KeyedList.lookup_cons_self rfl []
    simp [creatNewPidNode, KeyedList.lookup_append, found, made, Option.elim,
      increase]
  | some node =>
    obtain ⟨_, same⟩ := mem_of_lookup found
    simp [found, Option.elim, same, increase]

end

namespace DataQueueStruct
variable {queue : DataQueueStruct} {item : SendItemStruct} {pid : BitVec 32}

lemma queuedOf_eq_nil : queue.queuedOf pid = [] ↔ ∀ a ∈ queue.sendList, a.pid ≠ pid := by
  simp [queuedOf]

lemma Bookkept.lookup (kept : queue.Bookkept) {node}
    (found : lookup (·.pid) pid queue.pidList = some node) :
    node.itemCount = (queue.queuedOf pid).length := by
  obtain ⟨mem, rfl⟩ := mem_of_lookup found
  exact kept.counts node mem

lemma Bookkept.count (kept : queue.Bookkept) (pid) :
    (KeyedList.lookup (·.pid) pid queue.pidList).elim 0 (·.itemCount) =
      ((queue.queuedOf pid).length : Int) := by
  cases found : KeyedList.lookup (·.pid) pid queue.pidList with
  | some node => exact kept.lookup found
  | none =>
    have absent : pid ∉ queue.turns := fun mem => by
      obtain ⟨node, inList, same⟩ := mem_map.mp mem
      exact lookup_eq_none.mp found node inList same
    rw [kept.nodes, not_not] at absent
    rw [absent]
    rfl

lemma Bookkept.of_lookup (once : queue.turns.Nodup)
    (nodes : ∀ pid, pid ∈ queue.turns ↔ queue.queuedOf pid ≠ [])
    (counts : ∀ pid node, KeyedList.lookup (·.pid) pid queue.pidList = some node →
      node.itemCount = ((queue.queuedOf pid).length : Int)) : queue.Bookkept :=
  ⟨once, nodes, fun node mem =>
    counts node.pid node ((KeyedList.lookup_eq_some once).mpr ⟨mem, rfl⟩)⟩

lemma bookkept_empty : Bookkept ⟨[], []⟩ :=
  ⟨nodup_nil, fun pid => by simp [turns, queuedOf], by simp⟩

lemma queuedOf_post_self (queue : DataQueueStruct) (item : SendItemStruct) :
    (queue.post item).queuedOf item.pid =
      insertByPriority (·.priority) item (queue.queuedOf item.pid) := by
  rw [queuedOf, post, createNewSendItem, filter_insertBefore_of_mem
    (by simp) (fun a passed => by simpa using passed.1)]
  refine insertBefore_congr fun a mem => ?_
  have same : a.pid = item.pid := by simpa using (mem_filter.mp mem).2
  simp [same]

lemma queuedOf_post_of_ne (ne : pid ≠ item.pid) :
    (queue.post item).queuedOf pid = queue.queuedOf pid :=
  filter_insertBefore_of_not (by simpa using ne.symm) _

lemma turns_post (queue : DataQueueStruct) (item : SendItemStruct) : (queue.post item).turns =
      if item.pid ∈ queue.turns then queue.turns else queue.turns ++ [item.pid] :=
  map_pid_countItem item.pid queue.pidList

lemma Bookkept.post (kept : queue.Bookkept) (item : SendItemStruct) :
    (queue.post item).Bookkept := by
  have grown : (queue.post item).queuedOf item.pid ≠ [] := fun empty => by
    have size := congrArg length empty
    simp [queuedOf_post_self, insertByPriority, (perm_insertBefore item _).length_eq] at size
  refine Bookkept.of_lookup ?_ (fun pid => ?_) (fun pid node found => ?_)
  · rw [turns_post]
    split
    · exact kept.once
    next absent =>
      exact nodup_append.mpr ⟨kept.once, nodup_singleton _, fun a mem b last same =>
        absent (mem_singleton.mp last ▸ same ▸ mem)⟩
  · have present : pid ∈ (queue.post item).turns ↔ pid ∈ queue.turns ∨ pid = item.pid := by
      rw [turns_post]
      split
      next mem => exact ⟨.inl, fun either => either.elim id fun same => same ▸ mem⟩
      · rw [mem_append, mem_singleton]
    rw [present]
    by_cases same : pid = item.pid
    · subst same
      exact ⟨fun _ => grown, fun _ => .inr rfl⟩
    · rw [queuedOf_post_of_ne same, kept.nodes]
      exact ⟨fun either => either.elim id fun equal => absurd equal same, .inl⟩
  · by_cases same : pid = item.pid
    · subst same
      rw [DataQueueStruct.post, lookup_countItem_self, kept.count, Option.some.injEq] at found
      rw [← found, queuedOf_post_self, insertByPriority, (perm_insertBefore item _).length_eq]
      rfl
    · rw [DataQueueStruct.post, lookup_countItem_of_ne same] at found
      rw [queuedOf_post_of_ne same]
      exact kept.lookup found

/-- An iteration takes the item of the pid whose turn it is out of the list, and the pid waits
for its next turn if it has more. -/
structure Served (queue next : DataQueueStruct) (item : SendItemStruct)
    (rest : List (BitVec 32)) : Prop where
  turn : queue.turns = item.pid :: rest
  turns : next.turns = if next.queuedOf item.pid = [] then rest else rest ++ [item.pid]
  taken : queue.queuedOf item.pid = item :: next.queuedOf item.pid
  others : ∀ pid, pid ≠ item.pid → next.queuedOf pid = queue.queuedOf pid
  perm : queue.sendList.Perm (item :: next.sendList)

def served (queue : DataQueueStruct) (node : DataPidQueueStruct)
    (tail : List DataPidQueueStruct) : DataQueueStruct :=
  ⟨remove (·.pid) node.pid queue.sendList, (takeTurn node.pid (node :: tail)).2⟩

section
variable {node : DataPidQueueStruct} {tail : List DataPidQueueStruct}

lemma served_served (kept : queue.Bookkept) (front : queue.pidList = node :: tail)
    (found : lookup (·.pid) node.pid queue.sendList = some item) :
    Served queue (queue.served node tail) item (tail.map (·.pid)) := by
  have same : item.pid = node.pid := (mem_of_lookup found).2
  have taken : queue.queuedOf item.pid = item :: (queue.served node tail).queuedOf item.pid := by
    rw [same]
    exact filter_remove_self found
  have left : node.itemCount - 1 = (((queue.served node tail).queuedOf item.pid).length : Int) := by
    have count := kept.counts node (by rw [front]; exact mem_cons_self)
    rw [← same, taken, length_cons] at count
    omega
  refine ⟨by rw [turns, front, map_cons, same], ?_, taken, fun pid ne => ?_,
    perm_cons_remove found⟩
  · by_cases empty : (queue.served node tail).queuedOf item.pid = []
    · rw [empty, length_nil] at left
      rw [if_pos empty, turns, served, takeTurn]
      simp [left]
    · have more : node.itemCount - 1 ≠ 0 := by
        rw [left]
        simpa using empty
      rw [if_neg empty, turns, served, takeTurn]
      simp [more, same]
  · exact filter_remove_of_ne (by rwa [← same]) queue.sendList

lemma served_counts (kept : queue.Bookkept) (front : queue.pidList = node :: tail)
    (found : lookup (·.pid) node.pid queue.sendList = some item) :
    ∀ member ∈ (queue.served node tail).pidList,
      member.itemCount = ((queue.served node tail).queuedOf member.pid).length := by
  have same : item.pid = node.pid := (mem_of_lookup found).2
  have served := served_served kept front found
  have once := kept.once
  rw [served.turn, nodup_cons] at once
  have old (member) (mem : member ∈ tail) :
      member.itemCount = ((queue.served node tail).queuedOf member.pid).length := by
    have ne : member.pid ≠ item.pid := fun equal =>
      once.1 (equal ▸ mem_map.mpr ⟨member, mem, rfl⟩)
    rw [served.others member.pid ne]
    exact kept.counts member (by rw [front]; exact mem_cons_of_mem _ mem)
  intro member mem
  rw [DataQueueStruct.served, takeTurn] at mem
  dsimp only at mem
  split at mem
  · exact old member mem
  · rcases mem_append.mp mem with inTail | last
    · exact old member inTail
    · have count := kept.counts node (by rw [front]; exact mem_cons_self)
      rw [← same, served.taken, length_cons] at count
      rw [mem_singleton.mp last, ← same]
      dsimp only
      omega

end

lemma Served.bookkept {next rest} (served : Served queue next item rest) (kept : queue.Bookkept)
    (counts : ∀ node ∈ next.pidList, node.itemCount = (next.queuedOf node.pid).length) :
    next.Bookkept := by
  have once := kept.once
  rw [served.turn, nodup_cons] at once
  refine ⟨?_, fun pid => ?_, counts⟩
  · rw [served.turns]
    split
    · exact once.2
    · exact nodup_append.mpr ⟨once.2, nodup_singleton _, fun a mem b last same =>
        once.1 (mem_singleton.mp last ▸ same ▸ mem)⟩
  · have before := kept.nodes pid
    rw [served.turn, mem_cons] at before
    by_cases same : pid = item.pid
    · subst same
      rw [served.turns]
      split
      next empty => exact ⟨fun mem => absurd mem once.1, fun some => absurd empty some⟩
      next more => exact ⟨fun _ => more, fun _ => mem_concat_self⟩
    · rw [served.others pid same, ← before, served.turns]
      split
      · exact ⟨.inr, fun either => either.resolve_left same⟩
      · rw [mem_append, mem_singleton, or_comm]

lemma served_of_sendHandlerLoop {s} (kept : s.queue.Bookkept) (pending : s.queue.sendList ≠ []) :
    ∃ next item rest, sendHandlerLoop s = (⟨next, item.pid, false⟩, [.sent item]) ∧
      Served s.queue next item rest ∧ next.Bookkept := by
  cases front : s.queue.pidList with
  | nil =>
    obtain ⟨a, mem⟩ := exists_mem_of_ne_nil _ pending
    have present : a.pid ∈ s.queue.turns :=
      (kept.nodes a.pid).mpr fun empty => queuedOf_eq_nil.mp empty a mem rfl
    simp [turns, front] at present
  | cons node tail =>
    cases found : lookup (·.pid) node.pid s.queue.sendList with
    | none =>
      have present : node.pid ∈ s.queue.turns := by
        rw [turns, front]
        exact mem_cons_self
      refine absurd ?_ ((kept.nodes node.pid).mp present)
      exact queuedOf_eq_nil.mpr (lookup_eq_none.mp found)
    | some item =>
      have served := served_served kept front found
      refine ⟨_, item, _, ?_, served, served.bookkept kept (served_counts kept front found)⟩
      have turn : (takeTurn s.sendPid (node :: tail)).1 = node.pid := rfl
      rw [sendHandlerLoop, getLast?_eq_some_getLast pending, front]
      simp only [turn, found, (mem_of_lookup found).2]
      rfl

end DataQueueStruct

lemma sendHandlerLoop_idle {s} (pending : s.queue.sendList = []) : sendHandlerLoop s = (s, []) := by
  rw [sendHandlerLoop, pending]
  rfl

section
variable {cid : BitVec 32}

lemma clearSendItemByConnId_eq (cid sendList pidList) : clearSendItemByConnId cid sendList pidList =
      ⟨sendList.filter (·.connectionId ≠ cid), pidList.filter fun node =>
        ∀ a ∈ sendList, a.connectionId = cid → node.pid ≠ a.pid⟩ := by
  induction sendList generalizing pidList with
  | nil => simp [clearSendItemByConnId]
  | cons item rest ih =>
    by_cases own : item.connectionId = cid
    · rw [clearSendItemByConnId, if_pos own, ih, clearDataPidByPid, filter_filter]
      simp [own, Bool.and_comm]
    · rw [clearSendItemByConnId, if_neg own, ih]
      simp [own]

def OwnPids (connectionId : BitVec 32) (queue : DataQueueStruct) : Prop :=
  ∀ a ∈ queue.sendList, a.connectionId = connectionId →
    ∀ b ∈ queue.sendList, b.pid = a.pid → b.connectionId = connectionId
deriving Decidable

namespace DataQueueStruct
variable {queue : DataQueueStruct} {pid : BitVec 32}

def clear (connectionId : BitVec 32) (queue : DataQueueStruct) : DataQueueStruct :=
  clearSendItemByConnId connectionId queue.sendList queue.pidList

lemma sendList_clear (cid : BitVec 32) (queue : DataQueueStruct) : (queue.clear cid).sendList =
      queue.sendList.filter (·.connectionId ≠ cid) := by
  rw [clear, clearSendItemByConnId_eq]

lemma mem_pidList_clear {node} : node ∈ (queue.clear cid).pidList ↔ node ∈ queue.pidList ∧
      ∀ a ∈ queue.sendList, a.connectionId = cid → node.pid ≠ a.pid := by
  rw [clear, clearSendItemByConnId_eq]
  simp

lemma mem_turns_clear : pid ∈ (queue.clear cid).turns ↔ pid ∈ queue.turns ∧
    ∀ a ∈ queue.sendList, a.connectionId = cid → pid ≠ a.pid := by
  simp only [turns, mem_map, mem_pidList_clear]
  constructor
  · rintro ⟨node, ⟨mem, keeps⟩, rfl⟩
    exact ⟨⟨node, mem, rfl⟩, keeps⟩
  · rintro ⟨⟨node, mem, rfl⟩, keeps⟩
    exact ⟨node, ⟨mem, keeps⟩, rfl⟩

lemma queuedOf_clear_of_none (none : ∀ a ∈ queue.sendList, a.connectionId = cid → pid ≠ a.pid) :
    (queue.clear cid).queuedOf pid = queue.queuedOf pid := by
  rw [queuedOf, sendList_clear, filter_filter, queuedOf]
  refine filter_congr fun a mem => ?_
  by_cases same : a.pid = pid
  · simpa [same] using fun own => none a mem own same.symm
  · simp [same]

/-- The lists agree after the removal exactly if no pid is shared with another connection. -/
lemma Bookkept.clear_iff (kept : queue.Bookkept) :
    (queue.clear cid).Bookkept ↔ OwnPids cid queue := by
  constructor
  · intro after a memA own b memB same
    by_contra foreign
    have stays : (queue.clear cid).queuedOf a.pid ≠ [] := fun empty => by
      refine queuedOf_eq_nil.mp empty b ?_ same
      rw [sendList_clear]
      exact mem_filter.mpr ⟨memB, by simpa using foreign⟩
    exact (mem_turns_clear.mp ((after.nodes a.pid).mpr stays)).2 a memA own rfl
  · intro own
    have gone (a) (mem : a ∈ queue.sendList) (isOwn : a.connectionId = cid) :
        (queue.clear cid).queuedOf a.pid = [] := by
      refine queuedOf_eq_nil.mpr fun b memB same => ?_
      rw [sendList_clear] at memB
      obtain ⟨inList, foreign⟩ := mem_filter.mp memB
      exact of_decide_eq_true foreign (own a mem isOwn b inList same)
    refine ⟨?_, fun pid => ?_, fun node mem => ?_⟩
    · rw [turns, clear, clearSendItemByConnId_eq]
      exact kept.once.sublist (filter_sublist.map _)
    · rw [mem_turns_clear, kept.nodes]
      by_cases none : ∀ a ∈ queue.sendList, a.connectionId = cid → pid ≠ a.pid
      · rw [queuedOf_clear_of_none none]
        exact and_iff_left none
      · push Not at none
        obtain ⟨a, mem, isOwn, rfl⟩ := none
        simp only [gone a mem isOwn, ne_eq, not_true, iff_false]
        exact fun both => both.2 a mem isOwn rfl
    · obtain ⟨inList, none⟩ := mem_pidList_clear.mp mem
      rw [queuedOf_clear_of_none none]
      exact kept.counts node inList

end DataQueueStruct

end

lemma postBytes_ok {property conns item queue next}
    (h : postBytes property conns item queue = .ok next) : next = queue.post item := by
  rw [postBytes] at h
  split at h
  · cases h
  · split at h
    · cases h
    · cases h
      rfl

def SendOutput.posted? : SendOutput → Option SendItemStruct
  | .posted item => some item
  | _ => none

def SendOutput.sent? : SendOutput → Option SendItemStruct
  | .sent item => some item
  | _ => none

def SendOutput.cleared? : SendOutput → Option SendItemStruct
  | .cleared item => some item
  | _ => none

/-- The items queued before or posted are sent, cleared or still queued, each once. None is
sent while it stays in the list. -/
structure Accounted (before after : List SendItemStruct) (out : List SendOutput) : Prop where
  items : (before ++ out.filterMap posted?).Perm
    (out.filterMap sent? ++ out.filterMap cleared? ++ after)
  listed : ∀ item, sentListed item ∉ out

lemma Accounted.refl (items) : Accounted items items [] :=
  ⟨by simp, fun item => not_mem_nil⟩

section
variable {before after : List SendItemStruct} {item : SendItemStruct}

lemma Accounted.posted (perm : after.Perm (item :: before)) :
    Accounted before after [.posted item] := by
  refine ⟨?_, by simp⟩
  change (before ++ [item]).Perm ([] ++ [] ++ after)
  exact (perm_append_singleton item before).trans perm.symm

lemma Accounted.refused (items ret) : Accounted items items [.refused ret] := by
  refine ⟨?_, by simp⟩
  change (items ++ []).Perm ([] ++ [] ++ items)
  rw [append_nil, nil_append, nil_append]

lemma Accounted.sent (perm : before.Perm (item :: after)) :
    Accounted before after [.sent item] := by
  refine ⟨?_, by simp⟩
  change (before ++ []).Perm ([item] ++ [] ++ after)
  rwa [append_nil, append_nil]

end

lemma Accounted.append {first second third out outs}
    (front : Accounted first second out) (back : Accounted second third outs) :
    Accounted first third (out ++ outs) := by
  refine ⟨perm_iff_count.mpr fun item => ?_, fun item mem => ?_⟩
  · have early := perm_iff_count.mp front.items item
    have late := perm_iff_count.mp back.items item
    simp only [filterMap_append, count_append] at early late ⊢
    omega
  · rcases mem_append.mp mem with early | late
    · exact front.listed item early
    · exact back.listed item late

def Undivided : SendEvent → Prop
  | .clearSendItemByConnId connectionId => OwnPids connectionId s.queue
  | _ => True

instance (s : SendState) : (event : SendEvent) → Decidable (Undivided s event)
  | .clearSendItemByConnId connectionId =>
    inferInstanceAs (Decidable (OwnPids connectionId s.queue))
  | .postBytes .. | .sendHandlerLoop => isTrue trivial

def SendState.Sound : Prop := s.queue.Bookkept ∧ s.freed = false

lemma sendHandlerLoop_accounted {s} (sound : s.Sound) : (sendHandlerLoop s).1.Sound ∧
      Accounted s.queue.sendList (sendHandlerLoop s).1.queue.sendList (sendHandlerLoop s).2 ∧
      (sendHandlerLoop s).2.filterMap cleared? = [] := by
  by_cases pending : s.queue.sendList = []
  · rw [sendHandlerLoop_idle pending]
    exact ⟨sound, .refl _, rfl⟩
  · obtain ⟨next, item, rest, turn, served, kept⟩ :=
      served_of_sendHandlerLoop sound.1 pending
    rw [turn]
    exact ⟨⟨kept, rfl⟩, .sent served.perm, rfl⟩

lemma clear_accounted (connectionId : BitVec 32) (queue : DataQueueStruct) :
    Accounted queue.sendList (queue.clear connectionId).sendList
      ((queue.sendList.filter (·.connectionId = connectionId)).map .cleared) := by
  refine ⟨?_, by simp⟩
  have own : (queue.sendList.filter (·.connectionId = connectionId)).filterMap
      (cleared? ∘ .cleared) =
      queue.sendList.filter (·.connectionId = connectionId) := filterMap_some
  have unsent : ((queue.sendList.filter (·.connectionId = connectionId)).map
      cleared).filterMap sent? = [] := by
    simp [filterMap_eq_nil_iff, sent?]
  have unposted : ((queue.sendList.filter (·.connectionId = connectionId)).map
      cleared).filterMap posted? = [] := by
    simp [filterMap_eq_nil_iff, posted?]
  rw [unsent, unposted, filterMap_map, own, sendList_clear, append_nil, nil_append]
  have parts := filter_append_perm (·.connectionId = connectionId) queue.sendList
  simpa using parts.symm

/-- One step from a sound state: defined, and sound again exactly if the condition is met. -/
lemma sendStep_sound {s} (sound : s.Sound) (property : BrProperty)
    (event : SendEvent) : ∃ t out, sendStep property s event = some (t, out) ∧
      (t.Sound ↔ Undivided s event) ∧ Accounted s.queue.sendList t.queue.sendList out ∧
      ∀ item ∈ out.filterMap cleared?,
        event = .clearSendItemByConnId item.connectionId := by
  have running : ¬ s.freed := by simp [sound.2]
  cases event with
  | postBytes conns connectionId data pid flag =>
    simp only [sendStep, if_neg running]
    cases posting : postBytes property conns ⟨connectionId, pid, getPriority flag, data⟩
        s.queue with
    | error ret =>
      exact ⟨s, [.refused ret], rfl, iff_of_true sound trivial, .refused _ ret,
        by simp [cleared?]⟩
    | ok queue =>
      rw [postBytes_ok posting]
      exact ⟨_, _, rfl, iff_of_true ⟨sound.1.post _, sound.2⟩ trivial,
        .posted (perm_insertBefore ..), by simp [cleared?]⟩
  | sendHandlerLoop =>
    simp only [sendStep, if_neg running]
    obtain ⟨next, accounted, none⟩ := sendHandlerLoop_accounted sound
    exact ⟨(sendHandlerLoop s).1, (sendHandlerLoop s).2, rfl, iff_of_true next trivial,
      accounted, by rw [none]; simp⟩
  | clearSendItemByConnId connectionId =>
    simp only [sendStep, if_neg running]
    refine ⟨_, _, rfl, ?_, clear_accounted connectionId s.queue, ?_⟩
    · exact (and_iff_left sound.2).trans sound.1.clear_iff
    · intro item mem
      obtain ⟨out, inOut, isItem⟩ := mem_filterMap.mp mem
      obtain ⟨a, inList, rfl⟩ := mem_map.mp inOut
      cases isItem
      rw [of_decide_eq_true (mem_filter.mp inList).2]

section
variable {property : BrProperty} {s : SendState}

lemma allStates_sound_iff (sound : s.Sound) (inputs) :
    AllStates (sendStep property) (·.queue.Bookkept) s inputs ↔
      AllSteps (sendStep property) Undivided s inputs := by
  induction inputs generalizing s with
  | nil => exact iff_of_true (allStates_nil.mpr sound.1) (allSteps_nil _ _)
  | cons event rest ih =>
    obtain ⟨t, out, hStep, sound_iff, _⟩ := sendStep_sound sound property event
    rw [allStates_cons, allSteps_cons]
    constructor
    · rintro ⟨_, later⟩
      have running : t.freed = false := by
        cases event with
        | clearSendItemByConnId connectionId =>
          rw [sendStep, if_neg (by simp [sound.2])] at hStep
          cases hStep
          exact sound.2
        | _ => exact (sound_iff.mpr trivial).2
      have next : t.Sound := by
        refine ⟨?_, running⟩
        exact later t out hStep [] rest rfl t [] rfl
      refine ⟨sound_iff.mp next, fun u out' hStep' => ?_⟩
      rw [hStep] at hStep'
      cases hStep'
      exact (ih next).mp (later t out hStep)
    · rintro ⟨ok, later⟩
      refine ⟨sound.1, fun u out' hStep' => ?_⟩
      rw [hStep] at hStep'
      cases hStep'
      exact (ih (sound_iff.mpr ok)).mpr (later t out hStep)

/-- In a run that keeps to the condition every item is accounted for, and only items of a
connection that was cleared are removed without being sent. -/
lemma run_accounted {past : List SendEvent} (sound : s.Sound) {inputs : List SendEvent}
    (guarded : AllSteps (sendStep property) Undivided s inputs)
    (among : ∀ event ∈ inputs, event ∈ past) :
    ∃ t outs, run (sendStep property) s inputs = some (t, outs) ∧ t.Sound ∧
      Accounted s.queue.sendList t.queue.sendList outs ∧
      ∀ item ∈ outs.filterMap cleared?,
        .clearSendItemByConnId item.connectionId ∈ past := by
  induction inputs generalizing s with
  | nil => exact ⟨s, [], rfl, sound, .refl _, by simp⟩
  | cons event rest ih =>
    obtain ⟨t, out, hStep, sound_iff, accounted, removed⟩ := sendStep_sound sound property event
    have next := sound_iff.mpr guarded.head
    obtain ⟨u, outs, hRest, last, later, removedLater⟩ :=
      ih next (guarded.tail hStep) fun e mem => among e (mem_cons_of_mem event mem)
    refine ⟨u, out ++ outs, run_cons_eq_some.mpr ⟨t, out, outs, hStep, hRest, rfl⟩, last,
      accounted.append later, fun item mem => ?_⟩
    rw [filterMap_append, mem_append] at mem
    rcases mem with now | after
    · rw [← removed item now]
      exact among event mem_cons_self
    · exact removedLater item after

lemma run_drains (sound : s.Sound) : ∃ t outs, run (sendStep property) s
        (replicate s.queue.sendList.length .sendHandlerLoop) = some (t, outs) ∧
      t.queue.sendList = [] ∧ (outs.filterMap sent?).Perm s.queue.sendList := by
  generalize size : s.queue.sendList.length = n
  induction n generalizing s with
  | zero =>
    have empty := length_eq_zero_iff.mp size
    exact ⟨s, [], rfl, empty, by rw [empty]; rfl⟩
  | succ n ih =>
    have pending : s.queue.sendList ≠ [] := fun empty => by rw [empty] at size; cases size
    obtain ⟨next, item, rest, turn, served, kept⟩ :=
      served_of_sendHandlerLoop sound.1 pending
    have fewer : next.sendList.length = n := by
      have lengths := served.perm.length_eq
      rw [size, length_cons] at lengths
      omega
    obtain ⟨t, outs, hRest, empty, sent⟩ := @ih ⟨next, item.pid, false⟩ ⟨kept, rfl⟩ fewer
    have hStep : sendStep property s .sendHandlerLoop =
        some (⟨next, item.pid, false⟩, [.sent item]) := by
      rw [sendStep, if_neg (by simp [sound.2])]
      exact congrArg some turn
    rw [replicate_succ]
    refine ⟨t, .sent item :: outs, run_cons_eq_some.mpr ⟨_, _, outs, hStep, hRest, rfl⟩, empty, ?_⟩
    exact (sent.cons item).trans served.perm.symm

end

lemma sound_init : (SendState.init sendPid).Sound := ⟨bookkept_empty, rfl⟩

/-- The lists agree in every state of a run exactly if no connection is cleared while one of
its pids has items of another connection. An item that is sent has then left the list; what was
posted is sent, still queued or belonged to a cleared connection, once; and further iterations
send what is left. -/
theorem sendQueue_bookkept_iff (property : BrProperty) (sendPid : BitVec 32)
    (inputs : List SendEvent) :
    (AllStates (sendStep property) (·.queue.Bookkept) (.init sendPid) inputs ↔
      AllSteps (sendStep property) Undivided (.init sendPid) inputs) ∧
    (AllSteps (sendStep property) Undivided (.init sendPid) inputs →
      ∃ s outs, run (sendStep property) (.init sendPid) inputs = some (s, outs) ∧
        (∀ item, sentListed item ∉ outs) ∧
        (outs.filterMap posted?).Perm (outs.filterMap sent? ++
          outs.filterMap cleared? ++ s.queue.sendList) ∧
        (∀ item ∈ outs.filterMap cleared?,
          .clearSendItemByConnId item.connectionId ∈ inputs) ∧ ∃ t rest, run (sendStep property) s
            (replicate s.queue.sendList.length .sendHandlerLoop) = some (t, rest) ∧
          t.queue.sendList = [] ∧ (rest.filterMap sent?).Perm s.queue.sendList) := by
  refine ⟨allStates_sound_iff (sound_init sendPid) inputs, fun guarded => ?_⟩
  obtain ⟨s, outs, hRun, sound, accounted, removed⟩ :=
    run_accounted (sound_init sendPid) guarded fun event mem => mem
  exact ⟨s, outs, hRun, accounted.listed, accounted.items, removed, run_drains sound⟩

def twoConnections : List BrConnectionInfo := [openConnection 0x20002 8, openConnection 0x20001 7]

theorem sendQueue_bookkept_ownPids : AllStates (sendStep .standard) (·.queue.Bookkept) (.init 0)
      [.postBytes twoConnections 0x20001 [1] 5 0, .postBytes twoConnections 0x20002 [2] 6 0,
        .clearSendItemByConnId 0x20001, .sendHandlerLoop] :=
  (sendQueue_bookkept_iff .standard 0 _).1.mpr (by decide +kernel)

/-- Process 5 posts on two connections, one of which is then cleared: the process has an item
and no node. The worker sends that item and leaves it in the list. -/
theorem clearedPid_not_bookkept : ¬ AllStates (sendStep .standard) (·.queue.Bookkept) (.init 0)
      [.postBytes twoConnections 0x20001 [1] 5 0, .postBytes twoConnections 0x20002 [2] 5 0,
        .clearSendItemByConnId 0x20001] ∧ ∃ s outs, run (sendStep .standard) (.init 0)
      [.postBytes twoConnections 0x20001 [1] 5 0, .postBytes twoConnections 0x20002 [2] 5 0,
        .clearSendItemByConnId 0x20001, .sendHandlerLoop] = some (s, outs) ∧
      .sentListed ⟨0x20002, 5, 1, [2]⟩ ∈ outs ∧ ⟨0x20002, 5, 1, [2]⟩ ∈ s.queue.sendList := by
  constructor
  · rw [allStates_sound_iff (sound_init 0)]
    decide +kernel
  · exact ⟨_, _, rfl, by decide, by decide⟩

end DSoftBus.Br
