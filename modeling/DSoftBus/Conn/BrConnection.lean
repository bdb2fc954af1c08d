import DSoftBus.Adapter
import DSoftBus.Lib.IdCounter
import DSoftBus.Lib.KeyedList

/-!
The connections of br_connection.c and the ids they are given. A connection is a record of
`g_conection_list`, newest first, found by its id or its socket. Its buffer is allocated
with it, so a device with connections has a buffer size that `SoftBusCalloc` accepts.

The search for an id moves the counter on at a hit but does not compute the candidate
again, so the first candidate is returned, free or not. The counter is an `int16_t` that
is added to the type bits, and a negative value borrows from them. ServerOnBrConnect searches
and lists without the lock, so that its creations may overlap with others.
-/
namespace DSoftBus.Br
open Execution List

def connectTypeShift : Nat := 16

/-- `CONNECT_BR`; the values before it are unused and `CONNECT_TCP`. -/
def connectBr : BitVec 32 := 2

def maxBrSize : Nat := 32 * 1024

structure BrProperty where
  brBuffSize : Nat
  brSendPeerLen : Nat
  brSendQueueMaxLen : Nat
  brBuffSize_pos : 0 < brBuffSize
  brBuffSize_le : brBuffSize ≤ maxBrSize

inductive BRConnectionState where
  | connecting
  | connected
  | closing
  | closed
deriving DecidableEq

inductive BrSideType where
  | client
  | service
deriving DecidableEq

/-- A request that waits for its connection. The callback is told apart by the
number of the call of ConnectDevice that passed it. -/
structure RequestInfo where
  requestId : BitVec 32
  callback : Nat
deriving DecidableEq

structure BrConnectionInfo where
  connectionId : BitVec 32
  socketFd : BitVec 32
  sideType : BrSideType
  mac : Bytes
  state : BRConnectionState
  refCount : BitVec 32
  recvBuf : Bytes
  recvPos : Nat
  conGestState : BitVec 32
  requestList : List RequestInfo

def btRfcomCongestOn : BitVec 32 := 0
def btRfcomCongestOff : BitVec 32 := 1

structure ConnectionTable where
  nextConnectionId : BitVec 16
  conectionList : List BrConnectionInfo

def getConnectionRef (connID : BitVec 32) (conns : List BrConnectionInfo) :
    Option BrConnectionInfo := KeyedList.lookup (·.connectionId) connID conns

/-- The candidate for a value of the counter; the sum is one of `int32_t`. -/
def tempId (next : BitVec 16) : BitVec 32 := (connectBr <<< connectTypeShift) + next.signExtend 32

def scanForId (candidate : BitVec 32) (next : BitVec 16) : List BrConnectionInfo → BitVec 16
  | [] => next
  | item :: rest =>
    scanForId candidate (if item.connectionId = candidate then next + 1 else next) rest

/-- The new id and the counter. `continue` belongs to the scan, so the outer loop
always reaches its `break` after the first one. -/
def allocNewConnectionIdLocked (table : ConnectionTable) : BitVec 32 × BitVec 16 :=
  let next := table.nextConnectionId + 1
  (tempId next, scanForId (tempId next) next table.conectionList)

/-- The fields that the callers set afterwards are those of a cleared record. -/
def createBrconnectionNode (property : BrProperty) (table : ConnectionTable) :
    BrConnectionInfo × ConnectionTable :=
  let allocated := allocNewConnectionIdLocked table
  ({ connectionId := allocated.1, socketFd := 0, sideType := .client, mac := []
     state := .connecting, refCount := 1, recvBuf := replicate property.brBuffSize 0
     recvPos := 0, conGestState := btRfcomCongestOff, requestList := [] },
    { table with nextConnectionId := allocated.2 })

def ConnectionTable.init : ConnectionTable := ⟨0, []⟩

/-- How far ServerOnBrConnect is with a record: the counter is moved on, or the record has its
id. -/
inductive ServerCall where
  | counted
  | named (connectionId : BitVec 32)
deriving DecidableEq

structure CreationState where
  table : ConnectionTable
  serving : List ServerCall

open CreationState

/-- A connection is created by ConnectDeviceFristTime, under the lock, or in three parts by
ServerOnBrConnect, or it is closed. A record that its creator gives up again does not get into
the list. -/
inductive TableEvent where
  | connectDevice (socketFd : BitVec 32) (listed : Bool)
  | serverCount
  | serverName
  | serverList (connectionId socketFd : BitVec 32) (listed : Bool)
  | close (socketFd : BitVec 32)

section
variable (property : BrProperty) (table : ConnectionTable)

def ConnectionTable.list (connectionId socketFd : BitVec 32) (listed : Bool) : ConnectionTable :=
  let node := { (createBrconnectionNode property table).1 with
    connectionId := connectionId
    socketFd := socketFd }
  if listed then { table with conectionList := node :: table.conectionList } else table

def tableStep (s : CreationState) : TableEvent → Option (CreationState × List (BitVec 32))
  | .connectDevice socketFd listed =>
    let created := createBrconnectionNode property s.table
    some ({ s with table := created.2.list property created.1.connectionId socketFd listed },
      [created.1.connectionId])
  | .serverCount =>
    some (⟨{ s.table with nextConnectionId := s.table.nextConnectionId + 1 },
      .counted :: s.serving⟩, [])
  | .serverName =>
    if .counted ∈ s.serving then
      let next := s.table.nextConnectionId
      some (⟨{ s.table with
          nextConnectionId := scanForId (tempId next) next s.table.conectionList },
        .named (tempId next) :: s.serving.erase .counted⟩, [tempId next])
    else none
  | .serverList connectionId socketFd listed =>
    if .named connectionId ∈ s.serving then
      some (⟨s.table.list property connectionId socketFd listed,
        s.serving.erase (.named connectionId)⟩, [])
    else none
  | .close socketFd =>
    some ({ s with table := { s.table with
      conectionList := KeyedList.remove (·.socketFd) socketFd s.table.conectionList } }, [])

end

def CreationState.init : CreationState := ⟨.init, []⟩

def ServerCall.id? : ServerCall → Option (BitVec 32)
  | .counted => none
  | .named connectionId => some connectionId

/-- The ids of the records that exist, listed or not yet. -/
def CreationState.ids (s : CreationState) : List (BitVec 32) :=
  s.table.conectionList.map (·.connectionId) ++ s.serving.filterMap ServerCall.id?

def FreshId (s : CreationState) (_ : TableEvent) (_ : CreationState) (out : List (BitVec 32)) :
    Prop :=
  ∀ id ∈ out, id ∉ s.ids ∧ id >>> connectTypeShift = connectBr

def TableEvent.begins : TableEvent → Nat
  | .connectDevice _ _ | .serverCount => 1
  | .serverName | .serverList _ _ _ | .close _ => 0

/-- No creation overlaps with another one. -/
def CreatesAlone (s : CreationState) (event : TableEvent) : Prop :=
  s.serving.length + event.begins ≤ 1

instance (s event) : Decidable (CreatesAlone s event) := inferInstanceAs (Decidable (_ ≤ _))

lemma scanForId_eq (candidate next conns) :
    scanForId candidate next conns =
      IdCounter.scan candidate next (conns.map (·.connectionId)) := by
  induction conns generalizing next with
  | nil => rfl
  | cons item rest ih => exact ih _

/-- The counter as the search of a creation under way will have found it. -/
def CreationState.next (s : CreationState) : BitVec 16 :=
  if .counted ∈ s.serving then s.table.nextConnectionId - 1 else s.table.nextConnectionId

lemma ids_list {property} {table : ConnectionTable} {serving connectionId socketFd listed} :
    ids ⟨table.list property connectionId socketFd listed, serving⟩ ⊆
      connectionId :: ids ⟨table, serving⟩ := by
  cases listed with
  | false => exact subset_cons_self ..
  | true => exact Subset.refl _

lemma tableStep_allocates {property s event t out} (alone : CreatesAlone s event)
    (done : tableStep property s event = some (t, out)) :
    IdCounter.Allocates connectBr CreationState.next ids s t out := by
  obtain ⟨table, serving⟩ := s
  rw [CreatesAlone] at alone
  have only {call} (few : serving.length ≤ 1) (mem : call ∈ serving) : serving = [call] := by
    obtain ⟨one, rfl⟩ := length_eq_one_iff.mp (le_antisymm few (length_pos_of_mem mem))
    rw [mem_singleton.mp mem]
  cases event with
  | connectDevice socketFd listed =>
    obtain rfl : serving = [] := length_eq_zero_iff.mp (by simpa [TableEvent.begins] using alone)
    cases done
    refine .one _ rfl ?_ ids_list
    cases listed <;> simp [CreationState.next, ids, ConnectionTable.list,
      createBrconnectionNode, allocNewConnectionIdLocked, scanForId_eq]
  | serverCount =>
    obtain rfl : serving = [] := length_eq_zero_iff.mp (by simpa [TableEvent.begins] using alone)
    cases done
    refine .none ?_ (Subset.refl _)
    simp [CreationState.next]
  | serverName =>
    rw [tableStep] at done
    split at done
    next mem =>
      obtain rfl := only alone mem
      cases done
      refine .one _ ?_ ?_ ?_
      · simp [CreationState.next, tempId, IdCounter.candidate, connectTypeShift]
      · have none : filterMap ServerCall.id? [.counted] = [] := rfl
        simp [CreationState.next, ids, none, scanForId_eq]
      · simp [ids, ServerCall.id?]
    · cases done
  | serverList connectionId socketFd listed =>
    rw [tableStep] at done
    split at done
    next mem =>
      obtain rfl := only alone mem
      cases done
      refine .none ?_ (Subset.trans ids_list ?_)
      · cases listed <;> simp [CreationState.next, ConnectionTable.list]
      · simp [ids, ServerCall.id?]
    · cases done
  | close socketFd =>
    cases done
    refine .none rfl fun id mem => ?_
    rw [ids, mem_append] at mem ⊢
    exact mem.imp_left fun old => map_subset _ (fun _ => KeyedList.mem_of_mem_remove) old

lemma fresh_iff {property inputs t out}
    (alone : AllSteps (tableStep property) CreatesAlone .init inputs)
    (ran : run (tableStep property) .init inputs = some (t, out)) :
    AllResults (tableStep property) FreshId .init inputs ↔ out.length < 2 ^ 15 := by
  have counted : IdCounter.Counted connectBr CreationState.next ids 0
      init :=
    ⟨rfl, by simp [init, ConnectionTable.init, ids]⟩
  rw [← zero_add out.length]
  exact counted.fresh_iff (by decide) (fun _ _ _ _ => tableStep_allocates) (by decide) alone ran

/-- While creations do not overlap, the search for an id returns and its ids are fresh in exactly
the runs that ask for fewer than `2 ^ 15`. -/
theorem allocNewConnectionId_fresh_iff {property : BrProperty} {inputs : List TableEvent}
    {t : CreationState} {out : List (BitVec 32)}
    (alone : AllSteps (tableStep property) CreatesAlone .init inputs)
    (ran : run (tableStep property) .init inputs = some (t, out)) :
    AllResults (tableStep property) FreshId .init inputs ↔ out.length < 2 ^ 15 :=
  fresh_iff alone ran

def BrProperty.standard : BrProperty where
  brBuffSize := 4096
  brSendPeerLen := 990
  brSendQueueMaxLen := 10
  brBuffSize_pos := by decide
  brBuffSize_le := by decide

/-- One connection from either side; both stay open. -/
def bothSides : List TableEvent :=
  [.connectDevice 7 true, .serverCount, .serverName, .serverList 0x20002 8 true]

theorem allocNewConnectionId_fresh_bothSides :
    ∃ t, run (tableStep .standard) .init bothSides = some (t, [0x20001, 0x20002]) ∧
      t.table.conectionList.map (·.connectionId) = [0x20002, 0x20001] ∧
      AllResults (tableStep .standard) FreshId .init bothSides := by
  have computed : ∃ r ∈ run (tableStep .standard) .init bothSides, r.2 = [0x20001, 0x20002] ∧
      r.1.table.conectionList.map (·.connectionId) = [0x20002, 0x20001] := by
    decide +kernel
  obtain ⟨⟨t, _⟩, ran, rfl, ids⟩ := computed
  exact ⟨t, ran, ids, (allocNewConnectionId_fresh_iff (by decide +kernel) ran).mpr (by decide)⟩

lemma run_givenUp (n : Nat) (next : BitVec 16) : ∃ next' out,
    run (tableStep .standard) ⟨⟨next, []⟩, []⟩ (replicate n (.connectDevice 7 false)) =
      some (⟨⟨next', []⟩, []⟩, out) ∧ out.length = n ∧
    AllSteps (tableStep .standard) CreatesAlone ⟨⟨next, []⟩, []⟩
      (replicate n (.connectDevice 7 false)) := by
  induction n generalizing next with
  | zero => exact ⟨next, [], rfl, rfl, allSteps_nil _ _⟩
  | succ n ih =>
    obtain ⟨next', out, ran, length, alone⟩ := ih (next + 1)
    rw [replicate_succ]
    refine ⟨next', _, run_cons_eq_some.mpr ⟨_, _, _, rfl, ran, rfl⟩, ?_, .cons ?_ rfl alone⟩
    · simp [length]
    · simp [CreatesAlone, TableEvent.begins]

/-- The device cannot be reached `2 ^ 15` times, or two connections come in at the same time. -/
theorem givenUp_or_overlapping_not_fresh :
    ¬ AllResults (tableStep .standard) FreshId .init (replicate (2 ^ 15) (.connectDevice 7 false)) ∧
      ¬ AllResults (tableStep .standard) FreshId .init
        [.serverCount, .serverCount, .serverName, .serverName] := by
  refine ⟨?_, fun fresh => ?_⟩
  · obtain ⟨next, out, ran, length, alone⟩ := run_givenUp (2 ^ 15) 0
    rw [fresh_iff alone ran, length]
    decide
  · obtain ⟨⟨s, out⟩, ran, t, done⟩ : ∃ r ∈ run (tableStep .standard) .init
        [.serverCount, .serverCount, .serverName], ∃ t, tableStep .standard r.1 .serverName =
          some (t, [0x20002]) ∧ 0x20002 ∈ r.1.ids := by
      refine ⟨_, rfl, _, rfl, ?_⟩
      decide
    exact (fresh _ .serverName [] rfl s out ran t _ done.1 _ (mem_singleton_self _)).1 done.2

def openConnection (connectionId socketFd : BitVec 32) : BrConnectionInfo where
  connectionId := connectionId
  socketFd := socketFd
  sideType := .client
  mac := []
  state := .connected
  refCount := 1
  recvBuf := []
  recvPos := 0
  conGestState := btRfcomCongestOff
  requestList := []

end DSoftBus.Br
