import DSoftBus.Conn.BrReference

/-!
Connect requests in br_connection.c. A request for a connected device is answered at once;
one for a device that is being connected waits in the connection's list; the first one for
a device opens a socket, puts a record with the request into `g_conection_list` and starts
the driver, whose events answer what waits. A record whose driver refuses to start stays
as CONNECTING: no event comes for it, and later requests wait in it. The handler of a lost
connection takes `g_connectionLock`, a default mutex, a second time and waits for itself.

Calls of ConnectDevice are numbered to tell the callbacks of equal request ids apart. The
check for other devices is made before the lock; it passes if all calls are for one device.
Addresses are zero-padded C strings, and memory is never short.
-/
namespace DSoftBus.Br
open List hiding lookup
open Execution KeyedList

def btMacLen : Nat := 18

/-- `sscanf_s` reports the end of the input only if there is nothing but white space. -/
def convertBtMacToBinary (mac : Bytes) : Bool :=
  mac.any fun c => !(c = 32 || (9 ≤ c && c ≤ 13))

/-- `strncpy_s` into an array of BT_MAC_LEN bytes, which is emptied if there is no room for the
terminator. -/
def strncpyMac (mac : Bytes) : Bytes := if mac.length < btMacLen then mac else []

inductive ConnectRet where
  | ok
  | err
  | getSocketIdFail
  | driver (ret : BitVec 32)
deriving DecidableEq

inductive ConnectOutput where
  | returned (call : Nat) (ret : ConnectRet)
  | onConnectSuccessed (request : RequestInfo) (connectionId : BitVec 32)
  | onConnectFailed (request : RequestInfo) (reason : BitVec 32)
  | driverConnected (socketFd : BitVec 32)
  | sppEvent (socketFd : BitVec 32)
deriving DecidableEq

open ConnectOutput

/-- The answer of OpenSppClient, `SOFTBUS_ERR` if there is no socket, and that of Connect. -/
structure SppDriver where
  socketFd : BitVec 32
  ret : BitVec 32

/-- A mismatch ends the scan. -/
def hasDiffMacDeviceExit (mac : Bytes) : List BrConnectionInfo → Bool
  | [] => false
  | item :: rest =>
    if item.mac = mac ∧ item.sideType = .client then hasDiffMacDeviceExit mac rest else true

/-- The connections after the scan for the device, its calls, the connection that ended it, and
whether the device was found. -/
structure ConnectScan where
  conns : List BrConnectionInfo
  outs : List ConnectOutput
  connected : Option (BitVec 32)
  found : Bool

/-- Only a record that is CONNECTED ends the scan. -/
def scanForDevice (mac : Bytes) (request : RequestInfo) : List BrConnectionInfo → ConnectScan
  | [] => ⟨[], [], none, false⟩
  | item :: rest =>
    let later := scanForDevice mac request rest
    if item.mac = mac then
      match item.state with
      | .connected => ⟨item :: rest, [], some item.connectionId, true⟩
      | .connecting =>
        ⟨{ item with requestList := request :: item.requestList } :: later.conns,
          later.outs, later.connected, true⟩
      | .closing =>
        ⟨item :: later.conns, .onConnectFailed request 0 :: later.outs, later.connected, true⟩
      | .closed => ⟨item :: later.conns, later.outs, later.connected, true⟩
    else ⟨item :: later.conns, later.outs, later.connected, later.found⟩

variable (property : BrProperty)

def connectDeviceFristTime (mac : Bytes) (request : RequestInfo)
    (driver : SppDriver) (table : ConnectionTable) :
    ConnectionTable × List ConnectOutput × ConnectRet :=
  let created := createBrconnectionNode property table
  let node := { created.1 with
    requestList := [request], mac := strncpyMac mac, state := .connecting, sideType := .client }
  if !convertBtMacToBinary node.mac then (created.2, [], .err)
  else if driver.socketFd = -1 then (created.2, [], .getSocketIdFail)
  else
    let listed := { created.2 with
      conectionList := { node with socketFd := driver.socketFd } :: created.2.conectionList }
    if driver.ret = 0 then (listed, [.driverConnected driver.socketFd], .ok)
    else (listed, [], .driver driver.ret)

def connectDevice (mac : Bytes) (request : RequestInfo)
    (driver : SppDriver) (table : ConnectionTable) :
    ConnectionTable × List ConnectOutput × ConnectRet :=
  if hasDiffMacDeviceExit mac table.conectionList then (table, [], .err)
  else
    let scan := scanForDevice mac request table.conectionList
    match scan.connected with
    | some connectionId =>
      -- ConnectDeviceExit
      ({ table with
          conectionList := (packRequest connectRefIncrese connectionId scan.conns).1 },
        scan.outs ++ [.onConnectSuccessed request connectionId], .ok)
    | none =>
      if scan.found then ({ table with conectionList := scan.conns }, scan.outs, .ok)
      else connectDeviceFristTime property mac request driver table

def deviceConnectPackRequest (value : Nat) (connectionId : BitVec 32)
    (conns : List BrConnectionInfo) : List BrConnectionInfo :=
  (fun conns => (packRequest connectRefIncrese connectionId conns).1)^[value - 1] conns

/-- The requests are moved to another list one by one, which turns their order round. -/
def clientOnBrConnect (socketFd : BitVec 32) (table : ConnectionTable) :
    ConnectionTable × List ConnectOutput :=
  match lookup (·.socketFd) socketFd table.conectionList with
  | none => (table, [])
  | some conn =>
    let conns := update (·.socketFd) socketFd
      (fun conn => { conn with state := .connected, requestList := [] }) table.conectionList
    if conn.connectionId = 0 then ({ table with conectionList := conns }, [])
    else
      ({ table with conectionList :=
          deviceConnectPackRequest conn.requestList.length conn.connectionId conns },
        conn.requestList.reverse.map (.onConnectSuccessed · conn.connectionId))

/-- Whether it waits for ever comes second: ReleaseConnectionRef locks what this thread has locked.
Before that the requests were moved to a list of the handler, which nobody reads any more. -/
def clientOnBrDisconnect (socketFd : BitVec 32) (table : ConnectionTable) :
    ConnectionTable × Bool :=
  match lookup (·.socketFd) socketFd table.conectionList with
  | none => (table, true)
  | some conn =>
    -- InitConnectionInfo fails if there is no room for the address.
    let room := conn.mac.length < btMacLen
    let close (conn : BrConnectionInfo) := { conn with
      state := .closed
      conGestState := btRfcomCongestOff
      requestList := if room then [] else conn.requestList }
    ({ table with conectionList := update (·.socketFd) socketFd close table.conectionList }, room)

/-- `blocked` says that a thread waits for `g_connectionLock` and holds it. -/
structure ConnectState where
  table : ConnectionTable
  calls : Nat
  blocked : Bool

def ConnectState.init : ConnectState := ⟨.init, 0, false⟩

inductive ConnectEvent where
  | connectDevice (mac : Bytes) (requestId : BitVec 32) (driver : SppDriver)
  | clientOnBrConnect (socketFd : BitVec 32)
  | clientOnBrDisconnect (socketFd : BitVec 32)

/-- What needs the lock does nothing more once it is lost, and a call does not return. -/
def connectStep (s : ConnectState) : ConnectEvent → Option (ConnectState × List ConnectOutput)
  | .connectDevice mac requestId driver =>
    if s.blocked && !hasDiffMacDeviceExit mac s.table.conectionList then
      some ({ s with calls := s.calls + 1 }, [])
    else
      let result := connectDevice property mac ⟨requestId, s.calls⟩ driver s.table
      some ({ s with table := result.1, calls := s.calls + 1 },
        result.2.1 ++ [.returned s.calls result.2.2])
  | .clientOnBrConnect socketFd =>
    let result := if s.blocked then (s.table, []) else clientOnBrConnect socketFd s.table
    some ({ s with table := result.1 }, .sppEvent socketFd :: result.2)
  | .clientOnBrDisconnect socketFd =>
    let result := if s.blocked then (s.table, true) else clientOnBrDisconnect socketFd s.table
    some ({ s with table := result.1, blocked := result.2 }, [.sppEvent socketFd])

def ConnectOutput.answers (call : Nat) : ConnectOutput → Bool
  | .onConnectSuccessed request _ | .onConnectFailed request _ => request.callback = call
  | _ => false

def answersOf (call : Nat) (outs : List ConnectOutput) : Nat :=
  outs.countP (answers call)

def ConnectOutput.returned? (call : Nat) : ConnectOutput → Option ConnectRet
  | .returned other ret => if other = call then some ret else none
  | _ => none

def returnsOf (call : Nat) (outs : List ConnectOutput) : List ConnectRet :=
  outs.filterMap (returned? call)

def waitingOf (call : Nat) (conns : List BrConnectionInfo) : Nat :=
  (conns.flatMap (·.requestList)).countP (·.callback = call)

def Awaited (fd : BitVec 32) (past : List ConnectOutput) : Prop :=
  ∃ before since, past = before ++ .driverConnected fd :: since ∧ .sppEvent fd ∉ since

structure ForDevice (mac : Bytes) (node : BrConnectionInfo) : Prop where
  mac_eq : node.mac = mac
  side : node.sideType = .client
  id_ne_zero : node.connectionId ≠ 0

inductive Listed (mac : Bytes) (past : List ConnectOutput) : List BrConnectionInfo → Prop
  | empty : Listed mac past []
  | connecting {node : BrConnectionInfo} (device : ForDevice mac node)
      (state : node.state = .connecting) (awaited : Awaited node.socketFd past) :
      Listed mac past [node]
  | connected {node : BrConnectionInfo} (device : ForDevice mac node)
      (state : node.state = .connected) (none : node.requestList = []) : Listed mac past [node]

/-- Every call has returned once, and each request of one that returned SOFTBUS_OK is answered or
waits. -/
structure Serving (mac : Bytes) (s : ConnectState) (past : List ConnectOutput) : Prop where
  running : s.blocked = false
  listed : Listed mac past s.table.conectionList
  balance : ∀ call, answersOf call past + waitingOf call s.table.conectionList =
    (returnsOf call past).count .ok
  returns : ∀ call, (returnsOf call past).length = if call < s.calls then 1 else 0

section
variable (call : Nat) (past out : List ConnectOutput)

lemma answersOf_append : answersOf call (past ++ out) = answersOf call past + answersOf call out :=
  countP_append ..

lemma returnsOf_append : returnsOf call (past ++ out) = returnsOf call past ++ returnsOf call out :=
  filterMap_append ..

lemma answersOf_map {answer : RequestInfo → ConnectOutput} (requests : List RequestInfo)
    (answers : ∀ request, (answer request).answers call = (request.callback = call)) :
    answersOf call (requests.reverse.map answer) = requests.countP (·.callback = call) := by
  rw [answersOf, countP_map, countP_reverse]
  exact countP_congr fun request _ => by simp [answers]

lemma returnsOf_map {requests : List RequestInfo} {answer : RequestInfo → ConnectOutput}
    (none : ∀ request, (answer request).returned? call = none) :
    returnsOf call (requests.map answer) = [] := by
  rw [returnsOf, filterMap_map]
  simp [none]

end

section
variable {node : BrConnectionInfo} {connectionId : BitVec 32}

lemma packRequest_single (delta node) :
    ∃ refCount,
      (packRequest delta connectionId [node]).1 = [{ node with refCount := refCount }] := by
  by_cases same : node.connectionId = connectionId
  · refine ⟨node.refCount + delta, ?_⟩
    simp [packRequest, getConnectionRef, lookup, update, same, addRef]
  · refine ⟨node.refCount, ?_⟩
    simp [packRequest, getConnectionRef, lookup, same]

lemma deviceConnectPackRequest_single (value node) :
    ∃ refCount, deviceConnectPackRequest value connectionId [node] =
      [{ node with refCount := refCount }] := by
  rw [deviceConnectPackRequest]
  induction value - 1 generalizing node with
  | zero => exact ⟨node.refCount, rfl⟩
  | succ n ih =>
    obtain ⟨first, now⟩ := @packRequest_single connectionId connectRefIncrese node
    obtain ⟨last, later⟩ := ih { node with refCount := first }
    refine ⟨last, ?_⟩
    rw [Function.iterate_succ_apply, now, later]

end

lemma tempId_toInt (next) : (tempId next).toInt = 2 ^ 17 + next.toInt := by
  have low := BitVec.le_toInt next
  have high := @BitVec.toInt_lt 16 next
  have type : (connectBr <<< connectTypeShift).toInt = 2 ^ 17 := by decide
  rw [tempId, BitVec.toInt_add, BitVec.toInt_signExtend_of_le (by decide), type]
  exact Int.bmod_eq_of_le (by omega) (by omega)

/-- An id of a connection is not the one that stands for none in ClientOnBrConnect. -/
lemma tempId_ne (next) : tempId next ≠ 0 := by
  have low := BitVec.le_toInt next
  have value := tempId_toInt next
  have zero : (0 : BitVec 32).toInt = 0 := by decide
  intro same
  rw [same] at value
  omega

lemma Awaited.append {fd past out} (awaited : Awaited fd past)
    (quiet : .sppEvent fd ∉ out) : Awaited fd (past ++ out) := by
  obtain ⟨before, since, rfl, none⟩ := awaited
  refine ⟨before, since ++ out, by rw [append_assoc, cons_append], fun mem => ?_⟩
  exact (mem_append.mp mem).elim none quiet

section
variable {mac : Bytes} {s : ConnectState} {past out : List ConnectOutput}
  {table : ConnectionTable}

lemma Serving.advance {more calls} (serving : Serving mac s past)
    (listed : Listed mac (past ++ more) table.conectionList)
    (moved : ∀ call, answersOf call more + waitingOf call table.conectionList =
      waitingOf call s.table.conectionList + (returnsOf call more).count .ok)
    (returns : ∀ call, (returnsOf call past).length + (returnsOf call more).length =
      if call < calls then 1 else 0) :
    Serving mac { s with table := table, calls := calls } (past ++ more) := by
  refine ⟨serving.running, listed, fun call => ?_, fun call => ?_⟩
  · change _ + waitingOf call table.conectionList = _
    have before := serving.balance call
    have now := moved call
    rw [returnsOf_append, answersOf_append, count_append]
    omega
  · rw [returnsOf_append, length_append, returns]

lemma Serving.call {ret} (serving : Serving mac s past)
    (listed : Listed mac (past ++ (out ++ [.returned s.calls ret])) table.conectionList)
    (silent : ∀ call, returnsOf call out = [])
    (moved : ∀ call, answersOf call out + waitingOf call table.conectionList =
      waitingOf call s.table.conectionList + if call = s.calls ∧ ret = .ok then 1 else 0) :
    Serving mac { s with table := table, calls := s.calls + 1 }
      (past ++ (out ++ [.returned s.calls ret])) := by
  have returned (call) : returnsOf call (out ++ [.returned s.calls ret]) =
      if call = s.calls then [ret] else [] := by
    rw [returnsOf_append, silent, nil_append]
    by_cases same : call = s.calls
    · simp [returnsOf, returned?, same]
    · simp [returnsOf, returned?, same, Ne.symm same]
  refine serving.advance listed (fun call => ?_) fun call => ?_
  · have none : answersOf call [.returned s.calls ret] = 0 := rfl
    rw [returned, answersOf_append, none, add_zero, moved]
    by_cases same : call = s.calls <;> simp [same, count_singleton]
  · rw [returned, serving.returns]
    by_cases same : call = s.calls
    · simp [same]
    · have shift : call < s.calls + 1 ↔ call < s.calls := by omega
      simp [same, shift]

variable {fd : BitVec 32} {result : ConnectionTable × List ConnectOutput × ConnectRet}

lemma Serving.event (serving : Serving mac s past)
    (listed : Listed mac (past ++ .sppEvent fd :: out) table.conectionList)
    (silent : ∀ call, returnsOf call out = [])
    (moved : ∀ call, answersOf call out + waitingOf call table.conectionList =
      waitingOf call s.table.conectionList) :
    Serving mac { s with table := table } (past ++ .sppEvent fd :: out) := by
  have none (call) : returnsOf call (.sppEvent fd :: out) = [] := silent call
  refine serving.advance listed (fun call => ?_) fun call => ?_
  · have same : answersOf call (.sppEvent fd :: out) = answersOf call out := by
      simp [answersOf, answers]
    rw [none, same, moved]
    rfl
  · rw [none, serving.returns]
    rfl

lemma waitingOf_single (call node) :
    waitingOf call [node] = node.requestList.countP (·.callback = call) := by
  rw [waitingOf, flatMap_singleton]

variable {property : BrProperty} {requestId : BitVec 32} {conns : List BrConnectionInfo}

lemma Serving.frist {driver} (serving : Serving mac s past)
    (empty : s.table.conectionList = []) (works : driver.socketFd ≠ -1 → driver.ret = 0)
    (hRes : connectDeviceFristTime property mac ⟨requestId, s.calls⟩ driver s.table = result) :
    Serving mac { s with table := result.1, calls := s.calls + 1 }
      (past ++ (result.2.1 ++ [.returned s.calls result.2.2])) := by
  have createdEmpty : (createBrconnectionNode property s.table).2.conectionList = [] := empty
  have refused (ret) (bad : ret ≠ .ok) :
      Serving mac
        { s with table := (createBrconnectionNode property s.table).2, calls := s.calls + 1 }
        (past ++ ([] ++ [.returned s.calls ret])) := by
    refine serving.call ?_ (fun _ => rfl) fun call => ?_
    · rw [createdEmpty]
      exact .empty
    · rw [createdEmpty, empty, if_neg (fun both => bad both.2)]
      rfl
  subst hRes
  rw [connectDeviceFristTime]
  dsimp only
  by_cases valid : convertBtMacToBinary (strncpyMac mac)
  · have short : mac.length < btMacLen := by
      by_contra long
      rw [strncpyMac, if_neg long] at valid
      cases valid
    rw [valid]
    by_cases noSocket : driver.socketFd = -1
    · simpa [noSocket] using refused .getSocketIdFail (by decide)
    simp only [Bool.not_true, Bool.false_eq_true, if_false, if_neg noSocket, works noSocket,
      if_true]
    rw [createdEmpty]
    refine serving.call ?_ (fun _ => rfl) fun call => ?_
    · refine .connecting ⟨if_pos short, rfl, tempId_ne (s.table.nextConnectionId + 1)⟩ rfl ?_
      exact ⟨past, [.returned s.calls .ok], rfl, by simp⟩
    · rw [empty, waitingOf_single]
      by_cases same : call = s.calls
      · simp [answersOf, answers, waitingOf, same]
      · simp [answersOf, answers, waitingOf, same, Ne.symm same]
  · simpa [valid] using refused .err (by decide)

lemma connectDevice_serving {driver} (serving : Serving mac s past)
    (works : driver.socketFd ≠ -1 → driver.ret = 0)
    (hRes : connectDevice property mac ⟨requestId, s.calls⟩ driver s.table = result) :
    Serving mac { s with table := result.1, calls := s.calls + 1 }
      (past ++ (result.2.1 ++ [.returned s.calls result.2.2])) := by
  have listed := serving.listed
  cases conns : s.table.conectionList with
  | nil =>
    apply serving.frist conns works
    rw [← hRes, connectDevice, conns]
    rfl
  | cons node rest =>
    rw [conns] at listed
    have alone : hasDiffMacDeviceExit mac s.table.conectionList = false := by
      rw [conns]
      cases listed with
      | connecting device | connected device =>
        simp [hasDiffMacDeviceExit, device.mac_eq, device.side]
    rw [connectDevice, alone, conns] at hRes
    cases listed with
    | connecting device state awaited =>
      simp only [scanForDevice, device.mac_eq, state, if_true, Bool.false_eq_true, if_false] at hRes
      subst hRes
      refine serving.call (.connecting ⟨rfl, device.side, device.id_ne_zero⟩ rfl
        (awaited.append (by simp))) (fun _ => rfl) fun call => ?_
      rw [conns, waitingOf_single, waitingOf_single, countP_cons]
      by_cases same : call = s.calls
      · simp [answersOf, same]
      · simp [answersOf, same, Ne.symm same]
    | connected device state none =>
      simp only [scanForDevice, device.mac_eq, state, if_true, Bool.false_eq_true, if_false] at hRes
      obtain ⟨refCount, counted⟩ := @packRequest_single node.connectionId connectRefIncrese node
      rw [counted, nil_append] at hRes
      subst hRes
      refine serving.call (.connected ⟨device.mac_eq, device.side, device.id_ne_zero⟩ state none)
        (fun _ => rfl) fun call => ?_
      rw [conns, waitingOf_single, waitingOf_single, none]
      by_cases same : call = s.calls
      · simp [answersOf, answers, same]
      · simp [answersOf, answers, same, Ne.symm same]

lemma Listed.other (listed : Listed mac past conns) (absent : lookup (·.socketFd) fd conns = none) :
    Listed mac (past ++ [.sppEvent fd]) conns := by
  cases listed with
  | empty => exact .empty
  | connected device state none => exact .connected device state none
  | connecting device state awaited =>
    refine .connecting device state (awaited.append fun mem => ?_)
    have same := mem_singleton.mp mem
    injection same with same
    exact lookup_eq_none.mp absent _ (mem_singleton_self _) same

lemma Listed.found {node} (listed : Listed mac past conns)
    (found : lookup (·.socketFd) fd conns = some node) :
    conns = [node] ∧ node.socketFd = fd ∧ ForDevice mac node := by
  obtain ⟨mem, key⟩ := mem_of_lookup found
  cases listed with
  | empty => cases mem
  | connecting device | connected device =>
    rw [mem_singleton.mp mem] at key ⊢
    exact ⟨rfl, key, device⟩

lemma clientOnBrConnect_serving (serving : Serving mac s past) (fd : BitVec 32) :
    Serving mac { s with table := (clientOnBrConnect fd s.table).1 }
      (past ++ .sppEvent fd :: (clientOnBrConnect fd s.table).2) := by
  have listed := serving.listed
  rw [clientOnBrConnect]
  cases found : lookup (·.socketFd) fd s.table.conectionList with
  | none => exact serving.event (listed.other found) (fun _ => rfl) fun _ => zero_add _
  | some node =>
    obtain ⟨conns, key, device⟩ := listed.found found
    dsimp only
    rw [if_neg device.id_ne_zero, conns, update, if_pos key]
    obtain ⟨refCount, counted⟩ := @deviceConnectPackRequest_single
      node.connectionId node.requestList.length
      { node with state := .connected, requestList := [] }
    rw [counted]
    refine serving.event (.connected ⟨device.mac_eq, device.side, device.id_ne_zero⟩ rfl rfl)
      (fun call => ?_) fun call => ?_
    · exact returnsOf_map call fun _ => rfl
    · rw [answersOf_map _ _ fun _ => by simp [answers], conns, waitingOf_single,
        waitingOf_single]
      rfl

end

def ConnectEvent.For (mac : Bytes) : ConnectEvent → Prop
  | .connectDevice other _ _ => other = mac
  | _ => True

/-- The driver accepts the socket it has opened, and no connection is lost. -/
def ConnectEvent.Connects : ConnectEvent → Prop
  | .connectDevice _ _ driver => driver.socketFd ≠ -1 → driver.ret = 0
  | .clientOnBrConnect _ => True
  | .clientOnBrDisconnect _ => False

lemma connectStep_serving {property mac s t past out event} (serving : Serving mac s past)
    (same : event.For mac) (works : event.Connects)
    (stepped : connectStep property s event = some (t, out)) : Serving mac t (past ++ out) := by
  obtain ⟨table, calls, blocked⟩ := s
  cases show blocked = false from serving.running
  cases event with
  | connectDevice other requestId driver =>
    cases same
    cases stepped
    exact connectDevice_serving serving works rfl
  | clientOnBrConnect fd =>
    cases stepped
    exact clientOnBrConnect_serving serving fd
  | clientOnBrDisconnect => exact works.elim

variable (outs : List ConnectOutput)

def DriverAnswers : Prop :=
  Followed (fun out since => ∀ fd, out = .driverConnected fd → .sppEvent fd ∈ since) outs

def AnsweredAtMostOnce : Prop :=
  ∀ call ret, .returned call ret ∈ outs → answersOf call outs ≤ if ret = .ok then 1 else 0

def AnsweredOnce : Prop :=
  ∀ call ret, .returned call ret ∈ outs → answersOf call outs = if ret = .ok then 1 else 0

lemma Serving.count_ok {mac s past} (serving : Serving mac s past) {call ret}
    (returned : .returned call ret ∈ past) :
    (returnsOf call past).count .ok = if ret = .ok then 1 else 0 := by
  have mem : ret ∈ returnsOf call past :=
    mem_filterMap.mpr ⟨.returned call ret, returned, if_pos rfl⟩
  have length := serving.returns call
  have one : (returnsOf call past).length = 1 := by
    have positive := length_pos_of_mem mem
    split at length <;> omega
  obtain ⟨only, single⟩ := length_eq_one_iff.mp one
  rw [single] at mem ⊢
  rw [mem_singleton.mp mem, count_singleton]
  simp

lemma Serving.waitingOf_eq_zero {mac s past} (serving : Serving mac s past)
    (answers : DriverAnswers past) (call) : waitingOf call s.table.conectionList = 0 := by
  have listed := serving.listed
  generalize s.table.conectionList = conns at listed
  cases listed with
  | empty => rfl
  | connected device state none =>
    rw [waitingOf_single, none]
    rfl
  | connecting device state awaited =>
    obtain ⟨before, since, split, none⟩ := awaited
    exact absurd (answers before _ since split _ rfl) none

/-- As long as the driver accepts the sockets it opens and no connection is lost, every request
whose call returned SOFTBUS_OK gets one answer and the others get none. -/
theorem connectDevice_answered {property : BrProperty} {mac : List UInt8} {t : ConnectState}
    {events : List ConnectEvent} {outs : List ConnectOutput}
    (same : ∀ event ∈ events, event.For mac) (works : ∀ event ∈ events, event.Connects)
    (reached : run (connectStep property) .init events = some (t, outs)) :
    AnsweredAtMostOnce outs ∧ (DriverAnswers outs → AnsweredOnce outs) := by
  have guarded : AllSteps (connectStep property)
      (fun _ event => event.For mac ∧ event.Connects) .init events := by
    intro pre event post split _ _ _
    have mem : event ∈ events := by
      rw [split]
      exact mem_append_right pre mem_cons_self
    exact ⟨same event mem, works event mem⟩
  have serving : Serving mac t ([] ++ outs) := run_invariant
    (fun _ _ _ _ _ serving ok stepped => connectStep_serving serving ok.1 ok.2 stepped)
    ⟨rfl, .empty, fun _ => rfl, fun _ => rfl⟩ guarded reached
  rw [nil_append] at serving
  constructor
  · intro call ret returned
    rw [← serving.count_ok returned, ← serving.balance call]
    exact Nat.le_add_right _ _
  · intro answers call ret returned
    rw [← serving.count_ok returned, ← serving.balance call,
      serving.waitingOf_eq_zero answers call, add_zero]

def peerMac : Bytes := cString "00:00:00:00:00:01"

theorem connectDevice_answered_twoCalls : ∃ t outs, run (connectStep .standard) .init
        [.connectDevice peerMac 1 ⟨7, 0⟩, .connectDevice peerMac 2 ⟨7, 0⟩,
          .clientOnBrConnect 7] = some (t, outs) ∧ DriverAnswers outs ∧ AnsweredOnce outs := by
  have computed : (run (connectStep .standard) .init
      [.connectDevice peerMac 1 ⟨7, 0⟩, .connectDevice peerMac 2 ⟨7, 0⟩,
        .clientOnBrConnect 7]).map (·.2) =
      some [.driverConnected 7, .returned 0 .ok, .returned 1 .ok, .sppEvent 7,
        .onConnectSuccessed ⟨1, 0⟩ 0x20001, .onConnectSuccessed ⟨2, 1⟩ 0x20001] := by
    decide +kernel
  obtain ⟨⟨t, outs⟩, hRun, rfl⟩ := Option.map_eq_some_iff.mp computed
  have answers : DriverAnswers [.driverConnected 7, .returned 0 .ok, .returned 1 .ok, .sppEvent 7,
      .onConnectSuccessed ⟨1, 0⟩ 0x20001, .onConnectSuccessed ⟨2, 1⟩ 0x20001] := by
    simp [DriverAnswers, followed_cons, followed_nil]
  refine ⟨t, _, hRun, answers, (@connectDevice_answered _ peerMac _ _ _ ?_ ?_ hRun).2 answers⟩
  · simp [ConnectEvent.For]
  · simp [ConnectEvent.Connects]

/-- The driver has done its part, and a call that returned SOFTBUS_OK has no answer. -/
def Unanswered (events : List ConnectEvent) : Prop :=
  ∃ t outs, run (connectStep .standard) .init events = some (t, outs) ∧ DriverAnswers outs ∧
    ¬ AnsweredOnce outs

lemma unanswered_of {events outs call}
    (result : (run (connectStep .standard) .init events).map (·.2) = some outs)
    (answers : DriverAnswers outs) (returned : .returned call .ok ∈ outs)
    (none : answersOf call outs = 0) : Unanswered events := by
  obtain ⟨⟨t, _⟩, hRun, rfl⟩ := Option.map_eq_some_iff.mp result
  refine ⟨t, _, hRun, answers, fun once => ?_⟩
  have answered := once call .ok returned
  rw [none] at answered
  cases answered

/-- The driver refuses the first call's socket: the second call waits in its record, returns
SOFTBUS_OK and is not answered. Or the connection cannot be made: the event for the socket gets
no further than the lock, and the call is not answered either. -/
theorem refused_or_lost_unanswered :
    Unanswered [.connectDevice peerMac 1 ⟨7, -1⟩, .connectDevice peerMac 2 ⟨8, 0⟩] ∧
      Unanswered [.connectDevice peerMac 1 ⟨7, 0⟩, .clientOnBrDisconnect 7] := by
  have refused : (run (connectStep .standard) .init
      [.connectDevice peerMac 1 ⟨7, -1⟩, .connectDevice peerMac 2 ⟨8, 0⟩]).map (·.2) =
      some [.returned 0 (.driver (-1)), .returned 1 .ok] := by
    decide +kernel
  have lost : (run (connectStep .standard) .init
      [.connectDevice peerMac 1 ⟨7, 0⟩, .clientOnBrDisconnect 7]).map (·.2) =
      some [.driverConnected 7, .returned 0 .ok, .sppEvent 7] := by
    decide +kernel
  refine ⟨@unanswered_of _ _ 1 refused ?_ (by decide) (by decide),
    @unanswered_of _ _ 0 lost ?_ (by decide) (by decide)⟩
  · simp [DriverAnswers, followed_cons, followed_nil]
  · simp [DriverAnswers, followed_cons, followed_nil]

end DSoftBus.Br
