import DSoftBus.Conn.BrConnection

/-!
The reference count of a BR link in br_connection.c. Each device counts the uses of the
connection by both sides: it applies its own change at once and reports it with its count
to the other side in a message of MODULE_CONNECTION. The reader of numbers, which the file
has for itself, refuses negative ones, so a decrease is never applied by the other side,
nor is an increase that leaves the sender with a negative count.

Printing and parsing are inverse on numbers, so a message is the object itself. Any
message in transit may arrive next.
-/
namespace DSoftBus.Br
open Execution KeyedList List Function Option

def keyMethod : String := "KEY_METHOD"
def keyDelta : String := "KEY_DELTA"
def keyReferenceNum : String := "KEY_REFERENCE_NUM"
def methodNotifyRequest : BitVec 32 := 1
def methodNotifyResponse : BitVec 32 := 2
def connectRefIncrese : BitVec 32 := 1
def connectRefDecrese : BitVec 32 := -1

def addNumToJson (requestOrResponse delta count : BitVec 32) : JsonObject :=
  if requestOrResponse = methodNotifyRequest then
    [(keyMethod, .number methodNotifyRequest.toInt), (keyDelta, .number delta.toInt),
      (keyReferenceNum, .number count.toInt)]
  else
    [(keyMethod, .number methodNotifyResponse.toInt), (keyReferenceNum, .number count.toInt)]

def addRef (delta : BitVec 32) (conn : BrConnectionInfo) : BrConnectionInfo :=
  { conn with refCount := conn.refCount + delta }

def packRequest (delta connectionId : BitVec 32) (conns : List BrConnectionInfo) :
    List BrConnectionInfo × Option JsonObject :=
  match getConnectionRef connectionId conns with
  | none => (conns, none)
  | some conn =>
    (update (·.connectionId) connectionId (addRef delta) conns,
      some (addNumToJson methodNotifyRequest delta (conn.refCount + delta)))

/-- `none` stands for SOFTBUS_BRCONNECTION_DISCONNECT_NOTFIND. -/
def disconnectDevice (connectionId : BitVec 32) (conns : List BrConnectionInfo) :
    Option (List BrConnectionInfo × Option JsonObject) :=
  match getConnectionRef connectionId conns with
  | none => none
  | some conn => some (packRequest connectRefDecrese conn.connectionId conns)

inductive RefAction where
  | nothing
  | closeClient (socketFd : BitVec 32)
  | reply (message : JsonObject)

def onPackResponse (delta peerRef connectionId : BitVec 32) (conns : List BrConnectionInfo) :
    List BrConnectionInfo × RefAction :=
  match getConnectionRef connectionId conns with
  | none => (conns, .nothing)
  | some conn =>
    let counted := update (·.connectionId) connectionId (addRef delta) conns
    let myRefCount := conn.refCount + delta
    if 0 < peerRef.toInt then (counted, .nothing)
    else if myRefCount.toInt ≤ 0 then (counted, .closeClient conn.socketFd)
    else (counted, .reply (addNumToJson methodNotifyResponse delta myRefCount))

def reopen (conn : BrConnectionInfo) : BrConnectionInfo :=
  if conn.state = .closing then { conn with state := .connected } else conn

def recvConnectedComd (connectionId : BitVec 32) (data : JsonObject)
    (conns : List BrConnectionInfo) : List BrConnectionInfo × RefAction :=
  match getJsonObjectNumberItem data keyMethod with
  | none => (conns, .nothing)
  | some method =>
    if method = methodNotifyRequest then
      match getJsonObjectNumberItem data keyDelta, getJsonObjectNumberItem data keyReferenceNum with
      | some delta, some referenceNum => onPackResponse delta referenceNum connectionId conns
      | _, _ => (conns, .nothing)
    else if method = methodNotifyResponse then
      match getJsonObjectNumberItem data keyReferenceNum with
      | none => (conns, .nothing)
      | some _ => (update (·.connectionId) connectionId reopen conns, .nothing)
    else (conns, .nothing)

inductive LinkEnd where
  | near
  | far
deriving DecidableEq

open LinkEnd

def LinkEnd.peer : LinkEnd → LinkEnd
  | .near => .far
  | .far => .near

@[simp] lemma LinkEnd.peer_peer (side : LinkEnd) : side.peer.peer = side := by
  cases side <;> rfl

lemma LinkEnd.eq_or_eq_peer (side other : LinkEnd) : side = other ∨ side = other.peer := by
  cases side <;> cases other <;> simp [peer]

lemma LinkEnd.peer_ne (side : LinkEnd) : side.peer ≠ side := by
  cases side <;> simp [peer]

structure LinkState where
  conns : LinkEnd → List BrConnectionInfo
  inbox : LinkEnd → List JsonObject

open LinkState

inductive LinkEvent where
  | connectDevice (side : LinkEnd)
  | disconnectDevice (side : LinkEnd)
  | recvConnectedComd (side : LinkEnd) (pos : Nat)
deriving DecidableEq

inductive LinkOutput where
  | issued (side : LinkEnd) (delta : Int)
  | closed (side : LinkEnd)
deriving DecidableEq

variable (s : LinkState) (side : LinkEnd)

def LinkState.setConns (conns : List BrConnectionInfo) : LinkState :=
  { s with conns := update s.conns side conns }

def LinkState.setInbox (messages : List JsonObject) : LinkState :=
  { s with inbox := update s.inbox side messages }

def LinkState.request (delta : BitVec 32) :
    List BrConnectionInfo × Option JsonObject → LinkState × List LinkOutput
  | (_, none) => (s, [])
  | (conns, some message) =>
    ((s.setConns side conns).setInbox side.peer (s.inbox side.peer ++ [message]),
      [.issued side delta.toInt])

def LinkState.act : RefAction → LinkState × List LinkOutput
  | .nothing => (s, [])
  | .closeClient _ => (s, [.closed side])
  | .reply message => (s.setInbox side.peer (s.inbox side.peer ++ [message]), [])

variable (connectionId : LinkEnd → BitVec 32)

def linkStep (s : LinkState) : LinkEvent → Option (LinkState × List LinkOutput)
  | .connectDevice side =>
    some (s.request side connectRefIncrese
      (packRequest connectRefIncrese (connectionId side) (s.conns side)))
  | .disconnectDevice side =>
    match disconnectDevice (connectionId side) (s.conns side) with
    | none => some (s, [])
    | some result => some (s.request side connectRefDecrese result)
  | .recvConnectedComd side pos =>
    match (s.inbox side)[pos]? with
    | none => none
    | some message =>
      let received := recvConnectedComd (connectionId side) message (s.conns side)
      some (((s.setInbox side ((s.inbox side).eraseIdx pos)).setConns side received.1).act
        side received.2)

def refOf (connectionId : BitVec 32) (conns : List BrConnectionInfo) : Option (BitVec 32) :=
  (getConnectionRef connectionId conns).map (·.refCount)

inductive Report where
  | request (delta count : BitVec 32)
  | response (count : BitVec 32)

namespace Report

def json : Report → JsonObject
  | .request delta count => addNumToJson methodNotifyRequest delta count
  | .response count => addNumToJson methodNotifyResponse 0 count

/-- The receiver applies the change: no number of the request is negative. -/
def applied : Report → Bool
  | .request delta count => 0 ≤ delta.toInt && 0 ≤ count.toInt
  | .response _ => false

def Regular : Report → Prop
  | .request delta _ => delta = connectRefIncrese ∨ delta = connectRefDecrese
  | .response _ => True

def Positive : Report → Prop
  | .request _ count => 0 < count.toInt
  | .response _ => True

lemma applied_increase (count) :
    (request connectRefIncrese count).applied = decide (0 ≤ count.toInt) := by
  have positive : decide (0 ≤ connectRefIncrese.toInt) := rfl
  rw [applied, positive, Bool.true_and]

lemma applied_decrease (count) : (request connectRefDecrese count).applied = false := by
  have negative : decide (0 ≤ connectRefDecrese.toInt) = false := rfl
  rw [applied, negative, Bool.false_and]

end Report

open Report

section
variable {cid delta count peerRef : BitVec 32} {conns : List BrConnectionInfo}

lemma refOf_addRef : refOf cid (update (·.connectionId) cid (addRef delta) conns) =
      (refOf cid conns).map (· + delta) := by
  have keeps (conn) (same : conn.connectionId = cid) :
      (addRef delta conn).connectionId = cid := same
  rw [refOf, getConnectionRef, lookup_update_self keeps, refOf, getConnectionRef,
    Option.map_map, Option.map_map]
  rfl

lemma refOf_reopen : refOf cid (update (·.connectionId) cid reopen conns) = refOf cid conns := by
  have id_reopen (conn) : (reopen conn).connectionId = conn.connectionId := by
    rw [reopen]
    split <;> rfl
  have keeps (conn) (same : conn.connectionId = cid) :
      (reopen conn).connectionId = cid := (id_reopen conn).trans same
  rw [refOf, getConnectionRef, lookup_update_self keeps, Option.map_map, refOf, getConnectionRef]
  congr 1
  funext conn
  rw [comp_apply, reopen]
  split <;> rfl

lemma packRequest_eq (found : refOf cid conns = some count) : packRequest delta cid conns =
      (update (·.connectionId) cid (addRef delta) conns,
        some (Report.request delta (count + delta)).json) := by
  obtain ⟨conn, here, rfl⟩ := map_eq_some_iff.mp found
  rw [packRequest, here]
  rfl

lemma disconnectDevice_eq (found : refOf cid conns = some count) : disconnectDevice cid conns =
      some (packRequest connectRefDecrese cid conns) := by
  obtain ⟨conn, here, rfl⟩ := map_eq_some_iff.mp found
  have same : conn.connectionId = cid := (mem_of_lookup here).2
  simp only [disconnectDevice, here, same]

lemma getJsonObjectNumberItem_number {json name number}
    (found : json.lookup name = some (.number number.toInt)) :
    getJsonObjectNumberItem json name = if 0 ≤ number.toInt then some number else none := by
  rw [getJsonObjectNumberItem, found]
  by_cases negative : number.toInt < 0
  · rw [if_neg (by omega)]
    exact if_pos negative
  · rw [if_pos (by omega), ← BitVec.ofInt_toInt (x := number)]
    simp [negative]

lemma recvConnectedComd_request : recvConnectedComd cid (Report.request delta count).json conns =
      if (Report.request delta count).applied then onPackResponse delta count cid conns
      else (conns, .nothing) := by
  have method : getJsonObjectNumberItem (Report.request delta count).json keyMethod =
      some methodNotifyRequest := rfl
  have delta_eq : getJsonObjectNumberItem (Report.request delta count).json keyDelta =
      if 0 ≤ delta.toInt then some delta else none := getJsonObjectNumberItem_number rfl
  have count_eq : getJsonObjectNumberItem (Report.request delta count).json keyReferenceNum =
      if 0 ≤ count.toInt then some count else none := getJsonObjectNumberItem_number rfl
  rw [recvConnectedComd, method]
  simp only [if_true, delta_eq, count_eq, applied, Bool.and_eq_true, decide_eq_true_eq]
  by_cases first : 0 ≤ delta.toInt <;> by_cases second : 0 ≤ count.toInt <;> simp [first, second]

lemma refOf_recvConnectedComd_response :
    (recvConnectedComd cid (response count).json conns).2 = .nothing ∧
      refOf cid (recvConnectedComd cid (response count).json conns).1 = refOf cid conns := by
  have method : getJsonObjectNumberItem (response count).json keyMethod =
      some methodNotifyResponse := rfl
  have other : methodNotifyResponse ≠ methodNotifyRequest := by decide
  rw [recvConnectedComd, method]
  simp only [if_neg other, if_true]
  split
  · exact ⟨rfl, rfl⟩
  · exact ⟨rfl, refOf_reopen⟩

lemma onPackResponse_count (found : refOf cid conns = some count) :
    refOf cid (onPackResponse delta peerRef cid conns).1 = some (count + delta) ∧
      ((onPackResponse delta peerRef cid conns).2 = .nothing ∨
        (∃ answer, (onPackResponse delta peerRef cid conns).2 =
          .reply (response answer).json) ∨ (peerRef.toInt ≤ 0 ∧ ∃ socketFd,
          (onPackResponse delta peerRef cid conns).2 = .closeClient socketFd)) := by
  have counted : refOf cid
      (update (·.connectionId) cid (addRef delta) conns) = some (count + delta) := by
    rw [refOf_addRef, found]
    rfl
  obtain ⟨conn, here, rfl⟩ := map_eq_some_iff.mp found
  rw [onPackResponse, here]
  dsimp only
  split
  · exact ⟨counted, .inl rfl⟩
  · split
    · exact ⟨counted, .inr (.inr ⟨by omega, _, rfl⟩)⟩
    · exact ⟨counted, .inr (.inl ⟨_, rfl⟩)⟩

end

variable (side : LinkEnd) (outs : List LinkOutput)

/-- The changes by one in either direction that a side has issued. -/
def increases : Nat := outs.count (.issued side 1)

def decreases : Nat := outs.count (.issued side (-1))

def changes (outs : List LinkOutput) : Nat :=
  increases .near outs + decreases .near outs + increases .far outs + decreases .far outs

def netChange (outs : List LinkOutput) : Int :=
  increases .near outs - decreases .near outs + (increases .far outs - decreases .far outs)

lemma changes_eq :
    changes outs = increases side outs + decreases side outs + increases side.peer outs +
      decreases side.peer outs := by
  cases side with
  | near => rfl
  | far =>
    rw [changes]
    simp only [peer]
    omega

lemma netChange_eq : netChange outs = increases side outs - decreases side outs +
      (increases side.peer outs - decreases side.peer outs) := by
  cases side with
  | near => rfl
  | far =>
    rw [netChange]
    simp only [peer]
    omega

/-- A side counts its own changes and those of the other side that were applied. Of the other's
increases, some are on their way and some, fewer than its decreases, are refused. Without a
decrease every count it reports is positive. -/
structure Tally (connectionId : LinkEnd → BitVec 32) (initial : Int) (s : LinkState)
    (outs : List LinkOutput) (side : LinkEnd) (count : BitVec 32) (reports : List Report)
    (got lost : Nat) : Prop where
  found : refOf (connectionId side) (s.conns side) = some count
  inbox : s.inbox side = reports.map json
  regular : ∀ report ∈ reports, report.Regular
  value : count.toInt = initial + increases side outs - decreases side outs + got
  peer : increases side.peer outs = got + reports.countP applied + lost
  refused : lost = 0 ∨ lost < decreases side.peer outs
  positive : decreases side.peer outs = 0 → ∀ report ∈ reports, report.Positive

def Tallied (initial : Int) (s : LinkState) (outs : List LinkOutput) : Prop :=
  ∀ side, ∃ count reports got lost, Tally connectionId initial s outs side count reports got lost

lemma toInt_add_of_small {count delta : BitVec 32} (low : -2 ^ 31 ≤ count.toInt + delta.toInt)
    (high : count.toInt + delta.toInt < 2 ^ 31) :
    (count + delta).toInt = count.toInt + delta.toInt := by
  rw [BitVec.toInt_add]
  exact Int.bmod_eq_of_le (by omega) (by omega)

section
variable {ids : LinkEnd → BitVec 32} {base : Int} {s : LinkState} {outs : List LinkOutput}
  {side : LinkEnd} {count other : BitVec 32} {reports others : List Report}
  {got lost got' lost' : Nat} {delta : BitVec 32}

lemma increases_concat (side outs out) :
    increases side (outs ++ [out]) =
      increases side outs + if out = .issued side 1 then 1 else 0 := by
  rw [increases, count_append, count_singleton]
  simp [increases]

lemma decreases_concat (side outs out) : decreases side (outs ++ [out]) =
      decreases side outs + if out = .issued side (-1) then 1 else 0 := by
  rw [decreases, count_append, count_singleton]
  simp [decreases]

def LinkState.requested (connectionId : LinkEnd → BitVec 32) (s : LinkState) (side : LinkEnd)
    (delta count : BitVec 32) : LinkState :=
  (s.setConns side (update (·.connectionId) (connectionId side) (addRef delta)
      (s.conns side))).setInbox side.peer
    (s.inbox side.peer ++ [(Report.request delta (count + delta)).json])

lemma linkStep_request {event} (found : refOf (ids side) (s.conns side) = some count)
    (kind : (event = .connectDevice side ∧ delta = connectRefIncrese) ∨
      (event = .disconnectDevice side ∧ delta = connectRefDecrese)) : linkStep ids s event =
      some (s.requested ids side delta count, [.issued side delta.toInt]) := by
  rcases kind with ⟨rfl, rfl⟩ | ⟨rfl, rfl⟩
  · rw [linkStep, packRequest_eq found]
    rfl
  · rw [linkStep, disconnectDevice_eq found, packRequest_eq found]
    rfl

/-- A tally depends on the side's own connections and messages and on what was issued. -/
lemma Tally.congr {t outs'} (tally : Tally ids base s outs side count reports got lost)
    (conns : t.conns side = s.conns side) (inbox : t.inbox side = s.inbox side)
    (up : ∀ e, increases e outs' = increases e outs)
    (down : ∀ e, decreases e outs' = decreases e outs) :
    Tally ids base t outs' side count reports got lost where
  found := by rw [conns, tally.found]
  inbox := by rw [inbox, tally.inbox]
  regular := tally.regular
  value := by rw [up, down, tally.value]
  peer := by rw [up, tally.peer]
  refused := by rw [down]; exact tally.refused
  positive := by rw [down]; exact tally.positive

lemma Tally.reply {t} (tally : Tally ids base s outs side count reports got lost) (answer)
    (conns : t.conns side = s.conns side)
    (inbox : t.inbox side = s.inbox side ++ [(response answer).json]) :
    Tally ids base t outs side count (reports ++ [.response answer]) got lost where
  found := by rw [conns, tally.found]
  inbox := by rw [inbox, tally.inbox, map_append]; rfl
  regular := fun report mem => (mem_append.mp mem).elim (tally.regular report)
    fun last => by rw [mem_singleton.mp last]; trivial
  value := tally.value
  peer := by rw [tally.peer, countP_append]; rfl
  refused := tally.refused
  positive := fun none report mem => (mem_append.mp mem).elim (tally.positive none report)
    fun last => by rw [mem_singleton.mp last]; trivial

lemma changes_append (front back) : changes (front ++ back) = changes front + changes back := by
  simp only [changes, increases, decreases, count_append]
  omega

lemma increases_issued_peer (side : LinkEnd) (outs : List LinkOutput) (delta : Int) :
    increases side.peer (outs ++ [.issued side delta]) = increases side.peer outs ∧
      decreases side.peer (outs ++ [.issued side delta]) = decreases side.peer outs := by
  have different (d) : LinkOutput.issued side delta ≠ .issued side.peer d := fun same => by
    injection same with first
    exact side.peer_ne first.symm
  rw [increases_concat, decreases_concat, if_neg (different 1), if_neg (different (-1))]
  exact ⟨rfl, rfl⟩

lemma toInt_deltas : connectRefIncrese.toInt = 1 ∧ connectRefDecrese.toInt = -1 := ⟨rfl, rfl⟩

lemma increases_issued_self (side outs) :
    (increases side (outs ++ [.issued side connectRefIncrese.toInt]) = increases side outs + 1 ∧
      decreases side (outs ++ [.issued side connectRefIncrese.toInt]) = decreases side outs) ∧
    increases side (outs ++ [.issued side connectRefDecrese.toInt]) = increases side outs ∧
      decreases side (outs ++ [.issued side connectRefDecrese.toInt]) =
        decreases side outs + 1 := by
  obtain ⟨up, down⟩ := toInt_deltas
  simp [increases_concat, decreases_concat, up, down]

lemma issued_difference (side : LinkEnd) (outs : List LinkOutput)
    (regular : delta = connectRefIncrese ∨ delta = connectRefDecrese) :
    (increases side (outs ++ [.issued side delta.toInt]) : Int) -
      decreases side (outs ++ [.issued side delta.toInt]) =
      increases side outs - decreases side outs + delta.toInt := by
  obtain ⟨up, down⟩ := toInt_deltas
  have counts := increases_issued_self side outs
  rcases regular with rfl | rfl <;> omega

section

variable (tally : Tally ids base s outs side count reports got lost)
include tally

lemma Tally.request (regular : delta = connectRefIncrese ∨ delta = connectRefDecrese)
    (start : 0 < base) (few : base + changes (outs ++ [.issued side delta.toInt]) < 2 ^ 31) :
    Tally ids base (s.requested ids side delta count)
      (outs ++ [.issued side delta.toInt]) side (count + delta) reports got lost := by
  have others := increases_issued_peer side outs delta.toInt
  have own := issued_difference side outs regular
  have bound := changes_eq side (outs ++ [.issued side delta.toInt])
  have value := tally.value
  have peer := tally.peer
  refine ⟨?_, ?_, tally.regular, ?_, ?_, ?_, ?_⟩
  · simp [LinkState.requested, setInbox, setConns, refOf_addRef, tally.found]
  · simp only [LinkState.requested, setInbox, setConns,
      update_of_ne (Ne.symm side.peer_ne), tally.inbox]
  · rw [toInt_add_of_small] <;> omega
  · rw [others.1, tally.peer]
  · rw [others.2]
    exact tally.refused
  · rw [others.2]
    exact tally.positive

/-- An increase on its way will be refused only if the issuer's count is negative; it has then
issued more decreases than increases. -/
lemma Tally.requested (peerTally : Tally ids base s outs side.peer other others got' lost')
    (regular : delta = connectRefIncrese ∨ delta = connectRefDecrese) (start : 0 < base)
    (few : base + changes (outs ++ [.issued side delta.toInt]) < 2 ^ 31) :
    ∃ lost'', Tally ids base (s.requested ids side delta count)
      (outs ++ [.issued side delta.toInt]) side.peer other
      (others ++ [.request delta (count + delta)]) got' lost'' := by
  have peer := increases_issued_peer side outs delta.toInt
  have counts := increases_issued_self side outs
  have value := (tally.request regular start few).value
  have atIssuer := peerTally.peer
  have refused := peerTally.refused
  have fields (lost'') (balance : increases side (outs ++ [.issued side delta.toInt]) =
        got' + (others ++ [Report.request delta (count + delta)]).countP applied + lost'')
      (fewer : lost'' = 0 ∨ lost'' < decreases side (outs ++ [LinkOutput.issued side delta.toInt]))
      (positive : decreases side (outs ++ [LinkOutput.issued side delta.toInt]) = 0 →
        decreases side outs = 0 ∧ 0 < (count + delta).toInt) :
      Tally ids base (s.requested ids side delta count)
        (outs ++ [.issued side delta.toInt]) side.peer other
        (others ++ [.request delta (count + delta)]) got' lost'' := by
    refine ⟨?_, ?_, ?_, ?_, ?_, ?_, ?_⟩
    · simp only [LinkState.requested, setInbox, setConns,
        update_of_ne side.peer_ne, peerTally.found]
    · simp [LinkState.requested, setInbox, setConns, peerTally.inbox]
    · intro report mem
      rcases mem_append.mp mem with old | last
      · exact peerTally.regular report old
      · rw [mem_singleton.mp last]
        exact regular
    · rw [peer.1, peer.2, peerTally.value]
    · rw [peer_peer]
      exact balance
    · rw [peer_peer]
      exact fewer
    · rw [peer_peer]
      intro none report mem
      obtain ⟨before, now⟩ := positive none
      rcases mem_append.mp mem with old | last
      · exact peerTally.positive (by rwa [peer_peer]) report old
      · rw [mem_singleton.mp last]
        exact now
  rw [peer_peer] at atIssuer refused
  rcases regular with rfl | rfl
  · by_cases taken : 0 ≤ (count + connectRefIncrese).toInt
    · refine ⟨lost', fields lost' ?_ (by omega) fun none => by omega⟩
      rw [countP_append, countP_singleton, applied_increase, if_pos (decide_eq_true taken)]
      omega
    · refine ⟨lost' + 1, fields (lost' + 1) ?_ (by omega) fun none => by omega⟩
      rw [countP_append, countP_singleton, applied_increase, if_neg (by simpa using taken)]
      omega
  · clear value few
    refine ⟨lost', fields lost' ?_ (by omega) fun none => by omega⟩
    rw [countP_append, countP_singleton, applied_decrease, if_neg Bool.false_ne_true]
    omega

lemma Tally.take {pos message} (here : (s.inbox side)[pos]? = some message) :
    ∃ report, report ∈ reports ∧ message = report.json ∧ reports.countP applied =
        (reports.eraseIdx pos).countP applied + (if report.applied then 1 else 0) ∧
      (s.inbox side).eraseIdx pos = (reports.eraseIdx pos).map json := by
  rw [tally.inbox, List.getElem?_map, map_eq_some_iff] at here
  obtain ⟨report, atPos, rfl⟩ := here
  obtain ⟨inside, rfl⟩ := List.getElem?_eq_some_iff.mp atPos
  refine ⟨reports[pos], List.getElem_mem inside, rfl, ?_, ?_⟩
  · rw [← (List.getElem_cons_eraseIdx_perm inside).countP_eq, List.countP_cons]
  · rw [tally.inbox, eraseIdx_map]

/-- The side has dealt with a message: it is gone, and its change is applied or not. -/
lemma Tally.received {t : LinkState} {pos : Nat} {report : Report} {counted : BitVec 32}
    (split : reports.countP applied =
      (reports.eraseIdx pos).countP applied + (if report.applied then 1 else 0))
    (inbox : t.inbox side = (reports.eraseIdx pos).map json)
    (found : refOf (ids side) (t.conns side) = some counted)
    (value : counted.toInt = count.toInt + if report.applied then 1 else 0) :
    Tally ids base t outs side counted (reports.eraseIdx pos)
      (got + if report.applied then 1 else 0) lost where
  found := found
  inbox := inbox
  regular := fun other mem => tally.regular other (mem_of_mem_eraseIdx mem)
  value := by
    rw [value, tally.value]
    split_ifs <;> omega
  peer := by
    rw [tally.peer, split]
    omega
  refused := tally.refused
  positive := fun none other mem => tally.positive none other (mem_of_mem_eraseIdx mem)

end

/-- What the receipt of a message does to the count, and what else it can make the side do. -/
lemma recvConnectedComd_report {report : Report} {conns : List BrConnectionInfo}
    {id : BitVec 32} (regular : report.Regular) (found : refOf id conns = some count)
    (small : report.applied → count.toInt + 1 < 2 ^ 31) :
    ∃ counted, refOf id (recvConnectedComd id report.json conns).1 = some counted ∧
      counted.toInt = count.toInt + (if report.applied then 1 else 0) ∧
      ((recvConnectedComd id report.json conns).2 = .nothing ∨
        (∃ answer, (recvConnectedComd id report.json conns).2 =
          .reply (response answer).json) ∨ (¬ report.Positive ∧ ∃ socketFd,
          (recvConnectedComd id report.json conns).2 = .closeClient socketFd)) := by
  cases report with
  | response answer =>
    have ignored := @refOf_recvConnectedComd_response id answer conns
    obtain ⟨silent, same⟩ := ignored
    exact ⟨count, same.trans found, (add_zero _).symm, .inl silent⟩
  | request delta peerRef =>
    rw [recvConnectedComd_request]
    by_cases taken : (Report.request delta peerRef).applied
    · have increase : delta = connectRefIncrese := by
        refine regular.resolve_right fun decrease => ?_
        simp [decrease, applied_decrease] at taken
      subst increase
      rw [if_pos taken, if_pos taken]
      obtain ⟨counted, action⟩ := @onPackResponse_count id connectRefIncrese count peerRef _ found
      have one : connectRefIncrese.toInt = 1 := rfl
      refine ⟨_, counted, ?_, action.imp_right fun more => more.imp_right fun closes => ?_⟩
      · rw [toInt_add_of_small] <;> rw [one]
        · have := BitVec.le_toInt count
          omega
        · exact small taken
      · exact ⟨fun positive => absurd positive (not_lt.mpr closes.1), closes.2⟩
    · rw [if_neg taken, if_neg taken]
      exact ⟨count, found, (add_zero _).symm, .inl rfl⟩

lemma tallied_of_both {t counted answered}
    (own : Tally ids base t outs side counted reports got lost)
    (peer : Tally ids base t outs side.peer answered others got' lost') :
    Tallied ids base t outs := by
  intro e
  rcases e.eq_or_eq_peer side with rfl | rfl
  · exact ⟨_, _, _, _, own⟩
  · exact ⟨_, _, _, _, peer⟩

lemma Tallied.issued (tallied : Tallied ids base s outs) (start : 0 < base) {event t out}
    (kind : (event = .connectDevice side ∧ delta = connectRefIncrese) ∨
      (event = .disconnectDevice side ∧ delta = connectRefDecrese))
    (stepped : linkStep ids s event = some (t, out)) (few : base + changes outs + 1 < 2 ^ 31) :
    Tallied ids base t (outs ++ out) ∧ out = [.issued side delta.toInt] := by
  obtain ⟨count, reports, got, lost, tally⟩ := tallied side
  obtain ⟨other, others, got', lost', peerTally⟩ := tallied side.peer
  rw [linkStep_request tally.found kind] at stepped
  cases stepped
  have regular := kind.imp And.right And.right
  have few' : base + changes (outs ++ [.issued side delta.toInt]) < 2 ^ 31 := by
    have one := changes_eq side [.issued side delta.toInt]
    have own := increases_issued_self side []
    have peer := increases_issued_peer side [] delta.toInt
    rw [changes_append]
    rcases regular with rfl | rfl <;> simp_all [increases, decreases] <;> omega
  obtain ⟨lost'', arrives⟩ := tally.requested peerTally regular start few'
  exact ⟨tallied_of_both (tally.request regular start few') arrives, rfl⟩

lemma Tallied.received (tallied : Tallied ids base s outs) {pos : Nat}
    {t : LinkState} {out : List LinkOutput}
    (stepped : linkStep ids s (.recvConnectedComd side pos) = some (t, out))
    (few : base + changes outs < 2 ^ 31) : Tallied ids base t (outs ++ out) ∧
      (out = [] ∨ out = [.closed side] ∧ decreases side.peer outs ≠ 0) := by
  obtain ⟨count, reports, got, lost, tally⟩ := tallied side
  obtain ⟨other, others, got', lost', peerTally⟩ := tallied side.peer
  rw [linkStep] at stepped
  split at stepped
  · cases stepped
  rename_i message here
  obtain ⟨report, mem, rfl, split, rest⟩ := tally.take here
  have small (taken : report.applied) : count.toInt + 1 < 2 ^ 31 := by
    have bound := changes_eq side outs
    have peer := tally.peer
    have value := tally.value
    rw [if_pos taken] at split
    omega
  obtain ⟨counted, found, value, action⟩ :=
    recvConnectedComd_report (tally.regular report mem) tally.found small
  generalize recvConnectedComd (ids side) report.json (s.conns side) = received at *
  obtain ⟨conns, does⟩ := received
  have apart := side.peer_ne
  rcases action with nothing | ⟨answer, replies⟩ | ⟨notPositive, socketFd, closes⟩
  · cases nothing
    cases stepped
    refine ⟨?_, .inl rfl⟩
    rw [append_nil]
    refine tallied_of_both (tally.received split ?_ ?_ value) (peerTally.congr ?_ ?_ ?_ ?_)
    all_goals simp [setConns, setInbox, apart, rest, found]
  · cases replies
    cases stepped
    refine ⟨?_, .inl rfl⟩
    rw [append_nil]
    refine tallied_of_both (tally.received split ?_ ?_ value) (peerTally.reply answer ?_ ?_)
    all_goals simp [setConns, setInbox, apart, apart.symm, rest, found]
  · cases closes
    cases stepped
    refine ⟨?_, .inr ⟨rfl, fun none => notPositive (tally.positive none report mem)⟩⟩
    have up (e) : increases e (outs ++ [.closed side]) = increases e outs := by
      simp [increases_concat]
    have down (e) : decreases e (outs ++ [.closed side]) = decreases e outs := by
      simp [decreases_concat]
    refine tallied_of_both ((tally.received split ?_ ?_ value).congr rfl rfl up down)
      (peerTally.congr ?_ ?_ up down)
    all_goals simp [setConns, setInbox, apart, rest, found]

end

variable (events : List LinkEvent)

def deltaSum : Int :=
  events.count (.connectDevice .near) - events.count (.disconnectDevice .near) +
    (events.count (.connectDevice .far) - events.count (.disconnectDevice .far))

def LinkEvent.asksChange : LinkEvent → Bool
  | .connectDevice _ | .disconnectDevice _ => true
  | .recvConnectedComd _ _ => false

def deltaCount : Nat := events.countP LinkEvent.asksChange

lemma deltaCount_eq : deltaCount events = events.count (.connectDevice .near) +
      events.count (.disconnectDevice .near) + events.count (.connectDevice .far) +
      events.count (.disconnectDevice .far) := by
  induction events with
  | nil => rfl
  | cons event rest ih =>
    rw [deltaCount] at ih ⊢
    simp only [countP_cons, count_cons, ih]
    rcases event with side | side | ⟨side, pos⟩ <;> cases side <;>
      simp [LinkEvent.asksChange] <;> omega

section
variable {connectionId : LinkEnd → BitVec 32} {s t : LinkState} {events : List LinkEvent}
  {outs : List LinkOutput}

/-- The outputs issue the changes that the events ask for. -/
def Issues (events : List LinkEvent) (outs : List LinkOutput) : Prop :=
  ∀ side, increases side outs = events.count (.connectDevice side) ∧
    decreases side outs = events.count (.disconnectDevice side)

lemma Issues.changes_eq (issues : Issues events outs) : changes outs = deltaCount events := by
  simp only [changes, deltaCount_eq, issues _]

lemma Issues.append {rest later} (first : Issues events outs) (second : Issues rest later) :
    Issues (events ++ rest) (outs ++ later) := by
  intro side
  have one := first side
  have two := second side
  simp_all [increases, decreases]

lemma linkStep_tallied {base event past out} (start : 0 < base)
    (tallied : Tallied connectionId base s past)
    (stepped : linkStep connectionId s event = some (t, out))
    (few : base + changes past + deltaCount [event] < 2 ^ 31) :
    Tallied connectionId base t (past ++ out) ∧ Issues [event] out ∧
      ((∀ side, decreases side past = 0) → ∀ side, .closed side ∉ out) := by
  obtain ⟨up, down⟩ := toInt_deltas
  cases event with
  | connectDevice side =>
    obtain ⟨now, rfl⟩ := tallied.issued start (.inl ⟨rfl, rfl⟩) stepped few
    exact ⟨now, fun e => by simp [increases, decreases, up, count_singleton], by simp⟩
  | disconnectDevice side =>
    obtain ⟨now, rfl⟩ := tallied.issued start (.inr ⟨rfl, rfl⟩) stepped few
    exact ⟨now, fun e => by simp [increases, decreases, down, count_singleton], by simp⟩
  | recvConnectedComd side pos =>
    obtain ⟨now, rfl | ⟨rfl, negative⟩⟩ := tallied.received stepped (by omega)
    · exact ⟨now, fun e => ⟨rfl, rfl⟩, by simp⟩
    · exact ⟨now, fun e => ⟨rfl, rfl⟩, fun none => absurd (none _) negative⟩

/-- The connection is up on both sides with the same count, and nothing is on its way. -/
def Fresh (connectionId : LinkEnd → BitVec 32) (initial : BitVec 32) (s : LinkState) : Prop :=
  ∀ side, refOf (connectionId side) (s.conns side) = some initial ∧ s.inbox side = []

lemma Fresh.tallied {base} (fresh : Fresh connectionId base s) :
    Tallied connectionId base.toInt s [] := by
  intro side
  refine ⟨base, [], 0, 0, (fresh side).1, (fresh side).2, ?_, ?_, rfl, .inl rfl, ?_⟩
  · simp
  · simp [increases, decreases]
  · simp

/-- As long as the count does not overflow, each side can be accounted for; and no side closes
the link while no decrease is issued. -/
lemma run_tallied {base past} (start : 0 < base) (tallied : Tallied connectionId base s past)
    (few : base + changes past + deltaCount events < 2 ^ 31)
    (reached : run (linkStep connectionId) s events = some (t, outs)) :
    Tallied connectionId base t (past ++ outs) ∧ Issues events outs ∧
      ((∀ side, decreases side (past ++ outs) = 0) → ∀ side, .closed side ∉ outs) := by
  induction events generalizing s past outs with
  | nil =>
    cases reached
    exact ⟨by rwa [append_nil], fun side => ⟨rfl, rfl⟩, by simp⟩
  | cons event rest ih =>
    obtain ⟨u, out, later, stepped, hRest, rfl⟩ := run_cons_eq_some.mp reached
    have both : deltaCount (event :: rest) = deltaCount [event] + deltaCount rest :=
      @countP_append _ _ [event] rest
    obtain ⟨now, issues, quiet⟩ := linkStep_tallied start tallied stepped (by omega)
    obtain ⟨after, issuesLater, quietLater⟩ := ih now
      (by rw [changes_append, issues.changes_eq]; omega) hRest
    rw [← append_assoc]
    refine ⟨after, issues.append issuesLater, fun none side mem => ?_⟩
    rcases mem_append.mp mem with first | second
    · refine quiet (fun e => ?_) side first
      have all := none e
      simp only [decreases, count_append] at all ⊢
      omega
    · exact quietLater none side second

/-- Each side's count is the initial one plus all changes, and the link was only ever closed when
that sum was not positive. -/
def Agreed (connectionId : LinkEnd → BitVec 32) (initial : BitVec 32) (events : List LinkEvent)
    (t : LinkState) (outs : List LinkOutput) : Prop :=
  (∀ side, ∃ count, refOf (connectionId side) (t.conns side) = some count ∧
    count.toInt = initial.toInt + deltaSum events) ∧
  Justified (fun before out => ∀ side, out = .closed side →
    initial.toInt + netChange before ≤ 0) outs

/-- A decrease is never applied by the other side, so the counts agree just when nothing was
disconnected. -/
theorem refCount_agreed_iff {initial : BitVec 32} (start : 0 < initial.toInt)
    (fresh : Fresh connectionId initial s)
    (reached : run (linkStep connectionId) s events = some (t, outs))
    (delivered : ∀ side, t.inbox side = [])
    (few : initial.toInt + deltaCount events < 2 ^ 31) : Agreed connectionId initial events t outs ↔
      ∀ side, LinkEvent.disconnectDevice side ∉ events := by
  have nothing : changes [] = 0 := rfl
  obtain ⟨tallied, issues, quiet⟩ := run_tallied start fresh.tallied (by omega) reached
  rw [nil_append] at tallied quiet
  have sum : netChange outs = deltaSum events := by
    simp only [netChange, deltaSum, issues _]
  have none_iff : (∀ side, decreases side outs = 0) ↔
      ∀ side, LinkEvent.disconnectDevice side ∉ events := by
    simp only [issues _, count_eq_zero]
  rw [← none_iff]
  -- With nothing on its way, the other side's increases are applied or lost.
  have settled (side) : ∃ (count : BitVec 32) (lost : Nat),
      refOf (connectionId side) (t.conns side) = some count ∧
      count.toInt = initial.toInt + deltaSum events + decreases side.peer outs - lost ∧
      (lost = 0 ∨ lost < decreases side.peer outs) := by
    obtain ⟨count, reports, got, lost, tally⟩ := tallied side
    have empty : reports = [] := by
      have inbox := tally.inbox
      rw [delivered side] at inbox
      exact map_eq_nil_iff.mp inbox.symm
    have peer := tally.peer
    have value := tally.value
    rw [empty, countP_nil] at peer
    refine ⟨count, lost, tally.found, ?_, tally.refused⟩
    rw [← sum, netChange_eq side]
    omega
  constructor
  · rintro ⟨agree, _⟩ side
    obtain ⟨count, found, expected⟩ := agree side.peer
    obtain ⟨counted, lost, foundAgain, value, refused⟩ := settled side.peer
    rw [found, some.injEq] at foundAgain
    subst foundAgain
    rw [peer_peer] at value refused
    omega
  · intro none
    refine ⟨fun side => ?_, fun before out after split side closes => ?_⟩
    · obtain ⟨count, lost, found, value, refused⟩ := settled side
      have zero := none side.peer
      exact ⟨count, found, by omega⟩
    · refine absurd ?_ (quiet none side)
      rw [split, closes]
      exact mem_append_right before mem_cons_self

end

def usedOnce : LinkState where
  conns _ := [openConnection 0x20001 7]
  inbox _ := []

def connectBoth : List LinkEvent :=
  [.connectDevice .near, .connectDevice .far, .recvConnectedComd .far 0, .recvConnectedComd .near 0]

theorem refCount_agreed_connectBoth :
    ∃ t outs, run (linkStep fun _ => 0x20001) usedOnce connectBoth = some (t, outs) ∧
      (∀ side, t.inbox side = []) ∧ Agreed (fun _ => 0x20001) 1 connectBoth t outs := by
  obtain ⟨t, outs, reached, delivered⟩ : ∃ t outs,
      run (linkStep fun _ => 0x20001) usedOnce connectBoth = some (t, outs) ∧
        ∀ side, t.inbox side = [] := ⟨_, _, rfl, fun side => by cases side <;> rfl⟩
  refine ⟨t, outs, reached, delivered, ?_⟩
  refine (refCount_agreed_iff (by decide) ?_ reached delivered (by decide)).mpr ?_
  · exact fun side => ⟨rfl, rfl⟩
  · intro side
    cases side <;> decide

/-- The near side disconnects; the far side gets the message and still counts a use. -/
theorem disconnect_not_agreed : ∃ t outs, Fresh (fun _ => 0x20001) 1 usedOnce ∧
      run (linkStep fun _ => 0x20001) usedOnce
        [.disconnectDevice .near, .recvConnectedComd .far 0] = some (t, outs) ∧
      (∀ side, t.inbox side = []) ∧
      (t.conns .near).map (·.refCount) = [0] ∧ (t.conns .far).map (·.refCount) = [1] ∧
      ¬ Agreed (fun _ => 0x20001) 1
        [.disconnectDevice .near, .recvConnectedComd .far 0] t outs := by
  refine ⟨_, _, ?_, rfl, ?_, rfl, rfl, ?_⟩
  · intro side
    exact ⟨rfl, rfl⟩
  · intro side
    cases side <;> rfl
  · rintro ⟨agree, _⟩
    obtain ⟨count, found, value⟩ := agree .far
    cases found
    revert value
    decide

end DSoftBus.Br
