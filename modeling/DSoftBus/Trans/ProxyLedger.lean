import DSoftBus.Trans.ProxyChannelManager

/-!
An abstract machine for the proxy channel manager. Its state, the ledger, keeps of a
channel only its role, and of the messages of the loop only the notices and the references
to drop. A move is the least part of a handler after which the books of channels and
connections agree again. `Permits` says what the manager must not be asked to do, which
differs from property to property.
-/
namespace DSoftBus.Proxy

inductive Stage where
  | connecting
  | shaking
  | opened
  | over
deriving DecidableEq

def ProxyChannelStatus.stage : ProxyChannelStatus → Stage
  | .pyhConnecting => .connecting
  | .handshakeing => .shaking
  | .completed | .keepliveing => .opened
  | .pyhConnected | .timeout | .handshakeTimeout => .over

structure Role where
  stage : Stage
  channelId : BitVec 32
  myId : BitVec 16
  connId : BitVec 32
  reqId : BitVec 32
  requested : Option ConnectOption

def ProxyChannel.role (chan : ProxyChannel) : Role :=
  ⟨chan.status.stage, chan.channelId, chan.myId, chan.connId, chan.reqId, chan.requested⟩

namespace Role

def endNotice (role : Role) : Notice :=
  match role.stage with
  | .connecting | .shaking => .openFailed
  | .opened | .over => .closed

/-- A reset only spares the channels that shake hands. -/
def resetNotice (role : Role) : Notice := if role.stage = .shaking then .openFailed else .closed

def waitsFor (reqId : BitVec 32) (role : Role) : Bool :=
  role.reqId = reqId && role.stage = .connecting

def connect (reqId connId : BitVec 32) (role : Role) : Role :=
  if role.waitsFor reqId then { role with stage := .shaking, connId := connId } else role

def open_ (role : Role) : Role := { role with stage := .opened }

end Role

/-- `notes` and `releases` wait in the loop; `counter` is the last one tried for a number. -/
structure Ledger where
  channels : RecordHeap Role
  cnt : BitVec 32
  connections : List ProxyConnInfo
  notes : List (Nat × Notice)
  releases : List (BitVec 32)
  counter : BitVec 16

namespace Ledger

variable (l : Ledger)

def ids : List (BitVec 16) := l.channels.cells.map (·.2.myId)

def add (role : Role) : Ledger :=
  { l with channels := l.channels.alloc role, cnt := l.cnt + 1 }

def drop (h : Nat) : Ledger :=
  { l with channels := l.channels.free h, cnt := l.cnt - 1 }

def dropAll (p : Role → Bool) : Ledger :=
  { l with
    channels := l.channels.freeAll p
    cnt := l.cnt - BitVec.ofNat 32 (l.channels.all p).length }

/-- A record that was never linked, or not for long. -/
def pass : Ledger := { l with channels := l.channels.reserve }

def connectAll (reqId connId : BitVec 32) : Ledger :=
  { l with
    channels := l.channels.map (Role.connect reqId connId)
    connections := (l.channels.all (Role.waitsFor reqId)).foldl
      (fun connections _ => transAddConnRefByConnId connId connections) l.connections }

end Ledger

/-- What is told by the events of a move or of a run. A call ends a use of a connection, and
with `true` the connection. -/
@[ext]
structure Told where
  notes : List (Nat × Notice) := []
  removals : List (Nat × RemovalCause) := []
  additions : List (Nat × Option (BitVec 16)) := []
  calls : List (BitVec 32 × Bool) := []
  requests : List (BitVec 32 × ConnectOption) := []

instance : Append Told where
  append a b :=
    ⟨a.notes ++ b.notes, a.removals ++ b.removals, a.additions ++ b.additions, a.calls ++ b.calls,
      a.requests ++ b.requests⟩

section
variable (a b c : Told)

@[simp] lemma Told.notes_append : (a ++ b).notes = a.notes ++ b.notes := rfl
@[simp] lemma Told.removals_append : (a ++ b).removals = a.removals ++ b.removals := rfl
@[simp] lemma Told.additions_append : (a ++ b).additions = a.additions ++ b.additions := rfl
@[simp] lemma Told.calls_append : (a ++ b).calls = a.calls ++ b.calls := rfl
@[simp] lemma Told.requests_append : (a ++ b).requests = a.requests ++ b.requests := rfl
lemma Told.append_assoc : a ++ b ++ c = a ++ (b ++ c) := by
  ext1 <;> simp

lemma Told.append_nil : a ++ ({} : Told) = a := by
  ext1 <;> simp

lemma Told.nil_append : ({} : Told) ++ a = a := rfl

end

def closeCalls (connId : BitVec 32) (connections : List ProxyConnInfo) : List (BitVec 32 × Bool) :=
  (connId, false) ::
    if (transDecConnRefByConnId connId connections).2 then [(connId, true)] else []

structure Permits where
  adds : Ledger → Bool
  requests : List ProxyConnInfo → ConnectOption → Bool
  acks : Role → (told : Bool) → Bool
  resets : Role → BitVec 32 → Bool
  givesUp : Role → Bool
  shakes : Option Role → Bool

def Permits.everything : Permits where
  adds _ := true
  requests _ _ := true
  acks _ _ := true
  resets _ _ := true
  givesUp _ := true
  shakes _ := true

structure NewRole (permits : Permits) (l : Ledger) (newId : Option (BitVec 16)) (role : Role) :
    Prop where
  allowed : permits.adds l
  found : newId = (findNewMyId l.ids myIdMaxNum l.counter).2
  myId : role.myId = chanNewId newId

/-- A channel is removed and its connection closed at once; `connId` is the one closed. -/
inductive Released (permits : Permits) (role : Role) :
    (connId : BitVec 32) → RemovalCause → Option Notice → Prop where
  | reset {connId} (allowed : permits.resets role connId) :
      Released permits role connId .reset (some role.resetNotice)
  | handshakeFailed (allowed : permits.shakes (some role)) :
      Released permits role role.connId .handshakeFailed (some .openFailed)
  | died (allowed : permits.givesUp role) : Released permits role role.connId .applicationDied none

inductive Move (permits : Permits) (l : Ledger) : Told → Ledger → Prop where
  | quiet (counter) : Move permits l {} { l with counter := counter }
  | acked {h role told} (here : l.channels.get? h = some role)
      (allowed : permits.acks role told) :
      Move permits l { notes := if told then [(h, .opened)] else [] }
        { l with channels := l.channels.modify h Role.open_ }
  | waits {newId role item connInfo} (counter) (new : NewRole permits l newId role)
      (stage : role.stage = .connecting) (connId : role.connId = 0) (known : item ∈ l.connections)
      (connecting : item.state = .pyhConnecting) (reqId : role.reqId = item.requestId)
      (requested : role.requested = some connInfo) (target : connInfo.SameTarget item.connInfo) :
      Move permits l { additions := [(l.channels.next, newId)] }
        { l.add role with counter := counter }
  | attached {newId role item} (counter) (new : NewRole permits l newId role)
      (stage : role.stage = .shaking) (known : item ∈ l.connections)
      (connected : item.state ≠ .pyhConnecting) (connId : role.connId = item.connId) :
      Move permits l { additions := [(l.channels.next, newId)] }
        { l.add role with
          counter := counter
          connections := transAddConnRefByConnId item.connId l.connections }
  | requested {newId role connInfo} (counter) (new : NewRole permits l newId role)
      (stage : role.stage = .connecting) (connId : role.connId = 0)
      (requested : role.requested = some connInfo) : Move permits l
        { additions := [(l.channels.next, newId)], requests := [(role.reqId, connInfo)] }
        { l.add role with
          counter := counter
          connections := ⟨role.reqId, connInfo, 0, 0, .pyhConnecting⟩ :: l.connections }
  | stranded {newId role connInfo item} (counter) (new : NewRole permits l newId role)
      (stage : role.stage = .connecting) (connId : role.connId = 0)
      (allowed : permits.requests l.connections connInfo)
      (unknown : l.connections.find? (ProxyConnInfo.isFor connInfo) = none)
      (found : l.connections.find? (ProxyConnInfo.repeats connInfo) = some item) :
      Move permits l { additions := [(l.channels.next, newId)] }
        { l.add role with counter := counter }
  | woken {item connInfo} (reqId) (allowed : permits.requests l.connections connInfo)
      (known : item ∈ l.connections) (connected : item.state = .pyhConnected) :
      Move permits l {} (l.connectAll reqId item.connId)
  | connected (reqId connId) : Move permits l {}
        ({ l with connections := transSetConnStateByReqId connId reqId l.connections }.connectAll
          reqId connId)
  | admitted {env : Env} {newId role} (counter) (new : NewRole permits l newId role)
      (stage : role.stage = .opened) : Move permits l
        { notes := [(l.channels.next, .opened)], additions := [(l.channels.next, newId)] }
        { l.add role with
          counter := counter
          connections := transCreateConnByConnId role.connId l.connections
            (env.connGetConnectionInfo role.connId) }
  | refused (counter) (told : Bool) :
      Move permits l { notes := if told then [(l.channels.next, .opened)] else [] }
        { l.pass with counter := counter }
  | turnedAway {newId role} (counter) (new : NewRole permits l newId role) : Move permits l
        { notes := [(l.channels.next, .opened), (l.channels.next, .closed)]
          additions := [(l.channels.next, newId)]
          removals := [(l.channels.next, .handshakeFailed)] }
        { l.pass with counter := counter }
  | connectRefused {newId role request} (counter) (new : NewRole permits l newId role) :
      Move permits l
        { additions := [(l.channels.next, newId)]
          requests := [request]
          removals := [(l.channels.next, .connectRefused)] }
        { l.pass with counter := counter }
  | lost (connId : BitVec 32) : Move permits l
        { notes := (l.channels.all (·.connId = connId)).map fun item => (item.1, item.2.endNotice)
          removals := (l.channels.all (·.connId = connId)).map fun item =>
            (item.1, .connectionLost) }
        { l.dropAll (·.connId = connId) with
          connections := transDelConnByConnId connId l.connections }
  | failed (reqId) : Move permits l
        { removals := (l.channels.all (Role.waitsFor reqId)).map fun item =>
            (item.1, .connectFailed) }
        { l.dropAll (Role.waitsFor reqId) with
          connections := transDelConnByReqId reqId l.connections
          notes := l.notes ++ (l.channels.all (Role.waitsFor reqId)).map fun item =>
            (item.1, .openFailed) }
  | closed {h role} (here : l.channels.get? h = some role)
      (allowed : permits.givesUp role) : Move permits l { removals := [(h, .closedLocally)] }
        { l.drop h with releases := l.releases ++ [role.connId] }
  | timedOut {h role} (here : l.channels.get? h = some role)
      (allowed : permits.givesUp role) : Move permits l { removals := [(h, .timeout)] }
        { l.drop h with
          notes := l.notes ++ [(h, role.endNotice)]
          releases := l.releases ++ [role.connId] }
  | released {h role connId cause notice} (here : l.channels.get? h = some role)
      (released : Released permits role connId cause notice) : Move permits l
        { notes := notice.toList.map fun notice => (h, notice)
          removals := [(h, cause)]
          calls := closeCalls connId l.connections }
        { l.drop h with connections := (transDecConnRefByConnId connId l.connections).1 }
  | orphan (allowed : permits.shakes none) : Move permits l { calls := closeCalls 0 l.connections }
        { l with connections := (transDecConnRefByConnId 0 l.connections).1 }
  | releasedLater {connId rest} (first : l.releases = connId :: rest) :
      Move permits l { calls := closeCalls connId l.connections }
        { l with
          releases := rest
          connections := (transDecConnRefByConnId connId l.connections).1 }
  | noticed {note rest} (first : l.notes = note :: rest) :
      Move permits l { notes := [note] } { l with notes := rest }

variable {l l' : Ledger} {told : Told} {permits : Permits}

inductive Moves (permits : Permits) (l : Ledger) : Told → Ledger → Prop where
  | refl : Moves permits l {} l
  | step {told told' l' l''} (before : Moves permits l told l') (move : Move permits l' told' l'') :
      Moves permits l (told ++ told') l''

lemma Moves.trans {l'' told'} (first : Moves permits l told l')
    (next : Moves permits l' told' l'') : Moves permits l (told ++ told') l'' := by
  induction next with
  | refl => rwa [Told.append_nil]
  | step _ move ih =>
    rw [← Told.append_assoc]
    exact ih.step move

lemma Move.moves (move : Move permits l told l') : Moves permits l told l' :=
  Told.nil_append told ▸ Moves.refl.step move

lemma Moves.invariant {I : Ledger → Told → Prop}
    (preserve : ∀ l past told l', I l past → Move permits l told l' → I l' (past ++ told))
    {past} (init : I l past) (moves : Moves permits l told l') : I l' (past ++ told) := by
  induction moves with
  | refl => rwa [Told.append_nil]
  | step _ move ih =>
    rw [← Told.append_assoc]
    exact preserve _ _ _ _ ih move

end DSoftBus.Proxy
