import DSoftBus.Trans.ProxyAck
import DSoftBus.Trans.TdcClient

/-!
Synchronous sends as concurrent calls of TransProxyTransDataSendSyncMsg and of
TransTdcSendMessage, named by their type, channel and sequence number, in which they
differ. A call posts its message, registers its entry, waits on its condition, reads the
result and removes the entry; other threads can come in between. The acknowledgement
arrives at any time after the posting, once.

The wait ends by a signal, at its deadline, or without any cause, as POSIX allows; a
signal to an entry whose sender does not wait is lost.
-/
namespace DSoftBus.Pending
open ByteString Execution KeyedList List Option Function PendingPktInfo

structure SendId where
  type : PendingType
  channelId : BitVec 32
  seq : BitVec 32
deriving DecidableEq

def SendId.key (id : SendId) : BitVec 32 × BitVec 32 := (id.channelId, id.seq)

inductive Phase where
  | idle
  | posted
  | registered
  | waiting
  | woken
  | checked (ret : SoftBusErrNo)
  | returned (ret : SoftBusErrNo)
deriving DecidableEq

/-- Both sends go on to ProcPendingPacket only if the message could be posted. -/
def Phase.afterPost (ret : SoftBusErrNo) : Phase :=
  if ret ≠ .ok then .returned ret else .posted

def Phase.signal : Phase → Phase
  | .waiting => .woken
  | phase => phase

/-- `inFlight` are the posted messages whose acknowledgement has not been delivered. -/
structure World where
  pendingList : PendingType → List PendingPktInfo
  phase : SendId → Phase
  expired : SendId → Bool
  inFlight : SendId → Bool

namespace World

def init : World := ⟨fun _ => [], fun _ => .idle, fun _ => false, fun _ => false⟩

variable (w : World) (id : SendId)

def setPhase (phase : Phase) : World :=
  { w with phase := update w.phase id phase }

def setList (w : World) (type : PendingType) (list : List PendingPktInfo) : World :=
  { w with pendingList := update w.pendingList type list }

def signal : World := w.setPhase id (w.phase id).signal

def setInFlight (sent : Bool) : World :=
  { w with inFlight := update w.inFlight id sent }

end World

/-- The number under which the handler of an acknowledgement looks for the entry. The
acknowledgement of a TCP-direct channel is sent in network byte order. -/
def ackedSeq : PendingType → BitVec 32 → BitVec 32
  | .proxy, seq => getWord 32 4 (putWord 4 seq).reverse
  | .direct, seq => getWord 32 4 (putWord 4 seq).reverse.reverse

lemma ackedSeq_direct (seq) : ackedSeq .direct seq = seq := by
  have read := @getWord_putWord_append 32 4 (by decide) seq []
  rwa [append_nil, ← reverse_reverse (putWord 4 seq)] at read

lemma transProxyProcSendMsgAck_acked (env cid seq) :
    (Proxy.transProxyProcSendMsgAck env cid (putWord Proxy.proxyAckSize seq)).2 =
      [.setPendingPacket cid (ackedSeq .proxy seq)] := by
  have len : (putWord Proxy.proxyAckSize seq).length = Proxy.proxyAckSize := length_putWord ..
  rw [Proxy.transProxyProcSendMsgAck, if_neg (not_not.mpr len)]
  rfl

lemma transTdcSetPendingPacket_acked (cid seq) :
    Tdc.transTdcSetPendingPacket cid (putWord Tdc.ackSize seq).reverse =
      [.setPendingPacket cid (ackedSeq .direct seq)] := by
  have len : (putWord Tdc.ackSize seq).reverse.length = Tdc.ackSize := by
    rw [length_reverse, length_putWord]
  rw [Tdc.transTdcSetPendingPacket, if_neg (not_not.mpr len)]
  rfl

/-- What the call returns if the wait, where it comes to one, ends with `pending`. -/
def Phase.outcome (pending : SoftBusErrNo) : Phase → SoftBusErrNo
  | .returned ret => ret
  | _ => pending

lemma transProxyTransDataSendSyncMsg_outcome (env channels cid payLoad flag seq) :
    (Proxy.transProxyTransDataSendSyncMsg env channels cid payLoad flag seq).2.1 =
      (Phase.afterPost (Proxy.transProxyTransDataSendMsg env channels cid payLoad
        flag).2.1).outcome (env.procPendingPacket cid seq) := by
  simp only [Proxy.transProxyTransDataSendSyncMsg, Phase.afterPost]
  split <;> rfl

lemma transTdcSendMessage_outcome (env) {channels cid channel} (data)
    (found : lookup Tdc.TcpDirectChannelInfo.channelId cid channels = some channel) :
    (Tdc.transTdcSendMessage env channels cid data).2 =
      (Phase.afterPost (Tdc.transTdcProcessPostData env channel data .message)).outcome
        (env.procPendingPacket cid channel.sequence) := by
  simp only [Tdc.transTdcSendMessage, Tdc.transTdcGetInfoByIdWithIncSeq, found, Phase.afterPost]
  split <;> rfl

inductive SendInput where
  | post (id : SendId) (ret : SoftBusErrNo)
  | register (id : SendId)
  | wait (id : SendId)
  | expire (id : SendId)
  | wake (id : SendId)
  | check (id : SendId)
  | remove (id : SendId)
  | ack (id : SendId)
  | delete (type : PendingType) (channelId : BitVec 32)

inductive SendEvent where
  | acked
  | expired
  | returned (ret : SoftBusErrNo)
deriving DecidableEq

variable (w : World)

/-- One step of a sender, of its clock, of the receiver or of a deletion; a step that is
not due has no result. -/
def step : SendInput → Option (World × List (SendId × SendEvent))
  | .post id ret =>
    if w.phase id = .idle then
      let w := w.setPhase id (.afterPost ret)
      if ret ≠ .ok then some (w, [(id, .returned ret)])
      else some (w.setInFlight id true, [])
    else none
  | .register id =>
    if w.phase id = .posted then
      match addPendingPacket (w.pendingList id.type) id.channelId id.seq with
      | .error ret => some (w.setPhase id (.returned ret), [(id, .returned ret)])
      | .ok list => some ((w.setList id.type list).setPhase id .registered, [])
    else none
  -- a wait whose deadline has passed already does not block
  | .wait id =>
    if w.phase id = .registered then
      some (w.setPhase id (if w.expired id then .woken else .waiting), [])
    else none
  | .expire id =>
    if w.phase id ≠ .idle ∧ w.phase id ≠ .posted ∧ w.expired id = false then
      some ({ w.signal id with expired := update w.expired id true }, [(id, .expired)])
    else none
  | .wake id => if w.phase id = .waiting then some (w.signal id, []) else none
  | .check id =>
    if w.phase id = .woken then
      (lookup key id.key (w.pendingList id.type)).map fun item =>
        (w.setPhase id (.checked item.result), [])
    else none
  | .remove id =>
    match w.phase id with
    | .checked ret =>
      some ((w.setList id.type (removePendingPacket (w.pendingList id.type) id.channelId
        id.seq)).setPhase id (.returned ret), [(id, .returned ret)])
    | _ => none
  | .ack id =>
    if w.inFlight id then
      let seq := ackedSeq id.type id.seq
      let set := setPendingPacket (w.pendingList id.type) id.channelId seq
      let w := w.setInFlight id false
      let after := w.setList id.type set.1
      some (if set.2 = .ok then after.signal ⟨id.type, id.channelId, seq⟩ else after,
        [(id, .acked)])
    else none
  | .delete type channelId =>
    match delPendingPacket (w.pendingList type) channelId with
    | some item => some (w.signal ⟨type, item.channelId, item.seq⟩, [])
    | none => some (w, [])

def history (id : SendId) (trace : List (SendId × SendEvent)) : List SendEvent :=
  trace.filterMap fun o => if o.1 = id then some o.2 else none

/-- What concerns one send: where it stands, whether its entry is found if it has one, and
whether its time is up. -/
structure SendView where
  phase : Phase
  entry : Option Bool
  expired : Bool

namespace World
variable (w : World) (id : SendId)

def entry : Option Bool := (lookup key id.key (w.pendingList id.type)).map (·.finded)

def view : SendView := ⟨w.phase id, w.entry id, w.expired id⟩

end World

def Phase.listed : Phase → Bool
  | .idle | .posted | .returned _ => false
  | .registered | .waiting | .woken | .checked _ => true

def Phase.awaiting : Phase → Bool
  | .registered | .waiting | .woken => true
  | _ => false

inductive Move (v : SendView) : SendView → List SendEvent → Prop where
  | stay : Move v v []
  | post (idle : v.phase = .idle) : Move v { v with phase := .posted } []
  | refuse (idle : v.phase = .idle) {ret : SoftBusErrNo} (failed : ret ≠ .ok) :
      Move v { v with phase := .returned ret } [.returned ret]
  | register (posted : v.phase = .posted) (new : v.entry = none) :
      Move v ⟨.registered, some false, v.expired⟩ []
  | wait (registered : v.phase = .registered) :
      Move v { v with phase := if v.expired then .woken else .waiting } []
  | expire (started : v.phase ≠ .idle ∧ v.phase ≠ .posted) :
      Move v { v with phase := v.phase.signal, expired := true } [.expired]
  | signal : Move v { v with phase := v.phase.signal } []
  | check (woken : v.phase = .woken) {finded : Bool} (present : v.entry = some finded) :
      Move v { v with phase := .checked (if finded then .ok else .timout) } []
  | remove {ret : SoftBusErrNo} (checked : v.phase = .checked ret) :
      Move v ⟨.returned ret, none, v.expired⟩ [.returned ret]
  | acked (due : v.expired ∨ v.phase.awaiting) (present : v.entry ≠ none) :
      Move v ⟨v.phase.signal, some true, v.expired⟩ [.acked]
  | missed (due : v.expired ∨ v.phase.awaiting) (absent : v.entry = none) : Move v v [.acked]

def InTime (h : List SendEvent) : Prop :=
  ∃ before after, h = before ++ .acked :: after ∧ .expired ∉ before

lemma inTime_concat {h e} (inTime : InTime (h ++ [e])) : InTime h ∨ e = .acked ∧ .expired ∉ h := by
  obtain ⟨before, after, split, fresh⟩ := inTime
  cases eq_nil_or_concat after with
  | inl last =>
    rw [last] at split
    obtain ⟨rfl, tail⟩ := append_inj' split rfl
    cases tail
    exact .inr ⟨rfl, fresh⟩
  | inr inner =>
    obtain ⟨rest, last, rfl⟩ := inner
    rw [concat_eq_append, ← cons_append, ← append_assoc] at split
    exact .inl ⟨before, rest, (append_inj' split rfl).1, fresh⟩

/-- An entry exists as long as the call may look at it, and nobody waits too long. -/
structure Shaped (v : SendView) : Prop where
  listed : v.entry.isSome = v.phase.listed
  blocked : v.phase = .waiting → v.expired = false

structure Recorded (v : SendView) (h : List SendEvent) : Prop where
  expired : .expired ∈ h ↔ v.expired
  returned : ∀ ret, .returned ret ∈ h → v.phase = .returned ret

structure Deserved (v : SendView) (h : List SendEvent) : Prop where
  found : v.entry = some true → .acked ∈ h
  success : v.phase = .checked .ok ∨ v.phase = .returned .ok → .acked ∈ h

def SendView.Succeeds (v : SendView) : Prop :=
  match v.phase with
  | .idle | .posted => False
  | .registered | .waiting | .woken => v.entry = some true
  | .checked ret | .returned ret => ret = .ok

section
variable {v v' : SendView} {h events : List SendEvent}

lemma signal_listed (phase : Phase) : phase.signal.listed = phase.listed := by
  cases phase <;> rfl

lemma signal_ne_waiting (phase : Phase) : phase.signal ≠ .waiting := by
  cases phase <;> nofun

lemma Shaped.move (shaped : Shaped v) (move : Move v v' events) : Shaped v' := by
  obtain ⟨listed, blocked⟩ := shaped
  cases move with
  | stay | missed _ _ => exact ⟨listed, blocked⟩
  | post idle | refuse idle _ => exact ⟨by rw [listed, idle]; rfl, nofun⟩
  | register _ _ | remove _ => exact ⟨rfl, nofun⟩
  | wait registered =>
    refine ⟨?_, fun waits => ?_⟩
    · rw [listed, registered]
      cases v.expired <;> rfl
    · cases late : v.expired with
      | false => rfl
      | true => simp [late] at waits
  | expire _ | signal =>
    exact ⟨by rw [listed, signal_listed], fun waits => absurd waits (signal_ne_waiting _)⟩
  | check woken _ => exact ⟨by rw [listed, woken]; rfl, nofun⟩
  | acked _ has =>
    refine ⟨?_, fun waits => absurd waits (signal_ne_waiting _)⟩
    rw [signal_listed, ← listed, isSome_some, isSome_iff_ne_none.mpr has]

lemma Recorded.move (recorded : Recorded v h) (move : Move v v' events) :
    Recorded v' (h ++ events) := by
  obtain ⟨expired, returned⟩ := recorded
  -- a call that goes on has not returned before
  have unreturned (open_ : ∀ ret, v.phase ≠ .returned ret) (ret) :
      .returned ret ∉ h := fun mem => open_ ret (returned ret mem)
  have signalled : ∀ ret, .returned ret ∈ h → v.phase.signal = .returned ret := by
    intro ret mem
    rw [returned ret mem]
    rfl
  cases move with
  | stay | missed _ _ => exact ⟨by simpa using expired, by simpa using returned⟩
  | post here | register here _ | check here _ =>
    have fresh := unreturned (by simp [here])
    exact ⟨by simpa using expired, by simpa using fresh⟩
  | refuse here _ | wait here | remove here =>
    have fresh := unreturned (by simp [here])
    exact ⟨by simpa using expired, by simp [fresh]⟩
  | expire _ => exact ⟨by simp, by simpa using signalled⟩
  | signal | acked _ has => exact ⟨by simpa using expired, by simpa using signalled⟩

lemma Deserved.move (deserved : Deserved v h) (move : Move v v' events) :
    Deserved v' (h ++ events) := by
  obtain ⟨found, success⟩ := deserved
  have signalled : v.phase.signal = .checked .ok ∨ v.phase.signal = .returned .ok → .acked ∈ h := by
    intro ended
    refine success ?_
    cases phase : v.phase <;> simp_all [Phase.signal]
  cases move with
  | stay => exact ⟨by simpa using found, by simpa using success⟩
  | post _ => exact ⟨by simpa using found, by simp⟩
  | refuse _ failed => exact ⟨by simpa using found, by simp [failed]⟩
  | register _ _ | acked _ _ | missed _ _ => exact ⟨by simp, by simp⟩
  | wait _ => exact ⟨by simpa using found, by simp only [append_nil]; split <;> nofun⟩
  | expire _ | signal => exact ⟨by simpa using found, by simpa using signalled⟩
  | @check _ finded has =>
    cases finded with
    | true => exact ⟨by simpa using found, fun _ => by simpa using found has⟩
    | false => exact ⟨by simpa using found, by simp⟩
  | @remove ret checked =>
    refine ⟨nofun, fun ended => ?_⟩
    have ok : ret = .ok := by simpa using ended
    exact mem_append_left _ (success (.inl (by rw [checked, ok])))

/-- A signal, an acknowledgement and the clock do no harm to a send that will succeed. -/
lemma SendView.Succeeds.signal (wins : v.Succeeds) {entry}
    (kept : v.entry = some true → entry = some true) (expired) :
    (SendView.mk v.phase.signal entry expired).Succeeds := by
  obtain ⟨phase, old, late⟩ := v
  cases phase with
  | idle | posted => exact wins
  | registered | waiting | woken => exact kept wins
  | checked ret | returned ret => exact wins

lemma SendView.Succeeds.move (wins : v.Succeeds) (move : Move v v' events) : v'.Succeeds := by
  cases move with
  | stay | missed _ _ => exact wins
  | post idle | refuse idle _ =>
    rw [Succeeds, idle] at wins
    exact wins.elim
  | register posted _ =>
    rw [Succeeds, posted] at wins
    exact wins.elim
  | wait registered =>
    rw [Succeeds, registered] at wins
    rw [Succeeds]
    cases v.expired with
    | true => exact wins
    | false => exact wins
  | expire _ => exact wins.signal id true
  | signal => exact wins.signal id v.expired
  | @check woken finded has =>
    rw [Succeeds, woken] at wins
    have found : finded := some.inj (has.symm.trans wins)
    rw [found]
    rfl
  | remove checked =>
    rw [Succeeds, checked] at wins
    exact wins
  | acked _ _ => exact wins.signal (fun _ => rfl) v.expired

structure Sound (v : SendView) (h : List SendEvent) : Prop where
  shaped : Shaped v
  recorded : Recorded v h
  deserved : Deserved v h
  timely : InTime h → v.Succeeds

lemma Sound.timely_move (sound : Sound v h) (move : Move v v' events)
    (inTime : InTime (h ++ events)) : v'.Succeeds := by
  have old (before : InTime h) : v'.Succeeds := (sound.timely before).move move
  -- an acknowledgement that is new and in time finds the entry before the result is read
  have due (mine : v.expired ∨ v.phase.awaiting) (fresh : .expired ∉ h) : v.phase.awaiting := by
    cases mine with
    | inl late => exact absurd (sound.recorded.expired.mpr late) fresh
    | inr awaiting => exact awaiting
  cases move with
  | stay | post _ | register _ _ | wait _ | signal | check _ _ =>
    rw [append_nil] at inTime
    exact old inTime
  | refuse _ _ | expire _ | remove _ =>
    cases inTime_concat inTime with
    | inl before => exact old before
    | inr new => cases new.1
  | acked mine has =>
    cases inTime_concat inTime with
    | inl before => exact old before
    | inr new =>
      have awaiting := due mine new.2
      rw [SendView.Succeeds]
      cases phase : v.phase <;> simp_all [Phase.awaiting, Phase.signal]
  | missed mine absent =>
    cases inTime_concat inTime with
    | inl before => exact old before
    | inr new =>
      have awaiting := due mine new.2
      have listed := sound.shaped.listed
      rw [absent] at listed
      cases phase : v.phase <;> simp_all [Phase.awaiting, Phase.listed]

lemma Sound.move (sound : Sound v h) (move : Move v v' events) : Sound v' (h ++ events) :=
  ⟨sound.shaped.move move, sound.recorded.move move, sound.deserved.move move,
    sound.timely_move move⟩

end

section
variable {w : World} {id j : SendId}

lemma key_ne (other : j ≠ id) (same : j.type = id.type) : j.key ≠ id.key := by
  intro keys
  obtain ⟨channels, seqs⟩ := Prod.mk.inj keys
  exact other (by cases j; cases id; simp_all)

namespace World

lemma view_setPhase_self (phase) :
    (w.setPhase id phase).view id = ⟨phase, w.entry id, w.expired id⟩ := by
  simp [view, setPhase, entry]

lemma view_setPhase_of_ne (other : j ≠ id) (phase) : (w.setPhase id phase).view j = w.view j := by
  simp only [view, setPhase, update_of_ne other, entry]

lemma view_signal_self :
    (w.signal id).view id = ⟨(w.phase id).signal, w.entry id, w.expired id⟩ := view_setPhase_self _

lemma view_signal_of_ne (other : j ≠ id) : (w.signal id).view j = w.view j :=
  view_setPhase_of_ne other _

lemma entry_setList_self (list) : (w.setList id.type list).entry id =
      (lookup key id.key list).map (·.finded) := by
  simp [entry, setList]

lemma view_setList_of_same {type list}
    (same : j.type = type → lookup key j.key list = lookup key j.key (w.pendingList type)) :
    (w.setList type list).view j = w.view j := by
  by_cases here : j.type = type
  · subst here
    rw [view, entry_setList_self, same rfl]
    rfl
  · simp only [view, entry, setList, update_of_ne here]

end World

lemma history_self (e) : history id [(id, e)] = [e] := by
  simp [history]

end

/-- An acknowledgement is looked up under its number while the entry is registered and the
result not read, unless the time is up. When a channel is deleted, the entry of a sender that
waits on it is the newest. -/
def Undisturbed : SendInput → Prop
  | .ack id => ackedSeq id.type id.seq = id.seq ∧ (w.expired id ∨ (w.phase id).awaiting)
  | .delete type channelId => ∀ item ∈ w.pendingList type, item.channelId = channelId →
      w.phase ⟨type, item.channelId, item.seq⟩ = .waiting →
      delPendingPacket (w.pendingList type) channelId = some item
  | _ => True

instance (w : World) (i : SendInput) : Decidable (Undisturbed w i) := by
  unfold Undisturbed
  split <;> infer_instance

def Distinct : Prop := ∀ type, ((w.pendingList type).map key).Nodup

section
variable {w u : World} {out : List (SendId × SendEvent)} {id : SendId}
open World

/-- What a step is for each of the sends. -/
def Stepped (w u : World) (out : List (SendId × SendEvent)) : Prop :=
  Distinct u ∧ ∀ j, Move (w.view j) (u.view j) (history j out)

lemma stepped_of_own (id : SendId) (uniq : Distinct u)
    (events : out = [] ∨ ∃ e, out = [(id, e)]) (frame : ∀ j, j ≠ id → u.view j = w.view j)
    (own : Move (w.view id) (u.view id) (history id out)) : Stepped w u out := by
  refine ⟨uniq, fun j => ?_⟩
  by_cases mine : j = id
  · rw [mine]
    exact own
  have silent : history j out = [] := by
    cases events with
    | inl none => rw [none]; rfl
    | inr some =>
      obtain ⟨e, rfl⟩ := some
      simp [history, Ne.symm mine]
  rw [frame j mine, silent]
  exact .stay

variable (uniq : Distinct w)
include uniq

lemma distinct_setList {type list} (nodup : (list.map key).Nodup) :
    Distinct (w.setList type list) := by
  intro other
  by_cases here : other = type
  · simpa only [setList, here, update_self] using nodup
  · simpa only [setList, update_of_ne here] using uniq other

lemma post_stepped {ret} (h : step w (.post id ret) = some (u, out)) : Stepped w u out := by
  rw [step] at h
  split at h
  next idle =>
    split at h
    next failed =>
      cases h
      refine stepped_of_own id uniq (.inr ⟨_, rfl⟩)
        (fun j other => view_setPhase_of_ne other _) ?_
      rw [view_setPhase_self, history_self, Phase.afterPost, if_pos failed]
      exact .refuse idle failed
    next sent =>
      cases h
      refine stepped_of_own id uniq (.inl rfl) (fun j other => view_setPhase_of_ne other _) ?_
      change Move _ ((w.setPhase id (.afterPost ret)).view id) []
      rw [view_setPhase_self, Phase.afterPost, if_neg sent]
      exact .post idle
  · cases h

/-- No other send has the number, so there is no entry with it yet. -/
lemma register_stepped (shaped : Shaped (w.view id))
    (h : step w (.register id) = some (u, out)) : Stepped w u out := by
  rw [step] at h
  split at h
  next posted =>
    rw [addPendingPacket] at h
    have unlisted : (w.entry id).isSome = false :=
      shaped.listed.trans (congrArg Phase.listed posted)
    cases found : lookup key (id.channelId, id.seq)
        (w.pendingList id.type) with
    | some item =>
      rw [entry, SendId.key, found] at unlisted
      cases unlisted
    | none =>
      rw [found] at h
      cases h
      refine stepped_of_own id (distinct_setList uniq (nodup_cons.mpr ⟨?_, uniq id.type⟩))
        (.inl rfl) (fun j other => ?_) ?_
      · intro mem
        obtain ⟨item, inside, same⟩ := mem_map.mp mem
        exact lookup_eq_none.mp found item inside same
      · rw [view_setPhase_of_ne other]
        refine view_setList_of_same fun same => ?_
        have different : (⟨id.channelId, id.seq, false⟩ : PendingPktInfo).key ≠ j.key :=
          (key_ne other same).symm
        exact lookup_cons_of_ne different _
      · have new : lookup key id.key
            (⟨id.channelId, id.seq, false⟩ :: w.pendingList id.type) =
            some ⟨id.channelId, id.seq, false⟩ := lookup_cons_self rfl _
        rw [view_setPhase_self, entry_setList_self, new]
        refine .register posted ?_
        rw [view, entry, SendId.key, found]
        rfl
  · cases h

lemma remove_stepped (h : step w (.remove id) = some (u, out)) : Stepped w u out := by
  rw [step] at h
  split at h
  next ret checked =>
    cases h
    refine stepped_of_own id
      (distinct_setList uniq ((eraseP_sublist.map _).nodup (uniq id.type)))
      (.inr ⟨_, rfl⟩) (fun j other => ?_) ?_
    · rw [view_setPhase_of_ne other]
      exact view_setList_of_same fun same => lookup_remove_of_ne (key_ne other same) _
    · have gone : lookup key id.key
          (removePendingPacket (w.pendingList id.type) id.channelId id.seq) = none :=
        lookup_remove_self (uniq id.type)
      rw [view_setPhase_self, entry_setList_self, gone, history_self]
      exact .remove checked
  · cases h

lemma ack_stepped (own : ackedSeq id.type id.seq = id.seq)
    (due : w.expired id ∨ (w.phase id).awaiting)
    (h : step w (.ack id) = some (u, out)) : Stepped w u out := by
  rw [step] at h
  split at h
  · have keeps (item : PendingPktInfo) (here : item.key = id.key) : item.find.key = id.key := here
    cases found : lookup key (id.channelId, id.seq)
        (w.pendingList id.type) with
    | some item =>
      simp only [own, setPendingPacket, found, if_true] at h
      cases h
      have nodup : ((update key id.key .find (w.pendingList id.type)).map key).Nodup := by
        rw [map_key_update keeps]
        exact uniq id.type
      refine stepped_of_own id (distinct_setList uniq nodup) (.inr ⟨_, rfl⟩)
        (fun j other => ?_) ?_
      · change ((w.setList _ _).signal id).view j = _
        rw [view_signal_of_ne other]
        exact view_setList_of_same fun same =>
          lookup_update_of_ne keeps (key_ne other same) _
      · change Move _ (((w.setList _ _).signal id).view id) _
        have set : lookup key id.key (update
            key (id.channelId, id.seq) .find (w.pendingList id.type)) = some item.find := by
          refine (lookup_update_self keeps _).trans ?_
          rw [SendId.key, found]
          rfl
        rw [view_signal_self, entry_setList_self, set, history_self]
        refine .acked due ?_
        rw [view, entry, SendId.key, found]
        simp
    | none =>
      simp only [own, setPendingPacket, found, reduceCtorEq, if_false] at h
      cases h
      have kept (j) : ((w.setInFlight id false).setList id.type (w.pendingList id.type)).view j =
          w.view j := view_setList_of_same fun _ => rfl
      refine stepped_of_own id (distinct_setList uniq (uniq _)) (.inr ⟨_, rfl⟩)
        (fun j _ => kept j) ?_
      rw [kept, history_self]
      refine .missed due ?_
      rw [view, entry, SendId.key, found]
      rfl
  · cases h

lemma step_stepped {i} (shaped : ∀ id, Shaped (w.view id)) (calm : Undisturbed w i)
    (h : step w i = some (u, out)) : Stepped w u out := by
  cases i with
  | post id ret => exact post_stepped uniq h
  | register id => exact register_stepped uniq (shaped id) h
  | remove id => exact remove_stepped uniq h
  | ack id => exact ack_stepped uniq calm.1 calm.2 h
  | check id =>
    rw [step] at h
    split at h
    next woken =>
      rw [map_eq_some_iff] at h
      obtain ⟨item, found, rfl, rfl⟩ := h
      refine stepped_of_own id uniq (.inl rfl) (fun j other => view_setPhase_of_ne other _) ?_
      rw [view_setPhase_self]
      refine .check woken ?_
      rw [view, entry, found]
      rfl
    · cases h
  | wait id =>
    rw [step] at h
    split at h
    next registered =>
      cases h
      refine stepped_of_own id uniq (.inl rfl) (fun j other => view_setPhase_of_ne other _) ?_
      rw [view_setPhase_self]
      exact .wait registered
    · cases h
  | expire id =>
    rw [step] at h
    split at h
    next started =>
      cases h
      refine stepped_of_own id uniq (.inr ⟨_, rfl⟩) (fun j other => ?_) ?_
      · simp only [view, signal, setPhase, entry, update_of_ne other]
      · simp only [history_self, view, signal, setPhase, entry, update_self]
        exact .expire ⟨started.1, started.2.1⟩
    · cases h
  | wake id =>
    rw [step] at h
    split at h
    · cases h
      refine stepped_of_own id uniq (.inl rfl) (fun j other => view_signal_of_ne other) ?_
      rw [view_signal_self]
      exact .signal
    · cases h
  | delete type cid =>
    rw [step] at h
    split at h
    next item _ =>
      cases h
      refine stepped_of_own ⟨type, item.channelId, item.seq⟩ uniq (.inl rfl)
        (fun j other => view_signal_of_ne other) ?_
      rw [view_signal_self]
      exact .signal
    · cases h
      exact ⟨uniq, fun _ => .stay⟩

end

def SendInput.Own (id : SendId) : SendInput → Prop
  | .wait i | .expire i | .check i | .remove i => i = id
  | _ => False

/-- The call can go on to its end without anybody else, and returns `ret`. -/
def Returns (id : SendId) (ret : SoftBusErrNo) : Prop :=
  ∃ own : List SendInput, (∀ i ∈ own, i.Own id) ∧
    ∃ u outs, run step w own = some (u, outs) ∧ u.phase id = .returned ret

section
variable {w u : World} {id : SendId} {ret : SoftBusErrNo}
open World

lemma Returns.cons {i out} (own : i.Own id)
    (h : step w i = some (u, out)) (rest : Returns u id ret) : Returns w id ret := by
  obtain ⟨steps, owns, t, outs, result, returned⟩ := rest
  refine ⟨i :: steps, forall_mem_cons.mpr ⟨own, owns⟩, t, out ++ outs, ?_, returned⟩
  exact run_cons_eq_some.mpr ⟨u, out, outs, h, result, rfl⟩

lemma returns_of_checked (checked : w.phase id = .checked ret) : Returns w id ret := by
  have h : step w (.remove id) = some ((w.setList id.type (removePendingPacket
      (w.pendingList id.type) id.channelId id.seq)).setPhase id (.returned ret),
      [(id, .returned ret)]) := by
    simp only [step, checked]
  refine Returns.cons (show (SendInput.remove id).Own id from rfl) h ⟨[], nofun, _, [], rfl, ?_⟩
  exact congrArg SendView.phase (view_setPhase_self _)

lemma returns_of_woken (woken : w.phase id = .woken) (found : w.entry id = some true) :
    Returns w id .ok := by
  obtain ⟨item, has, finded⟩ := map_eq_some_iff.mp found
  have h : step w (.check id) = some (w.setPhase id (.checked .ok), []) := by
    rw [step, if_pos woken, has, map_some, result, finded]
    rfl
  refine Returns.cons (show (SendInput.check id).Own id from rfl) h (returns_of_checked ?_)
  exact congrArg SendView.phase (view_setPhase_self _)

lemma returns_of_waiting (waiting : w.phase id = .waiting) (running : w.expired id = false)
    (found : w.entry id = some true) : Returns w id .ok := by
  have h : step w (.expire id) = some ({ w.signal id with
      expired := update w.expired id true }, [(id, .expired)]) := by
    rw [step, if_pos ⟨by rw [waiting]; nofun, by rw [waiting]; nofun, running⟩]
  refine Returns.cons (show (SendInput.expire id).Own id from rfl) h (returns_of_woken ?_ found)
  refine (congrArg SendView.phase view_signal_self).trans ?_
  rw [waiting]
  rfl

lemma returns_of_registered (registered : w.phase id = .registered)
    (found : w.entry id = some true) : Returns w id .ok := by
  have h : step w (.wait id) =
      some (w.setPhase id (if w.expired id then .woken else .waiting), []) := by
    rw [step, if_pos registered]
  refine Returns.cons (show (SendInput.wait id).Own id from rfl) h ?_
  have next (phase) : (w.setPhase id phase).phase id = phase :=
    congrArg SendView.phase (view_setPhase_self phase)
  cases late : w.expired id with
  | true => exact returns_of_woken (next _) found
  | false => exact returns_of_waiting (next _) late found

lemma Succeeds.returns (wins : (w.view id).Succeeds) (shaped : Shaped (w.view id)) :
    Returns w id .ok := by
  cases phase : w.phase id <;>
    rw [SendView.Succeeds, show (w.view id).phase = _ from phase] at wins
  case idle | posted => exact wins.elim
  case registered => exact returns_of_registered phase wins
  case waiting => exact returns_of_waiting phase (shaped.blocked phase) wins
  case woken => exact returns_of_woken phase wins
  case checked ret => exact returns_of_checked (wins ▸ phase)
  case returned ret => exact ⟨[], nofun, w, [], rfl, wins ▸ phase⟩

end

/-- An acknowledgement in time leads to success and to nothing else, and success needs the own
acknowledgement. -/
def AcksSeen (trace : List (SendId × SendEvent)) : Prop :=
  ∀ id, (InTime (history id trace) →
      (∀ ret, .returned ret ∈ history id trace → ret = .ok) ∧ Returns w id .ok) ∧
    (.returned .ok ∈ history id trace → .acked ∈ history id trace)

def WakesChannel (_ : World) (i : SendInput) (u : World) (_ : List (SendId × SendEvent)) : Prop :=
  match i with
  | .delete type channelId => ∀ id : SendId, id.type = type → id.channelId = channelId →
      u.phase id ≠ .waiting
  | _ => True

structure SoundAll (w : World) (trace : List (SendId × SendEvent)) : Prop where
  distinct : Distinct w
  sound : ∀ id, Sound (w.view id) (history id trace)

lemma soundAll_init : SoundAll .init [] where
  distinct _ := nodup_nil
  sound _ :=
    { shaped := ⟨rfl, nofun⟩
      recorded := ⟨⟨nofun, nofun⟩, nofun⟩
      deserved := ⟨nofun, nofun⟩
      timely := by
        rintro ⟨before, after, split, _⟩
        exact absurd split (by simp [history]) }

lemma SoundAll.step {w u trace out i}
    (all : SoundAll w trace) (calm : Undisturbed w i) (h : step w i = some (u, out)) :
    SoundAll u (trace ++ out) := by
  obtain ⟨distinct, moves⟩ := step_stepped all.distinct (fun id => (all.sound id).shaped) calm h
  refine ⟨distinct, fun id => ?_⟩
  rw [history, filterMap_append]
  exact (all.sound id).move (moves id)

lemma SoundAll.acksSeen {w trace} (all : SoundAll w trace) : AcksSeen w trace := by
  intro id
  have sound := all.sound id
  constructor
  · intro inTime
    have wins := sound.timely inTime
    refine ⟨fun ret mem => ?_, Succeeds.returns wins sound.shaped⟩
    have phase := sound.recorded.returned ret mem
    rw [SendView.Succeeds, phase] at wins
    exact wins
  · intro mem
    exact sound.deserved.success (.inr (sound.recorded.returned .ok mem))

lemma exists_item {w : World} {id : SendId} (shaped : Shaped (w.view id))
    (listed : (w.phase id).listed) :
    ∃ item ∈ w.pendingList id.type, item.channelId = id.channelId ∧ item.seq = id.seq := by
  have has : (w.entry id).isSome := shaped.listed.trans listed
  rw [World.entry, isSome_map] at has
  obtain ⟨item, found⟩ := isSome_iff_exists.mp has
  obtain ⟨inside, same⟩ := mem_of_lookup found
  obtain ⟨channel, seq⟩ := Prod.mk.inj same
  exact ⟨item, inside, channel, seq⟩

lemma wakesChannel_of_undisturbed {w u : World} {out : List (SendId × SendEvent)}
    {i : SendInput} (shaped : ∀ id, Shaped (w.view id)) (calm : Undisturbed w i)
    (h : step w i = some (u, out)) : WakesChannel w i u out := by
  cases i with
  | delete type cid =>
    intro id sameType sameChannel
    subst sameType sameChannel
    -- a sender that waited owns an entry, which is the one that was signalled
    have own (waits : w.phase id = .waiting) : ∃ item,
        delPendingPacket (w.pendingList id.type) id.channelId = some item ∧
        (⟨id.type, item.channelId, item.seq⟩ : SendId) = id := by
      obtain ⟨item, inside, channel, seq⟩ := exists_item (shaped id) (by rw [waits]; rfl)
      have named : (⟨id.type, item.channelId, item.seq⟩ : SendId) = id := by
        rw [channel, seq]
      exact ⟨item, calm item inside channel (named ▸ waits), named⟩
    rw [step] at h
    split at h
    next first found =>
      cases h
      by_cases mine : id = ⟨id.type, first.channelId, first.seq⟩
      · rw [← mine]
        exact (congrArg SendView.phase World.view_signal_self).trans_ne (signal_ne_waiting _)
      · intro waits
        have waited : w.phase id = .waiting :=
          (congrArg SendView.phase (World.view_signal_of_ne mine)).symm.trans waits
        obtain ⟨item, signalled, named⟩ := own waited
        rw [found] at signalled
        cases signalled
        exact mine named.symm
    next absent =>
      cases h
      intro waits
      obtain ⟨item, signalled, _⟩ := own waits
      simp [absent] at signalled
  | _ => trivial

lemma undisturbed_step (i u out) (inv : Distinct w ∧ ∀ id, Shaped (w.view id))
    (calm : Undisturbed w i) (h : step w i = some (u, out)) :
    (Distinct u ∧ ∀ id, Shaped (u.view id)) ∧ WakesChannel w i u out := by
  obtain ⟨uniq, moves⟩ := step_stepped inv.1 inv.2 calm h
  exact ⟨⟨uniq, fun id => (inv.2 id).move (moves id)⟩, wakesChannel_of_undisturbed inv.2 calm h⟩

/-- In every run whose acknowledgements come while their entry is registered and whose
deletions meet the newest entry. -/
theorem run_acksSeen {inputs : List SendInput} {w : World} {trace : List (SendId × SendEvent)}
    (undisturbed : AllSteps step Undisturbed .init inputs)
    (h : run step .init inputs = some (w, trace)) :
    AcksSeen w trace ∧ AllResults step WakesChannel .init inputs := by
  constructor
  · have all : SoundAll w ([] ++ trace) := run_invariant
      (fun _ _ _ _ _ all ok h => SoundAll.step all ok h) soundAll_init undisturbed h
    exact all.acksSeen
  · exact AllSteps.results_of_inv undisturbed_step
      ⟨soundAll_init.distinct, fun id => (soundAll_init.sound id).shaped⟩ undisturbed

/-- One acknowledgement finds its sender in the wait, the other one before it; then a sender is
woken by the end of its channel. -/
def threeSends : List SendInput :=
  let first : SendId := ⟨.proxy, 1, 0⟩
  let second : SendId := ⟨.direct, 2, 1⟩
  let third : SendId := ⟨.direct, 2, 2⟩
  [.post first .ok, .register first, .post second .ok, .register second, .wait second,
    .ack second, .ack first, .wait first, .expire first, .check first, .remove first,
    .check second, .remove second, .post third .ok, .register third, .wait third,
    .delete .direct 2, .check third, .remove third]

theorem run_acksSeen_threeSends : ∃ w trace, run step .init threeSends = some (w, trace) ∧
    trace.filter (fun o => o.2 = .returned .ok) =
      [(⟨.proxy, 1, 0⟩, .returned .ok), (⟨.direct, 2, 1⟩, .returned .ok)] ∧
    AcksSeen w trace ∧ AllResults step WakesChannel .init threeSends := by
  have result : ∃ r ∈ run step .init threeSends, r.2.filter (fun o => o.2 = .returned .ok) =
        [(⟨.proxy, 1, 0⟩, .returned .ok), (⟨.direct, 2, 1⟩, .returned .ok)] := by
    decide +kernel
  obtain ⟨⟨w, trace⟩, finished, succeeded⟩ := result
  exact ⟨w, trace, finished, succeeded, run_acksSeen (by decide +kernel) finished⟩

/-- The acknowledgement arrives before the entry is registered. -/
def earlyAck : List SendInput :=
  let send : SendId := ⟨.direct, 1, 1⟩
  [.post send .ok, .ack send, .register send, .wait send, .expire send, .check send, .remove send]

def twoWaiting : List SendInput :=
  let first : SendId := ⟨.direct, 1, 1⟩
  let second : SendId := ⟨.direct, 1, 2⟩
  [.post first .ok, .register first, .wait first, .post second .ok, .register second, .wait second]

theorem earlyAck_not_acksSeen :
    (∃ w trace, run step .init earlyAck = some (w, trace) ∧ ¬ AcksSeen w trace) ∧
      ¬ AllResults step WakesChannel .init (twoWaiting ++ [.delete .direct 1]) := by
  constructor
  · have result : ∃ r ∈ run step .init earlyAck,
        history ⟨.direct, 1, 1⟩ r.2 = [.acked, .expired, .returned .timout] := by
      decide +kernel
    obtain ⟨⟨w, trace⟩, finished, events⟩ := result
    refine ⟨w, trace, finished, fun seen => ?_⟩
    have inTime : InTime (history ⟨.direct, 1, 1⟩ trace) :=
      ⟨[], [.expired, .returned .timout], events, nofun⟩
    have ok := ((seen ⟨.direct, 1, 1⟩).1 inTime).1 .timout (by rw [events]; decide)
    cases ok
  · intro wakes
    have result : ∃ r ∈ run step .init twoWaiting, ∃ q ∈ step r.1 (.delete .direct 1),
        q.1.phase ⟨.direct, 1, 1⟩ = .waiting := by
      decide +kernel
    obtain ⟨⟨w, trace⟩, waited, ⟨u, out⟩, deleted, waits⟩ := result
    exact wakes twoWaiting (.delete .direct 1) [] rfl w trace waited u out deleted
      ⟨.direct, 1, 1⟩ rfl rfl waits

end DSoftBus.Pending
