import DSoftBus.Lnn.ConnectionFsm
import DSoftBus.Lib.Execution

/-!
What handling one message can do to a connection state machine. `Outcome` lists the
effects of all handlers with the states they occur in; every statement about whole runs is
read off this list and off the effect of the messages that the net builder sends.
-/
namespace DSoftBus.Lnn

open LnnConnectionFsm

def FsmState.joining : FsmState → Bool
  | .auth | .syncDeviceInfo | .cleanInvalidConn => true
  | .online | .leaving => false

variable (fsm : LnnConnectionFsm)

def LnnConnectionFsm.Joining : Prop := ∃ state, fsm.curState = some state ∧ state.joining

def LnnConnectionFsm.withAuthId (authId : Int) : LnnConnectionFsm :=
  { fsm with connInfo := { fsm.connInfo with authId := authId } }

def completesLeave (env : FsmEnv) (fsm : LnnConnectionFsm) (msg : FsmMsg) : Bool :=
  match fsm.curState, msg with
  | some .online, .leaveLNN | some .online, .notTrusted | some .online, .disconnect => !env.synced
  | some .leaving, .syncOfflineDone | some .leaving, .leaveLNNTimeout => true
  | _, _ => false

inductive Outcome (env : FsmEnv) (fsm : LnnConnectionFsm) :
    FsmMsg → LnnConnectionFsm → List FsmAction → Prop
  | dropped {msg : FsmMsg}
      (timeout : msg = .joinLNNTimeout → fsm.isDead = false → fsm.curState ≠ some .auth ∧
        fsm.curState ≠ some .syncDeviceInfo)
      (join : msg = .joinLNN → fsm.curState ≠ some .online ∧ fsm.curState ≠ some .leaving) :
      Outcome env fsm msg fsm []
  | answered {msg : FsmMsg} (networkId : Option CString) (retCode : SoftBusErrNo)
      (asked : msg = .joinLNN ∨ msg = .leaveLNN) :
      Outcome env fsm msg (notifyJoinResult fsm networkId retCode).1
        (notifyJoinResult fsm networkId retCode).2
  | verifying (alive : fsm.isDead = false) (state : fsm.curState = some .auth)
      (idle : fsm.connInfo.authId ≤ 0) (started : 0 < env.verifiedAuthId) : Outcome env fsm .joinLNN
        ((fsm.withAuthId env.verifiedAuthId).post env.postedDelay .joinLNNTimeout)
        [.authVerifyDevice]
  | keyed (alive : fsm.isDead = false) (state : fsm.curState = some .auth) :
      Outcome env fsm .authKeyGenerated
        (if fsm.connInfo.flag.joinActive then
          ({ fsm with curState := some .syncDeviceInfo }).post env.posted .syncDeviceInfo
        else
          (({ fsm with curState := some .syncDeviceInfo }).post env.posted .syncDeviceInfo).post
            env.postedDelay .joinLNNTimeout) []
  | exchanged (alive : fsm.isDead = false) (state : fsm.curState = some .syncDeviceInfo) :
      Outcome env fsm .syncDeviceInfo fsm [.authPostData]
  | informed (info : NodeInfo) (alive : fsm.isDead = false)
      (state : fsm.curState = some .syncDeviceInfo) :
      Outcome env fsm (.syncDeviceInfoDone (some info))
        { fsm with
          connInfo := { fsm.connInfo with
            nodeInfo := some info, peerNetworkId := info.networkId } } []
  | authenticated (alive : fsm.isDead = false)
      (state : fsm.curState = some .syncDeviceInfo) : Outcome env fsm (.authDone true)
        (({ fsm with curState := some .cleanInvalidConn }).post env.posted .leaveInvalidConn) []
  | invalidFound (old : CString) (addrType : ConnectionAddrType) (info : NodeInfo)
      (alive : fsm.isDead = false) (state : fsm.curState = some .cleanInvalidConn)
      (known : fsm.connInfo.nodeInfo = some info) :
      Outcome env fsm .leaveInvalidConn fsm [.requestLeaveInvalidConn old addrType info.networkId]
  | onlined {msg : FsmMsg} (fsm' : LnnConnectionFsm) (out : List FsmAction)
      (asked : msg = .leaveInvalidConn ∨ msg = .initiateOnline) (alive : fsm.isDead = false)
      (state : fsm.curState = some .cleanInvalidConn)
      (done : completeJoinOk env { fsm with curState := some .online } = some (fsm', out)) :
      Outcome env fsm msg fsm' out
  | onlinedDead (dead : fsm.isDead) (state : fsm.curState = some .cleanInvalidConn) :
      Outcome env fsm .initiateOnline { fsm with curState := some .online } []
  | joinFailed {msg : FsmMsg} (authId : Int) (first : List FsmAction) (state : fsm.Joining)
      (asked : fsm.isDead → msg = .leaveLNN ∧ fsm.connInfo.flag.leaveAuto)
      (quiet : ∀ a ∈ first, a = .authVerifyDevice ∨ a = .authPostData) :
      Outcome env fsm msg (completeJoinFailed (fsm.withAuthId authId)).1
        (first ++ (completeJoinFailed (fsm.withAuthId authId)).2)
  | leaving {msg : FsmMsg} (alive : fsm.isDead = false)
      (state : fsm.curState = some .online)
      (asked : msg = .leaveLNN ∨ msg = .notTrusted ∨ msg = .disconnect) : Outcome env fsm msg
        (({ fsm with curState := some .leaving }).post env.postedDelay .leaveLNNTimeout)
        [.syncLedgerItemInfo fsm.connInfo.peerNetworkId]
  | left {msg : FsmMsg} (first : List FsmAction) (alive : fsm.isDead = false)
      (asked : completesLeave env fsm msg)
      (quiet : ∀ a ∈ first, ∃ networkId, a = .syncLedgerItemInfo networkId) :
      Outcome env fsm msg (completeLeaveLNN env { fsm with curState := some .leaving }).1
        (first ++ (completeLeaveLNN env { fsm with curState := some .leaving }).2)

/-- The effect of a handler that always returns. -/
abbrev Outcome.Handled (env : FsmEnv) (fsm : LnnConnectionFsm) (msg : FsmMsg)
    (handled : LnnConnectionFsm × List FsmAction) : Prop := Outcome env fsm msg handled.1 handled.2

namespace Outcome
variable {fsm fsm' : LnnConnectionFsm} {env : FsmEnv} {msg : FsmMsg} {out : List FsmAction}

lemma of_handled {handled} (effect : Handled env fsm msg handled)
    (done : some handled = some (fsm', out)) : Outcome env fsm msg fsm' out := by
  obtain rfl := Option.some.inj done
  exact effect

lemma failed (state : fsm.Joining)
    (asked : fsm.isDead → msg = .leaveLNN ∧ fsm.connInfo.flag.leaveAuto) :
    Handled env fsm msg (completeJoinFailed fsm) :=
  joinFailed fsm.connInfo.authId [] state asked (by simp)

lemma of_onJoinFail (state : fsm.Joining) : Handled env fsm msg (onJoinFail fsm) := by
  unfold onJoinFail
  split
  next dead =>
    refine dropped (fun _ alive => ?_) fun _ => ⟨fun here => ?_, fun here => ?_⟩
    · simp [dead] at alive
    · exact state.elim fun _ current => by simp_all [FsmState.joining]
    · exact state.elim fun _ current => by simp_all [FsmState.joining]
  next alive => exact failed state fun dead => absurd dead alive

lemma of_tryCancelJoinProcedure (state : fsm.Joining) :
    Handled env fsm .leaveLNN (tryCancelJoinProcedure fsm) := by
  unfold tryCancelJoinProcedure
  split
  next auto => exact failed state fun _ => ⟨rfl, auto⟩
  · exact answered _ _ (.inr rfl)

section

variable (state : fsm.curState = some .auth)
include state

lemma of_onJoinLNNInAuth : Handled env fsm .joinLNN (onJoinLNNInAuth env fsm) := by
  unfold onJoinLNNInAuth
  split
  · exact answered _ _ (.inl rfl)
  rename_i alive
  split
  · exact dropped nofun fun _ => by rw [state]; decide
  rename_i idle
  dsimp only
  split
  · exact joinFailed env.verifiedAuthId [.authVerifyDevice] ⟨.auth, state, rfl⟩
      (fun dead => absurd dead alive) (by simp)
  next started => exact verifying (by simpa using alive) state (by omega) (by omega)

lemma of_onAuthKeyGeneratedInAuth :
    Handled env fsm .authKeyGenerated (onAuthKeyGeneratedInAuth env fsm) := by
  unfold onAuthKeyGeneratedInAuth
  split
  · exact dropped nofun nofun
  rename_i alive
  have effect : Outcome env fsm _ _ _ := keyed (by simpa using alive) state
  dsimp only
  split
  next active =>
    rw [if_pos active] at effect
    exact effect
  next passive =>
    rw [if_neg passive] at effect
    exact effect

lemma of_onAuthDoneInAuth {isSuccess} :
    Handled env fsm (.authDone isSuccess) (onAuthDoneInAuth fsm isSuccess) := by
  unfold onAuthDoneInAuth
  split
  · exact dropped nofun nofun
  next alive =>
    exact failed ⟨.auth, state, rfl⟩ fun dead => absurd (by rw [dead, Bool.true_or]) alive

lemma of_authStateProcess : Handled env fsm msg (authStateProcess env fsm msg) := by
  have joining : fsm.Joining := ⟨.auth, state, rfl⟩
  cases msg with
  | joinLNN => exact of_onJoinLNNInAuth state
  | authKeyGenerated => exact of_onAuthKeyGeneratedInAuth state
  | authDone isSuccess => exact of_onAuthDoneInAuth state
  | disconnect | joinLNNTimeout => exact of_onJoinFail joining
  | leaveLNN => exact of_tryCancelJoinProcedure joining
  | syncDeviceInfo | syncDeviceInfoDone _ | leaveInvalidConn | notTrusted | syncOfflineDone
  | leaveLNNTimeout | initiateOnline => exact dropped nofun nofun

end

section

variable (state : fsm.curState = some .syncDeviceInfo)
include state

lemma of_onSyncDeviceInfo : Handled env fsm .syncDeviceInfo (onSyncDeviceInfo env fsm) := by
  have joining : fsm.Joining := ⟨.syncDeviceInfo, state, rfl⟩
  unfold onSyncDeviceInfo
  split
  · exact dropped nofun nofun
  rename_i alive
  split
  · exact dropped nofun nofun
  split
  · exact failed joining fun dead => absurd dead alive
  split
  · exact exchanged (by simpa using alive) state
  · exact joinFailed fsm.connInfo.authId [.authPostData] joining (fun dead => absurd dead alive)
      (by simp)

lemma of_onSyncDeviceInfoDone {parsed} :
    Handled env fsm (.syncDeviceInfoDone parsed) (onSyncDeviceInfoDone fsm parsed) := by
  unfold onSyncDeviceInfoDone
  split
  · exact dropped nofun nofun
  rename_i alive
  cases parsed with
  | none => exact failed ⟨.syncDeviceInfo, state, rfl⟩ fun dead => absurd dead alive
  | some info => exact informed info (by simpa using alive) state

lemma of_onAuthDoneInSyncInfo {isSuccess} :
    Handled env fsm (.authDone isSuccess) (onAuthDoneInSyncInfo env fsm isSuccess) := by
  unfold onAuthDoneInSyncInfo
  split
  · exact dropped nofun nofun
  rename_i alive
  cases isSuccess with
  | true => exact authenticated (by simpa using alive) state
  | false => exact failed ⟨.syncDeviceInfo, state, rfl⟩ fun dead => absurd dead alive

lemma of_syncDeviceInfoStateProcess :
    Handled env fsm msg (syncDeviceInfoStateProcess env fsm msg) := by
  have joining : fsm.Joining := ⟨.syncDeviceInfo, state, rfl⟩
  cases msg with
  | syncDeviceInfo => exact of_onSyncDeviceInfo state
  | syncDeviceInfoDone parsed => exact of_onSyncDeviceInfoDone state
  | authDone isSuccess => exact of_onAuthDoneInSyncInfo state
  | leaveLNN => exact of_tryCancelJoinProcedure joining
  | notTrusted | disconnect | joinLNNTimeout => exact of_onJoinFail joining
  | joinLNN | authKeyGenerated | leaveInvalidConn | syncOfflineDone | leaveLNNTimeout
  | initiateOnline => exact dropped nofun fun _ => by rw [state]; decide

end

section
variable (state : fsm.curState = some .cleanInvalidConn)
include state

lemma of_transactToOnline (asked : msg = .leaveInvalidConn ∨ msg = .initiateOnline)
    (checked : fsm.isDead → msg = .initiateOnline)
    (done : transactToOnline env fsm = some (fsm', out)) : Outcome env fsm msg fsm' out := by
  unfold transactToOnline at done
  dsimp only at done
  split at done
  next dead =>
    cases done
    cases checked dead
    exact onlinedDead dead state
  next alive => exact onlined fsm' out asked (by simpa using alive) state done

lemma of_onLeaveInvalidConn
    (done : onLeaveInvalidConn env fsm = some (fsm', out)) :
    Outcome env fsm .leaveInvalidConn fsm' out := by
  unfold onLeaveInvalidConn at done
  split at done
  · cases done
  rename_i info known
  split at done
  · cases done
    exact dropped nofun nofun
  rename_i alive
  have online : transactToOnline env fsm = some (fsm', out) →
      Outcome env fsm .leaveInvalidConn fsm' out :=
    of_transactToOnline state (.inl rfl) fun dead => absurd dead alive
  split at done
  · exact online done
  split at done
  · split at done
    · cases done
      exact invalidFound _ _ info (by simpa using alive) state known
    · exact online done
  · exact online done

lemma of_cleanInvalidConnStateProcess
    (done : cleanInvalidConnStateProcess env fsm msg = some (fsm', out)) :
    Outcome env fsm msg fsm' out := by
  have joining : fsm.Joining := ⟨.cleanInvalidConn, state, rfl⟩
  cases msg with
  | leaveLNN => exact of_handled (of_tryCancelJoinProcedure joining) done
  | notTrusted | disconnect => exact of_handled (of_onJoinFail joining) done
  | leaveInvalidConn => exact of_onLeaveInvalidConn state done
  | initiateOnline => exact of_transactToOnline state (.inr rfl) (fun _ => rfl) done
  | joinLNN | authKeyGenerated | authDone _ | syncDeviceInfo | syncDeviceInfoDone _
  | joinLNNTimeout | syncOfflineDone | leaveLNNTimeout =>
    cases done
    exact dropped (fun _ _ => by rw [state]; decide) fun _ => by rw [state]; decide

end

lemma of_completeLeaveLNN (state : fsm.curState = some .leaving)
    (asked : completesLeave env fsm msg) (other : msg ≠ .joinLNNTimeout) (other' : msg ≠ .joinLNN) :
    Handled env fsm msg (completeLeaveLNN env fsm) := by
  by_cases dead : fsm.isDead
  · rw [completeLeaveLNN, if_pos dead]
    exact dropped (fun timeout => absurd timeout other) fun join => absurd join other'
  · have effect : Outcome env fsm msg _ _ := left [] (by simpa using dead) asked (by simp)
    rwa [← state] at effect

lemma of_leaveLNNInOnline (asked : msg = .leaveLNN ∨ msg = .notTrusted ∨ msg = .disconnect)
    (state : fsm.curState = some .online) : Handled env fsm msg (leaveLNNInOnline env fsm) := by
  unfold leaveLNNInOnline transactToLeaving
  split
  · rcases asked with rfl | rfl | rfl <;> exact dropped nofun nofun
  rename_i alive
  dsimp only
  split
  · exact leaving (by simpa using alive) state asked
  · have completes : completesLeave env fsm msg := by
      rcases asked with rfl | rfl | rfl <;> simp_all [completesLeave]
    exact left [_] (by simpa using alive) completes (by simp)

lemma of_onlineStateProcess (state : fsm.curState = some .online) :
    Handled env fsm msg (onlineStateProcess env fsm msg) := by
  cases msg with
  | joinLNN => exact answered _ _ (.inl rfl)
  | leaveLNN => exact of_leaveLNNInOnline (.inl rfl) state
  | notTrusted => exact of_leaveLNNInOnline (.inr (.inl rfl)) state
  | disconnect => exact of_leaveLNNInOnline (.inr (.inr rfl)) state
  | authKeyGenerated | authDone _ | syncDeviceInfo | syncDeviceInfoDone _ | leaveInvalidConn
  | joinLNNTimeout | syncOfflineDone | leaveLNNTimeout | initiateOnline =>
    exact dropped (fun _ _ => by rw [state]; decide) nofun

lemma of_leavingStateProcess (state : fsm.curState = some .leaving) :
    Handled env fsm msg (leavingStateProcess env fsm msg) := by
  cases msg with
  | joinLNN => exact answered _ _ (.inl rfl)
  | syncOfflineDone | leaveLNNTimeout =>
    exact of_completeLeaveLNN state (by simp [completesLeave, state]) nofun nofun
  | authKeyGenerated | authDone _ | syncDeviceInfo | syncDeviceInfoDone _ | leaveInvalidConn
  | leaveLNN | notTrusted | disconnect | joinLNNTimeout | initiateOnline =>
    exact dropped (fun _ _ => by rw [state]; decide) nofun

lemma of_processDataMessage (done : processDataMessage env fsm msg = some (fsm', out)) :
    Outcome env fsm msg fsm' out := by
  unfold processDataMessage at done
  split at done
  next stopped =>
    cases done
    exact dropped (fun _ _ => by rw [stopped]; decide) fun _ => by rw [stopped]; decide
  next state => exact of_handled (of_authStateProcess state) done
  next state => exact of_handled (of_syncDeviceInfoStateProcess state) done
  next state => exact of_cleanInvalidConnStateProcess state done
  next state => exact of_handled (of_onlineStateProcess state) done
  next state => exact of_handled (of_leavingStateProcess state) done

end Outcome

lemma completeJoinOk_eq_none_iff {env fsm} :
    completeJoinOk env fsm = none ↔ fsm.connInfo.nodeInfo = none := by
  unfold completeJoinOk
  split
  · simp_all
  · simp_all

/-- The only uses of missing node information are the two ways into the online state. -/
lemma processDataMessage_defined {env fsm msg}
    (check : fsm.curState = some .cleanInvalidConn → msg = .leaveInvalidConn →
      fsm.connInfo.nodeInfo.isSome)
    (enter : fsm.curState = some .cleanInvalidConn → msg = .initiateOnline →
      fsm.isDead = false → fsm.connInfo.nodeInfo.isSome) :
    (processDataMessage env fsm msg).isSome := by
  have entered : fsm.isDead = false → fsm.connInfo.nodeInfo.isSome →
      (transactToOnline env fsm).isSome := by
    intro alive known
    rw [transactToOnline, alive, Option.isSome_iff_ne_none]
    intro missing
    rw [completeJoinOk_eq_none_iff.mp missing] at known
    cases known
  unfold processDataMessage
  split
  · rfl
  · rfl
  · rfl
  next state =>
    cases msg with
    | leaveInvalidConn =>
      obtain ⟨info, known⟩ := Option.isSome_iff_exists.mp (check state rfl)
      simp only [cleanInvalidConnStateProcess, onLeaveInvalidConn, known]
      split
      · rfl
      rename_i alive
      have done := entered (by simpa using alive) (by rw [known]; rfl)
      split
      · exact done
      · split
        · split
          · rfl
          · exact done
        · exact done
    | initiateOnline =>
      by_cases dead : fsm.isDead
      · simp [cleanInvalidConnStateProcess, transactToOnline, dead]
      · have alive : fsm.isDead = false := by simpa using dead
        exact entered alive (enter state rfl alive)
    | _ => rfl
  · rfl
  · rfl

/-- What no handler changes: the identity of the machine and the net builder's mark. -/
structure SameMachine (old new : LnnConnectionFsm) : Prop where
  id : new.id = old.id
  addr : new.connInfo.addr = old.connInfo.addr
  cleanInfo : new.connInfo.cleanInfo = old.connInfo.cleanInfo
  initiateOnline : new.connInfo.flag.initiateOnline = old.connInfo.flag.initiateOnline

lemma SameMachine.post (posted msg) : SameMachine fsm (fsm.post posted msg) := by
  cases posted <;> exact ⟨rfl, rfl, rfl, rfl⟩

lemma SameMachine.trans {a b c} (first : SameMachine a b)
    (next : SameMachine b c) : SameMachine a c :=
  ⟨next.id.trans first.id, next.addr.trans first.addr, next.cleanInfo.trans first.cleanInfo,
    next.initiateOnline.trans first.initiateOnline⟩

lemma sameMachine_completeJoinOk {env fsm fsm' out}
    (done : completeJoinOk env fsm = some (fsm', out)) : SameMachine fsm fsm' := by
  unfold completeJoinOk at done
  split at done
  · cases done
  · cases done
    exact ⟨rfl, rfl, rfl, rfl⟩

lemma sameMachine_completeLeaveLNN (env fsm) : SameMachine fsm (completeLeaveLNN env fsm).1 := by
  unfold completeLeaveLNN
  split <;> exact ⟨rfl, rfl, rfl, rfl⟩

lemma Outcome.sameMachine {env fsm fsm' msg out} (outcome : Outcome env fsm msg fsm' out) :
    SameMachine fsm fsm' := by
  have unchanged (state) : SameMachine fsm { fsm with curState := state } :=
    ⟨rfl, rfl, rfl, rfl⟩
  cases outcome with
  | dropped | answered | exchanged | informed | invalidFound | onlinedDead | joinFailed =>
    exact ⟨rfl, rfl, rfl, rfl⟩
  | verifying =>
    have first : SameMachine fsm (fsm.withAuthId env.verifiedAuthId) := ⟨rfl, rfl, rfl, rfl⟩
    exact first.trans (.post _ _ _)
  | keyed =>
    split
    · exact (unchanged _).trans (.post _ _ _)
    · exact ((unchanged _).trans (.post _ _ _)).trans (.post _ _ _)
  | authenticated | leaving => exact (unchanged _).trans (.post _ _ _)
  | onlined _ _ _ _ _ done => exact (unchanged _).trans (sameMachine_completeJoinOk done)
  | left => exact (unchanged _).trans (sameMachine_completeLeaveLNN _ _)

lemma sameMachine_handleMessage {env fsm k handled}
    (done : handleMessage env fsm k = some handled) : SameMachine fsm handled.1 := by
  unfold handleMessage at done
  split at done
  · cases done
    exact ⟨rfl, rfl, rfl, rfl⟩
  · have taken : SameMachine fsm { fsm with queue := fsm.queue.eraseIdx k } := ⟨rfl, rfl, rfl, rfl⟩
    exact taken.trans (Outcome.of_processDataMessage done).sameMachine

structure Marked (event : FsmEvent) (msg : FsmMsg) (old new : LnnConnInfo) : Prop where
  rest : new = { old with
    flag := new.flag, cleanInfo := new.cleanInfo, peerVersion := new.peerVersion }
  joinKept : old.flag.joinRequest → new.flag.joinRequest
  joined : new.flag.joinRequest → old.flag.joinRequest ∨ msg = .joinLNN
  leaveKept : old.flag.leaveRequest → new.flag.leaveRequest
  left : new.flag.leaveRequest → old.flag.leaveRequest ∨ event = .leave .request

inductive Reaction (fsm : LnnConnectionFsm) : FsmEvent → LnnConnectionFsm → List FsmAction → Prop
  | ignored {event : FsmEvent} : Reaction fsm event fsm []
  | sent {event : FsmEvent} (msg : FsmMsg) (connInfo : LnnConnInfo) (alive : fsm.isDead = false)
      (marked : Marked event msg fsm.connInfo connInfo)
      (foreign : msg ≠ .joinLNNTimeout ∧ msg ≠ .leaveLNNTimeout) :
      Reaction fsm event { fsm with connInfo := connInfo, queue := fsm.queue ++ [msg] } []
  | handled (k : Nat) (env : FsmEnv) {msg : FsmMsg} {fsm' : LnnConnectionFsm}
      {out : List FsmAction} (taken : fsm.queue[k]? = some msg)
      (outcome : Outcome env { fsm with queue := fsm.queue.eraseIdx k } msg fsm' out) :
      Reaction fsm (.handle k env) fsm' out
  | stopped : Reaction fsm .stop { fsm with curState := none } []

lemma Marked.same (event msg connInfo version) :
    Marked event msg connInfo { connInfo with peerVersion := version } where
  rest := rfl
  joinKept := id
  joined := .inl
  leaveKept := id
  left := .inl

lemma sendToConnFsm_eq_some {posted fsm sent msg} (h : sendToConnFsm posted fsm msg = some sent) :
    fsm.isDead = false ∧ sent = { fsm with queue := fsm.queue ++ [msg] } := by
  unfold sendToConnFsm at h
  split at h
  · cases h
  next accepted =>
    cases h
    exact ⟨by simp_all, rfl⟩

lemma receive_alive {fsm : LnnConnectionFsm} {msg : FsmMsg} (alive : fsm.isDead = false) :
    fsm.receive msg = { fsm with queue := fsm.queue ++ [msg] } := by
  simp [receive, sendToConnFsm, post, alive]

variable {event : FsmEvent}

lemma Reaction.of_receive {fsm msg} (foreign : msg ≠ .joinLNNTimeout ∧ msg ≠ .leaveLNNTimeout) :
    Reaction fsm event (fsm.receive msg) [] := by
  unfold LnnConnectionFsm.receive
  cases h : sendToConnFsm true fsm msg with
  | none => exact .ignored
  | some sent =>
    obtain ⟨alive, rfl⟩ := sendToConnFsm_eq_some h
    exact .sent msg fsm.connInfo alive (.same _ _ fsm.connInfo fsm.connInfo.peerVersion) foreign

lemma Marked.join (report) : Marked (.join report) .joinLNN fsm.connInfo
      (markJoin fsm report).connInfo := by
  cases report with
  | true => exact ⟨rfl, fun _ => rfl, fun _ => .inr rfl, id, .inl⟩
  | false => exact ⟨rfl, id, .inl, id, .inl⟩

lemma Marked.leave (reason) :
    Marked (.leave reason) .leaveLNN fsm.connInfo (markLeave fsm reason).connInfo := by
  cases reason with
  | request => exact ⟨rfl, id, .inl, fun _ => rfl, fun _ => .inr rfl⟩
  | addrType | invalidConn cleanInfo => exact ⟨rfl, id, .inl, id, .inl⟩

lemma markJoin_eq (report) : markJoin fsm report =
      { fsm with connInfo := (markJoin fsm report).connInfo } := by
  cases report <;> rfl

lemma markLeave_eq (reason) :
    markLeave fsm reason = { fsm with connInfo := (markLeave fsm reason).connInfo } := by
  cases reason <;> rfl

lemma handleMessage_reaction {fsm fsm' env k out}
    (done : handleMessage env fsm k = some (fsm', out)) :
    Reaction fsm (.handle k env) fsm' out := by
  unfold handleMessage at done
  split at done
  · cases done
    exact .ignored
  next taken => exact .handled k env taken (.of_processDataMessage done)

lemma fsmStep_reaction {fsm fsm' : LnnConnectionFsm} {out : List FsmAction}
    (done : fsmStep fsm event = some (fsm', out)) : Reaction fsm event fsm' out := by
  cases event with
  | join report =>
    simp only [fsmStep] at done
    cases h : sendToConnFsm true fsm .joinLNN with
    | none =>
      rw [h] at done
      cases done
      exact .ignored
    | some sent =>
      rw [h] at done
      cases done
      obtain ⟨alive, rfl⟩ := sendToConnFsm_eq_some h
      rw [markJoin_eq]
      exact .sent .joinLNN _ alive
        (Marked.join { fsm with queue := fsm.queue ++ [.joinLNN] } report) ⟨nofun, nofun⟩
  | authKeyGenerated peerVersion =>
    simp only [fsmStep] at done
    split at done
    · cases done
      exact .ignored
    next alive =>
      cases done
      have alive' : fsm.isDead = false := by simpa using alive
      rw [receive_alive (by exact alive')]
      exact .sent .authKeyGenerated _ alive' (.same _ _ fsm.connInfo peerVersion) ⟨nofun, nofun⟩
  | authDone _ | peerDevInfo _ | notTrusted | disconnect | syncOfflineFinish | newNetworkOnline =>
    cases done
    exact .of_receive ⟨nofun, nofun⟩
  | leave reason =>
    simp only [fsmStep] at done
    split at done
    · cases h : sendToConnFsm true fsm .leaveLNN with
      | none =>
        rw [h] at done
        cases done
        exact .ignored
      | some sent =>
        rw [h] at done
        cases done
        obtain ⟨alive, rfl⟩ := sendToConnFsm_eq_some h
        rw [markLeave_eq]
        exact .sent .leaveLNN _ alive
          (Marked.leave { fsm with queue := fsm.queue ++ [.leaveLNN] } reason) ⟨nofun, nofun⟩
    · cases done
      exact .ignored
  | handle k env => exact handleMessage_reaction done
  | stop =>
    cases done
    exact .stopped

lemma fsmStep_defined {fsm} (known : ∀ k env msg, event = .handle k env → fsm.queue[k]? = some msg →
      (processDataMessage env { fsm with queue := fsm.queue.eraseIdx k } msg).isSome) :
    (fsmStep fsm event).isSome := by
  cases event with
  | join _ | authKeyGenerated _ =>
    simp only [fsmStep]
    split <;> rfl
  | leave _ =>
    simp only [fsmStep]
    split
    · split <;> rfl
    · rfl
  | handle k env =>
    simp only [fsmStep, handleMessage]
    split
    · rfl
    next msg taken => exact known k env msg rfl taken
  | authDone _ | peerDevInfo _ | notTrusted | disconnect | syncOfflineFinish | newNetworkOnline
  | stop => rfl

/-- The machines that the net builder links: for a join it makes itself, or for a peer that
has started the authentication. -/
inductive Created : LnnConnectionFsm → Prop
  | active (id : BitVec 16) (addr : ConnectionAddr) : Created (lnnCreateConnectionFsm id addr)
  | passive (id : BitVec 16) (addr : ConnectionAddr) (authId : Int) :
      Created (passiveConnectionFsm id addr authId)

end DSoftBus.Lnn
