import DSoftBus.Lnn.ConnectionFsmSteps

/-!
When the connection state machine may use the peer's node information. The information
arrives in one message and is used in later states that other messages lead to, so it is
there only if the authentication ends after it arrived, and if the check for invalid
connections, once posted, is not overtaken by a message that ends the join.
-/
namespace DSoftBus.Lnn

open Execution LnnConnectionFsm

/-- The end of the authentication is handled when the node information has arrived, and the
check for invalid connections while the machine is alive. -/
def PeerInfoReady (fsm : LnnConnectionFsm) : FsmEvent → Prop
  | .handle k _ =>
    (fsm.queue[k]? = some (.authDone true) → fsm.curState = some .syncDeviceInfo →
      fsm.isDead = false → fsm.connInfo.nodeInfo.isSome) ∧
    (fsm.queue[k]? = some .leaveInvalidConn → fsm.curState = some .cleanInvalidConn →
      fsm.isDead = false)
  | _ => True

instance (fsm : LnnConnectionFsm) (event : FsmEvent) : Decidable (PeerInfoReady fsm event) := by
  refine event.casesOn ?_ ?_ ?_ ?_ ?_ ?_ ?_ ?_ ?_ ?_ ?_ <;> intros <;>
    dsimp only [PeerInfoReady] <;> infer_instance

def LnnConnectionFsm.KnowsPeer (fsm : LnnConnectionFsm) : Prop :=
  fsm.curState = some .cleanInvalidConn → fsm.isDead = false → fsm.connInfo.nodeInfo.isSome

variable (fsm : LnnConnectionFsm) (posted : Bool) (msg : FsmMsg)

@[simp] lemma post_curState : (fsm.post posted msg).curState = fsm.curState := by
  cases posted <;> rfl

@[simp] lemma post_connInfo : (fsm.post posted msg).connInfo = fsm.connInfo := by
  cases posted <;> rfl

@[simp] lemma post_isDead : (fsm.post posted msg).isDead = fsm.isDead := by
  cases posted <;> rfl

variable {fsm : LnnConnectionFsm}

lemma completeJoinOk_curState {env fsm' out}
    (done : completeJoinOk env fsm = some (fsm', out)) : fsm'.curState = fsm.curState := by
  unfold completeJoinOk at done
  split at done
  · cases done
  · cases done
    rfl

lemma completeLeaveLNN_curState (env fsm) :
    (completeLeaveLNN env fsm).1.curState = fsm.curState := by
  unfold completeLeaveLNN
  split <;> rfl

lemma Outcome.knowsPeer {env fsm' msg out} (outcome : Outcome env fsm msg fsm' out)
    (knows : fsm.KnowsPeer)
    (ready : msg = .authDone true → fsm.curState = some .syncDeviceInfo → fsm.isDead = false →
      fsm.connInfo.nodeInfo.isSome) : fsm'.KnowsPeer := by
  intro state' alive'
  cases outcome with
  | dropped | exchanged | invalidFound | answered networkId retCode => exact knows state' alive'
  | verifying alive state =>
    rw [post_curState] at state'
    exact absurd (state.symm.trans state') nofun
  | keyed =>
    split at state' <;> simp only [post_curState] at state' <;> cases state'
  | informed info => rfl
  | authenticated alive state =>
    rw [post_connInfo]
    exact ready rfl state alive
  | onlined _ _ asked alive state done =>
    rw [completeJoinOk_curState done] at state'
    cases state'
  | onlinedDead dead => cases state'
  | joinFailed authId first => cases alive'
  | leaving alive =>
    rw [post_curState] at state'
    cases state'
  | left first =>
    rw [completeLeaveLNN_curState] at state'
    cases state'

lemma fsmStep_knowsPeer {event} (knows : fsm.KnowsPeer) (ready : PeerInfoReady fsm event) :
    ∃ fsm' out, fsmStep fsm event = some (fsm', out) ∧ fsm'.KnowsPeer := by
  have defined : (fsmStep fsm event).isSome := by
    refine fsmStep_defined fun k env msg same taken => ?_
    subst same
    refine processDataMessage_defined (fun state check => ?_) fun state _ => knows state
    subst check
    exact knows state (ready.2 taken state)
  obtain ⟨⟨fsm', out⟩, done⟩ := Option.isSome_iff_exists.mp defined
  refine ⟨fsm', out, done, ?_⟩
  cases fsmStep_reaction done with
  | ignored => exact knows
  | sent msg connInfo alive marked =>
    rw [LnnConnectionFsm.KnowsPeer, marked.rest]
    exact knows
  | handled k env taken outcome =>
    refine outcome.knowsPeer knows fun same => ?_
    subst same
    exact ready.1 taken
  | stopped => exact nofun

lemma Created.knowsPeer (created : Created fsm) : fsm.KnowsPeer := by
  cases created <;> exact nofun

/-- In every run that meets the condition no step uses missing node information. -/
theorem connectionFsm_nodeInfo_present {start : LnnConnectionFsm} (created : Created start)
    {events : List FsmEvent} (ready : AllSteps fsmStep PeerInfoReady start events) :
    ∃ fsm outs, run fsmStep start events = some (fsm, outs) ∧ fsm.KnowsPeer :=
  run_defined (fun _ _ knows ok => fsmStep_knowsPeer knows ok) created.knowsPeer ready

def peerNode : NodeInfo where
  deviceUdid := ⟨[1], by decide⟩
  uuid := ⟨[2], by decide⟩
  networkId := ⟨[3], by decide⟩
  masterUdid := ⟨[1], by decide⟩
  masterWeight := 0
  status := .offline
  discoveryType := 8
  connectInfo := ⟨emptyString, ⟨[65], by decide⟩, 0, 0, 0⟩
  authSeqNum := 5
  authChannelId := 5

def peerAddr : ConnectionAddr := ⟨.br, ⟨[65], by decide⟩, 0⟩

/-- A join up to the exchange of device information; the timeout stays first in the queue. -/
def joinSteps : List FsmEvent :=
  [.join true, .handle 0 { verifiedAuthId := 5 }, .authKeyGenerated 100, .handle 1 {}, .handle 1 {}]

def checkSteps : List FsmEvent :=
  joinSteps ++ [.peerDevInfo (some peerNode), .handle 1 {}, .authDone true, .handle 1 {}]

theorem connectionFsm_nodeInfo_present_joined :
    AllSteps fsmStep PeerInfoReady (lnnCreateConnectionFsm 1 peerAddr)
        (checkSteps ++ [.handle 1 {}]) ∧
      ∃ fsm outs, run fsmStep (lnnCreateConnectionFsm 1 peerAddr) (checkSteps ++ [.handle 1 {}]) =
        some (fsm, outs) ∧ fsm.KnowsPeer := by
  have ready : AllSteps fsmStep PeerInfoReady (lnnCreateConnectionFsm 1 peerAddr)
      (checkSteps ++ [.handle 1 {}]) := by
    decide +kernel
  exact ⟨ready, connectionFsm_nodeInfo_present (.active 1 peerAddr) ready⟩

/-- The authentication ends before the device information arrives, or the peer disconnects
before the posted check is handled. -/
theorem nodeInfo_missing : run fsmStep (lnnCreateConnectionFsm 1 peerAddr)
        (joinSteps ++ [.authDone true, .handle 1 {}, .handle 1 {}]) = none ∧
      run fsmStep (lnnCreateConnectionFsm 1 peerAddr)
        (joinSteps ++ [.peerDevInfo (some peerNode), .handle 1 {}, .authDone true, .disconnect,
          .handle 1 {}, .handle 1 {}, .handle 0 {}]) = none := by
  constructor <;> decide +kernel

end DSoftBus.Lnn
