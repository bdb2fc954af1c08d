import DSoftBus.Lnn.ConnectionFsmPeerInfo

/-!
Whether a join that has started can still time out. The timeout message is posted when the
authentication starts and removed when the join ends. A machine that checks for invalid
connections drops it, and a machine created for a peer that started the authentication has
none until the key is handled.
-/
namespace DSoftBus.Lnn

open Execution LnnConnectionFsm

def LnnConnectionFsm.Timed (fsm : LnnConnectionFsm) : Prop :=
  fsm.Joining → fsm.isDead = false → 0 < fsm.connInfo.authId → .joinLNNTimeout ∈ fsm.queue

/-- The timeout is not handled while the machine checks for invalid connections, unless a
second one waits, and finds memory when the authentication starts. -/
def TimeoutKept (fsm : LnnConnectionFsm) : FsmEvent → Prop
  | .handle k env =>
    (fsm.queue[k]? = some .joinLNNTimeout ∧ fsm.curState = some .cleanInvalidConn ∧
      fsm.isDead = false ∧ 0 < fsm.connInfo.authId → .joinLNNTimeout ∈ fsm.queue.eraseIdx k) ∧
    (fsm.queue[k]? = some .joinLNN ∧ fsm.curState = some .auth ∧ fsm.isDead = false ∧
      fsm.connInfo.authId ≤ 0 ∧ 0 < env.verifiedAuthId →
        env.postedDelay ∨ .joinLNNTimeout ∈ fsm.queue)
  | _ => True

instance (fsm : LnnConnectionFsm) (event : FsmEvent) : Decidable (TimeoutKept fsm event) := by
  refine event.casesOn ?_ ?_ ?_ ?_ ?_ ?_ ?_ ?_ ?_ ?_ ?_ <;> intros <;>
    dsimp only [TimeoutKept] <;> infer_instance

variable {fsm : LnnConnectionFsm}

lemma mem_post {posted msg other} : msg ∈ (fsm.post posted other).queue ↔
      msg ∈ fsm.queue ∨ posted ∧ msg = other := by
  cases posted <;> simp [post]

lemma mem_eraseIdx_of_other {queue : List FsmMsg} {k : Nat} {msg other : FsmMsg}
    (taken : queue[k]? = some other) (differs : msg ≠ other) :
    msg ∈ queue.eraseIdx k ↔ msg ∈ queue := by
  obtain ⟨inside, there⟩ := List.getElem?_eq_some_iff.mp taken
  constructor
  · exact List.mem_of_mem_eraseIdx
  · intro mem
    obtain ⟨i, bound, here⟩ := List.mem_iff_getElem.mp mem
    refine List.mem_eraseIdx_iff_getElem.mpr ⟨i, bound, ?_, here⟩
    rintro rfl
    exact differs (here.symm.trans there)

lemma not_joining_of_state {state} (current : fsm.curState = some state)
    (past : state.joining = false) : ¬fsm.Joining := by
  rintro ⟨other, same, joining⟩
  rw [current] at same
  cases same
  simp [past] at joining

/-- The effect of a message on a machine that had its timeout before the message was taken. -/
lemma Outcome.timed {env : FsmEnv} {fsm' : LnnConnectionFsm} {msg : FsmMsg} {out : List FsmAction}
    {k : Nat} (outcome : Outcome env { fsm with queue := fsm.queue.eraseIdx k } msg fsm' out)
    (taken : fsm.queue[k]? = some msg) (timed : fsm.Timed) (ok : TimeoutKept fsm (.handle k env)) :
    fsm'.Timed := by
  have kept (other : msg ≠ .joinLNNTimeout) (joining : fsm.Joining) (alive : fsm.isDead = false)
      (started : 0 < fsm.connInfo.authId) : .joinLNNTimeout ∈ fsm.queue.eraseIdx k :=
    (mem_eraseIdx_of_other taken other.symm).mpr (timed joining alive started)
  intro joining' alive' started'
  cases outcome with
  | dropped unhandled _ =>
    by_cases timeout : msg = .joinLNNTimeout
    · obtain ⟨state, current, joining⟩ := joining'
      have elsewhere := unhandled timeout alive'
      cases state with
      | auth => exact absurd current elsewhere.1
      | syncDeviceInfo => exact absurd current elsewhere.2
      | cleanInvalidConn => exact ok.1 ⟨taken.trans (by rw [timeout]), current, alive', started'⟩
      | online | leaving => cases joining
    · exact kept timeout joining' alive' started'
  | answered networkId retCode asked =>
    exact kept (by rcases asked with rfl | rfl <;> exact nofun) joining' alive' started'
  | verifying alive state idle started =>
    rw [mem_post]
    rcases ok.2 ⟨taken, state, alive, idle, started⟩ with posted | waiting
    · exact .inr ⟨posted, rfl⟩
    · have other : FsmMsg.joinLNNTimeout ≠ .joinLNN := nofun
      exact .inl ((mem_eraseIdx_of_other taken other).mpr waiting)
  | keyed alive state =>
    have there : .joinLNNTimeout ∈ fsm.queue.eraseIdx k :=
      kept nofun ⟨.auth, state, rfl⟩ alive (by split at started' <;> simpa using started')
    split
    · exact mem_post.mpr (.inl there)
    · exact mem_post.mpr (.inl (mem_post.mpr (.inl there)))
  | exchanged alive state | informed info alive state | invalidFound _ _ _ alive state =>
    exact kept nofun joining' alive' started'
  | authenticated alive state =>
    have there := kept nofun ⟨_, state, rfl⟩ alive (by simpa using started')
    exact mem_post.mpr (.inl there)
  | onlined _ _ asked alive state done =>
    exact absurd joining' (not_joining_of_state (completeJoinOk_curState done) rfl)
  | onlinedDead dead => exact absurd joining' (not_joining_of_state rfl rfl)
  | joinFailed authId first => cases alive'
  | leaving alive => exact absurd joining' (not_joining_of_state (post_curState _ _ _) rfl)
  | left first =>
    exact absurd joining' (not_joining_of_state (completeLeaveLNN_curState _ _) rfl)

lemma fsmStep_timed {fsm' event out}
    (timed : fsm.Timed) (ok : TimeoutKept fsm event) (done : fsmStep fsm event = some (fsm', out)) :
    fsm'.Timed := by
  cases fsmStep_reaction done with
  | ignored => exact timed
  | sent msg connInfo alive marked =>
    intro joining alive' started
    rw [marked.rest] at started
    exact List.mem_append_left _ (timed joining alive started)
  | handled k env taken outcome => exact outcome.timed taken timed ok
  | stopped =>
    rintro ⟨state, current, -⟩
    cases current

/-- In every run that meets the condition a started join has its timeout in the queue, if no
authentication was under way at first. -/
theorem join_timeout_queued {start : LnnConnectionFsm}
    (idle : start.connInfo.authId ≤ 0) {events : List FsmEvent}
    (kept : AllSteps fsmStep TimeoutKept start events) : AllStates fsmStep Timed start events := by
  have init : start.Timed := fun _ _ started => absurd started (by omega)
  intro pre post split fsm outs hRun
  exact run_state_invariant (fun _ _ _ _ timed ok done => fsmStep_timed timed ok done) init
    (AllSteps.front (split ▸ kept)) hRun

theorem join_timeout_queued_joined :
    AllSteps fsmStep TimeoutKept (lnnCreateConnectionFsm 1 peerAddr)
        (checkSteps ++ [.handle 1 {}]) ∧ AllStates fsmStep Timed (lnnCreateConnectionFsm 1 peerAddr)
        (checkSteps ++ [.handle 1 {}]) := by
  have kept : AllSteps fsmStep TimeoutKept (lnnCreateConnectionFsm 1 peerAddr)
      (checkSteps ++ [.handle 1 {}]) := by
    decide +kernel
  exact ⟨kept, join_timeout_queued (by decide) kept⟩

/-- The ledger has the peer online under another network id, so the machine waits for the old
connections to leave; the timeout is handled there and dropped. -/
theorem join_timeout_lost : ∃ fsm outs, run fsmStep (lnnCreateConnectionFsm 1 peerAddr)
        (checkSteps ++ [.handle 1 { oldNodeInfo := some { peerNode with
            status := .online, networkId := ⟨[4], by decide⟩ } },
          .handle 0 {}]) = some (fsm, outs) ∧
      fsm.Joining ∧ fsm.isDead = false ∧ 0 < fsm.connInfo.authId ∧ fsm.queue = [] := by
  have computed : (run fsmStep (lnnCreateConnectionFsm 1 peerAddr)
        (checkSteps ++ [.handle 1 { oldNodeInfo := some { peerNode with
            status := .online, networkId := ⟨[4], by decide⟩ } }, .handle 0 {}])).map (fun result =>
            (result.1.curState, result.1.isDead, result.1.connInfo.authId, result.1.queue)) =
        some (some .cleanInvalidConn, false, 5, []) := by
    decide +kernel
  obtain ⟨⟨fsm, outs⟩, hRun, same⟩ := Option.map_eq_some_iff.mp computed
  simp only [Prod.mk.injEq] at same
  obtain ⟨state, alive, started, empty⟩ := same
  exact ⟨fsm, outs, hRun, ⟨_, state, rfl⟩, alive, by omega, empty⟩

end DSoftBus.Lnn
