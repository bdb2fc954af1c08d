import DSoftBus.Lnn.ConnectionFsmTimeout

/-!
What a connection state machine still owes when it asks to be cleaned. A join or leave
request is owed an answer while its flag is set, and the flags are cleared only with the
answer. But a machine that dies in a joining state does not look at the leave request, and
one that dies in the leaving state does not look at the join request.
-/
namespace DSoftBus.Lnn

open Execution LnnConnectionFsm List Bool FsmAction

def FsmAction.isClean : FsmAction → Bool
  | .requestCleanConnFsm _ => true
  | _ => false

variable (fsm : LnnConnectionFsm)

/-- A leave is requested from machines that are online or leaving, its message is not handled
by a dead machine, and no join message waits when a leave completes. -/
def LeaveOrderly : FsmEvent → Prop
  | .leave .request => fsm.curState = some .online ∨ fsm.curState = some .leaving
  | .handle k env =>
    (fsm.queue[k]? = some .leaveLNN → fsm.isDead = false) ∧
    ((fsm.queue[k]?.any (completesLeave env fsm)) → .joinLNN ∉ fsm.queue)
  | _ => True

instance (fsm : LnnConnectionFsm) (event : FsmEvent) : Decidable (LeaveOrderly fsm event) := by
  cases event
  case leave reason => cases reason <;> dsimp only [LeaveOrderly] <;> infer_instance
  all_goals dsimp only [LeaveOrderly]; infer_instance

structure Settled (fsm : LnnConnectionFsm) (fsm' : LnnConnectionFsm) (out : List FsmAction) :
    Prop where
  silent : fsm.isDead → out = []
  stays : fsm.isDead → fsm'.isDead
  once : out.countP isClean ≤ 1
  /-- A machine that asks to be cleaned is dead from then on and owes no answer. -/
  paid : 0 < out.countP isClean → fsm'.isDead ∧ fsm'.connInfo.flag.joinRequest = false ∧
      fsm'.connInfo.flag.leaveRequest = false
  joinAnswered : fsm.connInfo.flag.joinRequest → fsm'.connInfo.flag.joinRequest = false →
    ∃ networkId retCode, .notifyJoinResult networkId retCode ∈ out
  leaveAnswered : fsm.connInfo.flag.leaveRequest → fsm'.connInfo.flag.leaveRequest = false →
      ∃ networkId retCode, .notifyLeaveResult networkId retCode ∈ out

structure LnnConnectionFsm.Owing (fsm : LnnConnectionFsm) : Prop where
  /-- Only a machine that is online, leaving or stopped owes a leave. -/
  leave : fsm.connInfo.flag.leaveRequest → ¬fsm.Joining
  /-- After the join is complete a join request still waits in the queue. -/
  join : fsm.connInfo.flag.joinRequest →
    fsm.curState = some .online ∨ fsm.curState = some .leaving → .joinLNN ∈ fsm.queue
  dead : fsm.isDead → fsm.connInfo.flag.joinRequest = false ∧ fsm.connInfo.flag.leaveRequest = false

variable {fsm fsm' : LnnConnectionFsm} {out : List FsmAction} {env : FsmEnv}

lemma Settled.of_flags (silent : fsm.isDead → out = [] ∧ fsm'.isDead)
    (none : out.countP isClean = 0)
    (join : fsm'.connInfo.flag.joinRequest = fsm.connInfo.flag.joinRequest)
    (leave : fsm'.connInfo.flag.leaveRequest = fsm.connInfo.flag.leaveRequest) :
    Settled fsm fsm' out where
  silent dead := (silent dead).1
  stays dead := (silent dead).2
  once := by omega
  paid := by omega
  joinAnswered before after := by
    simp [join, before] at after
  leaveAnswered before after := by
    simp [leave, before] at after

lemma countP_quiet (quiet : ∀ a ∈ out, a.isClean = false) : out.countP isClean = 0 := by
  rw [countP_eq_zero]
  intro a mem
  rw [quiet a mem]
  exact false_ne_true

lemma countP_notifyJoinResult (networkId retCode) :
    (notifyJoinResult fsm networkId retCode).2.countP isClean = 0 := by
  unfold notifyJoinResult
  split <;> rfl

lemma countP_notifyLeaveResult (networkId retCode) :
    (notifyLeaveResult fsm networkId retCode).2.countP isClean = 0 := by
  unfold notifyLeaveResult
  split <;> rfl

lemma countP_completeJoinFailed : (completeJoinFailed fsm).2.countP isClean = 1 := by
  simp only [completeJoinFailed, countP_append, countP_notifyJoinResult]
  rfl

lemma countP_reportResult (env report) : (reportResult env report).countP isClean = 0 := by
  unfold reportResult
  split
  · cases report <;> rfl
  · rfl

lemma countP_updateLeaveToLedger (env fsm) :
    (updateLeaveToLedger env fsm).1.countP isClean = 0 := by
  unfold updateLeaveToLedger
  split
  · rfl
  · split
    · split <;> rfl
    · rfl

lemma countP_completeLeaveLNN (alive : fsm.isDead = false) :
    (completeLeaveLNN env fsm).2.countP isClean = 1 := by
  simp only [completeLeaveLNN, alive, false_eq_true, if_false, countP_append,
    countP_updateLeaveToLedger, countP_notifyLeaveResult]
  split <;> rfl

lemma completeLeaveLNN_record {env fsm}
    (alive : fsm.isDead = false) : (completeLeaveLNN env fsm).1.isDead ∧
      (completeLeaveLNN env fsm).1.connInfo.flag.leaveRequest = false ∧
      (completeLeaveLNN env fsm).1.connInfo.flag.joinRequest = fsm.connInfo.flag.joinRequest := by
  simp only [completeLeaveLNN, alive, false_eq_true, if_false]
  exact ⟨rfl, rfl, rfl⟩

lemma completeLeaveLNN_answers (alive : fsm.isDead = false)
    (owed : fsm.connInfo.flag.leaveRequest) :
    .notifyLeaveResult fsm.connInfo.peerNetworkId .ok ∈ (completeLeaveLNN env fsm).2 := by
  simp only [completeLeaveLNN, alive, false_eq_true, if_false]
  have notified : FsmAction.notifyLeaveResult fsm.connInfo.peerNetworkId .ok ∈
      (notifyLeaveResult (fsm.removeMessage .leaveLNNTimeout) fsm.connInfo.peerNetworkId
        .ok).2 := by
    simp [notifyLeaveResult, removeMessage, owed]
  simp only [mem_append]
  exact .inl (.inl (.inr notified))

lemma completeJoinFailed_answers (owed : fsm.connInfo.flag.joinRequest) :
    .notifyJoinResult none .err ∈ (completeJoinFailed fsm).2 := by
  refine mem_append_left _ ?_
  simp [removeMessage, owed]

lemma completeJoinOk_record (done : completeJoinOk env fsm = some (fsm', out)) :
    out.countP isClean = 0 ∧ fsm'.isDead = fsm.isDead ∧ fsm'.connInfo.flag.joinRequest = false ∧
      fsm'.connInfo.flag.leaveRequest = fsm.connInfo.flag.leaveRequest ∧
      (fsm.connInfo.flag.joinRequest →
        .notifyJoinResult (some fsm.connInfo.peerNetworkId) .ok ∈ out) := by
  unfold completeJoinOk at done
  split at done
  · cases done
  cases done
  refine ⟨?_, rfl, rfl, rfl, fun owed => ?_⟩
  · rw [countP_cons_of_neg (by exact false_ne_true), countP_append, countP_reportResult]
    split <;> rfl
  · refine mem_cons_of_mem _ (mem_append_left _ ?_)
    simp [removeMessage, owed]

lemma completesLeave_state {msg} (completes : completesLeave env fsm msg) :
    (fsm.curState = some .online ∨ fsm.curState = some .leaving) ∧ msg ≠ .joinLNN := by
  unfold completesLeave at completes
  split at completes
  next state => exact ⟨.inl state, nofun⟩
  next state => exact ⟨.inl state, nofun⟩
  next state => exact ⟨.inl state, nofun⟩
  next state => exact ⟨.inr state, nofun⟩
  next state => exact ⟨.inr state, nofun⟩
  · cases completes

lemma LnnConnectionFsm.Owing.of_flags (owing : fsm.Owing)
    (join : fsm'.connInfo.flag.joinRequest = fsm.connInfo.flag.joinRequest)
    (leave : fsm'.connInfo.flag.leaveRequest = fsm.connInfo.flag.leaveRequest)
    (dead : fsm'.isDead = fsm.isDead) (joining : fsm'.Joining → fsm.Joining)
    (queue : fsm'.curState = some .online ∨ fsm'.curState = some .leaving →
      (fsm.curState = some .online ∨ fsm.curState = some .leaving) ∧
        (.joinLNN ∈ fsm.queue → .joinLNN ∈ fsm'.queue)) : fsm'.Owing where
  leave owed := by
    rw [leave] at owed
    exact fun still => owing.leave owed (joining still)
  join owed state := by
    rw [join] at owed
    exact (queue state).2 (owing.join owed (queue state).1)
  dead ended := by
    rw [join, leave]
    exact owing.dead (dead ▸ ended)

lemma LnnConnectionFsm.Owing.of_paid (join : fsm.connInfo.flag.joinRequest = false)
    (leave : fsm.connInfo.flag.leaveRequest = false) : fsm.Owing where
  leave owed := by
    simp [leave] at owed
  join owed := by
    simp [join] at owed
  dead _ := ⟨join, leave⟩

lemma LnnConnectionFsm.Joining.not_state (joining : fsm.Joining) :
    ¬(fsm.curState = some .online ∨ fsm.curState = some .leaving) := by
  rintro (online | leaving)
  · exact not_joining_of_state online rfl joining
  · exact not_joining_of_state leaving rfl joining

lemma LnnConnectionFsm.Owing.leave_of_joining (owing : fsm.Owing) (joining : fsm.Joining) :
    fsm.connInfo.flag.leaveRequest = false := by
  by_contra owed
  exact owing.leave (by simpa using owed) joining

lemma LnnConnectionFsm.Owing.joining_step (owing : fsm.Owing) (joining : fsm.Joining)
    (joining' : fsm'.Joining) (alive : fsm.isDead = false) (alive' : fsm'.isDead = false)
    (flag : fsm'.connInfo.flag = fsm.connInfo.flag) (none : out.countP isClean = 0) :
    fsm'.Owing ∧ Settled fsm fsm' out := by
  refine ⟨⟨?_, fun _ state => absurd state joining'.not_state, ?_⟩, ?_⟩
  · intro owed
    simp [flag, owing.leave_of_joining joining] at owed
  · intro ended
    simp [alive'] at ended
  · refine .of_flags (fun dead => ?_) none (by rw [flag]) (by rw [flag])
    simp [alive] at dead

lemma Outcome.settled {msg k}
    (outcome : Outcome env { fsm with queue := fsm.queue.eraseIdx k } msg fsm' out)
    (taken : fsm.queue[k]? = some msg) (owing : fsm.Owing)
    (orderly : LeaveOrderly fsm (.handle k env)) : fsm'.Owing ∧ Settled fsm fsm' out := by
  have kept (other : msg ≠ .joinLNN) (waits : .joinLNN ∈ fsm.queue) :
      .joinLNN ∈ fsm.queue.eraseIdx k := (mem_eraseIdx_of_other taken (Ne.symm other)).mpr waits
  cases outcome with
  | dropped _ unhandled =>
    refine ⟨owing.of_flags rfl rfl rfl id fun state => ⟨state, ?_⟩,
      .of_flags (fun dead => ⟨rfl, dead⟩) rfl rfl rfl⟩
    by_cases join : msg = .joinLNN
    · exact absurd state (not_or.mpr (unhandled join))
    · exact kept join
  | answered networkId retCode asked =>
    refine ⟨⟨fun owed => owing.leave owed, nofun, fun dead => ⟨rfl, (owing.dead dead).2⟩⟩, ?_⟩
    refine ⟨fun dead => ?_, id, ?_, ?_, fun owed _ => ⟨networkId, retCode, ?_⟩, fun owed paid => ?_⟩
    · exact if_neg (by rw [(owing.dead dead).1]; exact false_ne_true)
    · rw [countP_notifyJoinResult]
      exact Nat.zero_le 1
    · rw [countP_notifyJoinResult]
      exact nofun
    · simp [notifyJoinResult, owed]
    · exact absurd (owed.symm.trans paid) nofun
  | verifying alive state idle started =>
    exact owing.joining_step ⟨_, state, rfl⟩ ⟨.auth, (post_curState _ _ _).trans state, rfl⟩ alive
      ((post_isDead _ _ _).trans alive) (by simp [withAuthId]) rfl
  | keyed alive state =>
    refine owing.joining_step ⟨_, state, rfl⟩ ⟨.syncDeviceInfo, ?_, rfl⟩ alive ?_ ?_ rfl
    · split <;> simp
    · split <;> simpa using alive
    · split <;> simp
  | exchanged alive state | informed info alive state
  | invalidFound old addrType info alive state =>
    exact owing.joining_step ⟨_, state, rfl⟩ ⟨_, state, rfl⟩ alive alive rfl rfl
  | authenticated alive state =>
    exact owing.joining_step ⟨_, state, rfl⟩ ⟨.cleanInvalidConn, by simp, rfl⟩ alive
      (by simpa using alive) (by simp) rfl
  | onlined _ _ asked alive state done =>
    obtain ⟨none, dead, join, leave, answered⟩ := completeJoinOk_record done
    have unowed := owing.leave_of_joining ⟨_, state, rfl⟩
    have notDead (ended : fsm.isDead) : False := false_ne_true (alive.symm.trans ended)
    refine ⟨.of_paid join (leave.trans unowed),
      ⟨fun ended => (notDead ended).elim, fun ended => (notDead ended).elim, by omega, by omega,
        ?_, ?_⟩⟩
    · exact fun owed _ => ⟨_, _, answered owed⟩
    · exact fun owed _ => absurd (unowed.symm.trans owed) false_ne_true
  | onlinedDead dead state =>
    obtain ⟨join, leave⟩ := owing.dead dead
    exact ⟨.of_paid join leave, .of_flags (fun dead => ⟨rfl, dead⟩) rfl rfl rfl⟩
  | joinFailed authId first state asked quiet =>
    have alive : fsm.isDead = false := by
      by_contra dead
      obtain ⟨rfl, -⟩ := asked (by simpa using dead)
      exact dead (orderly.1 taken)
    have unowed := owing.leave_of_joining state
    have none : first.countP isClean = 0 :=
      countP_quiet fun a mem => by rcases quiet a mem with rfl | rfl <;> rfl
    refine ⟨.of_paid rfl unowed,
      ⟨fun dead => ?_, fun _ => rfl, ?_, fun _ => ⟨rfl, rfl, unowed⟩, ?_, ?_⟩⟩
    · exact absurd (alive.symm.trans dead) false_ne_true
    · rw [countP_append, none, countP_completeJoinFailed]
    · exact fun owed _ => ⟨_, _, mem_append_right _ (completeJoinFailed_answers owed)⟩
    · exact fun owed _ => absurd (unowed.symm.trans owed) false_ne_true
  | leaving alive state asked =>
    have other : msg ≠ .joinLNN := by rcases asked with rfl | rfl | rfl <;> exact nofun
    refine ⟨owing.of_flags (by simp) (by simp) (by simp) ?_ fun _ => ⟨.inl state, ?_⟩,
      .of_flags ?_ rfl (by simp) (by simp)⟩
    · exact fun joining => absurd joining (not_joining_of_state (post_curState _ _ _) rfl)
    · exact fun waits => mem_post.mpr (.inl (kept other waits))
    · exact fun dead => absurd (alive.symm.trans dead) false_ne_true
  | left first alive asked quiet =>
    have none : first.countP isClean = 0 :=
      countP_quiet fun a mem => by obtain ⟨_, rfl⟩ := quiet a mem; rfl
    have unowed : fsm.connInfo.flag.joinRequest = false := by
      by_contra owed
      refine orderly.2 ?_ (owing.join (by simpa using owed) (completesLeave_state asked).1)
      rw [taken]
      exact asked
    obtain ⟨dead', leave, join⟩ := @completeLeaveLNN_record env
      { fsm with curState := some .leaving, queue := fsm.queue.eraseIdx k } alive
    refine ⟨.of_paid (join.trans unowed) leave,
      ⟨fun dead => ?_, fun _ => dead', ?_, fun _ => ⟨dead', join.trans unowed, leave⟩, ?_, ?_⟩⟩
    · exact absurd (alive.symm.trans dead) false_ne_true
    · rw [countP_append, none]
      exact Nat.le_of_eq ((Nat.zero_add _).trans (countP_completeLeaveLNN alive))
    · exact fun owed _ => absurd (unowed.symm.trans owed) false_ne_true
    · exact fun owed _ => ⟨_, _, mem_append_right _ (completeLeaveLNN_answers alive owed)⟩

lemma fsmStep_settled {event} (owing : fsm.Owing) (orderly : LeaveOrderly fsm event)
    (done : fsmStep fsm event = some (fsm', out)) : fsm'.Owing ∧ Settled fsm fsm' out := by
  cases fsmStep_reaction done with
  | ignored => exact ⟨owing, .of_flags (fun dead => ⟨rfl, dead⟩) rfl rfl rfl⟩
  | sent msg connInfo alive marked =>
    refine ⟨⟨fun owed => ?_, fun owed state => ?_, fun dead => ?_⟩,
      ⟨fun _ => rfl, id, Nat.zero_le 1, nofun, fun owed paid => ?_, fun owed paid => ?_⟩⟩
    · rcases marked.left owed with before | rfl
      · exact owing.leave before
      · exact fun joining => joining.not_state orderly
    · rcases marked.joined owed with before | rfl
      · exact mem_append_left _ (owing.join before state)
      · exact mem_concat_self
    · simp [alive] at dead
    · exact absurd ((marked.joinKept owed).symm.trans paid) nofun
    · exact absurd ((marked.leaveKept owed).symm.trans paid) nofun
  | handled k env taken outcome => exact outcome.settled taken owing orderly
  | stopped =>
    refine ⟨⟨fun _ => ?_, fun _ state => ?_, owing.dead⟩,
      .of_flags (fun dead => ⟨rfl, dead⟩) rfl rfl rfl⟩
    · rintro ⟨state, current, -⟩
      cases current
    · rcases state with state | state <;> cases state

lemma Created.owing (created : Created fsm) : fsm.Owing := by
  cases created <;> exact .of_paid rfl rfl

structure LnnConnectionFsm.AskedOnce (fsm : LnnConnectionFsm) (past : List FsmAction) : Prop where
  owing : fsm.Owing
  few : past.countP isClean ≤ 1
  none : fsm.isDead = false → past.countP isClean = 0

lemma fsmStep_askedOnce {event past} (asked : fsm.AskedOnce past)
    (orderly : LeaveOrderly fsm event) (done : fsmStep fsm event = some (fsm', out)) :
    fsm'.AskedOnce (past ++ out) := by
  obtain ⟨owing', settled⟩ := fsmStep_settled asked.owing orderly done
  have once := settled.once
  have few := asked.few
  by_cases dead : fsm.isDead
  · rw [settled.silent dead, append_nil]
    exact ⟨owing', few, fun alive => absurd (settled.stays dead) (by simp [alive])⟩
  · have none := asked.none (by simpa using dead)
    refine ⟨owing', ?_, fun alive => ?_⟩
    · rw [countP_append]
      omega
    · rw [countP_append, none, zero_add]
      by_contra some
      exact absurd (settled.paid (Nat.pos_of_ne_zero some)).1 (by simp [alive])

/-- In every run that meets the condition each step is settled, and at most one of them asks
for the machine to be cleaned. -/
theorem connectionFsm_answers_once {start : LnnConnectionFsm} (created : Created start)
    {events : List FsmEvent} (orderly : AllSteps fsmStep LeaveOrderly start events) :
    AllResults fsmStep (fun fsm _ fsm' out => Settled fsm fsm' out) start events ∧
      ∀ fsm outs, run fsmStep start events = some (fsm, outs) → outs.countP isClean ≤ 1 := by
  refine ⟨orderly.results_of_inv
    (fun _ _ _ _ owing ok done => fsmStep_settled owing ok done) created.owing, ?_⟩
  intro fsm outs hRun
  have init : start.AskedOnce [] := ⟨created.owing, Nat.zero_le 1, fun _ => rfl⟩
  exact (run_invariant (fun _ _ _ _ _ asked ok done => fsmStep_askedOnce asked ok done) init
    orderly hRun).few

def leaveSteps : List FsmEvent :=
  checkSteps ++ [.handle 1 {}, .leave .request, .handle 0 {}, .syncOfflineFinish, .handle 1 {}]

theorem connectionFsm_answers_once_left :
    AllSteps fsmStep LeaveOrderly (lnnCreateConnectionFsm 1 peerAddr) leaveSteps ∧
      AllResults fsmStep (fun fsm _ fsm' out => Settled fsm fsm' out)
        (lnnCreateConnectionFsm 1 peerAddr) leaveSteps ∧
      ∀ fsm outs, run fsmStep (lnnCreateConnectionFsm 1 peerAddr) leaveSteps = some (fsm, outs) →
        outs.countP isClean ≤ 1 := by
  have orderly : AllSteps fsmStep LeaveOrderly (lnnCreateConnectionFsm 1 peerAddr)
      leaveSteps := by
    decide +kernel
  exact ⟨orderly, connectionFsm_answers_once (.active 1 peerAddr) orderly⟩

/-- Of two leaves by address type during the authentication the second is handled by the dead
machine, which asks to be cleaned again. A leave request during the authentication is not
answered. -/
theorem clean_asked_twice_or_owing : (run fsmStep (lnnCreateConnectionFsm 1 peerAddr)
      [.join true, .handle 0 { verifiedAuthId := 5 }, .leave .addrType, .leave .addrType,
        .handle 1 {}, .handle 0 {}]).map (·.2.countP isClean) = some 2 ∧
    (run fsmStep (lnnCreateConnectionFsm 1 peerAddr)
      [.join true, .handle 0 { verifiedAuthId := 5 }, .leave .request, .disconnect,
        .handle 1 {}, .handle 1 {}]).map (fun result =>
          (result.2, result.1.connInfo.flag.leaveRequest)) =
      some ([.authVerifyDevice, .notifyJoinResult (some emptyString) .err, .authHandleLeaveLNN 5,
        .requestCleanConnFsm 1], true) := by
  constructor <;> decide +kernel

end DSoftBus.Lnn
