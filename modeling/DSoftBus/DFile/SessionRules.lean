import DSoftBus.DFile.TransferSession

/-!
What the handlers of a DFile session can do to it, said once. A condition that is kept by
each of these changes (`Kept`) is kept by every task and so by every run.

The tasks that wait have a condition of their own: the state machine of a sender is only
run when an mtu has been negotiated.
-/
namespace DSoftBus.DFile
open Effect Execution DFileTrans RecordHeap List Triple Keeps

def MayRun (t : DFileTrans) : Prop := t.isSender → t.mtu ≠ 0

def TransOut.runs : TransOut → Bool
  | .fsm | .frame => true
  | .msg _ | .sendState _ => false

structure SameTrans (t t' : DFileTrans) : Prop where
  transId : t'.transId = t.transId
  isSender : t'.isSender = t.isSender
  mtu : t'.mtu = t.mtu

lemma DFileTrans.Same.sameTrans {t t'} (same : Same t t') : SameTrans t t' :=
  ⟨same.transId, same.isSender, same.mtu⟩

lemma SameTrans.mayRun {t t'} (same : SameTrans t t') (may : MayRun t) : MayRun t' := by
  intro sender
  rw [same.mtu]
  exact may (same.isSender.symm.trans sender)

/-- The changes of a session. `Rst` is what must hold when an RST frame is handled. -/
structure Kept (Rst : Session → Prop) (P : Session → List SessionEvent → Prop) : Prop where
  todo : ∀ {s past}, P s past → ∀ todo, P { s with todo := todo } past
  put : ∀ {s past h t t'}, P s past → s.trans.get? h = some t → SameTrans t t' →
    P (s.putTrans h t') past
  emit : ∀ {s past h t out}, P s past → s.trans.get? h = some t →
    (out.runs → MayRun t) → P s (past ++ [.trans h out])
  destroy : ∀ {s past h t}, P s past → s.trans.get? h = some t →
    P (s.destroyTrans h t) (past ++ [.transDestroyed t.transId
      (s.tranIdStateList.setTransIdState s.isClient t.transId .done).2])
  create : ∀ {s past transId mtu}, P s past → s.findTrans transId = none →
    s.tranIdStateList.isTransIdDone s.isClient transId = false →
    P (s.addTrans ((DFileTrans.create transId false s.capsTcp s.config 0).setMtu mtu))
      (past ++ [.transCreated transId])
  start : ∀ {s past transId fileNum peer}, P s past → s.isClient → peer ∈ s.peers →
    P { s.addTrans ((DFileTrans.create transId true s.capsTcp s.config fileNum).setMtu
      peer.mtuInuse) with lastDFileTransId := transId } past
  clientSetting : ∀ {s past peer mtu}, P s past → s.isClient →
    s.findPeer peer.addr = some peer → P ((s.setPeer { peer with mtuInuse := mtu }).setMtu mtu)
      (past ++ [.settingHandled peer.addr])
  serverSetting : ∀ {s past peers addr}, P s past → s.isClient = false →
    P { s with peers := peers } (past ++ [.settingHandled addr])
  rst : ∀ {s past peer}, P s past → peer ∈ s.peers → Rst s →
    P (s.setMtu 0) (past ++ [.rstHandled peer.addr])

def TaskFits (s : Session) : Task → Prop
  | .fsm h => h < s.trans.next ∧ ∀ t, s.trans.get? h = some t → MayRun t
  | .startTrans _ => s.isClient
  | _ => True

/-- The task is none that may run a state machine or start a transfer. -/
def Task.plain : Task → Bool
  | .fsm _ | .startTrans _ => false
  | _ => true

lemma TaskFits.of_plain {s task} (plain : task.plain) : TaskFits s task := by
  cases task with
  | fsm _ | startTrans _ => cases plain
  | tick | handleFrame _ _ | fileManagerMsg _ _ _ | sweep _ _ | process _ | notifyAck _
  | clearAck _ | notifyEnd _ => trivial

/-- The records of the first session are records of the second, which may run no less. -/
structure Grows (s s' : Session) : Prop where
  isClient : s'.isClient = s.isClient
  next : s.trans.next ≤ s'.trans.next
  record : ∀ h t', h < s.trans.next → s'.trans.get? h = some t' →
    ∃ t, s.trans.get? h = some t ∧ (MayRun t → MayRun t')

lemma TaskFits.grows {s s' task} (grows : Grows s s')
    (fits : TaskFits s task) : TaskFits s' task := by
  cases task with
  | fsm h =>
    refine ⟨lt_of_lt_of_le fits.1 grows.next, fun t' here => ?_⟩
    obtain ⟨t, old, may⟩ := grows.record h t' fits.1 here
    exact may (fits.2 t old)
  | startTrans _ => exact grows.isClient.trans fits
  | tick | handleFrame _ _ | fileManagerMsg _ _ _ | sweep _ _ | process _ | notifyAck _
  | clearAck _ | notifyEnd _ => trivial

section
variable {s : Session} {h : Nat} {t t' : DFileTrans}

lemma grows_of_eq {s'} (isClient : s'.isClient = s.isClient)
    (trans : s'.trans = s.trans) : Grows s s' :=
  ⟨isClient, le_of_eq (by rw [trans]), fun g u _ here => ⟨u, by rwa [← trans], id⟩⟩

lemma grows_putTrans (here : s.trans.get? h = some t) (same : SameTrans t t') :
    Grows s (s.putTrans h t') := by
  refine ⟨rfl, le_rfl, fun g u _ found => ?_⟩
  rcases get?_modify_eq_some found with ⟨_, old⟩ | ⟨rfl, old, before, rfl⟩
  · exact ⟨u, old, id⟩
  · exact ⟨t, here, same.mayRun⟩

lemma grows_addTrans : Grows s (s.addTrans t) := by
  refine ⟨rfl, Nat.le_succ _, fun g u old found => ⟨u, ?_, id⟩⟩
  rwa [← get?_alloc_of_lt old]

lemma mtu_setMtu (mtu) (set : t.mtu ≠ 0) : (t.setMtu mtu).mtu ≠ 0 := by
  unfold setMtu
  split
  next usable =>
    rw [mtuUsable, Bool.and_eq_true, decide_eq_true_eq] at usable
    exact Nat.ne_of_gt (Nat.lt_of_le_of_lt (Nat.zero_le _) usable.1)
  · exact set

lemma isSender_setMtu (mtu) : (t.setMtu mtu).isSender = t.isSender := by
  unfold setMtu
  split <;> rfl

lemma transId_setMtu (mtu) : (t.setMtu mtu).transId = t.transId := by
  unfold setMtu
  split <;> rfl

lemma grows_setMtu (mtu) : Grows s (s.setMtu mtu) := by
  refine ⟨rfl, le_rfl, fun g u _ found => ?_⟩
  obtain ⟨t, here, rfl⟩ := Option.map_eq_some_iff.mp (get?_map.symm.trans found)
  refine ⟨t, here, fun may sender => mtu_setMtu mtu (may ?_)⟩
  rwa [isSender_setMtu] at sender

end

/-! ## The handlers -/

/-- What holds while a task is handled. The tasks `held` will be put in front of those that
wait. -/
def Steady (P : Session → List SessionEvent → Prop) (held : List Task) (s : Session)
    (past : List SessionEvent) : Prop := P s past ∧ ∀ task ∈ held ++ s.todo, TaskFits s task

def WorksOn (P : Session → List SessionEvent → Prop) (held : List Task) (h : Nat) (t : DFileTrans)
    (s : Session) (past : List SessionEvent) : Prop :=
  Steady P held s past ∧ s.trans.get? h = some t

section
variable {Rst : Session → Prop} {P : Session → List SessionEvent → Prop} {h : Nat}
  {held : List Task} {t t' : DFileTrans} {env : Env} {α : Type}
  {Q : α → Session → List SessionEvent → Prop}

variable {past : List SessionEvent} {tasks : List Task}

lemma Steady.grows {s s' past'} (inv : Steady P held s past)
    (grows : Grows s s') (todo : s'.todo = s.todo) (kept : P s' past') :
    Steady P held s' past' := by
  refine ⟨kept, fun task mem => ?_⟩
  rw [todo] at mem
  exact (inv.2 task mem).grows grows

lemma getTrans_triple {R f}
    (next : ∀ t, Triple (fun s past => R s past ∧ s.trans.get? h = some t) (f t) Q) :
    Triple R (getTrans h >>= f) Q := by
  have first : Triple R (getTrans h) fun t s past => R s past ∧ s.trans.get? h = some t := by
    refine .get fun s => ?_
    split
    · exact .fault
    next t here =>
      refine .pure ?_
      rintro u past ⟨rfl, holds⟩
      exact ⟨holds, here⟩
  exact first.bind next

lemma WorksOn.getTrans {f} (next : Triple (WorksOn P held h t) (f t) Q) :
    Triple (WorksOn P held h t) (getTrans h >>= f) Q := by
  refine getTrans_triple fun found => ?_
  rintro s past ⟨works, here⟩
  rw [works.2] at here
  cases here
  exact next s past works

lemma putTrans_kept (kept : Kept Rst P) (same : SameTrans t t') :
    Triple (WorksOn P held h t) (putTrans h t') fun _ => WorksOn P held h t' := by
  refine .modify ?_
  rintro s past ⟨inv, here⟩
  refine ⟨inv.grows (grows_putTrans here same) rfl (kept.put inv.1 here same), ?_⟩
  exact get?_modify_self.trans (by rw [here]; rfl)

lemma putLast_kept (kept : Kept Rst P) (same : SameTrans t t') :
    Triple (WorksOn P held h t) (putTrans h t') fun _ => Steady P held :=
  (putTrans_kept kept same).consequence (fun _ _ works => works) fun _ _ _ works => works.1

lemma emit_kept (kept : Kept Rst P) {out} (may : out.runs → MayRun t) :
    Triple (WorksOn P held h t) (emit (.trans h out)) fun _ => WorksOn P held h t := by
  refine .emit ?_
  rintro s past ⟨inv, here⟩
  exact ⟨⟨kept.emit inv.1 here may, inv.2⟩, here⟩

lemma emitTrans_kept (kept : Kept Rst P) {outs} (may : ∀ out ∈ outs, out.runs → MayRun t) :
    Triple (WorksOn P held h t) (emitTrans h outs) fun _ => WorksOn P held h t :=
  each fun out mem => emit_kept kept (may out mem)

lemma push_kept (kept : Kept Rst P) (tasks) :
    Triple (Steady P (tasks ++ held)) (push tasks) fun _ => Steady P held := by
  refine .modify fun s past inv => ⟨kept.todo inv.1 _, fun task mem => ?_⟩
  have same : Grows s { s with todo := tasks ++ s.todo } := grows_of_eq rfl rfl
  refine TaskFits.grows same (inv.2 task ?_)
  simp only [mem_append] at mem ⊢
  tauto

lemma Steady.hold {s} (inv : Steady P held s past)
    (fits : ∀ task ∈ tasks, TaskFits s task) : Steady P (tasks ++ held) s past := by
  refine ⟨inv.1, fun task mem => ?_⟩
  rw [append_assoc] at mem
  rcases mem_append.mp mem with new | old
  · exact fits task new
  · exact inv.2 task old

lemma pushPlain_kept (kept : Kept Rst P) (plain : ∀ task ∈ tasks, task.plain) :
    Keeps (Steady P held) (push tasks) :=
  (push_kept kept tasks).weaken fun _ _ inv => inv.hold fun task mem => .of_plain (plain task mem)

lemma WorksOn.hold {s} (works : WorksOn P held h t s past) (may : MayRun t)
    (fits : ∀ task ∈ tasks, task.plain ∨ task = .fsm h) : WorksOn P (tasks ++ held) h t s past := by
  refine ⟨works.1.hold fun task mem => ?_, works.2⟩
  rcases fits task mem with plain | rfl
  · exact .of_plain plain
  · refine ⟨lt_next works.2, fun u found => ?_⟩
    rw [works.2] at found
    cases found
    exact may

lemma pushFsm_kept (kept : Kept Rst P) (may : MayRun t)
    (fits : ∀ task ∈ tasks, task.plain ∨ task = .fsm h) :
    Triple (WorksOn P held h t) (push tasks) fun _ => Steady P held :=
  (push_kept kept tasks).weaken fun _ _ works => (works.hold may fits).1

lemma notifyTransMsg_kept (kept : Kept Rst P) (type) :
    Keeps (Steady P held) (notifyTransMsg h type) := by
  refine getTrans_triple fun t => ?_
  have told : Triple (WorksOn P held h t)
      (emit (.trans h (.msg (if type = .fileSent ∧ t.sentFiles = [] then .fileSendFail else type))))
      fun _ => WorksOn P held h t := emit_kept kept nofun
  refine told.bind fun _ => when (fun _ => get fun s => ?_) fun _ _ _ works => works.1
  rintro s past ⟨rfl, inv, here⟩ _ _ _ ⟨⟩
  exact inv.grows ⟨rfl, le_rfl, fun _ u _ found => ⟨u, get?_of_free found, id⟩⟩ rfl
    (kept.destroy inv.1 here)

lemma WorksOn.keeps {x : Working α} (keeps : Keeps (Steady P held) x) :
    Triple (WorksOn P held h t) x fun _ => Steady P held := keeps.weaken fun _ _ works => works.1

section

variable (kept : Kept Rst P)
include kept

lemma notifyEndMsg_kept : Keeps (Steady P held) (notifyEndMsg h) := by
  have notify {c : Prop} [Decidable c] (type) :
      Keeps (Steady P held) (when c (notifyTransMsg h type)) :=
    when fun _ => notifyTransMsg_kept kept type
  refine getTrans_triple fun t => WorksOn.keeps (ite (fun _ => ?_) fun _ => ?_)
  · exact .bind (notify .fileSendFail) fun _ => notify .fileSent
  · exact .bind (notify .fileReceiveFail) fun _ => notify .end

lemma transferFsm_kept :
    Triple (fun s past => Steady P held s past ∧ ∀ t, s.trans.get? h = some t → MayRun t)
      (transferFsm env h) fun _ => Steady P held := by
  refine getTrans_triple fun t => ?_
  rintro s past ⟨⟨inv, fits⟩, here⟩
  have may : MayRun t := fits t here
  have same := (transferFsm_passed env t).same.sameTrans
  have body : Triple (WorksOn P held h t) (do
      emit (.trans h .fsm)
      putTrans h (t.transferFsm env).1
      emitTrans h (t.transferFsm env).2.1
      when ((t.transferFsm env).2.2) (push [.fsm h])) fun _ => Steady P held := by
    refine .bind (emit_kept kept fun _ => may) fun _ => ?_
    refine .bind (putTrans_kept kept same) fun _ => ?_
    refine .bind (emitTrans_kept kept fun _ _ _ => same.mayRun may) fun _ => ?_
    refine .when (fun _ => pushFsm_kept kept (same.mayRun may) ?_) fun _ _ _ works => works.1
    exact fun task mem => .inr (mem_singleton.mp mem)
  exact body s past ⟨inv, here⟩

lemma handleFileNameTableFrame_kept : Keeps (Steady P held) (handleFileNameTableFrame env h) := by
  have renameFailed : Keeps (Steady P held) (when (env.renamed = false) do
      notifyTransMsg h .fileReceiveFail
      let t ← getTrans h
      putTrans h { t with allFileNameReceived := false }) := by
    refine .when fun _ => Keeps.bind (notifyTransMsg_kept kept _) fun _ => ?_
    exact getTrans_triple fun t => putLast_kept kept ⟨rfl, rfl, rfl⟩
  refine getTrans_triple fun t => when (fun _ => ?_) fun _ _ _ works => works.1
  refine .ite (fun _ => putLast_kept kept ⟨rfl, rfl, rfl⟩) fun _ => ?_
  refine .bind (putLast_kept kept ⟨rfl, rfl, rfl⟩) fun _ => Keeps.when fun _ => ?_
  exact .bind renameFailed fun _ => notifyTransMsg_kept kept _

lemma handleFileDataFrame_kept (may : MayRun t) :
    Triple (WorksOn P held h t) (handleFileDataFrame env h) fun _ => Steady P held := by
  refine WorksOn.getTrans (when (fun _ => ?_) fun _ _ _ works => works.1)
  refine .ite (fun _ => ?_) fun _ => ?_
  · have keeps {x} {c : Prop} [Decidable c] (keeps : Keeps (WorksOn P held h t) x) :
        Keeps (WorksOn P held h t) (when c x) := when fun _ => keeps
    refine .bind (keeps (emitTrans_kept kept fun _ _ _ => may)) fun _ => ?_
    refine .bind (keeps (emit_kept kept nofun)) fun _ => ?_
    exact putLast_kept kept ⟨rfl, rfl, rfl⟩
  · exact putLast_kept kept (@setReceiveState_stepped t .receiveFileFail).same.sameTrans

lemma handleTransFrame_kept (may : MayRun t) (frame) :
    Triple (WorksOn P held h t) (handleTransFrame env h frame) fun _ => Steady P held := by
  have put {c : Prop} [Decidable c] {f : DFileTrans → DFileTrans} (same : ∀ u, SameTrans u (f u)) :
      Triple (WorksOn P held h t) (when c (putTrans h (f t))) fun _ => Steady P held :=
    when (fun _ => putLast_kept kept (same t)) fun _ _ _ works => works.1
  cases frame with
  | fileHeader => exact WorksOn.keeps (handleFileNameTableFrame_kept kept)
  | fileHeaderConfirm =>
    exact WorksOn.getTrans (put (f := fun u => { u with lostAckCnt := 0 }) fun _ => ⟨rfl, rfl, rfl⟩)
  | fileData => exact handleFileDataFrame_kept kept may
  | fileTransferDone fileIds =>
    exact WorksOn.getTrans (put (f := (·.transferDone fileIds)) fun _ => ⟨rfl, rfl, rfl⟩)
  | fileTransferDoneAck =>
    exact WorksOn.getTrans
      (put (f := fun u => { u with fileTransferDoneAcked := true }) fun _ => ⟨rfl, rfl, rfl⟩)

lemma handleDFileFrame_kept (frame) : Keeps (Steady P held) (handleDFileFrame env h frame) := by
  refine getTrans_triple fun t => ?_
  refine .when (fun running => ?_) fun _ _ _ works => works.1
  have may : MayRun t := fun _ => running.1
  refine .weaken (P := WorksOn P ([.fsm h, .notifyAck h, .notifyEnd h] ++ held) h t) ?_
    fun _ _ works => WorksOn.hold works may (by simp [Task.plain])
  exact .bind (handleTransFrame_kept kept may frame) fun _ => push_kept kept _

lemma notifyAck_kept : Keeps (Steady P held) (notifyAck h) := by
  refine getTrans_triple fun t => when (fun _ => ?_) fun _ _ _ works => works.1
  refine WorksOn.keeps (Keeps.bind (notifyTransMsg_kept kept _) fun _ => Keeps.get fun s => ?_)
  exact pushPlain_kept kept (by simp [Task.plain])

lemma clearAck_kept : Keeps (Steady P held) (clearAck h) :=
  getTrans_triple fun _ => putLast_kept kept ⟨rfl, rfl, rfl⟩

lemma dFileTransProcess_kept : Keeps (Steady P held) (dFileTransProcess h) := by
  refine getTrans_triple fun t => when (fun running => ?_) fun _ _ _ works => works.1
  exact pushFsm_kept kept (fun _ => running.1) (by simp [Task.plain])

lemma processSessionTrans_kept (exceptTransId position) :
    Keeps (Steady P held) (processSessionTrans exceptTransId position) := by
  cases position with
  | none => exact .pure _
  | some h =>
    refine getTrans_triple fun t => WorksOn.keeps (get fun s => pushPlain_kept kept ?_)
    intro task mem
    rcases mem_append.mp mem with one | last
    · split at one
      · cases one
      · rw [mem_singleton.mp one]
        rfl
    · rw [mem_singleton.mp last]
      rfl

end

lemma setSendState_quiet (next) : ∀ out ∈ (t.setSendState next).2, out.runs = false := by
  intro out mem
  unfold setSendState at mem
  split at mem
  · cases mem
  · rcases mem_append.mp mem with data | state
    · split at data
      · rw [mem_singleton.mp data]
        rfl
      · cases data
    · rw [mem_singleton.mp state]
      rfl

section

variable (kept : Kept Rst P)
include kept

lemma fileManagerSenderMsgHandler_kept (type) :
    Keeps (Steady P held) (fileManagerSenderMsgHandler h type) := by
  refine getTrans_triple fun t => ?_
  have failed := (@setSendState_same t .sendFileFail).sameTrans
  have told : Keeps (WorksOn P held h t) (when (type = .transInProgress)
      (emit (.trans h (.msg .inProgress)))) := when fun _ => emit_kept kept nofun
  refine .bind told fun _ => when (fun _ => ?_) fun _ _ _ works => works.1
  refine .bind (putTrans_kept kept failed) fun _ => ?_
  refine .bind (emitTrans_kept kept fun out mem runs => ?_) fun _ => ?_
  · simp [setSendState_quiet _ out mem] at runs
  · exact WorksOn.keeps (notifyTransMsg_kept kept _)

lemma fileManagerReceiverMsgHandler_kept (receiver : t.isSender = false) (fileId type) :
    Triple (WorksOn P held h t) (fileManagerReceiverMsgHandler env h fileId type)
      fun _ => Steady P held := by
  refine WorksOn.getTrans (ite (fun _ => ?_) fun _ => ?_)
  · have same := (@setReceiveState_stepped t .receiveFileFail).same.sameTrans
    refine .bind (putTrans_kept kept same) fun _ => ?_
    exact WorksOn.keeps (notifyTransMsg_kept kept _)
  · refine .when (fun _ => ?_) fun _ _ _ works => works.1
    have notified := (@notifyRecvSucMsg_stepped env
      { t with allFileDataReceived := true, ioWriteFinishFlag := true }).same
    have may : MayRun (DFileTrans.notifyRecvSucMsg env
        { t with allFileDataReceived := true, ioWriteFinishFlag := true }).1 := by
      intro sender
      rw [notified.isSender, receiver] at sender
      cases sender
    refine .bind (putTrans_kept kept ⟨notified.transId, notified.isSender, notified.mtu⟩)
      fun _ => ?_
    refine .bind (emitTrans_kept kept fun _ _ _ => may) fun _ => ?_
    exact pushFsm_kept kept may (by simp [Task.plain])

lemma fileManagerTransMsgHandler_kept (tid fileId type) :
    Keeps (Steady P held) (fileManagerTransMsgHandler env tid fileId type) := by
  refine .get fun s => ?_
  split
  · exact .pure _
  · refine getTrans_triple fun t => ite (fun _ => ?_) fun receiver => ?_
    · exact WorksOn.keeps (fileManagerSenderMsgHandler_kept kept type)
    · exact fileManagerReceiverMsgHandler_kept kept (by simpa using receiver) fileId type

lemma startTrans_kept (fileNum) :
    Triple (fun s past => s.isClient ∧ Steady P held s past) (startTrans fileNum)
      fun _ => Steady P held := by
  refine .get fun s => ?_
  split
  · exact .pure fun _ _ inv => inv.2.2
  next peer found =>
    refine .modify ?_
    rintro u past ⟨rfl, client, inv⟩
    refine inv.grows ?_ rfl (kept.start inv.1 client (mem_of_mem_head? found))
    have added {t} : Grows u (u.addTrans t) := grows_addTrans
    exact ⟨rfl, added.next, added.record⟩

lemma handleSessionTransFrame_kept (peer tid frame) :
    Keeps (Steady P held) (handleSessionTransFrame env peer tid frame) := by
  refine get fun s => when (fun _ => ?_) fun _ _ _ inv => inv.2
  split
  · exact (handleDFileFrame_kept kept frame).weaken fun _ _ inv => inv.2
  rename_i unknown
  refine when (fun accepted => ?_) fun _ _ _ inv => inv.2
  let t := (DFileTrans.create tid false s.capsTcp s.config 0).setMtu peer.mtuInuse
  refine bind (M := fun _ w past => w = s.addTrans t ∧ Steady P held s past)
    (modify ?_) fun _ => bind (emit ?_) fun _ =>
      handleDFileFrame_kept kept frame
  · rintro u past ⟨rfl, inv⟩
    exact ⟨rfl, inv⟩
  · rintro w past ⟨rfl, inv⟩
    exact inv.grows grows_addTrans rfl (kept.create inv.1 unknown accepted.2)

lemma handleServerSetting_kept (addr mtu) :
    Triple (fun s past => s.isClient = false ∧ Steady P held s past)
      (handleServerSetting addr mtu) fun _ => Steady P held := by
  refine .get fun s => ?_
  split
  all_goals
    refine .when (fun _ => ?_) fun _ _ _ inv => inv.2.2
    rintro u past ⟨rfl, server, inv⟩ _ _ _ ⟨⟩
    exact inv.grows (grows_of_eq rfl rfl) rfl (kept.serverSetting inv.1 server)

lemma handleSetting_kept (addr mtu) : Keeps (Steady P held) (handleSetting addr mtu) := by
  refine get fun s => when (fun _ => ?_) fun _ _ _ inv => inv.2
  refine .ite (fun client => ?_) fun server => ?_
  · split
    · exact pure fun _ _ inv => inv.2
    next peer found =>
      rintro u past ⟨rfl, inv⟩ _ _ _ ⟨⟩
      have here : peer.addr = addr := by simpa using find?_some found
      have known : u.findPeer peer.addr = some peer := here ▸ found
      refine inv.grows ?_ rfl (kept.clientSetting inv.1 client known)
      have set {u} : Grows u (u.setMtu (min localMtu mtu)) := grows_setMtu _
      exact ⟨rfl, set.next, set.record⟩
  · refine (handleServerSetting_kept kept addr mtu).weaken ?_
    rintro u past ⟨rfl, inv⟩
    exact ⟨by simpa using server, inv⟩

end

def Before (Rst : Session → Prop) (s : Session) : Task → Prop
  | .handleFrame addr .rstWithoutSetting => (s.findPeer addr).isSome → Rst s
  | _ => True

lemma handleFrame_kept (kept : Kept Rst P) (addr frame) :
    Triple (fun s past => Before Rst s (.handleFrame addr frame) ∧ Steady P held s past)
      (handleFrame env addr frame) fun _ => Steady P held := by
  cases frame with
  | setting mtu => exact (handleSetting_kept kept addr mtu).weaken fun _ _ inv => inv.2
  | rstWithoutSetting =>
    refine .get fun s => ?_
    split
    · exact .pure fun _ _ inv => inv.2.2
    next peer found =>
      rintro u past ⟨rfl, before, inv⟩ _ _ _ ⟨⟩
      have known := mem_of_find?_eq_some found
      refine inv.grows (grows_setMtu 0) rfl (kept.rst inv.1 known (before ?_))
      rw [found]
      rfl
  | trans tid received =>
    refine .weaken (P := Steady P held) (Keeps.get fun s => ?_) fun _ _ inv => inv.2
    split
    · exact .pure _
    · exact handleSessionTransFrame_kept kept _ tid received

lemma perform_kept (kept : Kept Rst P) (env task) :
    Triple (fun s past => Before Rst s task ∧ Steady P [task] s past) (perform env task)
      fun _ => Steady P [] := by
  have release {s : Session} {past : List SessionEvent} (inv : Steady P [task] s past) :
      Steady P [] s past ∧ TaskFits s task :=
    ⟨⟨inv.1, fun other mem => inv.2 other (mem_cons_of_mem task mem)⟩, inv.2 task mem_cons_self⟩
  have plainly {x : Working PUnit} (keeps : Keeps (Steady P []) x) :
      Triple (fun s past => Before Rst s task ∧ Steady P [task] s past) x fun _ => Steady P [] :=
    keeps.weaken fun _ _ inv => (release inv.2).1
  cases task with
  | tick => exact plainly (get fun s => pushPlain_kept kept (by simp [Task.plain]))
  | handleFrame addr frame =>
    exact (handleFrame_kept kept addr frame).weaken fun _ _ inv =>
      ⟨inv.1, (release inv.2).1⟩
  | fileManagerMsg tid fileId type =>
    exact plainly (fileManagerTransMsgHandler_kept kept tid fileId type)
  | startTrans fileNum =>
    exact (startTrans_kept kept fileNum).weaken fun _ _ inv =>
      ⟨(release inv.2).2, (release inv.2).1⟩
  | sweep exceptTransId position =>
    exact plainly (processSessionTrans_kept kept exceptTransId position)
  | process h => exact plainly (dFileTransProcess_kept kept)
  | fsm h =>
    exact (transferFsm_kept kept).weaken fun _ _ inv =>
      ⟨(release inv.2).1, (release inv.2).2.2⟩
  | notifyAck h => exact plainly (notifyAck_kept kept)
  | clearAck h => exact plainly (clearAck_kept kept)
  | notifyEnd h => exact plainly (notifyEndMsg_kept kept)

def Guarded (Rst : Session → Prop) (s : Session) : SessionInput → Prop
  | .post _ => True
  | .work _ => ∀ task ∈ s.todo.head?, Before Rst s task

instance decidableBefore [∀ s, Decidable (Rst s)] (s : Session) (task : Task) :
    Decidable (Before Rst s task) := by
  unfold Before
  split <;> infer_instance

instance decidableGuarded [∀ s, Decidable (Rst s)] (s : Session) :
    ∀ input, Decidable (Guarded Rst s input)
  | .post _ => isTrue trivial
  | .work _ => inferInstanceAs (Decidable (∀ task ∈ s.todo.head?, Before Rst s task))

lemma before_congr {s s' task} (same : s'.peers = s.peers)
    (rst : Rst s → Rst s') (before : Before Rst s task) : Before Rst s' task := by
  cases task with
  | handleFrame addr frame =>
    cases frame with
    | rstWithoutSetting =>
      intro known
      rw [Session.findPeer, same] at known
      exact rst (before known)
    | setting _ | trans _ _ => trivial
  | tick | fileManagerMsg _ _ _ | startTrans _ | sweep _ _ | process _ | fsm _ | notifyAck _
  | clearAck _ | notifyEnd _ => trivial

lemma sessionStep_kept (kept : Kept Rst P) (rst : ∀ s todo, Rst s → Rst { s with todo := todo })
    {s t : Session} {out : List SessionEvent} {input : SessionInput} (inv : Steady P [] s past)
    (guard : Guarded Rst s input) (step : sessionStep s input = some (t, out)) :
    Steady P [] t (past ++ out) := by
  cases input with
  | post job =>
    cases step
    rw [append_nil]
    split
    next posted =>
      refine ⟨kept.todo inv.1 _, fun task mem => ?_⟩
      have same : Grows s { s with todo := s.todo ++ [job.task] } := grows_of_eq rfl rfl
      refine TaskFits.grows same ?_
      have posting : task ∈ s.todo ++ [job.task] := mem
      rcases mem_append.mp posting with old | new
      · exact inv.2 task old
      · rw [mem_singleton.mp new]
        cases job with
        | startTrans fileNum => exact posted
        | tick | frame _ _ | fileManagerMsg _ _ _ => exact .of_plain rfl
    · exact inv
  | work env =>
    dsimp only [sessionStep] at step
    split at step
    · cases step
      rwa [append_nil]
    rename_i task rest waiting
    have same : Grows s { s with todo := rest } := grows_of_eq rfl rfl
    have next : Steady P [task] { s with todo := rest } past := by
      refine ⟨kept.todo inv.1 _, fun other mem => TaskFits.grows same (inv.2 other ?_)⟩
      rw [waiting]
      exact mem
    have before : Before Rst { s with todo := rest } task := by
      have guarded : Before Rst s task := guard task (by rw [waiting]; rfl)
      exact @before_congr Rst s { s with todo := rest } task rfl (rst s rest) guarded
    exact (perform_kept kept env task).step past ⟨before, next⟩ step

lemma run_kept (kept : Kept Rst P) (rst : ∀ s todo, Rst s → Rst { s with todo := todo })
    {s t : Session} {out : List SessionEvent} {inputs : List SessionInput}
    (init : P s []) (idle : s.todo = []) (guarded : AllSteps sessionStep (Guarded Rst) s inputs)
    (result : run sessionStep s inputs = some (t, out)) : P t out := by
  have start : Steady P [] s [] := ⟨init, by rw [idle]; nofun⟩
  have preserve (s past input t)
      (out : List SessionEvent) (inv : Steady P [] s past) (guard : Guarded Rst s input) :
      sessionStep s input = some (t, out) → Steady P [] t (past ++ out) :=
    sessionStep_kept kept rst inv guard
  exact (run_invariant preserve start guarded result).1

end

end DSoftBus.DFile
