import DSoftBus.DFile.TransferSession

/-!
How transfers end. A transfer reports its end once and nothing afterwards, no handler goes
on with a destroyed transfer, and a sender that answers TRANSFER DONE does not report a
failure.

Three things must not happen for that: a callback that fails to rename the files, since
HandleFileNameTableFrame then goes on with the transfer it has destroyed; a TRANSFER DONE
frame that names no file of the sender, which ReviewSuccessMsg turns into a failure; and a
file manager that fails while the answer is still to be sent.

`Ready` says that the transfers of the waiting tasks are live, and that a task that may
destroy its transfer is not followed by one that uses it.
-/
namespace DSoftBus.DFile
open Effect Execution DFileTrans RecordHeap List Option

variable (past : List SessionEvent)

def Ended (h : Nat) : Prop :=
  ∃ type : DFileTransMsgType, type.ends ∧ .trans h (.msg type) ∈ past

def Reached (h : Nat) : Prop := .trans h (.sendState .sendFileTransferDoneAck) ∈ past
deriving Decidable

def EndsOnce : SessionEvent → Prop
  | .trans h out => ¬ Ended past h ∧ (out = .msg .fileSendFail → ¬ Reached past h)
  | _ => True

def TaskOrderly (env : Env) (s : Session) : Task → Prop
  | .handleFrame _ (.trans _ .fileHeader) =>
    env.allFileNameReceived → env.renamed
  | .handleFrame _ (.trans transId (.fileTransferDone fileIds)) =>
    ∀ t ∈ (s.findTrans transId).bind s.trans.get?, t.isSender →
      ∃ id ∈ fileIds, id ≠ 0 ∧ id ≤ t.fileNum
  | .fileManagerMsg transId _ .sendFail =>
    ∀ t ∈ (s.findTrans transId).bind s.trans.get?, t.isSender →
      t.sendState ≠ .sendFileTransferDoneAck ∧ t.sendState ≠ .sendFileDone
  | _ => True

def Orderly (s : Session) : SessionInput → Prop
  | .post _ => True
  | .work env => ∀ task ∈ s.todo.head?, TaskOrderly env s task

instance decidableTaskOrderly (env : Env) (s : Session) (task : Task) :
    Decidable (TaskOrderly env s task) := by
  unfold TaskOrderly
  split <;> infer_instance

instance decidableOrderly (s : Session) : ∀ input, Decidable (Orderly s input)
  | .post _ => isTrue trivial
  | .work env => inferInstanceAs (Decidable (∀ task ∈ s.todo.head?, TaskOrderly env s task))

/-! ## The tasks that wait -/

def Task.handle : Task → Option Nat
  | .sweep _ position => position
  | .process h | .fsm h | .notifyAck h | .clearAck h | .notifyEnd h => some h
  | .tick | .handleFrame .. | .fileManagerMsg .. | .startTrans _ => none

def handles (tasks : List Task) : List Nat := tasks.filterMap Task.handle

def Task.Before (ids : Nat → Option (BitVec 16)) (later : List Nat) : Task → Prop
  | .tick | .handleFrame .. | .fileManagerMsg .. | .startTrans _ => later = []
  | .sweep exceptTransId _ => ∀ h ∈ later, ids h = some exceptTransId
  | .process h | .notifyEnd h => h ∉ later
  | .notifyAck h => ∀ g ∈ later, g = h
  | .fsm _ | .clearAck _ => True

def Ready (ids : Nat → Option (BitVec 16)) : List Task → Prop
  | [] => True
  | task :: rest =>
    (∀ h ∈ task.handle, (ids h).isSome) ∧ task.Before ids (handles rest) ∧ Ready ids rest

section
variable {ids ids' : Nat → Option (BitVec 16)} {tasks : List Task}

lemma mem_handles {task h} (mem : task ∈ tasks) (here : task.handle = some h) :
    h ∈ handles tasks := mem_filterMap.mpr ⟨task, mem, here⟩

lemma handles_append (front back) :
    handles (front ++ back) = handles front ++ handles back := filterMap_append

lemma handle_job (job : Job) : job.task.handle = none := by
  cases job <;> rfl

lemma Task.Before.congr {task : Task} {later : List Nat}
    (same : ∀ h ∈ later, ids' h = ids h) (before : task.Before ids later) :
    task.Before ids' later := by
  cases task with
  | sweep exceptTransId position => exact fun h mem => (same h mem).trans (before h mem)
  | tick | handleFrame _ _ | fileManagerMsg _ _ _ | startTrans _ | process _ | fsm _ | notifyAck _
  | clearAck _ | notifyEnd _ => exact before

lemma Ready.congr (same : ∀ h ∈ handles tasks, ids' h = ids h) (ready : Ready ids tasks) :
    Ready ids' tasks := by
  induction tasks with
  | nil => trivial
  | cons task rest ih =>
    obtain ⟨live, before, rest_ready⟩ := ready
    have rest_same : ∀ h ∈ handles rest, ids' h = ids h := fun h mem => by
      refine same h ?_
      obtain ⟨other, later, here⟩ := mem_filterMap.mp mem
      exact mem_handles (mem_cons_of_mem task later) here
    refine ⟨fun h here => ?_, before.congr rest_same, ih rest_same rest_ready⟩
    rw [same h (mem_handles mem_cons_self here)]
    exact live h here

lemma Ready.post (job : Job) (ready : Ready ids tasks) : Ready ids (tasks ++ [job.task]) := by
  have silent : handles [job.task] = [] := by simp [handles, handle_job]
  induction tasks with
  | nil =>
    refine ⟨by simp [handle_job], ?_, trivial⟩
    cases job <;> rfl
  | cons task rest ih =>
    obtain ⟨live, before, rest_ready⟩ := ready
    refine ⟨live, ?_, ih rest_ready⟩
    rwa [append_eq, handles_append, silent, append_nil]

end

/-! ## What the outputs so far say of the transfers -/

structure Answered (past : List SessionEvent) (h : Nat) (t : DFileTrans) : Prop where
  reached : Reached past h → Confirmed t.sendState
  confirmed : Confirmed t.sendState → t.sentFiles ≠ []
  received : t.fileTransferDoneReceived → t.sentFiles ≠ []

structure Clean (s : Session) (past : List SessionEvent) : Prop where
  justified : Justified EndsOnce past
  ended : ∀ h, Ended past h → s.trans.get? h = none
  known : ∀ h out, .trans h out ∈ past → h < s.trans.next
  answered : ∀ h t, s.trans.get? h = some t → Answered past h t

section
variable {s s' : Session} {past : List SessionEvent} {h : Nat} {t t' : DFileTrans} {out : TransOut}

lemma Clean.congr (clean : Clean s past) (same : s'.trans = s.trans) : Clean s' past := by
  obtain ⟨justified, ended, known, answered⟩ := clean
  rw [← same] at ended known answered
  exact ⟨justified, ended, known, answered⟩

lemma ended_concat {g} (ended : Ended (past ++ [.trans h out]) g) :
    Ended past g ∨ g = h ∧ ∃ type : DFileTransMsgType, type.ends ∧ out = .msg type := by
  obtain ⟨type, ends, mem⟩ := ended
  rcases mem_append.mp mem with mem | mem
  · exact .inl ⟨type, ends, mem⟩
  · cases mem_singleton.mp mem
    exact .inr ⟨rfl, type, ends, rfl⟩

lemma reached_concat {g} (reached : Reached (past ++ [.trans h out]) g) :
    Reached past g ∨ g = h ∧ out = .sendState .sendFileTransferDoneAck := by
  rcases mem_append.mp reached with mem | mem
  · exact .inl mem
  · cases mem_singleton.mp mem
    exact .inr ⟨rfl, rfl⟩

section
variable (clean : Clean s past) (here : s.trans.get? h = some t)
include clean here

lemma Clean.not_ended : ¬ Ended past h := by
  intro ended
  simp [clean.ended h ended] at here

lemma Clean.known_concat (g seen)
    (mem : .trans g seen ∈ past ++ [SessionEvent.trans h out]) : g < s.trans.next := by
  rcases mem_append.mp mem with mem | mem
  · exact clean.known g seen mem
  · cases mem_singleton.mp mem
    exact lt_next here

lemma Clean.emit
    (goesOn : ∀ type, out = .msg type → type.ends = false)
    (answers : out = .sendState .sendFileTransferDoneAck → Confirmed t.sendState) :
    Clean s (past ++ [.trans h out]) := by
  refine ⟨justified_concat.mpr ⟨clean.justified, clean.not_ended here, fun fails => ?_⟩,
    fun g ended => ?_, clean.known_concat here, fun g u live => ?_⟩
  · cases goesOn _ fails
  · rcases ended_concat ended with ended | ⟨_, type, ends, rfl⟩
    · exact clean.ended g ended
    · simp [goesOn type rfl] at ends
  · have old := clean.answered g u live
    refine ⟨fun reached => ?_, old.confirmed, old.received⟩
    rcases reached_concat reached with reached | ⟨rfl, entered⟩
    · exact old.reached reached
    · rw [here] at live
      cases live
      exact answers entered

lemma Clean.put (change : Answered past h t → Answered past h t') :
    Clean (s.putTrans h t') past := by
  refine ⟨clean.justified, fun g ended => ?_, clean.known, fun g u live => ?_⟩
  · have gone := clean.ended g ended
    have other : g ≠ h := by
      rintro rfl
      simp [here] at gone
    exact (get?_modify_of_ne other).trans gone
  · rcases get?_modify_eq_some live with ⟨_, old⟩ | ⟨rfl, old, found, rfl⟩
    · exact clean.answered g u old
    · rw [here] at found
      cases found
      exact change (clean.answered g t here)

lemma Clean.destroy {type} (answers : type = .fileSendFail → ¬ Reached past h) :
    Clean (s.destroyTrans h t) (past ++ [.trans h (.msg type)]) := by
  refine ⟨justified_concat.mpr ⟨clean.justified, clean.not_ended here, fun fails => ?_⟩,
    fun g ended => ?_, clean.known_concat here, fun g u live => ?_⟩
  · injection fails with fails
    exact answers fails
  · cases live : (s.destroyTrans h t).trans.get? g with
    | none => rfl
    | some u =>
      rcases ended_concat ended with ended | ⟨same, _⟩
      · exact absurd ended (clean.not_ended (get?_of_free live))
      · exact absurd same (ne_of_get?_free live)
  · have old := clean.answered g u (get?_of_free live)
    refine ⟨fun reached => ?_, old.confirmed, old.received⟩
    rcases reached_concat reached with reached | ⟨_, entered⟩
    · exact old.reached reached
    · cases entered

end

structure Fresh (t : DFileTrans) : Prop where
  sendState : t.sendState = .sendFileInit
  fileTransferDoneReceived : t.fileTransferDoneReceived = false

lemma fresh_create (tid isSender capsTcp config fileNum mtu) :
    Fresh ((create tid isSender capsTcp config fileNum).setMtu mtu) := by
  unfold setMtu
  split <;> exact ⟨rfl, rfl⟩

lemma Clean.add (clean : Clean s past) (fresh : Fresh t) : Clean (s.addTrans t) past := by
  refine ⟨clean.justified, fun h ended => ?_, fun h out mem => ?_, fun h u live => ?_⟩
  · obtain ⟨type, _, mem⟩ := id ended
    exact (get?_alloc_of_lt (clean.known h _ mem)).trans (clean.ended h ended)
  · exact Nat.lt_succ_of_lt (clean.known h out mem)
  · rcases get?_alloc_eq_some live with ⟨rfl, rfl⟩ | old
    · refine ⟨fun reached => ?_, fun confirmed => ?_, fun recv => ?_⟩
      · exact absurd (clean.known _ _ reached) (lt_irrefl _)
      · simp [Confirmed, fresh.sendState] at confirmed
      · simp [fresh.fileTransferDoneReceived] at recv
    · exact clean.answered h u old

lemma Clean.setMtu (clean : Clean s past) (mtu) : Clean (s.setMtu mtu) past := by
  refine ⟨clean.justified, fun h ended => ?_, clean.known, fun h u live => ?_⟩
  · exact get?_map.trans (by rw [clean.ended h ended]; rfl)
  · obtain ⟨t, here, rfl⟩ := map_eq_some_iff.mp (get?_map.symm.trans live)
    have old := clean.answered h t here
    unfold DFileTrans.setMtu
    split
    · exact ⟨old.reached, old.confirmed, old.received⟩
    · exact old

lemma Clean.session {event} (clean : Clean s past)
    (other : ∀ h out, event ≠ .trans h out) : Clean s (past ++ [event]) := by
  have old {g seen} (mem : .trans g seen ∈ past ++ [event]) : .trans g seen ∈ past := by
    rcases mem_append.mp mem with mem | mem
    · exact mem
    · exact absurd (mem_singleton.mp mem).symm (other g seen)
  refine ⟨justified_concat.mpr ⟨clean.justified, ?_⟩, fun g ended => ?_,
    fun g seen mem => clean.known g seen (old mem), fun g u live => ?_⟩
  · cases event with
    | trans h out => exact absurd rfl (other h out)
    | transCreated _ | transDestroyed _ _ | rstHandled _ | settingHandled _ => trivial
  · obtain ⟨type, ends, mem⟩ := ended
    exact clean.ended g ⟨type, ends, old mem⟩
  · have known := clean.answered g u live
    exact ⟨fun reached => known.reached (old reached), known.confirmed, known.received⟩

end

/-! ## The handlers -/

def Session.ids (s : Session) (h : Nat) : Option (BitVec 16) := (s.trans.get? h).map (·.transId)

def Settled (s : Session) (past : List SessionEvent) : Prop := Ready s.ids s.todo ∧ Clean s past

variable (ids : Nat → Option (BitVec 16)) (rest : List Task)

/-- What holds while a task is handled: the tasks after it and the numbers of the
transfers are fixed. -/
def Busy (s : Session)
    (past : List SessionEvent) : Prop := s.ids = ids ∧ s.todo = rest ∧ Clean s past

def Holding (h : Nat) (t : DFileTrans) (s : Session) (past : List SessionEvent) : Prop :=
  Busy ids rest s past ∧ s.trans.get? h = some t

abbrev Held (h : Nat) (t : DFileTrans)
    {α : Type} : Working α → (α → Session → List SessionEvent → Prop) → Prop :=
  Safe False (Holding ids rest h t)

abbrev From (s : Session) {α : Type} :
    Working α → (α → Session → List SessionEvent → Prop) → Prop :=
  Safe False fun u past => u = s ∧ Busy ids rest u past

section
variable {ids : Nat → Option (BitVec 16)} {rest : List Task} {h : Nat} {t t' : DFileTrans}
  {env : Env} {α : Type} {Q : α → Session → List SessionEvent → Prop}

lemma Busy.settled {s past} (busy : Busy ids rest s past)
    (ready : Ready ids rest) : Settled s past := by
  obtain ⟨rfl, rfl, clean⟩ := busy
  exact ⟨ready, clean⟩

lemma ids_putTrans {s : Session} (here : s.trans.get? h = some t)
    (same : t'.transId = t.transId) : (s.putTrans h t').ids = s.ids := by
  funext g
  unfold Session.ids Session.putTrans
  by_cases this : g = h
  · subst this
    rw [get?_modify_self, here]
    exact congrArg some same
  · rw [get?_modify_of_ne this]

lemma ids_destroyTrans {s : Session} {g : Nat} (other : g ≠ h) :
    (s.destroyTrans h t).ids g = s.ids g := by
  unfold Session.ids Session.destroyTrans
  rw [get?_free_of_ne other]

lemma Busy.hold {x} (live : (ids h).isSome)
    (next : ∀ t, ids h = some t.transId → Held ids rest h t x Q) :
    Safe False (Busy ids rest) x Q := by
  intro s past busy
  have found := live
  rw [← busy.1, Session.ids, isSome_map] at found
  obtain ⟨t, here⟩ := isSome_iff_exists.mp found
  refine next t ?_ s past ⟨busy, here⟩
  rw [← busy.1, Session.ids, here]
  rfl

lemma Holding.getTrans {f} (next : Held ids rest h t (f t) Q) :
    Held ids rest h t (getTrans h >>= f) Q := by
  let Found (found : DFileTrans) (s : Session) (past : List SessionEvent) : Prop :=
    found = t ∧ Holding ids rest h t s past
  have read : Held ids rest h t (pure t) Found := Safe.pure fun _ _ hold => ⟨rfl, hold⟩
  have first : Held ids rest h t (DFile.getTrans h) Found := by
    refine .get fun s => ?_
    rintro u past ⟨rfl, hold⟩
    have here : u.trans.get? h = some t := hold.2
    simp only [here]
    exact read u past hold
  refine first.bind fun found => Safe.assume fun same => ?_
  subst same
  exact next

lemma Holding.putTrans (same : t'.transId = t.transId)
    (change : ∀ past, Answered past h t → Answered past h t') :
    Held ids rest h t (putTrans h t') fun _ => Holding ids rest h t' := by
  refine .modify ?_
  rintro s past ⟨⟨rfl, rfl, clean⟩, here⟩
  refine ⟨⟨ids_putTrans here same, rfl, clean.put here (change past)⟩, ?_⟩
  exact get?_modify_self.trans (by rw [here]; rfl)

lemma Holding.putLast (same : t'.transId = t.transId)
    (change : ∀ past, Answered past h t → Answered past h t') :
    Held ids rest h t (DFile.putTrans h t') fun _ => Busy ids rest :=
  (Holding.putTrans same change).imp fun _ _ _ hold => hold.1

lemma Holding.emit {out} (goesOn : ∀ type, out = .msg type → type.ends = false)
    (answers : out = .sendState .sendFileTransferDoneAck → Confirmed t.sendState) :
    Held ids rest h t (emit (.trans h out)) fun _ => Holding ids rest h t :=
  Safe.emit fun _ _ hold =>
    ⟨⟨hold.1.1, hold.1.2.1, hold.1.2.2.emit hold.2 goesOn answers⟩, hold.2⟩

variable {outs : List TransOut} {type : FileManagerMsgType} {frame : TransFrame}
  {tid : BitVec 16}

lemma Holding.emitTrans (goesOn : ∀ type, .msg type ∈ outs → type.ends = false)
    (answers : .sendState .sendFileTransferDoneAck ∈ outs → Confirmed t.sendState) :
    Held ids rest h t (emitTrans h outs) fun _ => Holding ids rest h t := by
  refine .each fun out mem => Holding.emit (fun type same => ?_) fun same => ?_
  · exact goesOn type (same ▸ mem)
  · exact answers (same ▸ mem)

lemma Holding.emitHarmless (harmless : Harmless outs) :
    Held ids rest h t (DFile.emitTrans h outs) fun _ => Holding ids rest h t :=
  Holding.emitTrans harmless.not_ends fun mem => absurd mem (harmless.no_state _)

lemma Busy.push {tasks} (ready : Ready ids (tasks ++ rest)) :
    Safe False (Busy ids rest) (push tasks) fun _ => Settled := by
  refine .modify ?_
  rintro s past ⟨rfl, rfl, clean⟩
  exact ⟨ready, clean.congr rfl⟩

lemma Holding.push {tasks} (ready : Ready ids (tasks ++ rest)) :
    Held ids rest h t (push tasks) fun _ => Settled :=
  (Busy.push ready).weaken fun _ _ hold => hold.1

lemma Holding.settled {s past}
    (hold : Holding ids rest h t s past) (ready : Ready ids rest) : Settled s past :=
  hold.1.settled ready

lemma notifyTransMsg_goesOn {type : DFileTransMsgType} (goesOn : type.ends = false) :
    Held ids rest h t (notifyTransMsg h type) fun _ => Holding ids rest h t := by
  refine Holding.getTrans ?_
  have kept : (if type = .fileSent ∧ t.sentFiles = [] then .fileSendFail else type) = type := by
    refine if_neg fun sent => ?_
    rw [sent.1] at goesOn
    cases goesOn
  dsimp only
  rw [kept]
  refine .bind (Holding.emit (fun other same => ?_) nofun) fun _ => ?_
  · cases same
    exact goesOn
  · exact .when (fun ends => absurd (goesOn.symm.trans ends) (by simp)) fun _ _ _ hold => hold

lemma notifyTransMsg_ends (type) (ends : type.ends)
    (unused : h ∉ handles rest) (ready : Ready ids rest)
    (sent : type = .fileSent → t.sentFiles ≠ [])
    (fails : type = .fileSendFail → ¬ Confirmed t.sendState) :
    Held ids rest h t (notifyTransMsg h type) fun _ => Settled := by
  refine Holding.getTrans ?_
  have kept : (if type = .fileSent ∧ t.sentFiles = [] then .fileSendFail else type) = type :=
    if_neg fun none => sent none.1 none.2
  dsimp only
  rw [kept, when, if_pos ends]
  rintro s past ⟨⟨rfl, rfl, clean⟩, here⟩
  refine ⟨by rintro ⟨⟩, ?_⟩
  rintro _ _ _ ⟨⟩
  have destroyed : Clean (s.destroyTrans h t) (past ++ [.trans h (.msg type)]) :=
    clean.destroy here fun same reached =>
      fails same ((clean.answered h t here).reached reached)
  refine ⟨ready.congr fun g mem => ids_destroyTrans ?_, ?_⟩
  · rintro rfl
    exact unused mem
  · have told : Clean (s.destroyTrans h t) (past ++ [.trans h (.msg type)] ++ [.transDestroyed
        t.transId (s.tranIdStateList.setTransIdState s.isClient t.transId .done).2]) :=
      destroyed.session (by simp)
    rwa [append_assoc] at told

section
variable {past : List SessionEvent} (answered : Answered past h t)
include answered

lemma Answered.kept
    (sendState : t'.sendState = t.sendState) (sentFiles : t'.sentFiles = t.sentFiles)
    (recv : t'.fileTransferDoneReceived = t.fileTransferDoneReceived) : Answered past h t' := by
  refine ⟨?_, ?_, ?_⟩
  · rw [sendState]
    exact answered.reached
  · rw [sendState, sentFiles]
    exact answered.confirmed
  · rw [recv, sentFiles]
    exact answered.received

lemma Answered.stepped (stepped : ReceiverStepped t t' outs) : Answered past h t' :=
  answered.kept stepped.sendState stepped.same.sentFiles stepped.same.fileTransferDoneReceived

lemma Answered.passed (passed : Passed t t' outs) : Answered past h t' := by
  refine ⟨fun reached => passed.stays (answered.reached reached), fun confirmed => ?_,
    fun recv => ?_⟩
  · rw [passed.same.sentFiles]
    rcases passed.enters confirmed with before | recv
    · exact answered.confirmed before
    · exact answered.received recv
  · rw [passed.same.sentFiles]
    exact answered.received (passed.same.fileTransferDoneReceived.symm.trans recv)

lemma Answered.transferDone {fileIds} (named : ∃ id ∈ fileIds, id ≠ 0 ∧ id ≤ t.fileNum) :
    Answered past h (t.transferDone fileIds) := by
  have sent : (t.transferDone fileIds).sentFiles ≠ [] := by
    obtain ⟨id, mem, inList⟩ := named
    refine ne_nil_of_mem (mem_filter.mpr ⟨mem, ?_⟩)
    simpa using inList
  exact ⟨answered.reached, fun _ => sent, fun _ => sent⟩

end

lemma transferFsm_settled (ready : Ready ids (.fsm h :: rest)) :
    Held ids rest h t (transferFsm env h) fun _ => Settled := by
  have passed := transferFsm_passed env t
  refine Holding.getTrans ?_
  refine Safe.bind (Holding.emit nofun nofun) fun _ => ?_
  refine .bind (Holding.putTrans passed.same.transId fun _ old => old.passed passed)
    fun _ => ?_
  refine .bind (Holding.emitTrans passed.messages passed.states) fun _ => ?_
  exact .when (fun _ => Holding.push ready) fun _ _ _ hold => hold.settled ready.2.2

lemma notifyEndMsg_settled (unused : h ∉ handles rest) (ready : Ready ids rest) :
    Held ids rest h t (notifyEndMsg h) fun _ => Settled := by
  -- The files that were sent are known from the outputs, so the transfer is opened first.
  intro s past hold
  have answered := hold.1.2.2.answered h t hold.2
  refine Holding.getTrans (Safe.ite (fun _ => ?_) fun _ => ?_) s past hold
  · refine Safe.either (fun fails => ?_) (fun fails => ?_) (fun done => ?_) fun _ _ hold =>
      hold.settled ready
    · simp [fails]
    · refine notifyTransMsg_ends .fileSendFail rfl unused ready (by simp) fun _ => ?_
      simp [fails, Confirmed]
    · refine notifyTransMsg_ends .fileSent rfl unused ready (fun _ => ?_) (by simp)
      exact answered.confirmed (.inr done)
  · refine .either (fun fails => ?_) (fun _ => ?_) (fun _ => ?_) fun _ _ hold =>
      hold.settled ready
    · simp [fails]
    · exact notifyTransMsg_ends .fileReceiveFail rfl unused ready (by simp) (by simp)
    · exact notifyTransMsg_ends .end rfl unused ready (by simp) (by simp)

lemma handleFileNameTableFrame_busy (renamed : env.allFileNameReceived → env.renamed) :
    Held ids rest h t (handleFileNameTableFrame env h) fun _ => Busy ids rest := by
  refine Holding.getTrans (Safe.when (fun _ => ?_) fun _ _ _ hold => hold.1)
  refine Safe.ite (fun _ => ?_) fun _ => ?_
  · refine Holding.putLast rfl fun _ old => ?_
    exact old.kept rfl rfl rfl
  · refine Safe.bind (Holding.putTrans rfl fun _ old => ?_) fun _ => ?_
    · exact old.kept rfl rfl rfl
    · refine .when (fun recv => ?_) fun _ _ _ hold => hold.1
      refine .skip (by simp [renamed recv]) ?_
      exact (notifyTransMsg_goesOn rfl).imp fun _ _ _ hold => hold.1

lemma handleFileTableAckFrame_busy :
    Held ids rest h t (handleFileTableAckFrame h) fun _ => Busy ids rest := by
  refine Holding.getTrans (Safe.when (fun _ => ?_) fun _ _ _ hold => hold.1)
  refine Holding.putLast rfl fun _ old => ?_
  exact old.kept rfl rfl rfl

lemma handleFileDataFrame_busy :
    Held ids rest h t (handleFileDataFrame env h) fun _ => Busy ids rest := by
  refine Holding.getTrans (Safe.when (fun _ => ?_) fun _ _ _ hold => hold.1)
  refine Safe.ite (fun _ => ?_) fun _ => ?_
  · refine .bind (M := fun _ => Holding ids rest h t) ?_ fun _ => ?_
    · exact .when (fun _ => Holding.emitHarmless harmless_backPressureFrame)
        fun _ _ _ hold => hold
    · refine .bind (M := fun _ => Holding ids rest h t) ?_ fun _ => ?_
      · refine .when (fun _ => Holding.emit (fun type same => ?_) nofun) fun _ _ _ hold => hold
        cases same
        rfl
      · refine Holding.putLast rfl fun _ old => ?_
        exact old.kept rfl rfl rfl
  · have stepped := @setReceiveState_stepped t .receiveFileFail
    exact Holding.putLast stepped.same.transId fun _ old => old.stepped stepped

lemma handleTransferDoneFrame_busy {fileIds}
    (named : t.isSender → ∃ id ∈ fileIds, id ≠ 0 ∧ id ≤ t.fileNum) :
    Held ids rest h t (handleTransferDoneFrame h fileIds) fun _ => Busy ids rest := by
  refine Holding.getTrans (Safe.when (fun accepted => ?_) fun _ _ _ hold => hold.1)
  refine Holding.putLast rfl fun _ old => ?_
  exact old.transferDone (named accepted.1)

lemma handleTransferDoneAckFrame_busy :
    Held ids rest h t (handleTransferDoneAckFrame h) fun _ => Busy ids rest := by
  refine Holding.getTrans (Safe.when (fun _ => ?_) fun _ _ _ hold => hold.1)
  refine Holding.putLast rfl fun _ old => ?_
  exact old.kept rfl rfl rfl

def FrameOrderly (env : Env) (t : DFileTrans) : TransFrame → Prop
  | .fileHeader => env.allFileNameReceived → env.renamed
  | .fileTransferDone fileIds => t.isSender → ∃ id ∈ fileIds, id ≠ 0 ∧ id ≤ t.fileNum
  | .fileHeaderConfirm | .fileData | .fileTransferDoneAck => True

lemma handleTransFrame_busy (orderly : FrameOrderly env t frame) :
    Held ids rest h t (handleTransFrame env h frame) fun _ => Busy ids rest := by
  cases frame with
  | fileHeader => exact handleFileNameTableFrame_busy orderly
  | fileHeaderConfirm => exact handleFileTableAckFrame_busy
  | fileData => exact handleFileDataFrame_busy
  | fileTransferDone fileIds => exact handleTransferDoneFrame_busy orderly
  | fileTransferDoneAck => exact handleTransferDoneAckFrame_busy

lemma live_of_nextTrans {s : Session} {after : Option Nat}
    (found : s.nextTrans after = some h) : (s.ids h).isSome ∧ ∀ g ∈ after, g < h := by
  obtain ⟨t, here, later⟩ := get?_of_oldest? found
  refine ⟨by rw [Session.ids, here]; rfl, fun g same => ?_⟩
  cases same
  simpa using later

lemma notifyAck_settled (number : ids h = some t.transId)
    (ready : Ready ids (.notifyAck h :: rest)) :
    Held ids rest h t (notifyAck h) fun _ => Settled := by
  obtain ⟨live, alone, rest_ready⟩ := ready
  refine Holding.getTrans (Safe.when (fun _ => ?_) fun _ _ _ hold => hold.settled rest_ready)
  refine Safe.bind (notifyTransMsg_goesOn rfl) fun _ => Safe.get fun s => ?_
  rintro s past ⟨rfl, hold⟩
  refine Holding.push ?_ s past hold
  refine ⟨fun g next => ?_, fun g later => ?_, live, trivial, rest_ready⟩
  · rw [← hold.1.1]
    exact (live_of_nextTrans next).1
  · have self : g = h := by
      rcases mem_cons.mp (show g ∈ h :: handles rest from later) with self | later
      · exact self
      · exact alone g later
    rw [self, number]

lemma clearAck_settled (ready : Ready ids rest) :
    Held ids rest h t (clearAck h) fun _ => Settled := by
  have cleared : Held ids rest h t (putTrans h { t with isAckSend := false })
      fun _ => Busy ids rest := Holding.putLast rfl fun _ old => old.kept rfl rfl rfl
  exact Holding.getTrans (cleared.imp fun _ _ _ busy => busy.settled ready)

lemma dFileTransProcess_settled (ready : Ready ids (.process h :: rest)) :
    Held ids rest h t (dFileTransProcess h) fun _ => Settled := by
  obtain ⟨live, unused, rest_ready⟩ := ready
  refine Holding.getTrans (Safe.when (fun _ => ?_) fun _ _ _ hold => hold.settled rest_ready)
  exact Holding.push ⟨live, trivial, live, trivial, live, unused, rest_ready⟩

/-- The transfer that is handled next is none that the tasks after the loop use. -/
lemma processSessionTrans_settled {exceptTransId : BitVec 16} (number : ids h = some t.transId)
    (ready : Ready ids (.sweep exceptTransId (some h) :: rest)) :
    Held ids rest h t (processSessionTrans exceptTransId (some h)) fun _ => Settled := by
  obtain ⟨live, kept, rest_ready⟩ := ready
  refine Holding.getTrans (Safe.get fun s => ?_)
  rintro s past ⟨rfl, hold⟩
  have sweep : Ready ids (.sweep exceptTransId (s.nextTrans (some h)) :: rest) := by
    refine ⟨fun g next => ?_, kept, rest_ready⟩
    rw [← hold.1.1]
    exact (live_of_nextTrans next).1
  refine Holding.push ?_ s past hold
  split
  · exact sweep
  rename_i other
  refine ⟨live, fun later => ?_, sweep⟩
  obtain ⟨task, mem, here⟩ := mem_filterMap.mp later
  rcases mem_cons.mp mem with rfl | mem
  · exact lt_irrefl h ((live_of_nextTrans here).2 h rfl)
  · have same := kept h (mem_handles mem here)
    rw [number] at same
    exact other (some.inj same)

lemma setSendState_fail_not_confirmed (early : ¬ Confirmed t.sendState) :
    ¬ Confirmed (t.setSendState .sendFileFail).1.sendState := by
  unfold setSendState
  split
  · exact early
  rename_i change
  have state : effectiveSendState t .sendFileFail = .sendFileFail := by
    refine if_neg fun late => ?_
    rcases late.1 with ack | done | fail
    · exact early (.inl ack)
    · exact early (.inr done)
    · exact change fail
  simp [state, Confirmed]

lemma setSendState_fail_passed :
    Passed t (t.setSendState .sendFileFail).1 (t.setSendState .sendFileFail).2 := by
  by_cases change : t.sendState = .sendFileFail
  · rw [setSendState, if_pos change]
    exact ⟨Same.refl, .inl, id, by simp, by simp⟩
  · exact setSendState_passed change (by simp [Confirmed]) fun _ => .inr rfl

lemma Busy.found {s x} (here : s.findTrans tid = some h)
    (next : ∀ t ∈ (s.findTrans tid).bind s.trans.get?, (ids h).isSome →
      Held ids rest h t x Q) : From ids rest s x Q := by
  rintro u past ⟨rfl, busy⟩
  obtain ⟨t, live, _⟩ := get?_of_oldest? here
  refine next t ?_ ?_ u past ⟨busy, live⟩
  · rw [here]
    exact live
  · rw [← busy.1, Session.ids, live]
    rfl

section
variable (last : handles rest = []) (ready : Ready ids rest)
include last ready

lemma handleDFileFrame_settled (orderly : FrameOrderly env t frame) (live : (ids h).isSome) :
    Held ids rest h t (handleDFileFrame env h frame) fun _ => Settled := by
  have self : ∀ g ∈ some h, (ids g).isSome := fun g here => some.inj here ▸ live
  refine Holding.getTrans (Safe.when (fun _ => ?_) fun _ _ _ hold => hold.settled ready)
  refine Safe.bind (handleTransFrame_busy orderly) fun _ => Busy.push ?_
  refine ⟨self, trivial, self, ?_, self, ?_, ready⟩
  · show ∀ g ∈ h :: handles rest, g = h
    simp [last]
  · show h ∉ handles rest
    simp [last]

lemma fileManagerSenderMsgHandler_settled (early : type = .sendFail → ¬ Confirmed t.sendState) :
    Held ids rest h t (fileManagerSenderMsgHandler h type) fun _ => Settled := by
  have failed := @setSendState_fail_passed t
  refine Holding.getTrans (Safe.either (fun progress => ?_) (fun _ => ?_) (fun fails => ?_)
    fun _ _ hold => hold.settled ready)
  · rw [progress]
    nofun
  · have told : Held ids rest h t (emit (.trans h (.msg .inProgress)))
        fun _ => Holding ids rest h t := Holding.emit (fun type same => by cases same; rfl) nofun
    exact told.imp fun _ _ _ hold => hold.settled ready
  · refine .bind (Holding.putTrans failed.same.transId fun _ old => old.passed failed)
      fun _ => ?_
    refine .bind (Holding.emitTrans failed.messages failed.states) fun _ => ?_
    refine notifyTransMsg_ends .fileSendFail rfl (by simp [last]) ready nofun fun _ => ?_
    exact setSendState_fail_not_confirmed (early fails)

lemma fileManagerReceiverMsgHandler_settled {fileId} (live : (ids h).isSome) :
    Held ids rest h t (fileManagerReceiverMsgHandler env h fileId type) fun _ => Settled := by
  have self : ∀ g ∈ some h, (ids g).isSome := fun g here => some.inj here ▸ live
  refine Holding.getTrans (Safe.ite (fun _ => ?_) fun _ => ?_)
  · have stepped := @setReceiveState_stepped t .receiveFileFail
    refine Safe.bind (Holding.putTrans stepped.same.transId fun _ old => old.stepped stepped)
      fun _ => ?_
    exact notifyTransMsg_ends .fileReceiveFail rfl (by simp [last]) ready nofun nofun
  · refine .when (fun _ => ?_) fun _ _ _ hold => hold.settled ready
    have notified := @notifyRecvSucMsg_stepped env
      { t with allFileDataReceived := true, ioWriteFinishFlag := true }
    refine .bind (Holding.putTrans notified.same.transId fun _ old => ?_) fun _ => ?_
    · have marked : Answered _ h
          { t with allFileDataReceived := true, ioWriteFinishFlag := true } :=
        old.kept rfl rfl rfl
      exact marked.stepped notified
    · refine .bind (Holding.emitHarmless notified.harmless) fun _ => ?_
      exact Holding.push ⟨self, trivial, self, trivial, ready⟩

lemma fileManagerTransMsgHandler_settled {s fileId}
    (early : type = .sendFail → ∀ t ∈ (s.findTrans tid).bind s.trans.get?,
      t.isSender → ¬ Confirmed t.sendState) :
    From ids rest s (fileManagerTransMsgHandler env tid fileId type) fun _ => Settled := by
  refine .get_of_eq ?_
  split
  · exact .pure fun _ _ busy => busy.2.settled ready
  next h here =>
    refine Busy.found here fun t found live => Holding.getTrans (Safe.ite (fun sender => ?_) ?_)
    · exact fileManagerSenderMsgHandler_settled last ready fun fails => early fails t found sender
    · exact fun _ => fileManagerReceiverMsgHandler_settled last ready live

lemma Busy.add {s past} (busy : Busy ids rest s past) (fresh : Fresh t) :
    Holding (s.addTrans t).ids rest s.trans.next t (s.addTrans t) past ∧
      Ready (s.addTrans t).ids rest := by
  obtain ⟨rfl, rfl, clean⟩ := busy
  refine ⟨⟨⟨rfl, rfl, clean.add fresh⟩, get?_alloc_next⟩, ready.congr fun g mem => ?_⟩
  simp [last] at mem

lemma startTrans_settled {fileNum} :
    Safe False (Busy ids rest) (startTrans fileNum) fun _ => Settled := by
  refine .get fun s => ?_
  split
  · exact .pure fun _ _ busy => busy.2.settled ready
  · refine .modify ?_
    rintro u past ⟨rfl, busy⟩
    obtain ⟨hold, added⟩ := busy.add last ready (fresh_create _ _ _ _ _ _)
    exact ⟨by rw [← busy.2.1] at added; exact added, hold.1.2.2.congr rfl⟩

lemma handleSessionTransFrame_settled {s peer}
    (orderly : ∀ t ∈ (s.findTrans tid).bind s.trans.get?, FrameOrderly env t frame)
    (renamed : frame = .fileHeader → env.allFileNameReceived → env.renamed) :
    From ids rest s (handleSessionTransFrame env peer tid frame) fun _ => Settled := by
  refine .get_of_eq (Safe.when (fun _ => ?_) fun _ _ _ busy => busy.2.settled ready)
  split
  next h here =>
    exact Busy.found here fun t found live => handleDFileFrame_settled last ready
      (orderly t found) live
  · refine .when (fun accepted => ?_) fun _ _ _ busy => busy.2.settled ready
    rintro u past ⟨rfl, busy⟩
    let t := (create tid false u.capsTcp u.config 0).setMtu peer.mtuInuse
    obtain ⟨hold, added⟩ := busy.add last ready
      (fresh_create tid false u.capsTcp u.config 0 peer.mtuInuse)
    have first : Safe False (fun w front => w = u ∧ front = past) (modify fun s => s.addTrans t)
        fun _ => Holding (u.addTrans t).ids rest u.trans.next t := by
      refine .modify ?_
      rintro w front ⟨rfl, rfl⟩
      exact hold
    have told : Safe False (Holding (u.addTrans t).ids rest u.trans.next t)
        (emit (.transCreated tid)) fun _ => Holding (u.addTrans t).ids rest u.trans.next t :=
      Safe.emit fun _ _ hold => ⟨⟨hold.1.1, hold.1.2.1, hold.1.2.2.session nofun⟩, hold.2⟩
    refine first.bind (fun _ => told.bind fun _ => handleDFileFrame_settled last added ?_ ?_) u past
      ⟨rfl, rfl⟩
    · rw [accepted.1]
      exact renamed accepted.1
    · rw [Session.ids, hold.2]
      rfl

end

end

section
variable {ids : Nat → Option (BitVec 16)} {rest : List Task} {env : Env}

lemma ids_setMtu (s : Session) (mtu : Nat) : (s.setMtu mtu).ids = s.ids := by
  funext h
  rw [Session.ids, Session.setMtu, get?_map, Session.ids, Option.map_map]
  congr 1
  funext t
  rw [Function.comp_apply, DFileTrans.setMtu]
  split <;> rfl

lemma Busy.setMtu {s past} (busy : Busy ids rest s past)
    (mtu : Nat) : Busy ids rest (s.setMtu mtu) past := by
  obtain ⟨rfl, rfl, clean⟩ := busy
  exact ⟨ids_setMtu s mtu, rfl, clean.setMtu mtu⟩

lemma Busy.emit {event} (other : ∀ h out, event ≠ .trans h out) :
    Safe False (Busy ids rest) (emit event) fun _ => Busy ids rest :=
  Safe.emit fun _ _ busy => ⟨busy.1, busy.2.1, busy.2.2.session other⟩

lemma handleSetting_busy {addr mtu} :
    Safe False (Busy ids rest) (handleSetting addr mtu) fun _ => Busy ids rest := by
  have setPeer (peer) : Safe False (Busy ids rest) (modify fun s => s.setPeer peer)
      fun _ => Busy ids rest := Safe.modify fun _ _ busy => ⟨busy.1, busy.2.1, busy.2.2.congr rfl⟩
  have told : Safe False (Busy ids rest) (emit (.settingHandled addr)) fun _ => Busy ids rest :=
    Busy.emit nofun
  refine (Safe.get fun s => Safe.when (fun _ => ?_) fun _ _ _ busy => busy.2)
  refine .weaken (P := Busy ids rest) ?_ fun _ _ busy => busy.2
  refine .ite (fun _ => ?_) fun _ => ?_
  · split
    · exact .pure fun _ _ busy => busy
    · refine .bind (setPeer _) fun _ => ?_
      refine .bind (M := fun _ => Busy ids rest) (Safe.modify fun _ _ busy => ?_) fun _ => ?_
      · exact busy.setMtu _
      · exact Busy.emit nofun
  · refine .get fun s => Safe.weaken (P := Busy ids rest) ?_ fun _ _ busy => busy.2
    split
    · exact .when (fun _ => Safe.bind (setPeer _) fun _ => told) fun _ _ _ busy => busy
    · refine .when (fun _ => ?_) fun _ _ _ busy => busy
      refine .bind (M := fun _ => Busy ids rest) (Safe.modify fun _ _ busy => ?_) fun _ => told
      exact ⟨busy.1, busy.2.1, busy.2.2.congr rfl⟩

lemma handleWithoutSettingError_busy (peer : Peer) :
    Safe False (Busy ids rest) (handleWithoutSettingError peer) fun _ => Busy ids rest :=
  Safe.bind (Safe.modify fun _ _ busy => busy.setMtu 0) fun _ => Busy.emit nofun

lemma handleFrame_settled {s addr frame} (last : handles rest = []) (ready : Ready ids rest)
    (orderly : ∀ tid recv, frame = .trans tid recv →
      (∀ t ∈ (s.findTrans tid).bind s.trans.get?, FrameOrderly env t recv) ∧
      (recv = .fileHeader → env.allFileNameReceived → env.renamed)) :
    From ids rest s (handleFrame env addr frame) fun _ => Settled := by
  cases frame with
  | setting mtu =>
    exact (handleSetting_busy.weaken fun _ _ busy => busy.2).imp
      fun _ _ _ busy => busy.settled ready
  | rstWithoutSetting =>
    refine .get_of_eq ?_
    split
    · exact .pure fun _ _ busy => busy.2.settled ready
    next peer _ =>
      exact ((handleWithoutSettingError_busy peer).weaken fun _ _ busy => busy.2).imp
        fun _ _ _ busy => busy.settled ready
  | trans tid recv =>
    obtain ⟨known, renamed⟩ := orderly tid recv rfl
    refine .get_of_eq ?_
    split
    · exact .pure fun _ _ busy => busy.2.settled ready
    · exact handleSessionTransFrame_settled last ready known renamed

/-- One task. The state is the one in which the task has been taken from the list. -/
lemma perform_settled {s : Session} {task : Task} (ready : Ready ids (task :: rest))
    (orderly : TaskOrderly env s task) : From ids rest s (perform env task) fun _ => Settled := by
  have live {h : Nat} (here : task.handle = some h) : (ids h).isSome := ready.1 h here
  have fromBusy {x : Working PUnit} (safe : Safe False (Busy ids rest) x fun _ => Settled) :
      From ids rest s x fun _ => Settled :=
    safe.weaken fun _ _ busy => busy.2
  cases task with
  | tick =>
    have last : handles rest = [] := ready.2.1
    refine .get_of_eq ?_
    rintro u past ⟨rfl, busy⟩
    refine Busy.push ?_ u past busy
    refine ⟨fun h next => ?_, fun h later => ?_, ready.2.2⟩
    · rw [← busy.1]
      exact (live_of_nextTrans next).1
    · have used : h ∈ handles rest := later
      simp [last] at used
  | handleFrame addr frame =>
    refine handleFrame_settled ready.2.1 ready.2.2 fun tid recv same => ?_
    subst same
    cases recv with
    | fileHeader => exact ⟨fun _ _ => orderly, fun _ => orderly⟩
    | fileTransferDone fileIds => exact ⟨orderly, nofun⟩
    | fileHeaderConfirm | fileData | fileTransferDoneAck => exact ⟨fun _ _ => trivial, nofun⟩
  | fileManagerMsg tid fileId type =>
    refine fileManagerTransMsgHandler_settled ready.2.1 ready.2.2 fun fails t found sender => ?_
    subst fails
    have early := orderly t found sender
    exact fun confirmed => confirmed.elim early.1 early.2
  | startTrans fileNum => exact fromBusy (startTrans_settled ready.2.1 ready.2.2)
  | sweep exceptTransId position =>
    cases position with
    | none => exact .pure fun _ _ busy => busy.2.settled ready.2.2
    | some h =>
      exact fromBusy (Busy.hold (live rfl) fun t number =>
        processSessionTrans_settled number ready)
  | process h => exact fromBusy (Busy.hold (live rfl) fun t _ => dFileTransProcess_settled ready)
  | fsm h => exact fromBusy (Busy.hold (live rfl) fun t _ => transferFsm_settled ready)
  | notifyAck h =>
    exact fromBusy (Busy.hold (live rfl) fun t number => notifyAck_settled number ready)
  | clearAck h => exact fromBusy (Busy.hold (live rfl) fun t _ => clearAck_settled ready.2.2)
  | notifyEnd h =>
    exact fromBusy (Busy.hold (live rfl) fun t _ => notifyEndMsg_settled ready.2.1 ready.2.2)

lemma sessionStep_settled {s past input} (settled : Settled s past) (orderly : Orderly s input) :
    ∃ t out, sessionStep s input = some (t, out) ∧ Settled t (past ++ out) := by
  obtain ⟨ready, clean⟩ := settled
  cases input with
  | post job =>
    refine ⟨_, [], rfl, ?_⟩
    rw [append_nil]
    split
    · exact ⟨ready.post job, clean.congr rfl⟩
    · exact ⟨ready, clean⟩
  | work env =>
    dsimp only [sessionStep]
    split
    · exact ⟨s, [], rfl, ready, by rwa [append_nil]⟩
    next task rest waiting =>
      have next : Ready s.ids (task :: rest) := waiting ▸ ready
      have safe := @perform_settled s.ids rest env { s with todo := rest } task next
        (orderly task (by rw [waiting]; rfl))
      have busy : Busy s.ids rest { s with todo := rest } past := ⟨rfl, rfl, clean.congr rfl⟩
      obtain ⟨t, out, step⟩ := safe.defined past ⟨rfl, busy⟩ id
      exact ⟨t, out, step, safe.step past ⟨rfl, busy⟩ step⟩

end

/-! ## Runs -/

lemma settled_create (isClient capsTcp config peers) :
    Settled (Session.create isClient capsTcp config peers) [] := by
  refine ⟨trivial, justified_nil _, fun h ended => rfl, nofun, fun h t live => ?_⟩
  cases live

/-- Every run has a result, so no handler goes on with a transfer that is gone. -/
theorem run_endsOnce (isClient capsTcp : Bool) (config : DFileTransConfig) (peers : List Peer)
    (inputs : List SessionInput)
    (orderly : AllSteps sessionStep Orderly (Session.create isClient capsTcp config peers)
      inputs) : ∃ s out, run sessionStep (Session.create isClient capsTcp config peers) inputs =
      some (s, out) ∧ Justified EndsOnce out := by
  obtain ⟨s, out, result, settled⟩ := run_defined_past
    (fun s past input => sessionStep_settled) (settled_create isClient capsTcp config peers) orderly
  exact ⟨s, out, result, settled.2.justified⟩

/-- A client with one peer, with which the mtu has been negotiated. -/
def oneClient : Session := Session.create true true defaultConfig [⟨1, 1000, 0⟩]

/-- One file is sent, and the main loop works until TRANSFER DONE has been handled. -/
def sendOneFile (env : Env) (fileIds : List Nat) : List SessionInput :=
  [.post (.startTrans 1), .post .tick] ++ replicate 12 (.work env) ++
    [.post (.frame 1 (.trans 1 (.fileTransferDone fileIds)))] ++ replicate 8 (.work env)

theorem run_endsOnce_oneFile : AllSteps sessionStep Orderly oneClient (sendOneFile .good [1]) ∧
      ∃ s out, run sessionStep oneClient (sendOneFile .good [1]) = some (s, out) ∧
        Justified EndsOnce out := by
  have orderly : AllSteps sessionStep Orderly oneClient (sendOneFile .good [1]) := by
    decide +kernel
  exact ⟨orderly, run_endsOnce true true defaultConfig [⟨1, 1000, 0⟩] _ orderly⟩

def renameFails : List SessionInput :=
  [.post (.frame 1 (.setting 1000)), .work .good, .post (.frame 1 (.trans 1 .fileHeader)),
    .work { Env.good with renamed := false }]

/-- The answer to TRANSFER DONE cannot be queued, and the file manager fails. -/
def failsInAnswer : List SessionInput :=
  sendOneFile { Env.good with ackNodeCreated := false } [1] ++
    [.post (.fileManagerMsg 1 0 .sendFail), .work .good]

lemma not_justified_endsOnce {out front rest h}
    (split : out = front ++ .trans h (.msg .fileSendFail) :: rest) (reached : Reached front h) :
    ¬ Justified EndsOnce out := fun justified =>
  (justified front _ rest split).2 rfl reached

/-- The first run uses a destroyed transfer. In the others a sender fails after it has answered
TRANSFER DONE. -/
theorem renameFails_not_endsOnce :
    run sessionStep (Session.create false true defaultConfig []) renameFails = none ∧
      (∃ s out, run sessionStep oneClient (sendOneFile .good []) = some (s, out) ∧
        ¬ Justified EndsOnce out) ∧
      ∃ s out, run sessionStep oneClient failsInAnswer = some (s, out) ∧
        ¬ Justified EndsOnce out := by
  have fails {inputs} (found : ∃ r ∈ run sessionStep oneClient inputs, r.2 = r.2.take 18 ++
        .trans 0 (.msg .fileSendFail) :: r.2.drop 19 ∧ Reached (r.2.take 18) 0) :
      ∃ s out, run sessionStep oneClient inputs = some (s, out) ∧ ¬ Justified EndsOnce out := by
    obtain ⟨⟨s, out⟩, result, split, reached⟩ := found
    exact ⟨s, out, result, not_justified_endsOnce split reached⟩
  refine ⟨isNone_iff_eq_none.mp (by decide +kernel), fails ?_, fails ?_⟩
  · decide +kernel
  · decide +kernel

end DSoftBus.DFile
