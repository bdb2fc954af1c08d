import Mathlib.Data.List.Infix
import Mathlib.Data.List.Perm.Subperm
import DSoftBus.DFile.Frame
import DSoftBus.Lib.Effect

/-!
Sending frames over a TCP socket (nstackx_dfile_send.c, DFileSessionSendFrame of
nstackx_dfile_session.c). The sender thread serves the queue of control frames and the
data blocks of the file manager. A frame that could be written only in part is parked, a
control frame in preQueueNode and a data block in the list unsent, and its rest has to be
written before anything else.

Rate, back pressure, mtu and the results of the socket writes are given with each call,
and so are the control frames that DFileWriteHandle, on another thread, queues while the
call runs. Those that the call takes are there when SendOutboundFrame first looks into the
queue, behind the frames of earlier calls; one that comes too late for the call is queued
after it. What the file manager reads during a call is there from its beginning.
-/
namespace DSoftBus.DFile.TcpSend
open Effect List

inductive DFileSessionType where
  | client
  | server
deriving DecidableEq

/-- What the socket does when it is written. `bytes n` takes up to `n + 1` bytes. -/
inductive WriteOutcome where
  | bytes (n : Nat)
  | eagain
  | failed

/-- The results NSTACKX_EOK, a positive number, NSTACKX_EAGAIN and NSTACKX_EFAILED. -/
inductive SendCode where
  | ok
  | sent
  | eagain
  | failed
deriving DecidableEq

structure QueueNode where
  frame : DFileFrame
  sendLen : Nat

structure FileDataFrame where
  frame : DFileFrame
  short : frame.bytes.length < 2 ^ 16

structure BlockFrame where
  fileDataFrame : FileDataFrame
  sendLen : Nat

structure PeerInfo where
  amendSendRate : Int
  recvListOverIo : Bool
  mtuInuse : Nat

structure SendCall where
  peerInfo : Option PeerInfo
  closeFlag : Bool
  writes : List WriteOutcome
  arrivals : List DFileFrame

/-- `pending` are the blocks the file manager has read. `ended` tells that the sender
thread has left its loop. -/
structure SendSession where
  sessionType : DFileSessionType
  preQueueNode : Option QueueNode
  unsent : List BlockFrame
  outboundQueue : List DFileFrame
  pending : List FileDataFrame
  writes : List WriteOutcome
  ended : Bool

open SendSession

inductive SendEvent where
  | queued (frame : DFileFrame)
  | wrote (chunk : Bytes)

abbrev Sending := Act SendSession SendEvent

/-- Once the outcomes are used up, the socket takes nothing. -/
def nextWrite : Sending WriteOutcome := do
  let s ← get
  match s.writes with
  | [] => pure .eagain
  | outcome :: rest =>
    modify fun s => { s with writes := rest }
    pure outcome

/-- Writes the bytes of a frame from `sendLen` on. Also returns how many are written
afterwards, zero again for a complete frame. -/
def sendRest (frame : Bytes) (sendLen : Nat) : Sending (SendCode × Nat) := do
  match ← nextWrite with
  | .bytes n =>
    let chunk := (frame.drop sendLen).take (n + 1)
    emit (.wrote chunk)
    if chunk.length = frame.length - sendLen then pure (.sent, 0)
    else pure (.eagain, sendLen + chunk.length)
  | .eagain => pure (.eagain, sendLen)
  | .failed => pure (.failed, sendLen)

def tcpSendFileDataFrame (block : BlockFrame) (len : Nat) : Sending (SendCode × BlockFrame) := do
  let (code, sendLen) ← sendRest (block.fileDataFrame.frame.bytes.take len) block.sendLen
  pure (code, { block with sendLen := sendLen })

/-- The list of blocks is not empty when it is called. After a failure all its blocks
are destroyed. -/
def sendFileDataFrame : List BlockFrame → Sending (SendCode × List BlockFrame)
  | [] => pure (.ok, [])
  | block :: rest => do
      let len := (block.fileDataFrame.frame.header.length.toNat + dFileFrameHeaderLen) % 2 ^ 16
      let (code, block) ← tcpSendFileDataFrame block len
      match code with
      | .failed => pure (.failed, [])
      | .eagain => pure (.eagain, block :: rest)
      | code => if rest.isEmpty then pure (code, []) else sendFileDataFrame rest

def checkSendByBackPress (peerInfo : PeerInfo) : Bool := peerInfo.recvListOverIo

/-- The passes of the loop of DoSendDataFrame that start without a block. Each takes
one block, the result of GetMaxSendCount. -/
def sendPending (again : Bool) : List FileDataFrame → Sending (SendCode × List BlockFrame)
  | [] => pure (.ok, [])
  | block :: rest => do
      modify fun s => { s with pending := rest }
      let (code, head) ← sendFileDataFrame [⟨block, 0⟩]
      if code = .sent ∧ again then sendPending again rest else pure (code, head)

def doSendDataFrame (sendRemain : Bool) (peerInfo : PeerInfo) (head : List BlockFrame) :
    Sending (SendCode × List BlockFrame) := do
  let again := !sendRemain && !checkSendByBackPress peerInfo
  if head.isEmpty then
    let s ← get
    sendPending again s.pending
  else
    let (code, head) ← sendFileDataFrame head
    let s ← get
    if code = .sent ∧ again then sendPending again s.pending else pure (code, head)

/-- CheckUnsentList takes at most one block out of the list. ListMove overwrites what
is left in it. -/
def sendDataFrame (sendRemain : Bool) (peerInfo : Option PeerInfo) : Sending SendCode := do
  match peerInfo with
  | none => pure .failed
  | some peerInfo =>
    if peerInfo.amendSendRate = 0 ∨ checkSendByBackPress peerInfo then pure .ok
    else
      let s ← get
      modify fun s => { s with unsent := s.unsent.drop 1 }
      let (code, head) ← doSendDataFrame sendRemain peerInfo (s.unsent.take 1)
      when (code = .eagain) (modify fun s => { s with unsent := head })
      pure code

def sendControlFrame (queueNode : QueueNode) : Sending (SendCode × QueueNode) := do
  let (code, sendLen) ← sendRest queueNode.frame.bytes queueNode.sendLen
  pure (code, { queueNode with sendLen := sendLen })

def leaveOutbound (code : SendCode) (queueNode : QueueNode) : Sending SendCode := do
  modify fun s => { s with preQueueNode := if code = .eagain then some queueNode else none }
  pure code

/-- The passes of the loop of SendOutboundFrame that take their frame from the queue. -/
def sendQueue (closeFlag : Bool) : List DFileFrame → Sending SendCode
  | [] => do
      modify fun s => { s with preQueueNode := none }
      pure .ok
  | frame :: rest => do
      modify fun s => { s with outboundQueue := rest }
      let (code, queueNode) ← sendControlFrame ⟨frame, 0⟩
      if code = .sent ∧ closeFlag = false then sendQueue closeFlag rest
      else leaveOutbound code queueNode

def sendOutboundFrame (closeFlag : Bool) : Sending SendCode := do
  let s ← get
  match s.preQueueNode with
  | none => sendQueue closeFlag s.outboundQueue
  | some queueNode =>
    let (code, queueNode) ← sendControlFrame queueNode
    if code = .sent ∧ closeFlag = false then sendQueue closeFlag s.outboundQueue
    else leaveOutbound code queueNode

def queueFrame (frame : DFileFrame) : Sending PUnit := do
  modify fun s => { s with outboundQueue := s.outboundQueue ++ [frame] }
  emit (.queued frame)

variable (call : SendCall)

def sendNewFrames : Sending SendCode := do
  each queueFrame call.arrivals
  let code ← sendOutboundFrame call.closeFlag
  let s ← get
  if s.sessionType ≠ .client then pure code
  else
    match call.peerInfo with
    | none => pure .failed
    | some peerInfo =>
      if peerInfo.mtuInuse = 0 then pure code
      else if code = .ok then sendDataFrame false (some peerInfo)
      else pure code

def sendUnsent : Sending SendCode := do
  let code ← sendDataFrame true call.peerInfo
  if code = .failed ∨ code = .eagain ∨ call.closeFlag then pure code
  else sendNewFrames call

def dFileSessionSendFrame : Sending SendCode := do
  let s ← get
  if s.unsent.isEmpty then sendNewFrames call else sendUnsent call

/-- DFileWriteHandle queues a control frame, the file manager reads a block, or the
loop of DFileSenderHandle calls DFileSessionSendFrame. -/
inductive SendInput where
  | writeHandle (frame : DFileFrame)
  | fileRead (block : FileDataFrame)
  | sendFrame (call : SendCall)

variable (block : FileDataFrame)

def queueBlock : Sending PUnit := do
  modify fun s => { s with pending := s.pending ++ [block] }
  emit (.queued block.frame)

def sendPass : Sending PUnit := do
  modify fun s => { s with writes := call.writes }
  let code ← dFileSessionSendFrame call
  when (code = .failed ∨ call.closeFlag) (modify fun s => { s with ended := true })

def sendStep (s : SendSession) : SendInput → Option (SendSession × List SendEvent)
  | .writeHandle frame => (queueFrame frame).step s
  | .fileRead block => (queueBlock block).step s
  | .sendFrame call => if s.ended then some (s, []) else (sendPass call).step s

def SendSession.init (sessionType : DFileSessionType) : SendSession :=
  ⟨sessionType, none, [], [], [], [], false⟩

/-! ## Whole frames -/

def SendEvent.chunk : SendEvent → Bytes
  | .wrote chunk => chunk
  | .queued _ => []

def SendEvent.frame : SendEvent → Option DFileFrame
  | .queued frame => some frame
  | .wrote _ => none

variable (events : List SendEvent)

def written : Bytes := events.flatMap SendEvent.chunk

def queued : List DFileFrame := events.filterMap SendEvent.frame

def stream (frames : List DFileFrame) : Bytes := frames.flatMap DFileFrame.bytes

/-- The bytes written are a prefix of frames that were queued, each of them at most as
often as it was queued. -/
def WholeFrames : Prop :=
  ∃ frames : List DFileFrame, frames.Subperm (queued events) ∧ written events <+: stream frames

@[simp] lemma written_append (front back) :
    written (front ++ back) = written front ++ written back := flatMap_append

@[simp] lemma queued_append (front back) :
    queued (front ++ back) = queued front ++ queued back := filterMap_append

@[simp] lemma written_wrote (chunk) : written [.wrote chunk] = chunk := by
  simp [written, SendEvent.chunk]

@[simp] lemma written_queued (frame) : written [.queued frame] = [] := rfl

@[simp] lemma queued_wrote (chunk) : queued [.wrote chunk] = [] := rfl

@[simp] lemma queued_queued (frame) : queued [.queued frame] = [frame] := rfl

lemma stream_append (front back) :
    stream (front ++ back) = stream front ++ stream back := flatMap_append

lemma stream_singleton (frame) : stream [frame] = frame.bytes := by
  simp [stream]

def SendSession.waiting (s : SendSession) : List DFileFrame :=
  s.outboundQueue ++ s.pending.map FileDataFrame.frame

/-- The bytes written are those of complete frames and the first `n` bytes of the frame
in hand. -/
def Writing (hand : Option (DFileFrame × Nat)) (s : SendSession) (past : List SendEvent) : Prop :=
  ∃ done : List DFileFrame,
    written past = stream done ++ (hand.elim [] fun frame => frame.1.bytes.take frame.2) ∧
      (done ++ (hand.map Prod.fst).toList ++ s.waiting).Subperm (queued past)

lemma Writing.wholeFrames {hand s past} (h : Writing hand s past) : WholeFrames past := by
  obtain ⟨done, bytes, frames⟩ := h
  refine ⟨done ++ (hand.map Prod.fst).toList, (sublist_append_left _ _).subperm.trans frames, ?_⟩
  rw [bytes, stream_append]
  refine (prefix_append_right_inj _).mpr ?_
  cases hand with
  | none => exact nil_prefix
  | some hand =>
    change hand.1.bytes.take hand.2 <+: stream [hand.1]
    rw [stream_singleton]
    exact take_prefix ..

structure Holds (pre : Option QueueNode) (unsent : List BlockFrame)
    (hand : Option (DFileFrame × Nat)) (s : SendSession) (past : List SendEvent) : Prop where
  pre : s.preQueueNode = pre
  unsent : s.unsent = unsent
  writing : Writing hand s past

variable {pre : Option QueueNode} {unsent : List BlockFrame} {frame : DFileFrame} {n : Nat}
  {s : SendSession} {past : List SendEvent}

lemma Writing.complete {rest} (h : Writing (some (frame, n)) s past)
    (last : frame.bytes.drop n = rest) : Writing none s (past ++ [.wrote rest]) := by
  obtain ⟨done, bytes, frames⟩ := h
  refine ⟨done ++ [frame], ?_, by simpa using frames⟩
  rw [written_append, bytes, written_wrote, ← last, stream_append, stream_singleton]
  simp

lemma Writing.more {m} (h : Writing (some (frame, n)) s past) :
    Writing (some (frame, n + ((frame.bytes.drop n).take m).length)) s
      (past ++ [.wrote ((frame.bytes.drop n).take m)]) := by
  obtain ⟨done, bytes, frames⟩ := h
  refine ⟨done, ?_, by simpa using frames⟩
  rw [written_append, bytes, written_wrote, append_assoc]
  refine congrArg (stream done ++ ·) ?_
  simp only [Option.elim_some]
  rw [take_add, length_take, ← take_eq_take_min]

def Attempted (pre : Option QueueNode) (unsent : List BlockFrame) (frame : DFileFrame)
    (result : SendCode × Nat) (s : SendSession) (past : List SendEvent) : Prop :=
  match result.1 with
  | .sent => Holds pre unsent none s past
  | .eagain => result.2 < frame.bytes.length ∧ Holds pre unsent (some (frame, result.2)) s past
  | .ok => False
  | .failed => WholeFrames past

lemma sendRest_keeps {γ : Type} {f : SendSession → γ} {a}
    (blind : ∀ s writes, f { s with writes := writes } = f s) (bytes : Bytes) (n : Nat) :
    Keeps (fun s _ => f s = a) (sendRest bytes n) := by
  have next : Keeps (fun s (_ : List SendEvent) => f s = a) nextWrite := by
    refine .get fun s => ?_
    split
    · exact .pure _
    · exact .bind (Triple.modify fun s past h => (blind s _).trans h) fun _ => Keeps.pure _
  refine .bind next fun outcome => ?_
  cases outcome with
  | bytes m =>
    refine .bind (Triple.emit fun s past h => h) fun _ => ?_
    exact .ite (fun _ => Keeps.pure _) fun _ => Keeps.pure _
  | eagain => exact .pure _
  | failed => exact .pure _

lemma nextWrite_holds {hand} : Keeps (Holds pre unsent hand) nextWrite := by
  refine .get fun s => ?_
  split
  · exact .pure _
  · refine .bind (Triple.modify fun s past h => ?_) fun _ => Keeps.pure _
    exact ⟨h.pre, h.unsent, h.writing⟩

lemma sendRest_attempted (inside : n < frame.bytes.length) :
    Triple (Holds pre unsent (some (frame, n))) (sendRest frame.bytes n)
      (Attempted pre unsent frame) := by
  refine .bind nextWrite_holds fun outcome => ?_
  cases outcome with
  | eagain => exact .pure fun s past h => ⟨inside, h⟩
  | failed => exact .pure fun s past h => h.writing.wholeFrames
  | bytes m =>
    dsimp only
    split
    next whole =>
      refine .bind (M := fun _ => Holds pre unsent none) (Triple.emit ?_) fun _ => ?_
      · intro s past h
        refine ⟨h.pre, h.unsent, h.writing.complete ?_⟩
        refine (take_of_length_le ?_).symm
        simp only [length_take, length_drop] at whole ⊢
        omega
      · exact .pure fun s past h => h
    next short =>
      have left : n + ((frame.bytes.drop n).take (m + 1)).length < frame.bytes.length := by
        simp only [length_take, length_drop] at short ⊢
        omega
      refine .bind (Triple.emit fun s past h => ?_) fun _ =>
        Triple.pure fun s past h => ⟨left, h⟩
      exact ⟨h.pre, h.unsent, h.writing.more⟩

/-! ## Data blocks -/

namespace BlockFrame
variable (block : BlockFrame)

def hand : Option (DFileFrame × Nat) := some (block.fileDataFrame.frame, block.sendLen)

def Unfinished : Prop := block.sendLen < block.fileDataFrame.frame.bytes.length

end BlockFrame

lemma FileDataFrame.len_eq : (block.frame.header.length.toNat + dFileFrameHeaderLen) % 2 ^ 16 =
      block.frame.bytes.length := by
  rw [block.frame.toNat_length, add_comm, ← block.frame.length_bytes, Nat.mod_eq_of_lt block.short]

def BlocksSent (pre : Option QueueNode) (unsent : List BlockFrame)
    (result : SendCode × List BlockFrame) (s : SendSession) (past : List SendEvent) : Prop :=
  match result.1 with
  | .ok | .sent => Holds pre unsent none s past
  | .eagain => ∃ block : BlockFrame, result.2 = [block] ∧ block.Unfinished ∧
      Holds pre unsent block.hand s past
  | .failed => WholeFrames past

lemma tcpSendFileDataFrame_sent {block} (cut : block.Unfinished) :
    Triple (Holds pre unsent block.hand) (tcpSendFileDataFrame block
        ((block.fileDataFrame.frame.header.length.toNat + dFileFrameHeaderLen) % 2 ^ 16))
      fun result => BlocksSent pre unsent (result.1, [result.2]) := by
  rw [block.fileDataFrame.len_eq, tcpSendFileDataFrame, take_length]
  refine .bind (sendRest_attempted cut) ?_
  rintro ⟨code, sendLen⟩
  refine .pure fun s past h => ?_
  cases code with
  | ok => exact h.elim
  | sent => exact h
  | eagain => exact ⟨_, rfl, h.1, h.2⟩
  | failed => exact h

lemma sendFileDataFrame_sent {block} (cut : block.Unfinished) :
    Triple (Holds pre unsent block.hand) (sendFileDataFrame [block]) (BlocksSent pre unsent) := by
  refine .bind (tcpSendFileDataFrame_sent cut) ?_
  rintro ⟨code, left⟩
  cases code <;> exact .pure fun s past h => h

lemma sendFileDataFrame_keeps {γ : Type} {f : SendSession → γ} {a}
    (blind : ∀ s writes, f { s with writes := writes } = f s) (head : List BlockFrame) :
    Keeps (fun s _ => f s = a) (sendFileDataFrame head) := by
  induction head with
  | nil => exact .pure _
  | cons block rest ih =>
    refine .bind (Keeps.bind (sendRest_keeps blind _ _) fun _ => Keeps.pure _) ?_
    rintro ⟨code, left⟩
    cases code with
    | failed | eagain => exact .pure _
    | ok | sent => exact .ite (fun _ => Keeps.pure _) fun _ => ih

lemma FileDataFrame.unfinished : (BlockFrame.mk block 0).Unfinished := by
  rw [BlockFrame.Unfinished, DFileFrame.length_bytes]
  exact Nat.add_pos_left (by decide) _

variable {t : SendSession} {peerInfo : PeerInfo} {code : SendCode}

lemma Writing.take (h : Writing none s past) (taken : (frame :: t.waiting).Perm s.waiting) :
    Writing (some (frame, 0)) t past := by
  obtain ⟨done, bytes, frames⟩ := h
  refine ⟨done, by simpa using bytes, ?_⟩
  refine List.Subperm.trans (List.Perm.subperm ?_) frames
  simpa using List.Perm.append_left done taken

lemma sendPending_sent (again pending) :
    Triple (fun s past => s.pending = pending ∧ Holds pre unsent none s past)
      (sendPending again pending) (BlocksSent pre unsent) := by
  induction pending with
  | nil => exact .pure fun s past h => h.2
  | cons block rest ih =>
    have take : Triple (fun s past => s.pending = block :: rest ∧ Holds pre unsent none s past)
        (modify fun s => { s with pending := rest })
        fun _ s past => s.pending = rest ∧
          Holds pre unsent (BlockFrame.mk block 0).hand s past := by
      refine .modify fun s past h => ⟨rfl, h.2.pre, h.2.unsent, h.2.writing.take ?_⟩
      simp only [waiting, h.1, map_cons]
      exact perm_middle.symm
    refine .bind take fun _ => Triple.bind
      ((sendFileDataFrame_keeps (fun _ _ => rfl) _).and
        (sendFileDataFrame_sent block.unfinished)) ?_
    rintro ⟨code, head⟩
    refine .ite (fun cont => ?_) fun _ => Triple.pure fun s past h => h.2
    obtain ⟨rfl, -⟩ := cont
    exact ih

lemma sendPending_current (again) :
    Triple (Holds pre unsent none) (get >>= fun s => sendPending again s.pending)
      (BlocksSent pre unsent) := by
  refine .get fun s => (sendPending_sent again s.pending).weaken ?_
  rintro _ past ⟨rfl, h⟩
  exact ⟨rfl, h⟩

inductive LeftOver : List BlockFrame → Option (DFileFrame × Nat) → Prop where
  | nothing : LeftOver [] none
  | block {block : BlockFrame} (unfinished : block.Unfinished) : LeftOver [block] block.hand

lemma doSendDataFrame_sent {head hand} (left : LeftOver head hand) (sendRemain peerInfo) :
    Triple (Holds pre unsent hand) (doSendDataFrame sendRemain peerInfo head)
      (BlocksSent pre unsent) := by
  cases left with
  | nothing => exact sendPending_current _
  | block cut =>
    refine .bind (sendFileDataFrame_sent cut) ?_
    rintro ⟨code, head⟩
    refine .get fun s => Triple.ite (fun cont => ?_) fun _ =>
      Triple.pure fun t past h => h.2
    obtain ⟨rfl, -⟩ := cont
    refine (sendPending_sent _ s.pending).weaken ?_
    rintro _ past ⟨rfl, h⟩
    exact ⟨rfl, h⟩

/-! ## Calls -/

/-- Between two calls of DFileSessionSendFrame at most one frame has been written in part, and
the next call takes it up. -/
inductive Resting (s : SendSession) (past : List SendEvent) : Prop where
  | idle (h : Holds none [] none s past)
  | control (node : QueueNode) (unfinished : node.sendLen < node.frame.bytes.length)
      (h : Holds (some node) [] (some (node.frame, node.sendLen)) s past)
  | data (block : BlockFrame) (unfinished : block.Unfinished)
      (h : Holds none [block] block.hand s past)

lemma Resting.wholeFrames (h : Resting s past) : WholeFrames past := by
  cases h with
  | idle h | control _ _ h | data _ _ h => exact h.writing.wholeFrames

def Returned (code : SendCode) (s : SendSession) (past : List SendEvent) : Prop :=
  match code with
  | .ok | .sent => Holds none [] none s past
  | .eagain => Resting s past
  | .failed => WholeFrames past

def PeerInfo.Open (peerInfo : PeerInfo) : Prop :=
  peerInfo.amendSendRate ≠ 0 ∧ peerInfo.recvListOverIo = false
deriving Decidable

lemma sendDataFrame_closed (closed : ¬ peerInfo.Open) (sendRemain) :
    sendDataFrame sendRemain (some peerInfo) = pure .ok := by
  refine if_pos ?_
  by_contra stop
  obtain ⟨rate, press⟩ := not_or.mp stop
  exact closed ⟨rate, Bool.not_eq_true _ ▸ press⟩

lemma sendDataFrame_open (isOpen : peerInfo.Open) {hand}
    (left : LeftOver unsent hand) (sendRemain) :
    Triple (Holds none unsent hand) (sendDataFrame sendRemain (some peerInfo)) Returned := by
  have go : ¬ (peerInfo.amendSendRate = 0 ∨ checkSendByBackPress peerInfo) := by
    rw [checkSendByBackPress, isOpen.2]
    simp [isOpen.1]
  have one : unsent.take 1 = unsent ∧ unsent.drop 1 = [] := by
    cases left <;> exact ⟨rfl, rfl⟩
  rw [sendDataFrame]
  dsimp only
  rw [if_neg go]
  refine .get fun s => Triple.bind (M := fun _ t past => s.unsent = unsent ∧
    Holds none [] hand t past) (Triple.modify ?_) fun _ => ?_
  · rintro t past ⟨rfl, h⟩
    exact ⟨h.unsent, h.pre, (congrArg (drop 1) h.unsent).trans one.2, h.writing⟩
  · refine .assume fun same => ?_
    rw [same, one.1]
    refine .bind (doSendDataFrame_sent left sendRemain peerInfo) ?_
    rintro ⟨code, head⟩
    refine .bind (M := fun _ => Returned code) ?_ fun _ => Triple.pure fun t past h => h
    cases code with
    | ok | sent | failed => exact .pure fun t past h => h
    | eagain =>
      refine .modify fun t past h => ?_
      obtain ⟨block, rfl, cut, held⟩ := h
      exact .data block cut ⟨held.pre, rfl, held.writing⟩

lemma leaveOutbound_returned {node} :
    Triple (Attempted pre [] node.frame (code, node.sendLen)) (leaveOutbound code node)
      Returned := by
  refine .bind (M := fun _ => Returned code) (Triple.modify fun s past h => ?_) fun _ =>
    Triple.pure fun s past h => h
  cases code with
  | ok => exact h.elim
  | sent => exact ⟨rfl, h.unsent, h.writing⟩
  | eagain => exact .control node h.1 ⟨rfl, h.2.unsent, h.2.writing⟩
  | failed => exact h

lemma sendControlFrame_returned (node)
    (cut : node.sendLen < node.frame.bytes.length) {closeFlag queue next}
    (later : Triple (fun s past => s.outboundQueue = queue ∧ Holds pre [] none s past) next
      Returned) : Triple (fun s past => s.outboundQueue = queue ∧
        Holds pre [] (some (node.frame, node.sendLen)) s past) (do
        let (code, node) ← sendControlFrame node
        if code = .sent ∧ closeFlag = false then next else leaveOutbound code node)
      Returned := by
  have first : Triple (fun s past => s.outboundQueue = queue ∧
      Holds pre [] (some (node.frame, node.sendLen)) s past) (sendControlFrame node)
      fun result s past => s.outboundQueue = queue ∧
        Attempted pre [] result.2.frame (result.1, result.2.sendLen) s past := by
    refine .bind ((sendRest_keeps (fun _ _ => rfl) _ _).and
      (sendRest_attempted cut)) ?_
    exact fun result => Triple.pure fun s past h => h
  refine .bind first ?_
  rintro ⟨code, left⟩
  refine .ite (fun cont => ?_) fun _ =>
    leaveOutbound_returned.weaken fun s past h => h.2
  obtain ⟨rfl, -⟩ := cont
  exact later

lemma sendQueue_returned (closeFlag queue) :
    Triple (fun s past => s.outboundQueue = queue ∧ Holds pre [] none s past)
      (sendQueue closeFlag queue) Returned := by
  induction queue with
  | nil =>
    refine .bind (M := fun _ => Returned .ok) (Triple.modify fun s past h => ?_) fun _ =>
      Triple.pure fun s past h => h
    exact ⟨rfl, h.2.unsent, h.2.writing⟩
  | cons frame rest ih =>
    have take : Triple (fun s past => s.outboundQueue = frame :: rest ∧ Holds pre [] none s past)
        (modify fun s => { s with outboundQueue := rest })
        fun _ s past => s.outboundQueue = rest ∧ Holds pre [] (some (frame, 0)) s past := by
      refine .modify fun s past h => ⟨rfl, h.2.pre, h.2.unsent, h.2.writing.take ?_⟩
      simp only [waiting, h.1, cons_append]
      exact List.Perm.refl _
    have fresh : 0 < frame.bytes.length := by
      rw [DFileFrame.length_bytes]
      exact Nat.add_pos_left (by decide) _
    exact .bind take fun _ => sendControlFrame_returned ⟨frame, 0⟩ fresh ih

/-- What SendOutboundFrame starts with: nothing, or the control frame left over. -/
inductive LeftControl : Option QueueNode → Option (DFileFrame × Nat) → Prop where
  | nothing : LeftControl none none
  | frame (node : QueueNode) (unfinished : node.sendLen < node.frame.bytes.length) :
      LeftControl (some node) (some (node.frame, node.sendLen))

lemma sendOutboundFrame_returned (closeFlag) {hand} (left : LeftControl pre hand) :
    Triple (Holds pre [] hand) (sendOutboundFrame closeFlag) Returned := by
  refine .get fun s => ?_
  rintro t past ⟨rfl, h⟩
  rw [h.pre]
  cases left with
  | nothing => exact sendQueue_returned closeFlag t.outboundQueue t past ⟨rfl, h⟩
  | frame node cut =>
    exact sendControlFrame_returned node cut
      (sendQueue_returned closeFlag t.outboundQueue) t past ⟨rfl, h⟩

lemma Returned.wholeFrames (h : Returned code s past) : WholeFrames past := by
  cases code with
  | ok | sent => exact h.writing.wholeFrames
  | eagain => exact Resting.wholeFrames h
  | failed => exact h

lemma Writing.queue {hand} (h : Writing hand s past)
    (more : t.waiting.Perm (s.waiting ++ [frame])) : Writing hand t (past ++ [.queued frame]) := by
  obtain ⟨done, bytes, frames⟩ := h
  refine ⟨done, by simpa using bytes, ?_⟩
  rw [queued_append, queued_queued]
  refine List.Subperm.trans (List.Perm.subperm ?_) ((subperm_append_right [frame]).mpr frames)
  rw [append_assoc _ s.waiting]
  exact more.append_left _

lemma waiting_queueFrame (s : SendSession) (frame) :
    { s with outboundQueue := s.outboundQueue ++ [frame] }.waiting.Perm (s.waiting ++ [frame]) := by
  simp only [waiting, append_assoc]
  exact perm_append_comm.append_left _

lemma queueFrame_holds {hand} (frame) : Keeps (Holds pre unsent hand) (queueFrame frame) := by
  rintro s past h _ _ _ ⟨⟩
  exact ⟨h.pre, h.unsent, h.writing.queue (waiting_queueFrame s frame)⟩

lemma sendNewFrames_returned {hand}
    (left : LeftControl pre hand) : Triple (Holds pre [] hand) (sendNewFrames call) Returned := by
  refine .bind (Keeps.each fun frame _ => queueFrame_holds frame) fun _ => ?_
  refine .bind (sendOutboundFrame_returned call.closeFlag left) fun code => ?_
  refine .get fun s => Triple.ite (fun _ => Triple.pure fun t past h => h.2) fun _ => ?_
  split
  · exact .pure fun t past h => h.2.wholeFrames
  rename_i peerInfo _
  refine .ite (fun _ => Triple.pure fun t past h => h.2) fun _ => ?_
  refine .ite (fun ok => ?_) fun _ => Triple.pure fun t past h => h.2
  subst ok
  by_cases isOpen : peerInfo.Open
  · exact (sendDataFrame_open isOpen .nothing false).weaken fun t past h => h.2
  · rw [sendDataFrame_closed isOpen]
    exact .pure fun t past h => h.2

def Finished (code : SendCode) (s : SendSession) (past : List SendEvent) : Prop :=
  if code = .failed then WholeFrames past else Resting s past

lemma Returned.finished (h : Returned code s past) : Finished code s past := by
  cases code with
  | ok | sent => exact .idle h
  | eagain | failed => exact h

lemma sendNewFrames_finished {hand}
    (left : LeftControl pre hand) : Triple (Holds pre [] hand) (sendNewFrames call) Finished :=
  (sendNewFrames_returned call left).consequence (fun _ _ h => h) fun _ _ _ => Returned.finished

/-- If a data block is left over, the call goes on with it: it finds a send rate and no back
pressure. -/
def SendInput.InOrder (s : SendSession) : SendInput → Prop
  | .sendFrame call => s.unsent = [] ∨ ∀ peerInfo ∈ call.peerInfo, peerInfo.Open
  | .writeHandle _ | .fileRead _ => True

lemma sendUnsent_open {call block}
    (open_ : ∀ peerInfo ∈ call.peerInfo, peerInfo.Open) (cut : block.Unfinished) :
    Triple (Holds none [block] block.hand) (sendUnsent call) Finished := by
  have first : Triple (Holds none [block] block.hand) (sendDataFrame true call.peerInfo)
      Returned := by
    cases peer : call.peerInfo with
    | none => exact .pure fun s past h => h.writing.wholeFrames
    | some peerInfo => exact sendDataFrame_open (open_ peerInfo peer) (.block cut) true
  refine .bind first fun code => ?_
  refine .ite (fun _ => Triple.pure fun s past => Returned.finished) fun cont => ?_
  cases code with
  | failed | eagain => simp at cont
  | ok | sent => exact sendNewFrames_finished call .nothing

lemma dFileSessionSendFrame_finished :
    Triple (fun s past => (SendInput.sendFrame call).InOrder s ∧ Resting s past)
      (dFileSessionSendFrame call) Finished := by
  refine .get fun s => ?_
  rintro t past ⟨rfl, inOrder, resting⟩
  cases resting with
  | idle h =>
    rw [h.unsent]
    exact sendNewFrames_finished call .nothing t past h
  | control node cut h =>
    rw [h.unsent]
    exact sendNewFrames_finished call (.frame node cut) t past h
  | data block cut h =>
    rcases inOrder with none | open_
    · simp [h.unsent] at none
    · rw [h.unsent]
      exact sendUnsent_open open_ cut t past h

/-! ## Runs -/

structure Sound (s : SendSession) (past : List SendEvent) : Prop where
  wholeFrames : WholeFrames past
  resting : s.ended = false → Resting s past

lemma Resting.sound (h : Resting s past) : Sound s past := ⟨h.wholeFrames, fun _ => h⟩

lemma sound_init (sessionType) : Sound (init sessionType) [] :=
  (Resting.idle ⟨rfl, rfl, [], rfl, List.Subperm.refl _⟩).sound

lemma WholeFrames.queue (h : WholeFrames past) : WholeFrames (past ++ [.queued frame]) := by
  obtain ⟨frames, among, bytes⟩ := h
  refine ⟨frames, ?_, by simpa using bytes⟩
  rw [queued_append]
  exact among.trans (sublist_append_left _ _).subperm

lemma Sound.queue (h : Sound s past) (samePre : t.preQueueNode = s.preQueueNode)
    (sameUnsent : t.unsent = s.unsent) (sameEnd : t.ended = s.ended)
    (more : t.waiting.Perm (s.waiting ++ [frame])) : Sound t (past ++ [.queued frame]) := by
  have holds {pre unsent} {hand : Option (DFileFrame × Nat)} (h : Holds pre unsent hand s past) :
      Holds pre unsent hand t (past ++ [.queued frame]) :=
    ⟨samePre.trans h.pre, sameUnsent.trans h.unsent, h.writing.queue more⟩
  refine ⟨h.wholeFrames.queue, fun running => ?_⟩
  cases h.resting (sameEnd ▸ running) with
  | idle h => exact .idle (holds h)
  | control node cut h => exact .control node cut (holds h)
  | data block cut h => exact .data block cut (holds h)

lemma queueFrame_sound (frame) : Keeps Sound (queueFrame frame) := by
  rintro s past h _ _ _ ⟨⟩
  exact h.queue rfl rfl rfl (waiting_queueFrame s frame)

lemma queueBlock_sound : Keeps Sound (queueBlock block) := by
  rintro s past h _ _ _ ⟨⟩
  refine h.queue rfl rfl rfl ?_
  simp [waiting]

lemma Finished.wholeFrames (h : Finished code s past) : WholeFrames past := by
  unfold Finished at h
  split at h
  · exact h
  · exact h.wholeFrames

lemma Resting.setWrites (h : Resting s past) (writes) :
    Resting { s with writes := writes } past := by
  cases h with
  | idle h => exact .idle ⟨h.pre, h.unsent, h.writing⟩
  | control node cut h => exact .control node cut ⟨h.pre, h.unsent, h.writing⟩
  | data block cut h => exact .data block cut ⟨h.pre, h.unsent, h.writing⟩

lemma sendPass_sound :
    Triple (fun s past => (SendInput.sendFrame call).InOrder s ∧ Resting s past) (sendPass call)
      fun _ => Sound := by
  refine .bind (Triple.modify fun s past h => ⟨h.1, h.2.setWrites _⟩) fun _ =>
    Triple.bind (dFileSessionSendFrame_finished call) fun code => ?_
  refine .ite (fun _ => Triple.modify fun s past h => ?_) fun goesOn =>
    Triple.pure fun s past h => ?_
  · exact ⟨h.wholeFrames, fun running => by cases running⟩
  · rw [Finished, if_neg fun failed => goesOn (.inl failed)] at h
    exact h.sound

lemma sendStep_sound {i out} (h : Sound s past)
    (inOrder : i.InOrder s) (step : sendStep s i = some (t, out)) : Sound t (past ++ out) := by
  cases i with
  | writeHandle frame => exact (queueFrame_sound frame).step past h step
  | fileRead block => exact (queueBlock_sound block).step past h step
  | sendFrame call =>
    cases ended : s.ended with
    | true =>
      simp only [sendStep, ended, if_true, Option.some.injEq, Prod.mk.injEq] at step
      obtain ⟨rfl, rfl⟩ := step
      rwa [append_nil]
    | false =>
      simp only [sendStep, ended, Bool.false_eq_true, if_false] at step
      exact (sendPass_sound call).step past ⟨inOrder, h.resting ended⟩ step

/-- As long as no call is stopped with a block left over, no frame is interleaved with another
one. -/
theorem run_wholeFrames {sessionType : DFileSessionType} {inputs : List SendInput}
    {t : SendSession} {events : List SendEvent}
    (inOrder : Execution.AllSteps sendStep (fun s i => i.InOrder s)
      (init sessionType) inputs)
    (run : Execution.run sendStep (init sessionType) inputs = some (t, events)) :
    WholeFrames events := by
  have sound : Sound t ([] ++ events) :=
    Execution.run_invariant (fun s past i t out h ok step => sendStep_sound h ok step)
      (sound_init sessionType) inOrder run
  exact sound.wholeFrames

instance SendInput.decidableInOrder (s : SendSession) (i : SendInput) :
    Decidable (i.InOrder s) := by
  cases i <;> unfold InOrder <;> infer_instance

def smallBlock : FileDataFrame := ⟨⟨4, 0, 0, 1, [7, 7], by decide⟩, by decide⟩

def smallControl : DFileFrame := ⟨5, 0, 0, 1, [], by decide⟩

def smallCall (recvListOverIo : Bool) (writes : List WriteOutcome)
    (arrivals : List DFileFrame) : SendCall :=
  ⟨some ⟨10, recvListOverIo, 1400⟩, false, writes, arrivals⟩

/-- A block is written up to its fourth byte. The next call finds the given back pressure, and a
control frame arrives while it runs. -/
def partialBlockRun (recvListOverIo : Bool) : List SendInput :=
  [.fileRead smallBlock, .sendFrame (smallCall false [.bytes 3] []),
    .sendFrame (smallCall recvListOverIo [.bytes 100, .bytes 100] [smallControl])]

theorem run_wholeFrames_partialBlock :
    ∃ t events, Execution.run sendStep (init .client) (partialBlockRun false) =
      some (t, events) ∧ written events = stream [smallBlock.frame, smallControl] ∧
        WholeFrames events :=
  ⟨_, _, rfl, by decide, @run_wholeFrames .client (partialBlockRun false) _ _ (by decide) rfl⟩

lemma WholeFrames.first_frame {events} (h : WholeFrames events)
    (some_ : written events ≠ []) : ∃ frame ∈ queued events,
      (written events).take frame.bytes.length <+: frame.bytes := by
  obtain ⟨frames, among, bytes⟩ := h
  cases frames with
  | nil => exact absurd (prefix_nil.mp bytes) some_
  | cons frame rest =>
    refine ⟨frame, among.subset mem_cons_self, ?_⟩
    have front := bytes.take frame.bytes.length
    rwa [stream, flatMap_cons, take_left] at front

/-- Back pressure stops the block, but not the control frame: it is written after the
first four bytes of the block. -/
theorem partialBlock_interleaved :
    ∃ t events, Execution.run sendStep (init .client) (partialBlockRun true) =
      some (t, events) ∧ ¬ WholeFrames events := by
  refine ⟨_, _, rfl, fun whole => ?_⟩
  obtain ⟨frame, mem, front⟩ := whole.first_frame (by decide)
  have mem : frame ∈ [smallBlock.frame, smallControl] := mem
  rcases mem_pair.mp mem with rfl | rfl
  · exact absurd front (by decide)
  · exact absurd front (by decide)

end DSoftBus.DFile.TcpSend
