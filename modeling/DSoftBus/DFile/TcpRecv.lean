import DSoftBus.DFile.Frame
import DSoftBus.Lib.Framing

/-!
Receiving frames from a TCP socket (nstackx_dfile_send.c, nstackx_dfile_mp.c). A call of
DFileSocketRecvSP reads the rest of a header and then of its payload into recvBuffer, and
hands a complete frame on. It may stop anywhere and is continued by the next call.

Of recvBuffer only the received bytes are kept; `recvLen` is their number. The source does
not compare it with the size of the buffer: writes beyond it are kept as well, and the
outputs tell how far each reaches.
-/
namespace DSoftBus.DFile
open ByteString Framing List Nat DFileFrame

def recvBufferLen : Nat := 1600

/-- What the socket does when it is read. `bytes n` returns up to `n + 1` bytes. -/
inductive SocketOutcome where
  | bytes (n : Nat)
  | eagain
  | closed
  | failed

inductive RecvCode where
  | done
  | eagain
  | peerClose
  | failed
deriving DecidableEq

/-- `socket` holds the bytes that have been sent and not yet read. -/
structure RecvSession where
  recvBuffer : Bytes
  socket : Bytes

open RecvSession

def RecvSession.recvLen (s : RecvSession) : Nat := s.recvBuffer.length

inductive RecvEvent where
  | write (offset : Nat) (chunk : Bytes)
  | handleReadBuffer (frame : Bytes)

def RecvEvent.recvLen : RecvEvent → Nat
  | .write offset chunk => offset + chunk.length
  | .handleReadBuffer frame => frame.length

def RecvEvent.handed : RecvEvent → Option Bytes
  | .handleReadBuffer frame => some frame
  | .write _ _ => none

def handed (events : List RecvEvent) : List Bytes := events.filterMap RecvEvent.handed

/-- `rest` are the outcomes that have not been used. -/
structure RecvResult where
  code : RecvCode
  session : RecvSession
  rest : List SocketOutcome
  events : List RecvEvent

/-- A socket without bytes to read has none to return, whatever the outcome. -/
def socketRecv (length : Nat) (socket : Bytes) : SocketOutcome → Except RecvCode Bytes
  | .bytes n =>
    match socket.take (min (n + 1) length) with
    | [] => .error .eagain
    | b :: more => .ok (b :: more)
  | .eagain => .error .eagain
  | .closed => .error .peerClose
  | .failed => .error .failed

/-- The loop of TcpSocketRecv, which still has `length` bytes to read. Once the outcomes
are used up, the socket has nothing to read. -/
def tcpSocketRecv : Nat → RecvSession → List SocketOutcome → RecvResult
  | length, s, [] => ⟨if length = 0 then .done else .eagain, s, [], []⟩
  | length, s, outcome :: rest =>
    if length = 0 then ⟨.done, s, outcome :: rest, []⟩
    else
      match socketRecv length s.socket outcome with
      | .error code => ⟨code, s, rest, []⟩
      | .ok chunk =>
        let result := tcpSocketRecv (length - chunk.length)
          ⟨s.recvBuffer ++ chunk, s.socket.drop chunk.length⟩ rest
        { result with events := .write s.recvLen chunk :: result.events }

variable (s : RecvSession) (outcomes : List SocketOutcome)

def recvHeader : RecvResult :=
  if s.recvLen < dFileFrameHeaderLen then
    tcpSocketRecv (dFileFrameHeaderLen - s.recvLen) s outcomes
  else ⟨.done, s, outcomes, []⟩

def socketRecvForTcp : RecvResult :=
  let first := recvHeader s outcomes
  if first.code ≠ .done then first
  else
    let frameHeader := DFileFrameHeader.ofBytes first.session.recvBuffer
    let payloadLen := frameHeader.length.toNat
    if dFileTypeMax ≤ frameHeader.type.toNat ∨ recvBufferLen ≤ payloadLen then
      { first with code := .failed }
    else if first.session.recvLen - dFileFrameHeaderLen < payloadLen then
      let second := tcpSocketRecv (payloadLen - (first.session.recvLen - dFileFrameHeaderLen))
        first.session first.rest
      { second with events := first.events ++ second.events }
    else first

/-- The result of DFileSessionHandleReadBuffer does not matter for what follows. -/
def dFileSocketRecvSP : RecvResult :=
  let result := socketRecvForTcp s outcomes
  if result.code = .done then
    { result with
      session := ⟨[], result.session.socket⟩
      events := result.events ++ [.handleReadBuffer result.session.recvBuffer] }
  else result

def recvCalls : Nat → RecvSession → List SocketOutcome → RecvSession × List RecvEvent
  | 0, s, _ => (s, [])
  | n + 1, s, outcomes =>
    let result := dFileSocketRecvSP s outcomes
    let later := recvCalls n result.session result.rest
    (later.1, result.events ++ later.2)

def SocketOutcome.isBytes : SocketOutcome → Bool
  | .bytes _ => true
  | _ => false

def SocketOutcome.open : SocketOutcome → Bool
  | .bytes _ | .eagain => true
  | .closed | .failed => false

variable (frames : List DFileFrame)

/-- Whatever the reads, the frames sent come out one by one, all of them once there
have been enough reads, and recvBuffer is large enough. -/
def ReceivesFrames : Prop :=
  ∀ (outcomes : List SocketOutcome) (n : Nat), outcomes.all SocketOutcome.open →
    let stream := (frames.map bytes).flatten
    let events := (recvCalls n ⟨[], stream⟩ outcomes).2
    handed events <+: frames.map bytes ∧
      (stream.length ≤ outcomes.countP SocketOutcome.isBytes → outcomes.length ≤ n →
        handed events = frames.map bytes) ∧
      ∀ event ∈ events, event.recvLen ≤ recvBufferLen

section
variable {s : RecvSession} {length : Nat} {outs : List SocketOutcome}

structure Took (s : RecvSession) (length : Nat) (outcomes : List SocketOutcome)
    (result : RecvResult) (chunk : Bytes) : Prop where
  buffer : result.session.recvBuffer = s.recvBuffer ++ chunk
  socket : s.socket = chunk ++ result.session.socket
  atMost : chunk.length ≤ length
  done : result.code = .done ↔ chunk.length = length
  silent : handed result.events = []
  reach : ∀ event ∈ result.events, event.recvLen ≤ s.recvLen + chunk.length
  used : 0 < length → result.rest.length ≤ outcomes.length - 1
  kept : length = 0 → result.rest = outcomes
  progress : outcomes.countP SocketOutcome.isBytes + result.session.socket.length ≤
    result.rest.countP SocketOutcome.isBytes + s.socket.length ∨ result.session.socket = []

variable {chunk : Bytes} {result : RecvResult}

variable {outcome : SocketOutcome} {rest : List SocketOutcome}

lemma socketRecv_ok {socket} (read : socketRecv length socket outcome = .ok chunk) :
    chunk ≠ [] ∧ chunk <+: socket ∧ chunk.length ≤ length := by
  cases outcome with
  | bytes n =>
    rw [socketRecv] at read
    split at read
    · cases read
    next b more taken =>
      cases read
      rw [← taken]
      refine ⟨by rw [taken]; nofun, take_prefix _ _, ?_⟩
      rw [length_take]
      omega
  | eagain | closed | failed => cases read

lemma socketRecv_error {socket code} (positive : 0 < length)
    (read : socketRecv length socket outcome = .error code) :
    code ≠ .done ∧ (outcome.isBytes → socket = []) := by
  cases outcome with
  | bytes n =>
    rw [socketRecv] at read
    split at read
    next taken =>
      cases read
      refine ⟨nofun, fun _ => ?_⟩
      rcases take_eq_nil_iff.mp taken with none | empty
      · omega
      · exact empty
    · cases read
  | eagain | closed | failed =>
    cases read
    exact ⟨nofun, nofun⟩

lemma Took.after_read {more coming}
    (took : Took ⟨s.recvBuffer ++ chunk, coming⟩ (length - chunk.length) rest result more)
    (outcome) (nonempty : chunk ≠ []) (split : s.socket = chunk ++ coming)
    (short : chunk.length ≤ length) : Took s length (outcome :: rest)
      { result with events := .write s.recvLen chunk :: result.events } (chunk ++ more) := by
  have some : 0 < chunk.length := length_pos_iff.mpr nonempty
  have atMost := took.atMost
  refine ⟨?_, ?_, ?_, ?_, took.silent, ?_, ?_, fun zero => by omega, ?_⟩
  · rw [took.buffer, append_assoc]
  · rw [split, append_assoc, ← took.socket]
  · rw [length_append]
    omega
  · rw [took.done, length_append]
    omega
  · intro event mem
    rw [length_append]
    cases mem_cons.mp mem with
    | inl first =>
      rw [first, RecvEvent.recvLen]
      omega
    | inr later =>
      have reach := took.reach event later
      rw [recvLen, length_append] at reach
      rw [recvLen]
      omega
  · intro _
    by_cases last : length - chunk.length = 0
    · rw [took.kept last]
      exact le_refl _
    · have used := took.used (pos_of_ne_zero last)
      rw [length_cons]
      dsimp only
      omega
  · refine took.progress.imp_left fun fewer => ?_
    have one : (outcome :: rest).countP SocketOutcome.isBytes ≤
        rest.countP SocketOutcome.isBytes + 1 := by
      rw [countP_cons]
      split <;> omega
    rw [split, length_append]
    dsimp only at fewer ⊢
    omega

lemma Took.stream (took : Took s length outs result chunk) :
    result.session.recvBuffer ++ result.session.socket = s.recvBuffer ++ s.socket := by
  rw [took.buffer, append_assoc, ← took.socket]

lemma Took.idle {code} (done : code = .done ↔ length = 0)
    (used : 0 < length → rest.length ≤ outs.length - 1) (kept : length = 0 → rest = outs)
    (progress : outs.countP SocketOutcome.isBytes ≤ rest.countP SocketOutcome.isBytes ∨
      s.socket = []) : Took s length outs ⟨code, s, rest, []⟩ [] := by
  refine ⟨(append_nil _).symm, rfl, zero_le _, ?_, rfl, nofun, used, kept, ?_⟩
  · rw [done, length_nil, eq_comm]
  · exact progress.imp_left fun fewer => Nat.add_le_add_right fewer _

lemma Took.stopped {more} (took : Took s length outs result chunk)
    (notDone : result.code ≠ .done) (longer : length ≤ more) : Took s more outs result chunk := by
  have short : chunk.length < length :=
    lt_of_le_of_ne took.atMost fun all => notDone (took.done.mpr all)
  refine ⟨took.buffer, took.socket, by omega,
    ⟨fun done => absurd done notDone, fun all => by omega⟩,
    took.silent, took.reach, fun _ => took.used (by omega), fun zero => by omega, took.progress⟩

lemma Took.trans {more first second chunk'}
    (took : Took s length outs first chunk) (done : first.code = .done)
    (took' : Took first.session more first.rest second chunk') :
    Took s (length + more) outs { second with events := first.events ++ second.events }
      (chunk ++ chunk') := by
  have all := took.done.mp done
  have atMost := took'.atMost
  have len : first.session.recvLen = s.recvLen + chunk.length := by
    rw [recvLen, took.buffer, length_append, recvLen]
  refine ⟨?_, ?_, ?_, ?_, ?_, ?_, ?_, ?_, ?_⟩
  · rw [took'.buffer, took.buffer, append_assoc]
  · rw [took.socket, took'.socket, append_assoc]
  · rw [length_append]
    omega
  · rw [took'.done, length_append]
    omega
  · rw [handed, filterMap_append]
    exact congrArg₂ (· ++ ·) took.silent took'.silent
  · intro event mem
    rw [length_append]
    cases mem_append.mp mem with
    | inl early => exact le_trans (took.reach event early) (by omega)
    | inr late => exact le_trans (took'.reach event late) (by omega)
  · intro positive
    by_cases none : length = 0
    · have used := took'.used (by omega)
      rwa [took.kept none] at used
    · have used := took.used (pos_of_ne_zero none)
      by_cases none' : more = 0
      · rw [took'.kept none']
        exact used
      · have used' := took'.used (pos_of_ne_zero none')
        dsimp only
        omega
  · intro zero
    rw [took'.kept (by omega), took.kept (by omega)]
  · rcases took.progress with fewer | empty
    · refine took'.progress.imp_left fun fewer' => ?_
      dsimp only
      omega
    · refine .inr ?_
      have nothing := took'.socket
      rw [empty] at nothing
      exact (append_eq_nil_iff.mp nothing.symm).2

lemma tcpSocketRecv_took (length s outs) :
    ∃ chunk, Took s length outs (tcpSocketRecv length s outs) chunk := by
  induction outs generalizing length s with
  | nil =>
    refine ⟨[], .idle ?_ (fun _ => le_refl _) (fun _ => rfl) (.inl (le_refl _))⟩
    by_cases none : length = 0 <;> simp [none]
  | cons outcome rest ih =>
    rw [tcpSocketRecv]
    by_cases none : length = 0
    · rw [if_pos none]
      exact ⟨[], .idle ⟨fun _ => none, fun _ => rfl⟩ (fun more => by omega) (fun _ => rfl)
        (.inl (le_refl _))⟩
    rw [if_neg none]
    have positive : 0 < length := pos_of_ne_zero none
    cases read : socketRecv length s.socket outcome with
    | error code =>
      obtain ⟨notDone, empty⟩ := socketRecv_error positive read
      refine ⟨[], .idle ⟨fun done => absurd done notDone, fun zero => absurd zero none⟩
        (fun _ => le_refl _) (fun zero => absurd zero none) ?_⟩
      cases isBytes : outcome.isBytes with
      | true => exact .inr (empty isBytes)
      | false =>
        rw [countP_cons_of_neg (by rw [isBytes]; nofun)]
        exact .inl (le_refl _)
    | ok chunk =>
      obtain ⟨nonempty, ⟨coming, split⟩, short⟩ := socketRecv_ok read
      have left : s.socket.drop chunk.length = coming := by rw [← split, drop_left]
      dsimp only
      rw [left]
      obtain ⟨more, took⟩ := ih (length - chunk.length) ⟨s.recvBuffer ++ chunk, coming⟩
      exact ⟨chunk ++ more, took.after_read outcome nonempty split.symm short⟩

lemma recvHeader_took (s outs) :
    ∃ chunk, Took s (dFileFrameHeaderLen - s.recvLen) outs (recvHeader s outs) chunk := by
  unfold recvHeader
  split
  · exact tcpSocketRecv_took _ s outs
  next whole =>
    have none : dFileFrameHeaderLen - s.recvLen = 0 := by omega
    rw [none]
    exact ⟨[], .idle ⟨fun _ => rfl, fun _ => rfl⟩ nofun (fun _ => rfl) (.inl (le_refl _))⟩

end

def DFileFrame.Accepted (frame : DFileFrame) : Prop :=
  frame.type.toNat < dFileTypeMax ∧ frame.payload.length < recvBufferLen
deriving Decidable

def wire : List Bytes := frames.map bytes

/-- The session between two calls: it holds a part of the first frame that is still to
be handed on. -/
structure Receiving (frames : List DFileFrame) (s : RecvSession) : Prop where
  stream : s.recvBuffer ++ s.socket = (wire frames).flatten
  stalled : Stalled (wire frames) s.recvBuffer

lemma header_of_held {frame frames held coming}
    (stream : held ++ coming = (wire (frame :: frames)).flatten)
    (whole : dFileFrameHeaderLen ≤ held.length) : DFileFrameHeader.ofBytes held = frame.header := by
  have inFrame : dFileFrameHeaderLen ≤ frame.bytes.length := by
    rw [frame.length_bytes]
    exact le_add_right _ _
  rw [← DFileFrameHeader.ofBytes_take, take_held stream whole inFrame, bytes,
    DFileFrameHeader.ofBytes_take, DFileFrameHeader.ofBytes_append]

lemma stalled_nil : Stalled (wire frames) [] := by
  intro bytes rest same
  cases frames with
  | nil => cases same
  | cons frame frames =>
    rw [← (cons.inj same).1, frame.length_bytes]
    exact lt_of_lt_of_le (by decide) (le_add_right _ _)

section
variable {s : RecvSession} {outs : List SocketOutcome} {frame : DFileFrame}
  {frames : List DFileFrame}

/-- What SocketRecvForTcp has read when it stops inside the first frame or at its end. -/
lemma socketRecvForTcp_took (outs)
    (receiving : Receiving (frame :: frames) s) (accepted : frame.Accepted) :
    ∃ chunk, Took s (frame.bytes.length - s.recvLen) outs (socketRecvForTcp s outs)
      chunk := by
  obtain ⟨chunk, took⟩ := recvHeader_took s outs
  have short : s.recvLen < frame.bytes.length := receiving.stalled _ _ rfl
  rw [frame.length_bytes] at short ⊢
  unfold socketRecvForTcp
  by_cases done : (recvHeader s outs).code = .done
  · have len : (recvHeader s outs).session.recvLen = s.recvLen + chunk.length := by
      rw [recvLen, took.buffer, length_append, recvLen]
    have all := took.done.mp done
    have header : DFileFrameHeader.ofBytes (recvHeader s outs).session.recvBuffer =
        frame.header := by
      refine header_of_held (took.stream.trans receiving.stream) ?_
      rw [← recvLen, len]
      omega
    have fine : ¬ (dFileTypeMax ≤ frame.header.type.toNat ∨
        recvBufferLen ≤ frame.header.length.toNat) := by
      rw [frame.toNat_length]
      rintro (type | long)
      · exact not_lt_of_ge type accepted.1
      · exact not_lt_of_ge long accepted.2
    rw [if_neg (not_not_intro done), header, if_neg fine, frame.toNat_length]
    split
    · obtain ⟨chunk', took'⟩ := tcpSocketRecv_took (frame.payload.length -
        ((recvHeader s outs).session.recvLen - dFileFrameHeaderLen))
        (recvHeader s outs).session (recvHeader s outs).rest
      have total : dFileFrameHeaderLen + frame.payload.length - s.recvLen =
          dFileFrameHeaderLen - s.recvLen + (frame.payload.length -
            ((recvHeader s outs).session.recvLen - dFileFrameHeaderLen)) := by omega
      rw [total]
      exact ⟨_, took.trans done took'⟩
    · have total : dFileFrameHeaderLen + frame.payload.length - s.recvLen =
          dFileFrameHeaderLen - s.recvLen := by omega
      rw [total]
      exact ⟨chunk, took⟩
  · rw [if_pos done]
    exact ⟨chunk, took.stopped done (by omega)⟩

/-- One call of DFileSocketRecvSP: the session goes on to the frames `next`. -/
structure Called (frames : List DFileFrame) (s : RecvSession) (outcomes : List SocketOutcome)
    (result : RecvResult) (next : List DFileFrame) : Prop where
  receiving : Receiving next result.session
  suffix : next <:+ frames
  handedOn : handed result.events ++ wire next = wire frames
  reach : ∀ bound, (∀ frame ∈ frames, frame.bytes.length ≤ bound) →
    ∀ event ∈ result.events, event.recvLen ≤ bound
  used : result.rest.length ≤ outcomes.length - 1
  progress : outcomes.countP SocketOutcome.isBytes + result.session.socket.length ≤
    result.rest.countP SocketOutcome.isBytes + s.socket.length ∨ result.session.socket = []

lemma dFileSocketRecvSP_nil (receiving : Receiving [] s) :
    Called [] s outs (dFileSocketRecvSP s outs) [] := by
  obtain ⟨empty, none⟩ := append_eq_nil_iff.mp receiving.stream
  obtain ⟨chunk, took⟩ := recvHeader_took s outs
  have nothing := took.socket
  rw [none] at nothing
  obtain ⟨rfl, left⟩ := append_eq_nil_iff.mp nothing.symm
  have len : s.recvLen = 0 := by rw [recvLen, empty]; rfl
  have stopped : (recvHeader s outs).code ≠ .done := by
    rw [Ne, took.done, len]
    nofun
  have same : dFileSocketRecvSP s outs = recvHeader s outs := by
    simp only [dFileSocketRecvSP, socketRecvForTcp, if_pos stopped, if_neg stopped]
  rw [same]
  refine ⟨⟨took.stream.trans receiving.stream, nofun⟩, suffix_refl _, ?_, ?_,
    took.used (by rw [len]; decide), took.progress⟩
  · rw [took.silent]
    rfl
  · intro bound _ event mem
    have reach := took.reach event mem
    rw [len] at reach
    exact le_trans reach (zero_le _)

lemma dFileSocketRecvSP_cons (receiving : Receiving (frame :: frames) s)
    (accepted : frame.Accepted) :
    ∃ next, Called (frame :: frames) s outs (dFileSocketRecvSP s outs) next := by
  obtain ⟨chunk, took⟩ := socketRecvForTcp_took outs receiving accepted
  have short : s.recvLen < frame.bytes.length := receiving.stalled _ _ rfl
  have atMost := took.atMost
  have stream := took.stream.trans receiving.stream
  have len : (socketRecvForTcp s outs).session.recvLen = s.recvLen + chunk.length := by
    rw [recvLen, took.buffer, length_append, recvLen]
  have used := took.used (by omega)
  have reach : ∀ bound, (∀ other ∈ frame :: frames, other.bytes.length ≤ bound) →
      ∀ event ∈ (socketRecvForTcp s outs).events, event.recvLen ≤ bound := by
    intro bound within event mem
    have first := within frame mem_cons_self
    exact le_trans (took.reach event mem) (by omega)
  unfold dFileSocketRecvSP
  by_cases done : (socketRecvForTcp s outs).code = .done
  · have all := took.done.mp done
    have whole : (socketRecvForTcp s outs).session.recvBuffer.length = frame.bytes.length := by
      rw [← recvLen, len]
      omega
    obtain ⟨split, coming⟩ := take_frame stream (le_of_eq whole.symm)
    have taken : (socketRecvForTcp s outs).session.recvBuffer.drop frame.bytes.length = [] :=
      drop_eq_nil_of_le (le_of_eq whole)
    rw [taken, append_nil] at split
    rw [taken, nil_append] at coming
    rw [if_pos done, split]
    refine ⟨frames, ⟨coming, stalled_nil frames⟩, suffix_cons _ _, ?_, ?_, used, took.progress⟩
    · have silent : (socketRecvForTcp s outs).events.filterMap RecvEvent.handed = [] :=
        took.silent
      rw [handed, filterMap_append, silent]
      rfl
    · intro bound within event mem
      cases mem_append.mp mem with
      | inl read => exact reach bound within event read
      | inr last =>
        rw [mem_singleton.mp last]
        exact within frame mem_cons_self
  · rw [if_neg done]
    refine ⟨frame :: frames, ⟨stream, fun other rest same => ?_⟩, suffix_refl _, ?_, reach, used,
      took.progress⟩
    · have inside : chunk.length ≠ frame.bytes.length - s.recvLen := fun all =>
        done (took.done.mpr all)
      rw [← (cons.inj same).1, ← recvLen, len]
      omega
    · rw [took.silent]
      rfl

lemma dFileSocketRecvSP_called (outs) (receiving : Receiving frames s)
    (accepted : ∀ frame ∈ frames, frame.Accepted) :
    ∃ next, Called frames s outs (dFileSocketRecvSP s outs) next := by
  cases frames with
  | nil => exact ⟨[], dFileSocketRecvSP_nil receiving⟩
  | cons frame frames =>
    exact dFileSocketRecvSP_cons receiving (accepted frame mem_cons_self)

end

lemma recvCalls_receiving (n) {s} (outs) {frames} (receiving : Receiving frames s)
    (accepted : ∀ frame ∈ frames, frame.Accepted) : ∃ next, Receiving next (recvCalls n s outs).1 ∧
      handed (recvCalls n s outs).2 ++ wire next = wire frames ∧
      (∀ bound, (∀ frame ∈ frames, frame.bytes.length ≤ bound) →
        ∀ event ∈ (recvCalls n s outs).2, event.recvLen ≤ bound) ∧
      (outs.length ≤ n → s.socket.length ≤ outs.countP SocketOutcome.isBytes →
        (recvCalls n s outs).1.socket = []) := by
  induction n generalizing s outs frames with
  | zero =>
    refine ⟨frames, receiving, rfl, nofun, fun none enough => ?_⟩
    have empty : outs = [] := length_eq_zero_iff.mp (le_zero.mp none)
    rw [empty] at enough
    exact length_eq_zero_iff.mp (le_zero.mp enough)
  | succ n ih =>
    obtain ⟨next, called⟩ := dFileSocketRecvSP_called outs receiving accepted
    have later : ∀ frame ∈ next, frame ∈ frames := fun _ mem => called.suffix.subset mem
    obtain ⟨last, hLast, handedOn, reach, finished⟩ := ih (dFileSocketRecvSP s outs).rest
      called.receiving fun frame mem => accepted frame (later frame mem)
    refine ⟨last, hLast, ?_, ?_, ?_⟩
    · rw [recvCalls, handed, filterMap_append, append_assoc]
      exact (congrArg _ handedOn).trans called.handedOn
    · intro bound within event mem
      cases mem_append.mp mem with
      | inl first => exact called.reach bound within event first
      | inr rest =>
        exact reach bound (fun frame mem => within frame (later frame mem)) event rest
    · intro enough reads
      have used := called.used
      refine finished (by omega) ?_
      rcases called.progress with fewer | empty
      · omega
      · rw [empty]
        exact zero_le _

lemma receiving_start : Receiving frames ⟨[], (wire frames).flatten⟩ := ⟨rfl, stalled_nil frames⟩

lemma length_bytes_le_recvBufferLen (frame : DFileFrame) : frame.bytes.length ≤ recvBufferLen ↔
    frame.payload.length ≤ recvBufferLen - dFileFrameHeaderLen := by
  rw [frame.length_bytes]
  simp only [recvBufferLen, dFileFrameHeaderLen]
  omega

lemma ReceivesFrames.small {frames} (receives : ReceivesFrames frames)
    {frame} (mem : frame ∈ frames) :
    frame.payload.length ≤ recvBufferLen - dFileFrameHeaderLen := by
  -- One byte at a time is enough to have every frame handed on.
  let outs := replicate (wire frames).flatten.length (SocketOutcome.bytes 0)
  obtain ⟨_, all, bounded⟩ := receives outs outs.length
    (all_eq_true.mpr fun outcome here => by rw [eq_of_mem_replicate here]; rfl)
  have complete := all (by rw [countP_replicate]; exact le_refl _) (le_refl _)
  have handedOn : frame.bytes ∈ handed (recvCalls outs.length
      ⟨[], (wire frames).flatten⟩ outs).2 := by
    rw [wire, complete]
    exact mem_map_of_mem mem
  obtain ⟨event, hEvent, hHanded⟩ := mem_filterMap.mp handedOn
  cases event with
  | write offset chunk => cases hHanded
  | handleReadBuffer bytes =>
    cases hHanded
    exact (length_bytes_le_recvBufferLen frame).mp (bounded _ hEvent)

/-- Frames come out as they were sent, but those whose payload is too long for
recvBuffer together with their header are written beyond it. -/
theorem receivesFrames_iff {frames : List DFileFrame}
    (accepted : ∀ frame ∈ frames, frame.Accepted) : ReceivesFrames frames ↔
      ∀ frame ∈ frames, frame.payload.length ≤ recvBufferLen - dFileFrameHeaderLen := by
  constructor
  · exact fun receives _ mem => receives.small mem
  · intro small outcomes n _
    obtain ⟨next, receiving, handedOn, reach, finished⟩ :=
      recvCalls_receiving n outcomes (receiving_start frames) accepted
    refine ⟨⟨wire next, handedOn⟩, fun enough calls => ?_, reach recvBufferLen fun frame mem =>
      (length_bytes_le_recvBufferLen frame).mpr (small frame mem)⟩
    have stream := receiving.stream
    rw [finished calls enough] at stream
    have none : wire next = [] := all_taken stream receiving.stalled
    rw [none, append_nil] at handedOn
    exact handedOn

def zeroFrame (n : Nat) (fits : n < 2 ^ 16) : DFileFrame where
  type := 4
  flag := 0
  sessionId := 0
  transId := 1
  payload := replicate n 0
  fits := by rwa [length_replicate]

theorem receivesFrames_zeroFrames :
    ReceivesFrames [zeroFrame 3 (by decide), zeroFrame 0 (by decide)] :=
  (receivesFrames_iff (by decide)).mpr (by decide)

/-- The longest payload that is accepted does not fit. -/
theorem longest_not_receivesFrames : ¬ ReceivesFrames [zeroFrame 1599 (by decide)] := by
  intro receives
  have small := receives.small (mem_singleton.mpr rfl)
  rw [zeroFrame, length_replicate] at small
  exact absurd small (by decide)

end DSoftBus.DFile
