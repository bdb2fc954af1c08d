import DSoftBus.Trans.ProxySlicing

/-!
What an assembly holds, whatever slices arrive. An abstract assembly keeps the payloads that were
received since the first slice; the processors of the source refine it, and so a processor that is
active holds a last part of the slices that reached it.
-/
namespace DSoftBus.Proxy
open ByteString Execution List ChannelSliceProcessor SliceHead

structure PartialPacket where
  sliceNum : BitVec 32
  parts : List Bytes

namespace PartialPacket

variable (a : PartialPacket)

def slices : List (BitVec 32 × BitVec 32 × Bytes) :=
  a.parts.mapIdx fun i part => (a.sliceNum, BitVec.ofNat 32 i, part)

def add (part : Bytes) : PartialPacket :=
  { a with parts := a.parts ++ [part] }

lemma slices_add (part) :
    (a.add part).slices = a.slices ++ [(a.sliceNum, BitVec.ofNat 32 a.parts.length, part)] := by
  simp [slices, add, mapIdx_append]

def Expects (capacity : Nat) (head : SliceHead) (payload : Bytes) : Prop :=
  head.sliceNum = a.sliceNum ∧ head.sliceSeq = BitVec.ofNat 32 a.parts.length ∧
    a.parts.flatten.length + payload.length ≤ capacity

instance (a : PartialPacket) (capacity : Nat) (head : SliceHead) (payload : Bytes) :
    Decidable (a.Expects capacity head payload) := inferInstanceAs (Decidable (_ ∧ _ ∧ _))

end PartialPacket

open PartialPacket

/-- The assembly after a slice. A first slice begins anew; one that is not expected ends the
packet, as the last one does. -/
def advance (capacity : Nat) (head : SliceHead) (payload : Bytes)
    (asm : Option PartialPacket) : Option PartialPacket :=
  if head.sliceSeq = 0 then
    if payload.length ≤ capacity then some ⟨head.sliceNum, [payload]⟩ else none
  else
    match asm with
    | none => none
    | some a =>
      if a.Expects capacity head payload ∧ head.sliceNum ≠ head.sliceSeq + 1 then
        some (a.add payload)
      else none

lemma advance_suffix {cap head body asm received}
    (before : ∀ a ∈ asm, a.slices <:+ received) : ∀ a ∈ advance cap head body asm,
      a.slices <:+ received ++ [(head.sliceNum, head.sliceSeq, body)] := by
  intro a mem
  unfold advance at mem
  split at mem
  next zero =>
    split at mem
    · cases mem
      rw [zero]
      exact suffix_append received _
    · cases mem
  · split at mem
    · cases mem
    rename_i old
    split at mem
    next continues =>
      cases mem
      obtain ⟨⟨sliceNum, sliceSeq, _⟩, _⟩ := continues
      rw [old.slices_add, sliceNum, sliceSeq]
      obtain ⟨front, rfl⟩ := before old rfl
      exact ⟨front, (append_assoc ..).symm⟩
    · cases mem

structure Represents (capacity : Nat) (processor : SliceProcessor) (a : PartialPacket) : Prop where
  active : processor.active
  sliceNumber : processor.sliceNumber = a.sliceNum
  expectedSeq : processor.expectedSeq = BitVec.ofNat 32 a.parts.length
  dataLen : processor.dataLen = a.parts.flatten.length
  bufLen : processor.bufLen = capacity
  inside : processor.dataLen ≤ processor.bufLen
  begun : a.parts ≠ []
  few : a.parts.length ≤ a.parts.flatten.length
  buffer : ∃ buf, processor.data = some buf ∧ buf.length = processor.bufLen ∧
    buf.take processor.dataLen = a.parts.flatten

def Holds (capacity : Nat) (processor : SliceProcessor) : Option PartialPacket → Prop
  | none => processor = transProxyClearProcessor
  | some a => Represents capacity processor a

section
variable {env : ReceiveContext} {chan : BitVec 32} {cap : Nat} {head : SliceHead}
  {body : Bytes} {proc next : SliceProcessor} {a : PartialPacket}
  {ret : SoftBusErrNo} {events : List SessionEvent}

lemma Represents.append (rep : Represents cap proc a) (nonempty : 0 < body.length)
    (expects : a.Expects cap head body) :
    ∃ buf, transProxyAppendSlice proc head body = .ok { proc with
          data := some buf
          expectedSeq := proc.expectedSeq + 1
          dataLen := proc.dataLen + body.length } ∧ buf.length = cap ∧
      buf.take (proc.dataLen + body.length) = (a.add body).parts.flatten := by
  obtain ⟨sliceNum, sliceSeq, fits⟩ := expects
  obtain ⟨buf, hasBuf, bufLen, filled⟩ := rep.buffer
  have dataLen := rep.dataLen
  have size : buf.length = cap := bufLen.trans rep.bufLen
  refine ⟨overwrite buf proc.dataLen body, ?_, ?_, ?_⟩
  · have matches_ : ¬ (head.sliceNum ≠ proc.sliceNumber ∨
        head.sliceSeq ≠ proc.expectedSeq) := by
      rw [rep.sliceNumber, rep.expectedSeq]
      exact not_or.mpr ⟨not_not.mpr sliceNum, not_not.mpr sliceSeq⟩
    have room : ¬ proc.bufLen < body.length + proc.dataLen := by
      rw [rep.bufLen]
      omega
    rw [transProxyAppendSlice, transProxySliceProcessChkPkgIsValid, if_neg matches_, if_neg room,
      hasBuf]
    simp only [memcpyS_eq_some (show proc.dataLen < buf.length by omega)
      (show proc.dataLen + body.length ≤ buf.length by omega)]
  · rw [length_overwrite (by omega), size]
  · rw [take_overwrite (by omega), filled, add, flatten_append]
    exact congrArg (_ ++ ·) (append_nil _).symm

lemma Represents.refuses (rep : Represents cap proc a) (unexpected : ¬ a.Expects cap head body) :
    ∃ ret, ret ≠ .ok ∧ transProxyAppendSlice proc head body = .error ret := by
  rw [transProxyAppendSlice, transProxySliceProcessChkPkgIsValid]
  split
  next ret error =>
    refine ⟨ret, ?_, rfl⟩
    rintro rfl
    split at error
    · cases error
    · split at error
      · cases error
      · split at error <;> cases error
  next buf ok =>
    exfalso
    split at ok
    · cases ok
    rename_i same
    split at ok
    · cases ok
    next room =>
      rw [not_or, not_not, not_not, rep.sliceNumber, rep.expectedSeq] at same
      refine unexpected ⟨same.1, same.2, ?_⟩
      have dataLen := rep.dataLen
      rw [rep.bufLen] at room
      omega

lemma clear_refuses (later : head.sliceSeq ≠ 0) :
    transProxyAppendSlice transProxyClearProcessor head body =
      .error .transProxyAssemblePackNoInvalid := by
  have differs : head.sliceNum ≠ transProxyClearProcessor.sliceNumber ∨
      head.sliceSeq ≠ transProxyClearProcessor.expectedSeq := Or.inr later
  rw [transProxyAppendSlice, transProxySliceProcessChkPkgIsValid, if_pos differs]

def HandsUp (env : ReceiveContext) (channelId : BitVec 32) (a : PartialPacket)
    (payload : Bytes) (ret : SoftBusErrNo) (events : List SessionEvent) : Prop :=
  ∃ buf, buf.take ((a.add payload).parts.flatten.length) = (a.add payload).parts.flatten ∧
    transProxyNoSubPacketProc env channelId buf = some (ret, events)

lemma few_add (few : a.parts.length ≤ a.parts.flatten.length) (nonempty : 0 < body.length) :
    (a.add body).parts.length ≤ (a.add body).parts.flatten.length := by
  simp only [add, length_append, flatten_append, length_singleton, flatten_singleton]
  omega

lemma firstSlice_represents (nonempty : 0 < body.length) (zero : head.sliceSeq = 0)
    (fits : body.length ≤ firstSliceMaxLen head) :
    ∃ next, transProxySliceProcess env chan head body proc = some (next, .ok, []) ∧
      Represents (firstSliceMaxLen head) next ⟨head.sliceNum, [body]⟩ := by
  obtain ⟨buf, size, filled, processed⟩ := firstSlice_eq env chan proc zero fits
  refine ⟨_, processed, rfl, rfl, rfl, ?_, rfl, fits, by simp, ?_, buf, rfl, size, ?_⟩
  · rw [flatten_singleton]
  · rw [flatten_singleton]
    exact nonempty
  · rw [flatten_singleton, filled]

lemma firstSlice_refused (zero : head.sliceSeq = 0) (long : ¬ body.length ≤ firstSliceMaxLen head) :
    ∃ ret, transProxySliceProcess env chan head body proc =
      some (transProxyClearProcessor, ret, []) := by
  have copied : memcpyS (replicate (firstSliceMaxLen head) 0) 0 body = none := by
    refine if_pos (.inr ?_)
    rw [length_replicate]
    omega
  have first : (transProxyFirstSliceProcess head body).2 = .sliceError := by
    unfold transProxyFirstSliceProcess
    rw [softBusCalloc_firstSlice]
    dsimp only
    rw [copied]
  refine ⟨.sliceError, ?_⟩
  rw [transProxySliceProcess, if_pos zero]
  simp [first]

lemma sliceProcess_refused (later : head.sliceSeq ≠ 0) (bad : ret ≠ .ok)
    (refused : transProxyAppendSlice proc head body = .error ret) :
    transProxySliceProcess env chan head body proc = some (transProxyClearProcessor, ret, []) := by
  rw [transProxySliceProcess, if_neg later, transProxyLastSliceProcess,
    transProxyNormalSliceProcess, refused]
  split <;> simp [bad]

lemma Represents.total (rep : Represents cap proc a) :
    proc.dataLen + body.length = (a.add body).parts.flatten.length := by
  rw [rep.dataLen]
  simp [add]

lemma Represents.normal (rep : Represents cap proc a) (nonempty : 0 < body.length)
    (expects : a.Expects cap head body) (later : head.sliceSeq ≠ 0)
    (inner : head.sliceNum ≠ head.sliceSeq + 1) :
    ∃ next, transProxySliceProcess env chan head body proc = some (next, .ok, []) ∧
      Represents cap next (a.add body) := by
  obtain ⟨buf, appended, size, filled⟩ := rep.append nonempty expects
  refine ⟨{ proc with
    timeout := 0
    data := some buf
    expectedSeq := proc.expectedSeq + 1
    dataLen := proc.dataLen + body.length }, ?_, ?_⟩
  · rw [transProxySliceProcess, if_neg later, if_neg inner, transProxyNormalSliceProcess, appended]
    rfl
  · refine ⟨rep.active, rep.sliceNumber, ?_, rep.total, rep.bufLen, ?_, ?_,
      few_add rep.few nonempty, buf, rfl, size.trans rep.bufLen.symm, filled⟩
    · simp only [rep.expectedSeq, add, length_append, length_singleton]
      exact (BitVec.ofNat_add _ 1).symm
    · have fits := expects.2.2
      simp only [rep.bufLen, rep.dataLen]
      exact fits
    · simp [add]

lemma Represents.last (rep : Represents cap proc a) (nonempty : 0 < body.length)
    (expects : a.Expects cap head body) (later : head.sliceSeq ≠ 0)
    (final : head.sliceNum = head.sliceSeq + 1)
    (res : transProxySliceProcess env chan head body proc = some (next, ret, events)) :
    next = transProxyClearProcessor ∧ HandsUp env chan a body ret events := by
  obtain ⟨buf, appended, size, filled⟩ := rep.append nonempty expects
  rw [transProxySliceProcess, if_neg later, if_pos final, transProxyLastSliceProcess,
    appended] at res
  obtain ⟨done, handed, rfl, rfl⟩ : ∃ done, transProxyNoSubPacketProc env chan buf = some done ∧
      transProxyClearProcessor = next ∧ done = (ret, events) := by
    simp only [Option.getD_some, Option.map_map] at res
    obtain ⟨done, handed, same⟩ := Option.map_eq_some_iff.mp res
    refine ⟨done, handed, ?_, (Prod.mk.inj same).2⟩
    rw [← (Prod.mk.inj same).1]
    simp only
    split
    · rfl
    · rfl
  exact ⟨rfl, buf, rep.total ▸ filled, handed⟩

lemma sliceProcess_refines {asm}
    (holds : Holds (firstSliceMaxLen head) proc asm) (nonempty : 0 < body.length)
    (res : transProxySliceProcess env chan head body proc = some (next, ret, events)) :
    Holds (firstSliceMaxLen head) next (advance (firstSliceMaxLen head) head body asm) ∧
      (events ≠ [] → ∃ a, asm = some a ∧ a.Expects (firstSliceMaxLen head) head body ∧
        head.sliceNum = head.sliceSeq + 1 ∧ HandsUp env chan a body ret events) := by
  unfold advance
  by_cases zero : head.sliceSeq = 0
  · rw [if_pos zero]
    by_cases fits : body.length ≤ firstSliceMaxLen head
    · obtain ⟨first, processed, rep⟩ := firstSlice_represents nonempty zero fits
      rw [processed] at res
      cases res
      rw [if_pos fits]
      exact ⟨rep, by simp⟩
    · obtain ⟨_, processed⟩ := firstSlice_refused zero fits
      rw [processed] at res
      cases res
      rw [if_neg fits]
      exact ⟨rfl, by simp⟩
  · rw [if_neg zero]
    cases asm with
    | none =>
      cases holds
      have bad : SoftBusErrNo.transProxyAssemblePackNoInvalid ≠ .ok := nofun
      rw [sliceProcess_refused zero bad (clear_refuses zero)] at res
      cases res
      exact ⟨rfl, by simp⟩
    | some a =>
      have rep : Represents (firstSliceMaxLen head) proc a := holds
      dsimp only
      by_cases expects : a.Expects (firstSliceMaxLen head) head body
      · by_cases final : head.sliceNum = head.sliceSeq + 1
        · obtain ⟨rfl, handed⟩ := rep.last nonempty expects zero final res
          rw [if_neg fun both => both.2 final]
          exact ⟨rfl, fun _ => ⟨a, rfl, expects, final, handed⟩⟩
        · obtain ⟨_, processed, rep'⟩ := rep.normal nonempty expects zero final
          rw [processed] at res
          cases res
          rw [if_pos ⟨expects, final⟩]
          exact ⟨rep', by simp⟩
      · obtain ⟨_, bad, refused⟩ := rep.refuses expects
        rw [sliceProcess_refused zero bad refused] at res
        cases res
        rw [if_neg fun both => expects both.1]
        exact ⟨rfl, by simp⟩

lemma Holds.tick {asm} (holds : Holds cap proc asm) : Holds cap (tickProcessor proc) asm ∨
      tickProcessor proc = transProxyClearProcessor := by
  unfold tickProcessor
  cases asm with
  | none =>
    cases holds
    exact .inl rfl
  | some a =>
    have rep : Represents cap proc a := holds
    rw [if_pos rep.active]
    split
    · exact .inr rfl
    · exact .inl ⟨rep.active, rep.sliceNumber, rep.expectedSeq, rep.dataLen, rep.bufLen,
        rep.inside, rep.begun, rep.few, rep.buffer⟩

end

def capacityOf (priority : ProxyChannelPriority) : Nat := firstSliceMaxLen ⟨priority.code, 0, 0, 0⟩

lemma firstSliceMaxLen_eq {head prio}
    (same : head.priority = prio.code) : firstSliceMaxLen head = capacityOf prio := by
  rw [firstSliceMaxLen, same]
  rfl

structure Slice where
  channelId : BitVec 32
  priority : ProxyChannelPriority
  head : SliceHead
  payload : Bytes

/-- The slice that an input brings, if it gets past the checks of TransOnNormalMsgReceived and is
not a packet of its own. -/
def sliceOf (env : ReceiveContext) : SliceInput → Option Slice
  | .message channelId connId data =>
    match transProxyParseMessage env.cipher connId data with
    | none => none
    | some msg =>
      if msg.type ≠ .normal ∨ msg.data.length ≤ sliceHeadLen ∨
          (ofBytes msg.data).sliceNum = 1 then none
      else
        (transProxyCheckSliceHead (ofBytes msg.data)).map fun priority =>
          ⟨channelId, priority, ofBytes msg.data, msg.data.drop sizeofSliceHead⟩
  | .timer | .delChannel _ => none

def slicesAt (env : ReceiveContext) (channelId : BitVec 32) (priority : ProxyChannelPriority)
    (inputs : List SliceInput) : List (BitVec 32 × BitVec 32 × Bytes) :=
  inputs.filterMap fun input =>
    (sliceOf env input).bind fun slice =>
      if slice.channelId = channelId ∧ slice.priority = priority then
        some (slice.head.sliceNum, slice.head.sliceSeq, slice.payload)
      else none

section
variable {env : ReceiveContext} {procs next : List ChannelSliceProcessor}
  {events : List SessionEvent} {slice : Slice} {input : SliceInput}

lemma sliceOf_eq_some (procs) (found : sliceOf env input = some slice) :
    slice.head.priority = slice.priority.code ∧ 0 < slice.payload.length ∧
      receiveStep env procs input =
        (transProxySliceProcess env slice.channelId slice.head slice.payload
          (processorAt procs slice.channelId slice.priority)).map fun done =>
            (setSliceProcessor procs slice.channelId slice.priority done.1, done.2.2) := by
  cases input with
  | timer | delChannel => cases found
  | message chan connId data =>
    rw [receiveStep]
    rw [sliceOf] at found
    cases parsed : transProxyParseMessage env.cipher connId data with
    | none =>
      simp [parsed] at found
    | some msg =>
      rw [parsed] at found
      simp only [Option.ite_none_left_eq_some, not_or, not_not, not_le] at found
      obtain ⟨⟨normal, long, several⟩, checked⟩ := found
      obtain ⟨prio, ok, rfl⟩ := Option.map_eq_some_iff.mp checked
      have body : 0 < (msg.data.drop sizeofSliceHead).length := by
        rw [length_drop]
        simp only [sliceHeadLen, sizeofSliceHead, sizeofPacketHead] at long ⊢
        omega
      refine ⟨priority_of_checkSliceHead ok, body, ?_⟩
      simp only [if_pos normal]
      rw [transOnNormalMsgReceived, if_neg (not_le.mpr long)]
      simp only [ok, if_neg several]
      rw [transProxySubPacketProc, if_neg (Nat.pos_iff_ne_zero.mp body), Option.map_map]
      simp only [processorAt_getChannel]
      rfl

/-- Any other message leaves the assemblies alone; what it hands up is a packet of one slice. -/
lemma sliceOf_eq_none {chan connId data} (none : sliceOf env (.message chan connId data) = none)
    (res : receiveStep env procs (.message chan connId data) = some (next, events)) :
    next = procs ∧ (events ≠ [] → ∃ msg, transProxyParseMessage env.cipher connId data = some msg ∧
        (ofBytes msg.data).sliceNum = 1) := by
  rw [receiveStep] at res
  rw [sliceOf] at none
  cases parsed : transProxyParseMessage env.cipher connId data with
  | none =>
    rw [parsed] at res
    cases res
    exact ⟨rfl, by simp⟩
  | some msg =>
    rw [parsed] at res none
    simp only at res none
    by_cases normal : msg.type = .normal
    · rw [if_pos normal] at res
      obtain ⟨done, received, same⟩ := Option.map_eq_some_iff.mp res
      cases same
      rw [transOnNormalMsgReceived] at received
      split at received
      · cases received
        exact ⟨rfl, by simp⟩
      rename_i long
      simp only at received
      split at received
      · cases received
        exact ⟨rfl, by simp⟩
      rename_i prio ok
      split at received
      next single =>
        obtain ⟨handed, _, same⟩ := Option.map_eq_some_iff.mp received
        cases same
        exact ⟨rfl, fun _ => ⟨msg, rfl, single⟩⟩
      next several =>
        rw [if_neg (not_or.mpr ⟨not_not.mpr normal, not_or.mpr ⟨long, several⟩⟩), ok] at none
        cases none
    · rw [if_neg normal] at res
      cases res
      exact ⟨rfl, by simp⟩

lemma slicesAt_concat (chan prio inputs input) : slicesAt env chan prio (inputs ++ [input]) =
      slicesAt env chan prio inputs ++ slicesAt env chan prio [input] :=
  filterMap_append

lemma slicesAt_none (none : sliceOf env input = none) (chan prio) :
    slicesAt env chan prio [input] = [] := by
  simp [slicesAt, none]

lemma slicesAt_slice (found : sliceOf env input = some slice) (chan prio) :
    slicesAt env chan prio [input] =
      if slice.channelId = chan ∧ slice.priority = prio then
        [(slice.head.sliceNum, slice.head.sliceSeq, slice.payload)] else [] := by
  simp only [slicesAt, filterMap_cons, found, Option.bind_some, filterMap_nil]
  split <;> rename_i ite <;> split at ite <;> simp_all

lemma processorAt_del (chan other prio)
    (distinct : (procs.map channelId).Nodup) :
    processorAt (transProxyDelSliceProcessorByChannelId procs other) chan prio =
      if chan = other then transProxyClearProcessor else processorAt procs chan prio := by
  rw [processorAt, transProxyDelSliceProcessorByChannelId]
  split
  next same =>
    rw [same, KeyedList.lookup_remove_self distinct]
    rfl
  next different =>
    rw [KeyedList.lookup_remove_of_ne different]
    rfl

lemma channelIds_set {chan prio proc}
    (distinct : (procs.map channelId).Nodup) :
    ((setSliceProcessor procs chan prio proc).map channelId).Nodup := by
  have keys : (setSliceProcessor procs chan prio proc).map
      channelId =
      (transProxyGetChannelSliceProcessor procs chan).1.map
        channelId := by
    rw [setSliceProcessor, KeyedList.map_key_update]
    exact fun _ same => same
  rw [keys, transProxyGetChannelSliceProcessor]
  cases found : KeyedList.lookup channelId chan procs with
  | some node => exact distinct
  | none =>
    refine nodup_cons.mpr ⟨fun mem => ?_, distinct⟩
    obtain ⟨node, mem', same⟩ := mem_map.mp mem
    exact KeyedList.lookup_eq_none.mp found node mem' same

structure Assembles (env : ReceiveContext) (inputs : List SliceInput)
    (processors : List ChannelSliceProcessor) : Prop where
  distinct : (processors.map channelId).Nodup
  holds : ∀ channelId priority, ∃ asm,
    Holds (capacityOf priority) (processorAt processors channelId priority) asm ∧
      ∀ a ∈ asm, a.slices <:+ slicesAt env channelId priority inputs

lemma Assembles.quiet {inputs} (before : Assembles env inputs procs)
    (none : sliceOf env input = none) (distinct : (next.map channelId).Nodup)
    (same : ∀ chan prio asm, Holds (capacityOf prio) (processorAt procs chan prio) asm →
        Holds (capacityOf prio) (processorAt next chan prio) asm ∨
          processorAt next chan prio = transProxyClearProcessor) :
    Assembles env (inputs ++ [input]) next := by
  refine ⟨distinct, fun chan prio => ?_⟩
  rw [slicesAt_concat, slicesAt_none none, append_nil]
  obtain ⟨asm, holds, suffix⟩ := before.holds chan prio
  rcases same chan prio asm holds with kept | clear
  · exact ⟨asm, kept, suffix⟩
  · exact ⟨Option.none, clear, nofun⟩

lemma Assembles.takes {inputs} (before : Assembles env inputs procs)
    (found : sliceOf env input = some slice)
    (res : receiveStep env procs input = some (next, events)) :
    Assembles env (inputs ++ [input]) next := by
  obtain ⟨prio, nonempty, step⟩ := sliceOf_eq_some procs found
  rw [step] at res
  obtain ⟨done, processed, same⟩ := Option.map_eq_some_iff.mp res
  cases same
  refine ⟨channelIds_set before.distinct, fun chan index => ?_⟩
  rw [slicesAt_concat, slicesAt_slice found, processorAt_set]
  obtain ⟨asm, holds, suffix⟩ := before.holds chan index
  by_cases here : chan = slice.channelId ∧ index = slice.priority
  · obtain ⟨rfl, rfl⟩ := here
    rw [if_pos ⟨rfl, rfl⟩, if_pos ⟨rfl, rfl⟩]
    rw [← firstSliceMaxLen_eq prio] at holds ⊢
    exact ⟨_, (sliceProcess_refines holds nonempty processed).1, advance_suffix suffix⟩
  · have apart : ¬ (slice.channelId = chan ∧ slice.priority = index) :=
      fun both => here ⟨both.1.symm, both.2.symm⟩
    rw [if_neg here, if_neg apart, append_nil]
    exact ⟨asm, holds, suffix⟩

lemma Assembles.step {inputs} (before : Assembles env inputs procs)
    (res : receiveStep env procs input = some (next, events)) :
    Assembles env (inputs ++ [input]) next := by
  cases found : sliceOf env input with
  | some slice => exact before.takes found res
  | none =>
    cases input with
    | message chan connId data =>
      obtain ⟨rfl, _⟩ := sliceOf_eq_none found res
      exact before.quiet found before.distinct fun _ _ _ holds => .inl holds
    | timer =>
      cases res
      refine before.quiet found ?_ fun chan prio asm holds => ?_
      · rw [transProxySliceTimerProc, map_map]
        exact before.distinct
      · rw [processorAt_timer]
        exact holds.tick
    | delChannel other =>
      cases res
      refine before.quiet found ?_ fun chan prio asm holds => ?_
      · exact (eraseP_sublist.map _).nodup before.distinct
      · rw [processorAt_del _ _ _ before.distinct]
        split
        · exact .inr rfl
        · exact .inl holds

lemma Assembles.run {past inputs} (before : Assembles env past procs)
    (res : run (receiveStep env) procs inputs = some (next, events)) :
    Assembles env (past ++ inputs) next := by
  induction inputs generalizing past procs events with
  | nil =>
    cases res
    rwa [append_nil]
  | cons input rest ih =>
    obtain ⟨between, _, _, step, after, _⟩ := run_cons_eq_some.mp res
    have whole := ih (before.step step) after
    rwa [append_assoc] at whole

lemma assembles_nil (env) : Assembles env [] [] :=
  ⟨nodup_nil, fun _ _ => ⟨none, rfl, nofun⟩⟩

end

section
variable {env : ReceiveContext} {procs next : List ChannelSliceProcessor}
  {events : List SessionEvent} {input : SliceInput} {inputs : List SliceInput}

end

section

def plainContext : ReceiveContext :=
  ⟨.identity, ⟨fun _ => none, fun _ => none, .identity, []⟩, fun _ => none, fun _ _ _ => .ok,
    fun _ _ => .ok⟩

def Slice.message (slice : Slice) : SliceInput :=
  .message slice.channelId 1
    ((plainHead .normal 1 2).bytes ++ (slice.head.bytes ++ slice.payload))

end

end DSoftBus.Proxy
