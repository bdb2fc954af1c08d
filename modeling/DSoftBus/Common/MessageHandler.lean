import DSoftBus.Lib.Execution
import DSoftBus.Lib.PriorityOrder

/-!
The message queue of a looper (message_handler.c) under calls from any thread and
iterations of its loop at any clock values. The due time of a message is compared as
signed for the insertion and as unsigned for the dispatch, so the order is that of
the due times only below 2^63. A removal does nothing before the loop thread has
started.

A queued message also has the number of its posting and its due time as a natural
number. The calls that a handler makes are steps of their own.
-/
namespace DSoftBus.Looper
open BitVec
open Execution List PriorityOrder

structure SoftBusMessage where
  what : BitVec 32
  arg1 : BitVec 64
  handler : Option Nat

structure SoftBusMessageNode where
  msg : SoftBusMessage
  time : BitVec 64
  number : Nat
  due : Nat

structure SoftBusLooperContext where
  msgHead : List SoftBusMessageNode
  stop : Bool
  running : Bool
  msgSize : BitVec 32
  posted : Nat

inductive Posting where
  | postMessage (now : BitVec 64)
  | postMessageDelay (now delayMillis : BitVec 64)
  | postMessageAtTime (time : BitVec 64)

def Posting.time : Posting → BitVec 64
  | .postMessage now => now
  | .postMessageDelay now delayMillis => now + delayMillis * 1000
  | .postMessageAtTime time => time

def Posting.due : Posting → Nat
  | .postMessage now => now.toNat
  | .postMessageDelay now delayMillis => now.toNat + delayMillis.toNat * 1000
  | .postMessageAtTime time => time.toNat

/-- `customFunc` stands for the removals for which the function of the caller returns 0;
RemoveMessage passes `whatRemoveFunc`. -/
inductive LooperInput where
  | post (posting : Posting) (msg : SoftBusMessage) (allocated : Bool)
  | removeMessageCustom (handler : Nat) (customFunc : SoftBusMessage → Bool)
  | start
  | stop
  | loop (now : BitVec 64)

def whatRemoveFunc (what : BitVec 32) (msg : SoftBusMessage) : Bool := msg.what = what

namespace SoftBusLooperContext

def init : SoftBusLooperContext := ⟨[], false, false, 0, 0⟩

variable (context : SoftBusLooperContext)

def postMessageAtTime (posting : Posting) (msg : SoftBusMessage)
    (allocated : Bool) : SoftBusLooperContext :=
  let new : SoftBusMessageNode := ⟨msg, posting.time, context.posted, posting.due⟩
  if msg.handler = none ∨ allocated = false ∨ context.stop then context
  else { context with
    msgHead := insertBefore (fun item => item.time.toInt > new.time.toInt) new context.msgHead
    msgSize := context.msgSize + 1
    posted := context.posted + 1 }

def loopRemoveMessageCustom (handler : Nat)
    (customFunc : SoftBusMessage → Bool) : SoftBusLooperContext :=
  if context.running = false ∨ context.stop then context
  else
    let kept := context.msgHead.filter fun item =>
      !(item.msg.handler = some handler && customFunc item.msg)
    { context with
      msgHead := kept
      msgSize := context.msgSize - BitVec.ofNat 32 (context.msgHead.length - kept.length) }

/-- One iteration of LoopTask, with the message it hands to its handler. -/
def loopTask (now : BitVec 64) : SoftBusLooperContext × List SoftBusMessageNode :=
  if context.running = false then (context, [])
  else if context.stop then ({ context with running := false }, [])
  else match context.msgHead with
    | [] => (context, [])
    | item :: rest =>
      if item.time.toNat ≤ now.toNat then
        ({ context with msgHead := rest, msgSize := context.msgSize - 1 }, [item])
      else (context, [])

end SoftBusLooperContext

open SoftBusLooperContext

variable (context : SoftBusLooperContext)

def looperStep : LooperInput → Option (SoftBusLooperContext × List SoftBusMessageNode)
  | .post posting msg allocated => some (context.postMessageAtTime posting msg allocated, [])
  | .removeMessageCustom handler customFunc =>
    some (context.loopRemoveMessageCustom handler customFunc, [])
  | .start => some ({ context with running := true }, [])
  | .stop => some ({ context with stop := true }, [])
  | .loop now => some (context.loopTask now)

def SoftBusMessageNode.Before (a b : SoftBusMessageNode) : Prop :=
  a.due < b.due ∨ a.due = b.due ∧ a.number < b.number

structure SoftBusLooperContext.Ordered (context : SoftBusLooperContext) : Prop where
  sorted : context.msgHead.Pairwise SoftBusMessageNode.Before
  size : context.msgSize = BitVec.ofNat 32 context.msgHead.length

def Exact (input : LooperInput) (next : SoftBusLooperContext)
    (dispatched : List SoftBusMessageNode) : Prop :=
  match input with
  | .loop now => ∀ item ∈ dispatched, item.due ≤ now.toNat ∧
      context.msgHead = item :: next.msgHead ∧ ∀ other ∈ next.msgHead, item.Before other
  | .removeMessageCustom handler customFunc => next.msgHead = context.msgHead.filter fun item =>
      !(item.msg.handler = some handler && customFunc item.msg)
  | _ => True

def Regular : LooperInput → Prop
  | .post posting _ _ => posting.due < 2 ^ 63
  | .removeMessageCustom _ _ => context.running ∧ context.stop = false
  | _ => True

/-- The queue, with the messages dispatched so far, as the loop has to find it. -/
structure Sound (context : SoftBusLooperContext) (past : List SoftBusMessageNode) : Prop where
  ordered : context.Ordered
  timed : ∀ item ∈ context.msgHead, item.time.toNat = item.due ∧ item.due < 2 ^ 63
  numbers : ((past ++ context.msgHead).map (·.number)).Nodup
  below : ∀ item ∈ past ++ context.msgHead, item.number < context.posted

lemma Posting.toNat_time {posting : Posting} (small : posting.due < 2 ^ 63) :
    posting.time.toNat = posting.due := by
  cases posting with
  | postMessage | postMessageAtTime => rfl
  | postMessageDelay now delayMillis =>
    simp only [due] at small
    simp [time, due, toNat_add, toNat_mul]
    omega

lemma pairwise_insertBefore {new items} (sorted : items.Pairwise SoftBusMessageNode.Before)
    (later : ∀ item ∈ items, item.number < new.number) :
    (insertBefore (fun item => new.due < item.due) new items).Pairwise
      SoftBusMessageNode.Before := by
  induction items with
  | nil => exact pairwise_singleton ..
  | cons item rest ih =>
    obtain ⟨first, others⟩ := pairwise_cons.mp sorted
    obtain ⟨early, rests⟩ := forall_mem_cons.mp later
    rw [insertBefore]
    split
    next passed =>
      refine pairwise_cons.mpr ⟨fun other mem => ?_, sorted⟩
      cases mem_cons.mp mem with
      | inl same => exact .inl (same ▸ passed)
      | inr behind => exact .inl (by cases first other behind <;> omega)
    next stays =>
      refine pairwise_cons.mpr ⟨fun other mem => ?_, ih others rests⟩
      cases mem_cons.mp ((perm_insertBefore new rest).mem_iff.mp mem) with
      | inl same =>
        rw [same, SoftBusMessageNode.Before]
        omega
      | inr behind => exact first other behind

namespace Sound
variable {ctx : SoftBusLooperContext} {past : List SoftBusMessageNode}

section

variable (sound : Sound ctx past)
include sound

lemma flags (stop running) : Sound { ctx with stop := stop, running := running } (past ++ []) := by
  rw [append_nil]
  exact ⟨⟨sound.ordered.sorted, sound.ordered.size⟩, sound.timed, sound.numbers, sound.below⟩

lemma post {posting : Posting} (small : posting.due < 2 ^ 63) (msg allocated) :
    Sound (ctx.postMessageAtTime posting msg allocated) past := by
  obtain ⟨⟨sorted, size⟩, timed, numbers, below⟩ := sound
  have time := posting.toNat_time small
  simp only [postMessageAtTime]
  split
  · exact ⟨⟨sorted, size⟩, timed, numbers, below⟩
  -- below 2^63 the signed comparison is that of the due times
  have order (item) (mem : item ∈ ctx.msgHead) :
      item.time.toInt > posting.time.toInt ↔ posting.due < item.due := by
    have old := timed item mem
    rw [toInt_eq_toNat_of_lt (by omega), toInt_eq_toNat_of_lt (by omega)]
    omega
  rw [insertBefore_congr order]
  let new : SoftBusMessageNode := ⟨msg, posting.time, ctx.posted, posting.due⟩
  let queue := insertBefore (fun item => posting.due < item.due) new ctx.msgHead
  have perm : queue.Perm (new :: ctx.msgHead) := perm_insertBefore ..
  have all : (past ++ queue).Perm (new :: (past ++ ctx.msgHead)) :=
    (perm.append_left past).trans perm_middle
  refine ⟨⟨?_, ?_⟩, fun item mem => ?_, ?_, fun item mem => ?_⟩
  · exact @pairwise_insertBefore new _ sorted fun item mem => below item (mem_append_right past mem)
  · change ctx.msgSize + 1 = BitVec.ofNat 32 queue.length
    rw [perm.length_eq, length_cons, BitVec.ofNat_add, size]
    rfl
  · cases mem_cons.mp (perm.mem_iff.mp mem) with
    | inl same => exact same ▸ ⟨time, small⟩
    | inr old => exact timed item old
  · refine (all.map _).nodup_iff.mpr (nodup_cons.mpr ⟨fun mem => ?_, numbers⟩)
    obtain ⟨item, old, same⟩ := mem_map.mp mem
    exact lt_irrefl _ (same ▸ below item old)
  · cases mem_cons.mp (all.mem_iff.mp mem) with
    | inl same => exact same ▸ lt_add_one _
    | inr old => exact Nat.lt_succ_of_lt (below item old)

lemma remove (handler) (customFunc : SoftBusMessage → Bool) :
    Sound (ctx.loopRemoveMessageCustom handler customFunc) past := by
  obtain ⟨⟨sorted, size⟩, timed, numbers, below⟩ := sound
  simp only [loopRemoveMessageCustom]
  split
  · exact ⟨⟨sorted, size⟩, timed, numbers, below⟩
  refine ⟨⟨sorted.filter _, ?_⟩, fun item mem => timed item (mem_of_mem_filter mem), ?_, ?_⟩
  · have shorter := length_filter_le (fun item : SoftBusMessageNode =>
      !(decide (item.msg.handler = some handler) && customFunc item.msg)) ctx.msgHead
    rw [size]
    apply eq_of_toNat_eq
    simp only [toNat_sub, toNat_ofNat]
    omega
  · exact ((filter_sublist.append_left past).map _).nodup numbers
  · exact fun item mem => below item ((filter_sublist.append_left past).subset mem)

/-- A message that is dispatched goes from the front of the queue to the end of the past. -/
lemma loop (now) : Sound (ctx.loopTask now).1 (past ++ (ctx.loopTask now).2) ∧
      Exact ctx (.loop now) (ctx.loopTask now).1 (ctx.loopTask now).2 := by
  have idle : Sound ctx (past ++ []) ∧ Exact ctx (.loop now) ctx [] :=
    ⟨sound.flags ctx.stop ctx.running, nofun⟩
  simp only [loopTask]
  split
  · exact idle
  split
  · exact ⟨sound.flags ctx.stop false, nofun⟩
  split
  · exact idle
  rename_i item rest queue
  split
  next due =>
    obtain ⟨⟨sorted, size⟩, timed, numbers, below⟩ := sound
    rw [queue] at sorted size timed numbers below
    obtain ⟨first, others⟩ := pairwise_cons.mp sorted
    obtain ⟨own, old⟩ := forall_mem_cons.mp timed
    have moved : past ++ [item] ++ rest = past ++ item :: rest := by simp
    refine ⟨⟨⟨others, ?_⟩, old, moved ▸ numbers, moved ▸ below⟩, fun other mem => ?_⟩
    · rw [size, length_cons, ofNat_add]
      exact add_sub_cancel ..
    · cases mem_singleton.mp mem
      exact ⟨own.1 ▸ due, queue, first⟩
  · exact idle

end

end Sound

lemma looperStep_sound (past input next dispatched)
    (sound : Sound context past) (regular : Regular context input)
    (step : looperStep context input = some (next, dispatched)) :
    Sound next (past ++ dispatched) ∧ Exact context input next dispatched := by
  cases input with
  | post posting msg allocated =>
    cases step
    rw [append_nil]
    exact ⟨sound.post regular msg allocated, trivial⟩
  | removeMessageCustom handler customFunc =>
    cases step
    rw [append_nil]
    refine ⟨sound.remove handler customFunc, ?_⟩
    simp [Exact, loopRemoveMessageCustom, regular.1, regular.2]
  | start =>
    cases step
    exact ⟨sound.flags context.stop true, trivial⟩
  | stop =>
    cases step
    exact ⟨sound.flags true context.running, trivial⟩
  | loop now =>
    obtain ⟨rfl, rfl⟩ := Prod.mk.inj (Option.some.inj step)
    exact sound.loop now

theorem looper_ordered {inputs : List LooperInput} {context : SoftBusLooperContext}
    {dispatched : List SoftBusMessageNode} (regular : AllSteps looperStep Regular .init inputs)
    (reached : run looperStep .init inputs = some (context, dispatched)) :
    context.Ordered ∧ (dispatched.map (·.number)).Nodup ∧
      AllResults looperStep Exact .init inputs := by
  have start : Sound .init [] := ⟨⟨.nil, rfl⟩, nofun, nodup_nil, nofun⟩
  have preserve (s past i)
      (t : SoftBusLooperContext) (out : List SoftBusMessageNode) (sound : Sound s past)
      (ok : Regular s i) (step : looperStep s i = some (t, out)) : Sound t (past ++ out) :=
    (looperStep_sound s past i t out sound ok step).1
  have sound : Sound context dispatched := run_invariant preserve start regular reached
  refine ⟨sound.ordered, ?_, fun pre i post split s out ran t new step => ?_⟩
  · exact ((sublist_append_left ..).map _).nodup sound.numbers
  · have before : Sound s out := run_invariant preserve start (split ▸ regular).front ran
    exact (looperStep_sound s out i t new before (regular pre i post split s out ran) step).2

def sampleMessage (what : BitVec 32) : SoftBusMessage := ⟨what, 0, some 1⟩

/-- The second of three messages is removed, and the third overtakes the delayed first. -/
def delayedInputs : List LooperInput :=
  [.start, .post (.postMessageDelay 5 1) (sampleMessage 1) true,
    .post (.postMessage 6) (sampleMessage 2) true, .post (.postMessage 6) (sampleMessage 3) true,
    .removeMessageCustom 1 (whatRemoveFunc 2), .loop 7]

theorem looper_ordered_delayed :
    ∃ context dispatched, run looperStep .init delayedInputs = some (context, dispatched) ∧
      dispatched.map (·.msg.what) = [3] ∧ context.msgHead.map (·.msg.what) = [1] ∧
      context.Ordered ∧ (dispatched.map (·.number)).Nodup ∧
      AllResults looperStep Exact .init delayedInputs := by
  have regular : AllSteps looperStep Regular .init delayedInputs :=
    .cons trivial rfl (.cons (by decide : 1005 < 2 ^ 63) rfl (.cons (by decide : 6 < 2 ^ 63) rfl
      (.cons (by decide : 6 < 2 ^ 63) rfl (.cons ⟨rfl, rfl⟩ rfl
        (.cons trivial rfl (allSteps_nil _ _))))))
  exact ⟨_, _, rfl, rfl, rfl, looper_ordered regular rfl⟩

/-- A message is posted and removed before the thread of the looper runs: it stays. -/
theorem removal_before_start :
    ¬ AllResults looperStep Exact .init [.post (.postMessage 0) (sampleMessage 1) true,
      .removeMessageCustom 1 (whatRemoveFunc 1)] := by
  intro exact_
  have stays := congrArg length (exact_ [_] _ [] rfl _ _ rfl _ _ rfl)
  exact absurd stays (by decide)

end DSoftBus.Looper
