import DSoftBus.Common.QueueRing
import DSoftBus.Lib.Execution
import Mathlib.Data.List.Induction

/-!
Every step of every thread is defined and keeps the ring of tickets, so a queue made
by `CreateQueue` is first-in-first-out in every schedule and loses nothing.
-/
namespace DSoftBus.Queue
open TicketRing ModularCounter Execution List QueueState

variable {T α : Type*}

section
variable {users : Side → Option T} {n : Nat} {s : QueueState T α}
  {log : Side → List (Nat × Option α)} {t : T} {call : QueueCall α}

def Steps (users : Side → Option T) (n : Nat) (log : Side → List (Nat × Option α))
    (result : Option (QueueState T α × List (QueueEvent T α))) : Prop :=
  ∃ next out, result = some (next, out) ∧
    Represents users n next (fun side => log side ++ completed out side)

lemma steps_silent (rep : Represents users n s log) {out}
    (silent : ∀ side, completed out side = []) : Steps users n log (some (s, out)) := by
  refine ⟨s, out, rfl, ?_⟩
  simpa only [silent, append_nil] using rep

lemma pcOk_afterAccess {r : Ring T (Option α)} {head : BitVec 32} {index : Nat}
    (word : head = BitVec.ofNat 32 index) (accessed : r.Accessed n index call.node call.side)
    (first : call.multi = false → index = r.served call.side) :
    PcOk n r call (afterAccess call.multi head index) := by
  rw [afterAccess]
  cases multi : call.multi with
  | true => exact ⟨word, accessed⟩
  | false => exact ⟨by rw [word, ofNat_succ], first multi, accessed⟩

variable [DecidableEq T]

lemma steps_setThread (rep : Represents users n s log) {pc}
    (same : ticketOf (some (call, pc)) = ticketOf (s.threads t))
    (ok : ThreadOk users n (ringOf s log) t call pc) :
    Steps users n log (some (s.setThread t (some (call, pc)), [])) := by
  refine steps_silent (rep.setThread same fun _ _ h => ?_) fun _ => rfl
  cases h
  exact ok

lemma threadStep_claim (rep : Represents users n s log) {head otherTail seen}
    (here : s.threads t = some (call, .claim head otherTail seen))
    (timely : s.claims call.side < seen + 2 ^ 32) :
    Steps users n log (threadStep s t call (.claim head otherTail seen)) := by
  have ok := rep.threads t call _ here
  have free : ticketOf (s.threads t) = none := by rw [here]; rfl
  obtain ⟨word, le, alone, _⟩ := ok.pcOk
  rw [threadStep]
  split
  · exact steps_silent (rep.setThread (by rw [free]; rfl) fun _ _ h => by cases h) fun _ => rfl
  rename_i available
  split
  · exact steps_setThread rep (by rw [free]; rfl) ⟨ok.user, ok.node, trivial⟩
  rename_i swapped
  have current : seen = s.claims call.side := by
    cases multi : call.multi with
    | false => exact alone multi
    | true =>
      have same : (s.queue.endOf call.side).head = head := by
        by_contra moved
        exact swapped ⟨multi, moved⟩
      rw [rep.heads, word] at same
      exact (ofNat_inj le timely).mp same.symm
  refine steps_silent (rep.claimNext ok free (current ▸ word) ?_) fun _ => rfl
  exact rep.room_of_available here current available

lemma ticketOf_afterAccess (call : QueueCall α) (head : BitVec 32) (index : Nat) :
    ticketOf (some (call, afterAccess call.multi head index)) = some (call.side, index) := by
  rw [afterAccess]
  split <;> rfl

lemma threadStep_access (rep : Represents users n s log) {head : BitVec 32} {index : Nat}
    (here : s.threads t = some (call, .access head index)) :
    Steps users n log (threadStep s t call (.access head index)) := by
  have ok := rep.threads t call _ here
  have word : head = BitVec.ofNat 32 index := ok.pcOk
  have mine : (ringOf s log).ticket t = some (call.side, index) := by
    change ticketOf (s.threads t) = _
    rw [here]
    rfl
  have first := rep.first_of_single mine ok.user
  have slot : s.queue.slot head = index % n := word ▸ rep.slot_eq index
  have inside : index % n < s.queue.nodes.length := by
    rw [rep.length]
    exact Nat.mod_lt _ rep.sound.sized
  have held := rep.sound.held t call.side index mine
  rw [threadStep, slot, getElem?_eq_getElem inside]
  obtain ⟨side, multi, node⟩ := call
  cases side with
  | producer =>
    refine steps_silent (rep.store here rfl
      (ticketOf_afterAccess ⟨.producer, multi, node⟩ head index)
      ⟨ok.user, ok.node, ?_⟩) fun _ => rfl
    exact pcOk_afterAccess word (Function.update_self ..) first
  | consumer =>
    have slots : (ringOf s log).slots (index % n) = s.queue.nodes[index % n] := by
      change s.queue.nodes[index % n]?.join = _
      rw [getElem?_eq_getElem inside]
      rfl
    have read := rep.sound.accessed_slot held
    rw [slots] at read
    refine steps_silent (rep.setThread ?_ ?_) fun _ => rfl
    · exact (ticketOf_afterAccess ⟨.consumer, multi, _⟩ head index).trans mine.symm
    · intro call' pc' h
      cases h
      exact ⟨ok.user, fun isProducer => (by cases isProducer), pcOk_afterAccess word read first⟩

lemma threadStep_represents (rep : Represents users n s log) {pc}
    (here : s.threads t = some (call, pc))
    (timely : ∀ head otherTail seen, pc = .claim head otherTail seen →
      s.claims call.side < seen + 2 ^ 32) : Steps users n log (threadStep s t call pc) := by
  have ok := rep.threads t call pc here
  cases pc with
  | readHead =>
    exact steps_setThread rep (by rw [here]; rfl)
      ⟨ok.user, ok.node, rep.heads call.side, le_rfl, fun _ => rfl⟩
  | readTail head seen =>
    obtain ⟨word, le, alone⟩ := ok.pcOk
    exact steps_setThread rep (by rw [here]; rfl)
      ⟨ok.user, ok.node, word, le, alone, _, rep.tails call.side.other, le_rfl,
      le_trans le (rep.sound.bounded call.side)⟩
  | claim head otherTail seen => exact threadStep_claim rep here (timely head otherTail seen rfl)
  | access head index => exact threadStep_access rep here
  | wait head index =>
    obtain ⟨word, accessed⟩ := ok.pcOk
    rw [threadStep]
    split
    · exact steps_silent rep fun _ => rfl
    rename_i turn
    have mine : (ringOf s log).ticket t = some (call.side, index) := by
      change ticketOf (s.threads t) = _
      rw [here]
      rfl
    have held := rep.sound.held t call.side index mine
    have near := rep.sound.claims_lt call.side
    have small := rep.size_le
    have first : index = (ringOf s log).served call.side := by
      have same := not_not.mp turn
      rw [rep.tails, word] at same
      have high := held.2
      exact ((ofNat_inj held.1 (by omega)).mp same).symm
    exact steps_setThread rep (by rw [here]; rfl) ⟨ok.user, ok.node, first, accessed⟩
  | addLoad index =>
    obtain ⟨first, accessed⟩ := ok.pcOk
    exact steps_setThread rep (by rw [here]; rfl)
      ⟨ok.user, ok.node, by rw [rep.tails, ofNat_succ, first], first, accessed⟩
  | publish next index => exact ⟨_, _, rfl, rep.finish here⟩

lemma queueStep_represents (rep : Represents users n s log) (input)
    (allowed : Allowed users s input) : Steps users n log (queueStep s input) := by
  cases input with
  | step t =>
    rw [queueStep]
    cases here : s.threads t with
    | none => exact steps_silent rep fun _ => rfl
    | some thread =>
      obtain ⟨call, pc⟩ := thread
      refine threadStep_represents rep here fun head otherTail seen isClaim => ?_
      exact allowed call head otherTail seen (isClaim ▸ here)
  | call t call =>
    rw [queueStep]
    cases here : s.threads t with
    | some thread => exact steps_silent rep fun _ => rfl
    | none =>
      simp only
      split
      · exact steps_silent rep fun _ => rfl
      next valid =>
        refine steps_setThread rep (by rw [here]; rfl) ⟨allowed, fun isProducer => ?_, trivial⟩
        by_contra null
        exact valid ⟨isProducer, Option.not_isSome_iff_eq_none.mp null ▸ rfl⟩

end

section
variable {queue : LockFreeQueue α} {unitNum : BitVec 32}

lemma createQueue_eq_some (created : createQueue unitNum = some queue) :
    isPowerOf2 unitNum ∧ queueInit (replicate unitNum.toNat none) unitNum = .ok queue := by
  rw [createQueue] at created
  split at created
  next pow =>
    split at created
    · cases created
    · split at created
      · cases created
      · rw [queueInit, if_pos pow] at created ⊢
        cases created
        exact ⟨pow, rfl⟩
  · cases created

lemma pow_of_isPowerOf2 (pow : isPowerOf2 unitNum) (positive : 0 < unitNum.toNat) :
    ∃ k, k ≤ 31 ∧ unitNum.toNat = 2 ^ k := by
  have bits : unitNum.toNat &&& (unitNum.toNat - 1) = 0 := by
    have words := congrArg BitVec.toNat (of_decide_eq_true pow)
    have pred : (unitNum - 1).toNat = unitNum.toNat - 1 := by bv_omega
    rw [BitVec.toNat_and, pred, Nat.and_comm] at words
    exact words
  obtain ⟨k, eq⟩ := Nat.ne_zero_and_sub_one_eq_zero_iff_isPowerOfTwo.mp
    ⟨Nat.ne_of_gt positive, bits⟩
  have small := unitNum.isLt
  rw [eq] at small
  have below := (Nat.pow_lt_pow_iff_right (by decide)).mp small
  exact ⟨k, by omega, eq⟩

lemma start_represents (users : Side → Option T) (created : createQueue unitNum = some queue)
    (positive : 0 < unitNum.toNat) :
    Represents users unitNum.toNat (start queue) (fun _ => []) := by
  obtain ⟨pow, init⟩ := createQueue_eq_some created
  rw [queueInit, if_pos pow] at init
  cases init
  refine ⟨pow_of_isPowerOf2 pow positive, ?_, ?_, ?_, ?_, ?_, length_replicate, ?_, ?_, ?_⟩
  · exact {
      sized := positive
      started := fun _ => le_rfl
      bounded := fun _ => Nat.zero_le _
      fifo := prefix_rfl
      stored := fun i v _ h => by cases h
      held := fun t side i h => by cases h
      distinct := fun t u held h => by cases h }
  · exact fun side t _ => ⟨fun i h => (by cases h), fun _ => rfl⟩
  · intro side
    cases side <;> rfl
  · intro side
    cases side <;> rfl
  · change unitNum - 1 = BitVec.ofNat 32 (unitNum.toNat - 1)
    bv_omega
  · exact fun t call pc h => by cases h
  · exact fun _ => rfl
  · exact fun entry mem => by cases mem

end

def InOrder (queue : LockFreeQueue α) : Prop :=
  queue.consumer.head - queue.consumer.tail ≤ queue.producer.tail - queue.consumer.tail ∧
    queue.producer.tail - queue.consumer.tail ≤ queue.producer.head - queue.consumer.tail ∧
    queue.producer.head - queue.consumer.tail ≤ queue.producer.mask

section
variable {users : Side → Option T} {n : Nat} {s : QueueState T α}
  {log : Side → List (Nat × Option α)}

lemma Represents.inOrder (rep : Represents users n s log) : InOrder s.queue := by
  obtain ⟨h₁, h₂, h₃, h₄⟩ := rep.sound.window
  have small := rep.size_le
  have fromTail : ∀ i, (ringOf s log).served .consumer ≤ i →
      i < (ringOf s log).served .consumer + n →
      (BitVec.ofNat 32 i - s.queue.consumer.tail).toNat = i - (ringOf s log).served .consumer := by
    intro i low high
    have tail : s.queue.consumer.tail = _ := rep.tails .consumer
    rw [tail]
    exact toNat_sub low (by omega)
  have chead : s.queue.consumer.head = BitVec.ofNat 32 ((ringOf s log).claims .consumer) :=
    rep.heads .consumer
  have ptail : s.queue.producer.tail = BitVec.ofNat 32 ((ringOf s log).served .producer) :=
    rep.tails .producer
  have phead : s.queue.producer.head = BitVec.ofNat 32 ((ringOf s log).claims .producer) :=
    rep.heads .producer
  have mask : s.queue.producer.mask.toNat = n - 1 := by
    rw [rep.mask, BitVec.toNat_ofNat]
    exact Nat.mod_eq_of_lt (by omega)
  simp only [InOrder, BitVec.le_def, chead, ptail, phead, mask]
  rw [fromTail _ h₁ (by omega), fromTail _ (by omega) (by omega), fromTail _ (by omega) (by omega)]
  omega

/-- The slots from the tail of the consumers to that of the producers hold the nodes that are
enqueued and not yet dequeued. -/
def Holds (queue : LockFreeQueue α) (events : List (QueueEvent T α)) : Prop :=
  let waiting :=
    ((completed events .producer).map Prod.snd).drop (completed events .consumer).length
  (queue.producer.tail - queue.consumer.tail).toNat = waiting.length ∧
    ∀ i node, waiting[i]? = some node →
      queue.nodes[queue.slot (queue.consumer.tail + BitVec.ofNat 32 i)]? = some node

lemma Represents.holds {events : List (QueueEvent T α)}
    (rep : Represents users n s (completed events)) : Holds s.queue events := by
  obtain ⟨h₁, h₂, h₃, h₄⟩ := rep.sound.window
  have small := rep.size_le
  have ctail : s.queue.consumer.tail =
      BitVec.ofNat 32 ((ringOf s (completed events)).served .consumer) :=
    rep.tails .consumer
  have ptail : s.queue.producer.tail =
      BitVec.ofNat 32 ((ringOf s (completed events)).served .producer) :=
    rep.tails .producer
  have length : (ringOf s (completed events)).served .consumer =
      (completed events .consumer).length := length_map ..
  refine ⟨?_, fun i node found => ?_⟩
  · rw [ptail, ctail, toNat_sub (by omega) (by omega), length_drop, length]
    rfl
  · rw [getElem?_drop, ← length] at found
    have stored := rep.sound.stored _ _ (Nat.le_add_right _ i) found
    have inside : ((ringOf s (completed events)).served .consumer + i) % n <
        s.queue.nodes.length := by
      rw [rep.length]
      exact Nat.mod_lt _ rep.sound.sized
    have here := getElem?_eq_getElem inside
    rw [ctail, ← BitVec.ofNat_add, rep.slot_eq, here]
    change s.queue.nodes[_]?.join = node at stored
    rw [here] at stored
    exact congrArg some stored

/-- Nothing is left to claim, by the head and the tail of one moment. -/
def Exhausted (queue : LockFreeQueue α) (side : Side) : Prop :=
  queue.availableCount (queue.endOf side).head (queue.endOf side.other).tail side = 0

lemma Represents.availableCount_const (rep : Represents users n s log) {r : QueueState T α} {past}
    (old : Represents users n r past) (head otherTail side) :
    r.queue.availableCount head otherTail side = s.queue.availableCount head otherTail side := by
  cases side with
  | producer => simp only [LockFreeQueue.availableCount, rep.mask, old.mask]
  | consumer => rfl

/-- The answer to a head and a tail read one after the other holds at the time of the second. -/
lemma Represents.exhausted (rep : Represents users n s log) {t call head seen}
    (here : s.threads t = some (call, .readTail head seen))
    (recent : s.claims call.side + n ≤ seen + 2 ^ 32)
    (nothing : s.queue.availableCount head (s.queue.endOf call.side.other).tail call.side < 1) :
    Exhausted s.queue call.side := by
  obtain ⟨word, le, _⟩ := (rep.threads t call _ here).pcOk
  obtain ⟨h₁, h₂, h₃, h₄⟩ := rep.sound.window
  have bound := rep.sound.bounded call.side
  have near : (ringOf s log).served call.side.other + Ring.slack n call.side <
      s.claims call.side + n := by
    change _ < (ringOf s log).claims call.side + n
    cases call.side with
    | producer | consumer =>
      simp only [Side.other, Ring.slack]
      omega
  have zero : (s.queue.availableCount head (s.queue.endOf call.side.other).tail
      call.side).toNat < 1 := nothing
  rw [word, rep.tails, rep.availableCount_eq, toNat_sub (by omega) (by omega)] at zero
  have last : (ringOf s log).claims call.side = s.claims call.side := rfl
  rw [Exhausted, rep.heads, rep.tails, rep.availableCount_eq,
    show s.claims call.side = (ringOf s log).served call.side.other +
      Ring.slack n call.side by omega]
  exact BitVec.sub_self _

variable [DecidableEq T] {queue : LockFreeQueue α} {unitNum : BitVec 32}

lemma run_represents (users : Side → Option T) (created : createQueue unitNum = some queue)
    (positive : 0 < unitNum.toNat) {inputs}
    (allowed : AllSteps queueStep (Allowed users) (start queue) inputs) :
    ∃ s events, run queueStep (start queue) inputs = some (s, events) ∧
      Represents users unitNum.toNat s (completed events) := by
  have step : ∀ (s : QueueState T α) past input,
      Represents users unitNum.toNat s (completed past) → Allowed users s input →
      ∃ next out, queueStep s input = some (next, out) ∧
        Represents users unitNum.toNat next (completed (past ++ out)) := by
    intro s past input rep ok
    obtain ⟨next, out, stepped, kept⟩ := queueStep_represents rep input ok
    refine ⟨next, out, stepped, ?_⟩
    have log : completed (past ++ out) = fun side => completed past side ++ completed out side :=
      funext fun side => filterMap_append
    rwa [log]
  have start : Represents users unitNum.toNat (start queue)
      (completed ([] : List (QueueEvent T α))) := start_represents users created positive
  exact run_defined_past step start allowed

lemma threadStep_frame {t : T} {call pc next out} (here : s.threads t = some (call, pc))
    (stepped : threadStep s t call pc = some (next, out)) :
    (∀ side, s.claims side ≤ next.claims side) ∧ (∀ u, u ≠ t → next.threads u = s.threads u) ∧
      ∀ now head otherTail seen, next.threads t = some (now, .claim head otherTail seen) →
        pc = .readTail head seen ∧ now = call ∧
          otherTail = (s.queue.endOf call.side.other).tail := by
  cases pc <;> simp only [threadStep] at stepped
  case claim head otherTail seen =>
    split_ifs at stepped <;> cases stepped
    · simp +contextual [setThread]
    · simp +contextual [setThread]
    · refine ⟨fun side => ?_, by simp +contextual [claimNext], by simp [claimNext]⟩
      simp only [claimNext, Function.update_apply]
      split_ifs with same
      · exact same ▸ Nat.le_succ _
      · exact le_rfl
  case wait =>
    split_ifs at stepped <;> cases stepped <;> simp +contextual [setThread, here]
  case access head index =>
    split at stepped
    · cases stepped
    · split at stepped <;> cases stepped <;> cases multi : call.multi <;>
        simp +contextual [setThread, afterAccess]
  all_goals
    cases stepped
    simp +contextual [setThread]

lemma queueStep_claim {t : T} {call head otherTail seen input next out}
    (stepped : queueStep s input = some (next, out))
    (here : next.threads t = some (call, .claim head otherTail seen)) :
    s.claims call.side ≤ next.claims call.side ∧
      (input = .step t ∧ s.threads t = some (call, .readTail head seen) ∧
          otherTail = (s.queue.endOf call.side.other).tail ∨
        input ≠ .step t ∧ s.threads t = some (call, .claim head otherTail seen)) := by
  cases input with
  | call u other =>
    have threads : s.threads t = some (call, .claim head otherTail seen) ∧
        next.claims = s.claims := by
      rw [queueStep] at stepped
      split at stepped
      · cases stepped
        exact ⟨here, rfl⟩
      · split_ifs at stepped <;> cases stepped
        · exact ⟨here, rfl⟩
        · by_cases same : t = u
          · simp [setThread, same] at here
          · exact ⟨by simpa [setThread, same] using here, rfl⟩
    exact ⟨threads.2 ▸ le_rfl, .inr ⟨by simp, threads.1⟩⟩
  | step u =>
    rw [queueStep] at stepped
    split at stepped
    next idle =>
      cases stepped
      refine ⟨le_rfl, .inr ⟨fun same => ?_, here⟩⟩
      cases same
      rw [idle] at here
      cases here
    next running =>
      obtain ⟨grown, others, mine⟩ := threadStep_frame running stepped
      refine ⟨grown _, ?_⟩
      by_cases same : u = t
      · subst same
        obtain ⟨rfl, rfl, tail⟩ := mine _ _ _ _ here
        exact .inl ⟨rfl, running, tail⟩
      · exact .inr ⟨fun h => same (by cases h; rfl), others t (Ne.symm same) ▸ here⟩

/-- The last step of a thread, inside its call, read the other tail when nothing was left to
claim. -/
def FoundNone (queue : LockFreeQueue α) (inputs : List (QueueInput T α)) (t : T) (side : Side) :
    Prop :=
  ∃ front rest s past call head seen, inputs = front ++ .step t :: rest ∧ .step t ∉ rest ∧
    run queueStep (start queue) front = some (s, past) ∧
    s.threads t = some (call, .readTail head seen) ∧ call.side = side ∧ Exhausted s.queue side

/-- The indices are in order, the nodes dequeued are the first of those enqueued, both in the
order of their claims, and the others are in the queue. -/
structure Fifo (queue : LockFreeQueue α) (events : List (QueueEvent T α)) : Prop where
  inOrder : InOrder queue
  first : (completed events .consumer).map Prod.snd <+: (completed events .producer).map Prod.snd
  claimed : ∀ side, (completed events side).map Prod.fst = range (completed events side).length
  nodes : ∀ entry ∈ completed events .producer, entry.2.isSome
  holds : Holds queue events

/-- A thread about to claim read the other tail in its last step. -/
lemma claim_read {t : T} {call head otherTail seen inputs events}
    (ran : run queueStep (start queue) inputs = some (s, events))
    (here : s.threads t = some (call, .claim head otherTail seen)) :
    ∃ front rest r past, inputs = front ++ .step t :: rest ∧ .step t ∉ rest ∧
      run queueStep (start queue) front = some (r, past) ∧
      r.threads t = some (call, .readTail head seen) ∧
      otherTail = (r.queue.endOf call.side.other).tail ∧
      r.claims call.side ≤ s.claims call.side := by
  induction inputs using List.reverseRecOn generalizing s events with
  | nil =>
    cases ran
    cases here
  | append_singleton before input ih =>
    obtain ⟨u, past, out, ranBefore, stepped, _⟩ := run_concat_eq_some.mp ran
    obtain ⟨grown, ⟨rfl, reading, tail⟩ | ⟨other, waiting⟩⟩ := queueStep_claim stepped here
    · exact ⟨before, [], u, past, rfl, not_mem_nil, ranBefore, reading, tail, grown⟩
    · obtain ⟨front, rest, r, old, split, fresh, ranFront, reading, tail, le⟩ :=
        ih ranBefore waiting
      refine ⟨front, rest ++ [input], r, old, ?_, ?_, ranFront, reading, tail, le_trans le grown⟩
      · rw [split, append_assoc, cons_append]
      · simp [fresh, Ne.symm other]

/-- In every schedule the queue is first in, first out. A thread whose head is not older than
`2 ^ 32 - unitNum` claims finds it full or empty only if it was. -/
theorem run_fifo (users : Side → Option T) (created : createQueue unitNum = some queue)
    (positive : 0 < unitNum.toNat) {inputs : List (QueueInput T α)}
    (allowed : AllSteps queueStep (Allowed users) (start queue) inputs) :
    ∃ s events, run queueStep (start queue) inputs = some (s, events) ∧ Fifo s.queue events ∧
      ∀ t call head otherTail seen next error,
        s.threads t = some (call, .claim head otherTail seen) →
        s.claims call.side + unitNum.toNat ≤ seen + 2 ^ 32 →
        queueStep s (.step t) = some (next, [.failed t error]) →
        error = .full ∧ FoundNone queue inputs t .producer ∨
          error = .empty ∧ FoundNone queue inputs t .consumer := by
  obtain ⟨s, events, ran, rep⟩ := run_represents users created positive allowed
  refine ⟨s, events, ran,
    ⟨rep.inOrder, rep.sound.fifo, rep.indexed, rep.nodes, rep.holds⟩, ?_⟩
  intro t call head otherTail seen next error here recent failed
  obtain ⟨front, rest, r, past, split, fresh, ranFront, reading, rfl, le⟩ := claim_read ran here
  obtain ⟨_, _, ranFront', old⟩ :=
    run_represents users created positive (AllSteps.front (split ▸ allowed))
  obtain ⟨rfl, rfl⟩ := run_unique ranFront ranFront'
  simp only [queueStep, here, threadStep] at failed
  split_ifs at failed with nothing swapped
  · rw [← rep.availableCount_const old] at nothing
    have found : FoundNone queue inputs t call.side := ⟨front, rest, r, past, call, head, seen,
      split, fresh, ranFront, reading, rfl, old.exhausted reading (by omega) nothing⟩
    cases side : call.side <;> rw [side] at failed found <;> cases failed
    · exact .inl ⟨rfl, found⟩
    · exact .inr ⟨rfl, found⟩
  · cases failed
  · cases failed

end

/-- One thread fills the queue, the other is refused, empties the queue and looks again. -/
def handOver : List (QueueInput Bool Nat) :=
  .call true (queueMultiProducerEnqueue (some 7)) :: replicate 7 (.step true) ++
    .call false (queueMultiProducerEnqueue (some 8)) :: replicate 3 (.step false) ++
    .call false queueMultiConsumerDequeue :: replicate 7 (.step false) ++
    .call false queueMultiConsumerDequeue :: replicate 2 (.step false)

theorem run_fifo_handOver : ∃ queue s events, createQueue 2 = some queue ∧
      run queueStep (start queue) handOver = some (s, events) ∧ Fifo s.queue events ∧
      FoundNone queue handOver false .consumer := by
  have created : createQueue 2 = some
      (⟨queueHeaderMagic, 2, ⟨2, 1, 0, 0⟩, ⟨2, 1, 0, 0⟩, [none, none]⟩ : LockFreeQueue Nat) := rfl
  have allowed : AllSteps queueStep (Allowed fun _ => none) (start
      (⟨queueHeaderMagic, 2, ⟨2, 1, 0, 0⟩, ⟨2, 1, 0, 0⟩, [none, none]⟩ : LockFreeQueue Nat))
      handOver := by
    repeat' first
      | exact allSteps_nil _ _
      | refine AllSteps.cons ?_ rfl ?_
    all_goals first
      | rfl
      | intro call head otherTail seen here
        cases here
        try decide
  obtain ⟨s, events, ran, fifo, refused⟩ := run_fifo _ created (by decide) allowed
  refine ⟨_, s, events, created, ran, fifo, ?_⟩
  obtain ⟨rfl, _⟩ := run_unique ran rfl
  obtain ⟨full, _⟩ | ⟨_, found⟩ := refused false _ _ _ _ _ _ rfl (by decide) rfl
  · cases full
  · exact found

end DSoftBus.Queue
