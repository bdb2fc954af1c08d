import DSoftBus.Conn.BrSendQueue
import DSoftBus.Lib.RoundRobin

/-!
The order in which the items of the send queue are sent while no connection is removed.
`Orderly` says what the queue is for: waiting items are kept in the order of their
posting, and an item that is sent is, among those of its pid, the first one of the highest
priority. The shared list arranges the items of each pid accordingly.

A pid that keeps an item queued is served exactly once between two turns of another such
pid. One that runs out of items leaves the second list and comes back at its end.
-/
namespace DSoftBus.Br
open Execution List PriorityOrder

def SendEvent.Keeps : SendEvent → Prop
  | .clearSendItemByConnId _ => False
  | _ => True

instance : DecidablePred SendEvent.Keeps
  | .clearSendItemByConnId _ => isFalse id
  | .postBytes .. | .sendHandlerLoop => isTrue trivial

/-- The trace is one of a queue by priority for each pid, with the given items waiting in
the order in which they were posted. -/
inductive Orderly : List SendOutput → List SendItemStruct → Prop
  | start : Orderly [] []
  | posted {outs waiting} (item : SendItemStruct) (past : Orderly outs waiting) :
      Orderly (outs ++ [.posted item]) (waiting ++ [item])
  | refused {outs waiting} (ret : SoftBusErrNo) (past : Orderly outs waiting) :
      Orderly (outs ++ [.refused ret]) waiting
  | sent {outs before after} {item : SendItemStruct}
      (past : Orderly outs (before ++ item :: after))
      (lower : ∀ a ∈ before, a.pid = item.pid → a.priority < item.priority)
      (atMost : ∀ a ∈ after, a.pid = item.pid → a.priority ≤ item.priority) :
      Orderly (outs ++ [.sent item]) (before ++ after)

namespace DataQueueStruct
variable {queue next : DataQueueStruct} {waiting : List SendItemStruct} {item : SendItemStruct}
  {rest : List (BitVec 32)}

def Arranges (queue : DataQueueStruct) (waiting : List SendItemStruct) : Prop :=
  ∀ pid, queue.queuedOf pid = arranged (·.priority) (waiting.filter (·.pid = pid))

lemma Arranges.perm (arranges : queue.Arranges waiting) : waiting.Perm queue.sendList := by
  refine perm_iff_count.mpr fun a => ?_
  have own (items : List SendItemStruct) : (items.filter (·.pid = a.pid)).count a = items.count a :=
    count_filter (by simp)
  have view : (queue.queuedOf a.pid).Perm (waiting.filter (·.pid = a.pid)) := by
    rw [arranges a.pid]
    exact perm_arranged _
  rw [← own waiting, ← view.count_eq a, queuedOf, own]

lemma Arranges.post (arranges : queue.Arranges waiting) (item) :
    (queue.post item).Arranges (waiting ++ [item]) := by
  intro pid
  rw [filter_append]
  by_cases same : pid = item.pid
  · subst same
    rw [queuedOf_post_self, arranges item.pid, filter_cons_of_pos (by simp),
      filter_nil, arranged_concat]
  · rw [queuedOf_post_of_ne same, arranges pid,
      filter_cons_of_neg (by simpa using Ne.symm same), filter_nil, append_nil]

lemma Arranges.serve (arranges : queue.Arranges waiting) (served : Served queue next item rest) :
    ∃ before after, waiting = before ++ item :: after ∧
      (∀ a ∈ before, a.pid = item.pid → a.priority < item.priority) ∧
      (∀ a ∈ after, a.pid = item.pid → a.priority ≤ item.priority) ∧
      next.Arranges (before ++ after) := by
  have first := (arranges item.pid).symm.trans served.taken
  obtain ⟨early, late, split, lower, atMost, others⟩ := arranged_eq_cons first
  obtain ⟨front, back, rfl, isEarly, isRest⟩ := filter_eq_append_iff.mp split
  obtain ⟨gap, after, rfl, none, _, isLate⟩ := filter_eq_cons_iff.mp isRest
  refine ⟨front ++ gap, after, by simp, fun a mem same => ?_, fun a mem same => ?_, fun pid => ?_⟩
  · rcases mem_append.mp mem with inFront | inGap
    · refine lower a (isEarly ▸ mem_filter.mpr ⟨inFront, ?_⟩)
      simpa using same
    · exact absurd (by simpa using same) (none a inGap)
  · refine atMost a (isLate ▸ mem_filter.mpr ⟨mem, ?_⟩)
    simpa using same
  · by_cases same : pid = item.pid
    · subst same
      have empty : gap.filter (·.pid = item.pid) = [] := filter_eq_nil_iff.mpr none
      rw [← others, filter_append, filter_append, isEarly, isLate, empty, append_nil]
    · rw [served.others pid same, arranges pid]
      have notThis : decide (item.pid = pid) = false := by simpa using Ne.symm same
      simp only [filter_append, filter_cons, notThis, Bool.false_eq_true, if_false, append_assoc]

end DataQueueStruct

section
variable {prop : BrProperty} {s t : SendState} {event : SendEvent} {out : List SendOutput}
  {pid other : BitVec 32}

/-- A step of a queue that is in order either serves an item or lets the turns be, except
that a pid may join at the end. -/
lemma sendStep_turn (sound : s.Sound) (keeps : event.Keeps)
    (h : sendStep prop s event = some (t, out)) :
    t.Sound ∧ ((∃ item rest, out = [.sent item] ∧ s.queue.Served t.queue item rest) ∨
      (out.filterMap SendOutput.sent? = [] ∧
        ∃ joined, t.queue.turns = s.queue.turns ++ joined)) := by
  rw [sendStep.eq_def, if_neg (by simp [sound.2])] at h
  cases event with
  | clearSendItemByConnId connectionId => exact keeps.elim
  | postBytes conns connectionId data pid flag =>
    dsimp only at h
    split at h
    · cases h
      exact ⟨sound, .inr ⟨rfl, [], by simp⟩⟩
    rename_i queue posting
    cases h
    rw [postBytes_ok posting]
    refine ⟨⟨sound.1.post _, sound.2⟩, .inr ⟨rfl, ?_⟩⟩
    rw [DataQueueStruct.turns_post]
    split
    · exact ⟨[], by simp⟩
    · exact ⟨_, rfl⟩
  | sendHandlerLoop =>
    injection h with h
    by_cases pending : s.queue.sendList = []
    · rw [sendHandlerLoop_idle pending] at h
      cases h
      exact ⟨sound, .inr ⟨rfl, [], by simp⟩⟩
    · obtain ⟨next, item, rest, turn, served, kept⟩ :=
        DataQueueStruct.served_of_sendHandlerLoop sound.1 pending
      rw [turn] at h
      cases h
      exact ⟨⟨kept, rfl⟩, .inl ⟨item, rest, rfl, served⟩⟩

def turnsOf (pid : BitVec 32) (outs : List SendOutput) : Nat :=
  (outs.filterMap SendOutput.sent?).countP (·.pid = pid)

lemma turnsOf_append (pid front back) :
    turnsOf pid (front ++ back) = turnsOf pid front + turnsOf pid back := by
  rw [turnsOf, filterMap_append, countP_append, turnsOf, turnsOf]

lemma turnsOf_sent (pid item) : turnsOf pid [.sent item] = if item.pid = pid then 1 else 0 := by
  change [item].countP (·.pid = pid) = _
  rw [countP_singleton]
  simp

variable {outs : List SendOutput}

lemma turnsOf_of_none (pid) (none : outs.filterMap SendOutput.sent? = []) :
    turnsOf pid outs = 0 := by
  rw [turnsOf, none]
  rfl

open RoundRobin in
lemma ahead_of_served {item rest} (served : s.queue.Served t.queue item rest)
    (ahead : Ahead pid other rest) : Ahead pid other t.queue.turns := by
  rw [served.turns]
  split
  · exact ahead
  · exact ahead.append _

open RoundRobin in
lemma turnsOf_behind {mid} (sound : s.Sound) (keeps : ∀ event ∈ mid, event.Keeps)
    (ne : pid ≠ other) (ahead : Ahead pid other s.queue.turns)
    (h : run (sendStep prop) s mid = some (t, outs)) (none : turnsOf pid outs = 0) :
    turnsOf other outs = 0 := by
  induction mid generalizing s outs with
  | nil =>
    cases h
    rfl
  | cons event rest ih =>
    obtain ⟨u, out, outs, hStep, hRest, rfl⟩ := run_cons_eq_some.mp h
    obtain ⟨next, step⟩ := sendStep_turn sound (keeps event mem_cons_self) hStep
    rw [turnsOf_append] at none ⊢
    have later (stays : Ahead pid other u.queue.turns) : turnsOf other outs = 0 :=
      ih next (fun e mem => keeps e (mem_cons_of_mem event mem)) stays hRest (by omega)
    rcases step with ⟨item, others, rfl, served⟩ | ⟨silent, joined, same⟩
    · rw [served.turn] at ahead
      have notOther := ahead.head_ne ne
      have notPid : item.pid ≠ pid := fun same => by
        rw [turnsOf_sent, if_pos same] at none
        omega
      rw [turnsOf_sent, if_neg notOther, later (ahead_of_served served (ahead.pass notPid))]
    · rw [turnsOf_of_none other silent, later (same ▸ ahead.append joined)]

open RoundRobin in
/-- The pid ahead has a turn before the other one is served, and only one if the other one
stays in the list. -/
lemma turnsOf_ahead {mid} (sound : s.Sound) (keeps : ∀ event ∈ mid, event.Keeps)
    (ne : other ≠ pid) (ahead : Ahead other pid s.queue.turns)
    (h : run (sendStep prop) s mid = some (t, outs)) (none : turnsOf pid outs = 0)
    (last : ∃ rest, t.queue.turns = pid :: rest) : 1 ≤ turnsOf other outs ∧
      (AllStates (sendStep prop) (·.queue.queuedOf pid ≠ []) s mid → turnsOf other outs = 1) := by
  induction mid generalizing s outs with
  | nil =>
    cases h
    obtain ⟨rest, front⟩ := last
    rw [front] at ahead
    exact absurd rfl (ahead.head_ne ne)
  | cons event rest ih =>
    obtain ⟨u, out, outs, hStep, hRest, rfl⟩ := run_cons_eq_some.mp h
    obtain ⟨next, step⟩ := sendStep_turn sound (keeps event mem_cons_self) hStep
    have keepsRest (e) (mem : e ∈ rest) : e.Keeps := keeps e (mem_cons_of_mem event mem)
    rw [turnsOf_append] at none ⊢
    rw [allStates_cons]
    rcases step with ⟨item, others, rfl, served⟩ | ⟨silent, joined, same⟩
    · have notPid : item.pid ≠ pid := fun same => by
        rw [turnsOf_sent, if_pos same] at none
        omega
      by_cases turn : item.pid = other
      · subst turn
        rw [turnsOf_sent, if_pos rfl]
        refine ⟨by omega, fun stays => ?_⟩
        have once := sound.1.once
        have present := (sound.1.nodes pid).mpr stays.1
        rw [served.turn] at once present
        have inRest := (mem_cons.mp present).resolve_left ne.symm
        have behind := ahead_of_served served (ahead_of_mem inRest (nodup_cons.mp once).1)
        rw [turnsOf_behind next keepsRest ne.symm behind hRest (by omega)]
      · rw [served.turn] at ahead
        have stays := ahead_of_served served (ahead.pass turn)
        obtain ⟨some, once⟩ := ih next keepsRest stays hRest (by omega)
        rw [turnsOf_sent, if_neg turn, zero_add]
        exact ⟨some, fun all => once (all.2 u _ hStep)⟩
    · obtain ⟨some, once⟩ := ih next keepsRest (same ▸ ahead.append joined) hRest (by omega)
      rw [turnsOf_of_none other silent, zero_add]
      exact ⟨some, fun all => once (all.2 u _ hStep)⟩

end

/-- What has been posted and not been sent waits in the order of its posting, and the list
arranges it. -/
def Ordered (s : SendState) (outs : List SendOutput) : Prop :=
  s.Sound ∧ ∃ waiting, Orderly outs waiting ∧ s.queue.Arranges waiting

lemma sendStep_ordered {prop} (s past event) (ordered : Ordered s past) (keeps : event.Keeps) :
    ∃ t out, sendStep prop s event = some (t, out) ∧ Ordered t (past ++ out) := by
  obtain ⟨sound, waiting, orderly, arranges⟩ := ordered
  have running : ¬ s.freed := by simp [sound.2]
  rw [sendStep.eq_def, if_neg running]
  cases event with
  | clearSendItemByConnId connectionId => exact keeps.elim
  | postBytes conns connectionId data pid flag =>
    dsimp only
    split
    next ret _ => exact ⟨s, _, rfl, sound, waiting, .refused ret orderly, arranges⟩
    next queue posting =>
      rw [postBytes_ok posting]
      exact ⟨_, _, rfl, ⟨sound.1.post _, sound.2⟩, _, .posted _ orderly, arranges.post _⟩
  | sendHandlerLoop =>
    by_cases pending : s.queue.sendList = []
    · rw [sendHandlerLoop_idle pending]
      exact ⟨s, [], rfl, sound, waiting, by rwa [append_nil], arranges⟩
    · obtain ⟨next, item, rest, turn, served, kept⟩ :=
        DataQueueStruct.served_of_sendHandlerLoop sound.1 pending
      obtain ⟨before, after, rfl, lower, atMost, left⟩ := arranges.serve served
      rw [turn]
      exact ⟨_, _, rfl, ⟨kept, rfl⟩, _, .sent orderly lower atMost, left⟩

lemma run_ordered {prop} (sendPid) {inputs} (keeps : ∀ event ∈ inputs, event.Keeps) :
    ∃ s outs, run (sendStep prop) (.init sendPid) inputs = some (s, outs) ∧ Ordered s outs := by
  have start : Ordered (.init sendPid) [] := ⟨sound_init sendPid, [], .start, fun pid => rfl⟩
  have guarded : AllSteps (sendStep prop) (fun _ event => event.Keeps) (.init sendPid)
      inputs := by
    intro pre event post split t outs _
    exact keeps event (by rw [split]; simp)
  obtain ⟨s, outs, hRun, ordered⟩ := run_defined_past sendStep_ordered start guarded
  exact ⟨s, outs, hRun, ordered⟩

/-- After `pre` an iteration serves the pid and leads to `s`, the events `mid` do not serve
it, and the iteration after them does again. -/
structure BetweenTurns (property : BrProperty) (start : SendState) (pre : List SendEvent)
    (s : SendState) (mid : List SendEvent) (pid : BitVec 32) (outs : List SendOutput) : Prop where
  first : ∃ u past item, run (sendStep property) start pre = some (u, past) ∧
    sendStep property u .sendHandlerLoop = some (s, [.sent item]) ∧ item.pid = pid
  second : ∃ t v item, run (sendStep property) s mid = some (t, outs) ∧
    sendStep property t .sendHandlerLoop = some (v, [.sent item]) ∧ item.pid = pid
  none : turnsOf pid outs = 0

lemma sendStep_served {prop s t item}
    (sound : s.Sound) (h : sendStep prop s .sendHandlerLoop = some (t, [.sent item])) :
    t.Sound ∧ ∃ rest, s.queue.Served t.queue item rest := by
  have keeps : SendEvent.sendHandlerLoop.Keeps := trivial
  obtain ⟨next, step⟩ := sendStep_turn sound keeps h
  rcases step with ⟨sent, rest, same, served⟩ | ⟨silent, _⟩
  · cases same
    exact ⟨next, rest, served⟩
  · cases silent

lemma BetweenTurns.fair {prop sendPid pid other pre mid s outs}
    (between : BetweenTurns prop (.init sendPid) pre s mid pid outs)
    (keeps : ∀ event ∈ pre ++ mid, event.Keeps) (ne : other ≠ pid)
    (queued : s.queue.queuedOf other ≠ []) : 1 ≤ turnsOf other outs ∧
      (AllStates (sendStep prop) (·.queue.queuedOf pid ≠ []) s mid → turnsOf other outs = 1) := by
  obtain ⟨u, past, item, hPre, hFirst, rfl⟩ := between.first
  obtain ⟨t, v, last, hMid, hSecond, same⟩ := between.second
  obtain ⟨_, _, hRun, ordered⟩ := @run_ordered prop sendPid pre
    fun event mem => keeps event (mem_append_left _ mem)
  obtain ⟨rfl, rfl⟩ := run_unique hPre hRun
  obtain ⟨sound, rest, served⟩ := sendStep_served ordered.1 hFirst
  have once := ordered.1.1.once
  rw [served.turn] at once
  have ahead : RoundRobin.Ahead other item.pid s.queue.turns := by
    have present := (sound.1.nodes other).mpr queued
    rw [served.turns] at present
    refine ahead_of_served served (RoundRobin.ahead_of_mem ?_ (nodup_cons.mp once).1)
    split at present
    · exact present
    · exact (mem_append.mp present).resolve_right fun mem => ne (mem_singleton.mp mem)
  have keepsMid (event) (mem : event ∈ mid) : event.Keeps :=
    keeps event (mem_append_right _ mem)
  refine turnsOf_ahead sound keepsMid ne ahead hMid between.none ?_
  have soundLast : t.Sound := by
    have preserve (s event t out)
        (sound : s.Sound) (keeps : event.Keeps) (h : sendStep prop s event = some (t, out)) :
        t.Sound := (sendStep_turn sound keeps h).1
    refine run_state_invariant preserve sound ?_ hMid
    intro front event back split _ _ _
    exact keepsMid event (by rw [split]; simp)
  obtain ⟨_, rest', served'⟩ := sendStep_served soundLast hSecond
  exact ⟨rest', by rw [served'.turn, same]⟩

/-- Every run without removals is that of a queue by priority for each pid, and what waits is
sent by as many further iterations. Between two consecutive turns of a pid every other pid that
has an item queued after the first of them is served at least once, and exactly once if the pid
itself has an item queued all the time. -/
theorem sendOrder_fair (property : BrProperty) (sendPid : BitVec 32) :
    (∀ inputs : List SendEvent, (∀ event ∈ inputs, event.Keeps) →
      ∃ s outs, run (sendStep property) (.init sendPid) inputs = some (s, outs) ∧
        (∃ waiting, Orderly outs waiting ∧ waiting.Perm s.queue.sendList) ∧
        ∃ t rest, run (sendStep property) s
            (replicate s.queue.sendList.length .sendHandlerLoop) = some (t, rest) ∧
          t.queue.sendList = [] ∧ (rest.filterMap SendOutput.sent?).Perm s.queue.sendList) ∧
    ∀ pre s mid pid outs, BetweenTurns property (.init sendPid) pre s mid pid outs →
      (∀ event ∈ pre ++ mid, event.Keeps) → ∀ other, other ≠ pid → s.queue.queuedOf other ≠ [] →
        1 ≤ turnsOf other outs ∧ (AllStates (sendStep property) (·.queue.queuedOf pid ≠ []) s mid →
            turnsOf other outs = 1) := by
  refine ⟨fun inputs keeps => ?_, fun pre s mid pid outs between keeps other different queued =>
    between.fair keeps different queued⟩
  obtain ⟨s, outs, hRun, sound, waiting, orderly, arranges⟩ := run_ordered sendPid keeps
  exact ⟨s, outs, hRun, ⟨waiting, orderly, arranges.perm⟩, run_drains sound⟩

def twoEach : List SendEvent :=
  [.postBytes twoConnections 0x20001 [1] 1 0, .postBytes twoConnections 0x20001 [2] 2 0,
    .postBytes twoConnections 0x20001 [3] 1 0, .postBytes twoConnections 0x20001 [4] 2 0]

theorem sendOrder_fair_twoEach : ∃ s outs, BetweenTurns .standard (.init 0) twoEach s
      [.sendHandlerLoop] 1 outs ∧ turnsOf 2 outs = 1 := by
  have turns : ∃ s outs, BetweenTurns .standard (.init 0) twoEach s [.sendHandlerLoop] 1 outs ∧
      s.queue.queuedOf 2 ≠ [] ∧
      AllStates (sendStep .standard) (·.queue.queuedOf 1 ≠ []) s [.sendHandlerLoop] :=
    ⟨_, _, ⟨⟨_, _, _, rfl, rfl, rfl⟩, ⟨_, _, _, rfl, rfl, rfl⟩, by decide⟩, by decide,
      by decide +kernel⟩
  obtain ⟨s, outs, between, queued, stays⟩ := turns
  exact ⟨s, outs, between, ((sendOrder_fair .standard 0).2 _ s _ 1 outs between (by decide) 2
    (by decide) queued).2 stays⟩

def fourPosts : List SendEvent :=
  [.postBytes twoConnections 0x20001 [1] 1 0, .postBytes twoConnections 0x20001 [2] 2 0,
    .postBytes twoConnections 0x20001 [3] 2 3, .postBytes twoConnections 0x20001 [4] 2 0]

/-- Process 1 runs out of items and posts again after process 2 was served, which is served
twice between the turns of process 1. -/
theorem idlePid_two_turns : ∃ s outs, BetweenTurns .standard (.init 0) fourPosts s
        [.sendHandlerLoop, .postBytes twoConnections 0x20001 [5] 1 0, .sendHandlerLoop] 1 outs ∧
      AllStates (sendStep .standard) (·.queue.queuedOf 2 ≠ []) s
        [.sendHandlerLoop, .postBytes twoConnections 0x20001 [5] 1 0, .sendHandlerLoop] ∧
      turnsOf 2 outs = 2 :=
  ⟨_, _, ⟨⟨_, _, _, rfl, rfl, rfl⟩, ⟨_, _, _, rfl, rfl, rfl⟩, by decide⟩, by decide +kernel,
    by decide⟩

end DSoftBus.Br
