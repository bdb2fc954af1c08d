import DSoftBus.Lib.Execution

/-!
The queue between BlePostBytes and BleSendTask of softbus_ble_connection.c.
BleDequeueBlock gives its lock back only behind the wait for a message: when it finds one
queued already, the task sends with the lock held, and the next one to take it waits for
ever.

The lock-free queue is a bounded list, taken as atomic. A wait may end by itself.
-/
namespace DSoftBus.BleSend
open Execution Function

inductive Thread where
  | task
  | poster (p : Nat)

inductive PosterPc where
  | idle
  | lock
  | signal
  | unlock
deriving DecidableEq

/-- Where the task is: before BleDequeueBlock, in it up to the dequeue, or behind it. -/
inductive TaskPc (μ : Type) where
  | start
  | test
  | waiting
  | woken
  | unlock
  | dequeue
  | send (node : Option μ)

structure SendQueue (μ : Type) where
  queue : List μ
  lock : Option Thread
  task : TaskPc μ
  posters : Nat → PosterPc

inductive SendEvent (μ : Type) where
  | enqueue (p : Nat) (msg : μ)
  | poster (p : Nat)
  | task
  | spurious

variable {μ : Type}

namespace SendQueue

def init : SendQueue μ := ⟨[], none, .start, fun _ => .idle⟩

variable (capacity : Nat) (s : SendQueue μ)

def setPoster (p : Nat) (pc : PosterPc) : SendQueue μ := { s with posters := update s.posters p pc }

/-- A full queue makes the call fail. -/
def enqueue (p : Nat) (msg : μ) : Option (SendQueue μ) :=
  if s.posters p ≠ .idle then none
  else if capacity ≤ s.queue.length then some s
  else some { s.setPoster p .lock with queue := s.queue ++ [msg] }

def blePostBytes (p : Nat) : Option (SendQueue μ) :=
  match s.posters p with
  | .idle => none
  | .lock =>
    if s.lock = none then some { s.setPoster p .signal with lock := some (.poster p) } else none
  | .signal =>
    some { s.setPoster p .unlock with task := match s.task with | .waiting => .woken | pc => pc }
  | .unlock => some { s.setPoster p .idle with lock := none }

/-- The next step of BleSendTask; the lock is not recursive. -/
def bleSendTask : Option (SendQueue μ × List μ) :=
  match s.task with
  | .start =>
    if s.lock = none then some ({ s with lock := some .task, task := .test }, []) else none
  | .test =>
    if s.queue.isEmpty then some ({ s with lock := none, task := .waiting }, [])
    else some ({ s with task := .dequeue }, [])
  | .waiting => none
  | .woken =>
    if s.lock = none then some ({ s with lock := some .task, task := .unlock }, []) else none
  | .unlock => some ({ s with lock := none, task := .dequeue }, [])
  | .dequeue => some ({ s with queue := s.queue.tail, task := .send s.queue.head? }, [])
  | .send node => some ({ s with task := .start }, node.toList)

def step : SendEvent μ → Option (SendQueue μ × List μ)
  | .enqueue p msg => (s.enqueue capacity p msg).map (·, [])
  | .poster p => (s.blePostBytes p).map (·, [])
  | .task => s.bleSendTask
  | .spurious => match s.task with | .waiting => some ({ s with task := .woken }, []) | _ => none

/-- A thread inside of its call can go on, without a new call and without an early wake-up. -/
def CanStep : Prop := s.bleSendTask ≠ none ∨ ∃ p, s.blePostBytes p ≠ none

/-- While a message is queued somebody goes on, the task sends without the lock, and it does not
wait for a signal that was given already. -/
structure Sound : Prop where
  live : s.queue ≠ [] → s.CanStep
  released : s.lock = some .task → s.task ≠ .start ∧ ∀ node, s.task ≠ .send node
  woken : s.task = .waiting → s.queue ≠ [] → ∃ p, s.posters p = .lock ∨ s.posters p = .signal

/-- The task finds the queue empty whenever it tests it. -/
def FindsEmpty : SendEvent μ → Prop
  | .task => s.task = .test → s.queue = []
  | _ => True

structure Inv : Prop where
  poster : ∀ p, s.lock = some (.poster p) ↔ s.posters p = .signal ∨ s.posters p = .unlock
  holds : s.task = .test ∨ s.task = .unlock → s.lock = some .task
  woken : s.task = .waiting → s.queue ≠ [] → ∃ p, s.posters p = .lock ∨ s.posters p = .signal

/-- The lock goes back before the dequeue. -/
def Tidy : Prop := s.lock = some .task → s.task = .test ∨ s.task = .unlock

variable {capacity} {s t : SendQueue μ}

@[simp, grind =] lemma posters_setPoster (p q pc) :
    (s.setPoster p pc).posters q = if q = p then pc else s.posters q := update_apply ..

lemma Inv.enqueue {p msg} (inv : s.Inv) (done : s.enqueue capacity p msg = some t) : t.Inv := by
  obtain ⟨poster, holds, woken⟩ := inv
  rw [SendQueue.enqueue] at done
  split at done
  · cases done
  split at done
  · cases done
    exact ⟨poster, holds, woken⟩
  · cases done
    refine ⟨?_, holds, fun _ _ => ⟨p, .inl (update_self ..)⟩⟩
    grind [setPoster]

lemma Inv.blePostBytes {p} (inv : s.Inv) (done : s.blePostBytes p = some t) : t.Inv := by
  obtain ⟨poster, holds, woken⟩ := inv
  rw [SendQueue.blePostBytes] at done
  split at done
  · cases done
  · split at done <;> cases done
    refine ⟨?_, ?_, fun _ _ => ⟨p, .inr (update_self ..)⟩⟩ <;> grind [setPoster]
  · cases done
    constructor <;> grind [setPoster]
  next pc =>
    cases done
    refine ⟨?_, ?_, fun waits queued => ?_⟩
    · grind [setPoster]
    · grind [setPoster]
    · obtain ⟨q, before⟩ := woken waits queued
      exact ⟨q, by grind⟩

lemma Inv.bleSendTask {out} (inv : s.Inv) (done : s.bleSendTask = some (t, out)) : t.Inv := by
  obtain ⟨poster, holds, woken⟩ := inv
  rw [SendQueue.bleSendTask] at done
  split at done <;> (try split at done) <;> cases done <;> constructor <;> grind

section
variable {event out} (inv : s.Inv) (done : s.step capacity event = some (t, out))
include inv done

lemma Inv.step : t.Inv := by
  cases event with
  | enqueue p msg =>
    obtain ⟨t', enqueued, same⟩ := Option.map_eq_some_iff.mp done
    cases same
    exact inv.enqueue enqueued
  | poster p =>
    obtain ⟨t', posted, same⟩ := Option.map_eq_some_iff.mp done
    cases same
    exact inv.blePostBytes posted
  | task => exact inv.bleSendTask done
  | spurious =>
    obtain ⟨poster, holds, woken⟩ := inv
    rw [SendQueue.step] at done
    split at done <;> cases done
    constructor <;> grind

/-- Nobody else moves the task while it has the lock, or gives it the lock or takes it away. -/
lemma Inv.others (other : event ≠ .task) : (t.lock = some .task ↔ s.lock = some .task) ∧
      (t.task = s.task ∨ s.task = .waiting) := by
  have poster := inv.poster
  cases event with
  | task => exact absurd rfl other
  | enqueue p msg =>
    obtain ⟨t', enqueued, same⟩ := Option.map_eq_some_iff.mp done
    cases same
    rw [SendQueue.enqueue] at enqueued
    split at enqueued <;> (try split at enqueued) <;> cases enqueued <;> exact ⟨.rfl, .inl rfl⟩
  | poster p =>
    obtain ⟨t', posted, same⟩ := Option.map_eq_some_iff.mp done
    cases same
    rw [SendQueue.blePostBytes] at posted
    split at posted <;> (try split at posted) <;> cases posted <;> grind [setPoster]
  | spurious =>
    rw [SendQueue.step] at done
    split at done <;> cases done
    next waits => exact ⟨.rfl, .inr waits⟩

lemma Tidy.step (tidy : s.Tidy) (empty : s.FindsEmpty event) : t.Tidy := by
  intro mine
  by_cases own : event = .task
  · subst own
    have empty : s.task = .test → s.queue = [] := empty
    rw [SendQueue.step, SendQueue.bleSendTask] at done
    split at done <;> (try split at done) <;> cases done <;> grind [Tidy]
  · obtain ⟨lock, same⟩ := inv.others done own
    have held := tidy (lock.mp mine)
    rcases same with same | waits
    · rwa [same]
    · simp [waits] at held

end

lemma Inv.canStep (inv : s.Inv) (tidy : s.Tidy) (queued : s.queue ≠ []) : s.CanStep := by
  cases owner : s.lock with
  | some thread =>
    cases thread with
    | task =>
      rcases tidy owner with pc | pc
      · simp [CanStep, SendQueue.bleSendTask, pc, queued]
      · simp [CanStep, SendQueue.bleSendTask, pc]
    | poster p =>
      refine .inr ⟨p, ?_⟩
      rcases (inv.poster p).mp owner with pc | pc <;> simp [SendQueue.blePostBytes, pc]
  | none =>
    have free (p) : s.posters p ≠ .signal := fun pc => by
      simpa [owner] using (inv.poster p).mpr (.inl pc)
    cases pc : s.task with
    | start | woken | dequeue | send => simp [CanStep, SendQueue.bleSendTask, pc, owner]
    | test => simpa [owner] using inv.holds (.inl pc)
    | unlock => simpa [owner] using inv.holds (.inr pc)
    | waiting =>
      -- the one who queued a message has not yet taken the lock for its signal
      obtain ⟨p, before⟩ := inv.woken pc queued
      have waits := before.resolve_right (free p)
      exact .inr ⟨p, by simp [SendQueue.blePostBytes, waits, owner]⟩

lemma Inv.sound (inv : s.Inv) (tidy : s.Tidy) : s.Sound := by
  refine ⟨inv.canStep tidy, fun mine => ?_, inv.woken⟩
  rcases tidy mine with pc | pc <;> simp [pc]

lemma inv_init : (init : SendQueue μ).Inv := by constructor <;> simp [init]

lemma inv_run {events out} (ran : run (step capacity) init events = some (s, out)) : s.Inv :=
  run_state_invariant (P := fun _ _ => True) (fun _ _ _ _ inv _ done => Inv.step inv done) inv_init
    (fun _ _ _ _ _ _ _ => trivial) ran

/-- A task that goes to its dequeue with the lock gets no further as long as all is sound. -/
lemma dequeue_stays {events out} (inv : s.Inv) (pc : s.task = .dequeue)
    (mine : s.lock = some .task) (sound : AllStates (step capacity) Sound s events)
    (ran : run (step capacity) s events = some (t, out)) : t.task = .dequeue := by
  induction events generalizing s out with
  | nil =>
    cases ran
    exact pc
  | cons event rest ih =>
    obtain ⟨u, first, later, done, ran', rfl⟩ := run_cons_eq_some.mp ran
    have sound' := (allStates_cons.mp sound).2 u first done
    by_cases own : event = .task
    · subst own
      simp only [SendQueue.step, SendQueue.bleSendTask, pc] at done
      cases done
      exact absurd rfl ((((sound' [] rest rfl _ _ rfl).released mine).2) _)
    · obtain ⟨lock, same⟩ := inv.others done own
      have kept := same.resolve_right (by simp [pc])
      exact ih (inv.step done) (kept.trans pc) (lock.mpr mine) sound' ran'

/-- In every run that does not end on the way to a dequeue, each state is sound exactly if the
task has found the queue empty at all its tests. -/
theorem send_queue_live_iff {capacity : Nat} {events : List (SendEvent μ)} {t : SendQueue μ}
    {out : List μ} (ran : run (step capacity) init events = some (t, out))
    (past : t.task ≠ .dequeue) :
    AllStates (step capacity) Sound init events ↔
      AllSteps (step capacity) FindsEmpty init events := by
  constructor
  · intro sound pre event post split s outs before
    cases event with
    | enqueue | poster | spurious => trivial
    | task =>
      intro pc
      by_contra queued
      rw [split] at ran sound
      obtain ⟨s', _, _, before', after, -⟩ := run_append_eq_some.mp ran
      obtain ⟨rfl, -⟩ := run_unique before before'
      obtain ⟨u, first, later, done, ran', -⟩ := run_cons_eq_some.mp after
      have inv := inv_run before
      have moved : u = { s with task := .dequeue } := by
        simp only [SendQueue.step, SendQueue.bleSendTask, pc, List.isEmpty_iff, queued, if_false,
          Option.some.injEq, Prod.mk.injEq] at done
        exact done.1.symm
      refine past (dequeue_stays (inv.step done) (moved ▸ rfl) (moved ▸ inv.holds (.inl pc)) ?_
        ran')
      intro pre' post' split' v outs' ran''
      refine sound (pre ++ .task :: pre') post' (by simp [split']) v (outs ++ (first ++ outs')) ?_
      exact run_append_eq_some.mpr ⟨s, outs, _, before,
        run_cons_eq_some.mpr ⟨u, first, outs', done, ran'', rfl⟩, rfl⟩
  · intro empty pre post split s outs before
    have guarded : AllSteps (step capacity) FindsEmpty init pre := (split ▸ empty).front
    have preserve (s : SendQueue μ) (event t out) (both : s.Inv ∧ s.Tidy) (ok : FindsEmpty s event)
        (done : step capacity s event = some (t, out)) : t.Inv ∧ t.Tidy :=
      ⟨both.1.step done, both.2.step both.1 done ok⟩
    have both := run_state_invariant preserve ⟨inv_init, fun mine => by cases mine⟩ guarded before
    exact both.1.sound both.2

/-- The task waits, a message is posted and sent, and the task waits again. -/
def oneMessage : List (SendEvent Unit) :=
  [.task, .task, .enqueue 0 (), .poster 0, .poster 0, .poster 0, .task, .task, .task, .task, .task,
    .task]

theorem send_queue_live_oneMessage : ∃ t, run (step 128) init oneMessage = some (t, [()]) ∧
    AllStates (step 128) Sound init oneMessage := by
  refine ⟨_, rfl, (send_queue_live_iff rfl fun pc => ?_).mpr ?_⟩
  · cases pc
  simp [oneMessage, allSteps_cons, allSteps_nil, SendQueue.step, FindsEmpty, init,
    SendQueue.bleSendTask, SendQueue.enqueue, SendQueue.blePostBytes, setPoster]

/-- A message that is queued before the test is sent with the lock held. -/
theorem queued_before_test_locks : ∃ s out, run (step 128) (init : SendQueue Unit)
      [.enqueue 0 (), .task, .task, .task] = some (s, out) ∧ ¬ s.Sound := by
  refine ⟨_, _, rfl, fun sound => ?_⟩
  exact (sound.released rfl).2 _ rfl

end SendQueue
end DSoftBus.BleSend
