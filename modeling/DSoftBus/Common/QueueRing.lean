import DSoftBus.Common.Queue
import DSoftBus.Lib.ModularCounter

/-!
The lock-free queue is a ring of tickets whose numbers are stored modulo `2 ^ 32`:
claiming moves a head, publishing moves a tail, and the number of a claim is the
count of the claims before it. The words tell the numbers apart because at most
`mask` of them are in use, and because no thread waits with a head it has read
while `2 ^ 32` others claim.
-/
namespace DSoftBus.Queue
open TicketRing ModularCounter List Function Ring LockFreeQueue

variable {T α : Type*}

/-- The completed operations at an end of the queue, with the number of their claim. -/
def completed (events : List (QueueEvent T α)) (side : Side) : List (Nat × Option α) :=
  events.filterMap fun
    | .completed _ at_ index node => if at_ = side then some (index, node) else none
    | .failed .. => none

lemma completed_singleton (t : T) (side other : Side) (index : Nat) (node : Option α) :
    completed [QueueEvent.completed t side index node] other =
      if side = other then [(index, node)] else [] := by
  by_cases same : side = other <;> simp [completed, same]

def ticketOf : Option (QueueCall α × QueuePc) → Option (Side × Nat)
  | some (call, .access _ index) => some (call.side, index)
  | some (call, .wait _ index) => some (call.side, index)
  | some (call, .addLoad index) => some (call.side, index)
  | some (call, .publish _ index) => some (call.side, index)
  | _ => none

def ringOf (s : QueueState T α) (log : Side → List (Nat × Option α)) : Ring T (Option α) where
  claims := s.claims
  finished side := (log side).map Prod.snd
  slots j := s.queue.nodes[j]?.join
  ticket t := ticketOf (s.threads t)

/-- `users` names the only user of an end whose operations are the single variants. -/
def Allowed (users : Side → Option T) (s : QueueState T α) : QueueInput T α → Prop
  | .call t call => users call.side = if call.multi then none else some t
  | .step t => ∀ call head otherTail seen, s.threads t = some (call, .claim head otherTail seen) →
      s.claims call.side < seen + 2 ^ 32

def PcOk (n : Nat) (r : Ring T (Option α)) (call : QueueCall α) : QueuePc → Prop
  | .readHead => True
  | .readTail head seen => head = BitVec.ofNat 32 seen ∧ seen ≤ r.claims call.side ∧
      (call.multi = false → seen = r.claims call.side)
  | .claim head otherTail seen => head = BitVec.ofNat 32 seen ∧ seen ≤ r.claims call.side ∧
      (call.multi = false → seen = r.claims call.side) ∧
      ∃ other, otherTail = BitVec.ofNat 32 other ∧ other ≤ r.served call.side.other ∧
        seen ≤ other + slack n call.side
  | .access head index => head = BitVec.ofNat 32 index
  | .wait head index => head = BitVec.ofNat 32 index ∧ r.Accessed n index call.node call.side
  | .addLoad index => index = r.served call.side ∧ r.Accessed n index call.node call.side
  | .publish next index => next = BitVec.ofNat 32 (index + 1) ∧ index = r.served call.side ∧
      r.Accessed n index call.node call.side

structure ThreadOk (users : Side → Option T) (n : Nat) (r : Ring T (Option α)) (t : T)
    (call : QueueCall α) (pc : QueuePc) : Prop where
  user : users call.side = if call.multi then none else some t
  node : call.side = .producer → call.node.isSome
  pcOk : PcOk n r call pc

def Single (users : Side → Option T) (r : Ring T (Option α)) : Prop :=
  ∀ side t, users side = some t →
    (∀ i, r.ticket t = some (side, i) → r.claims side = r.served side + 1) ∧
    ((∀ i, r.ticket t ≠ some (side, i)) → r.claims side = r.served side)

structure Represents (users : Side → Option T) (n : Nat) (s : QueueState T α)
    (log : Side → List (Nat × Option α)) : Prop where
  sized : ∃ k, k ≤ 31 ∧ n = 2 ^ k
  sound : (ringOf s log).Sound n
  single : Single users (ringOf s log)
  heads : ∀ side, (s.queue.endOf side).head = BitVec.ofNat 32 (s.claims side)
  tails : ∀ side, (s.queue.endOf side).tail = BitVec.ofNat 32 ((ringOf s log).served side)
  mask : s.queue.producer.mask = BitVec.ofNat 32 (n - 1)
  length : s.queue.nodes.length = n
  threads : ∀ t call pc, s.threads t = some (call, pc) → ThreadOk users n (ringOf s log) t call pc
  indexed : ∀ side, (log side).map Prod.fst = range (log side).length
  nodes : ∀ entry ∈ log .producer, entry.2.isSome

lemma slack_lt {n other : Nat} {r : Ring T (Option α)} {side : Side} (sound : r.Sound n)
    (small : n ≤ 2 ^ 31) (le : other ≤ r.served side.other) :
    other + slack n side < r.claims side + 2 ^ 32 := by
  obtain ⟨h₁, h₂, h₃, h₄⟩ := sound.window
  cases side with
  | producer | consumer =>
    simp only [Side.other, slack] at le ⊢
    omega

namespace Represents
variable {users : Side → Option T} {n : Nat} {s : QueueState T α}
  {log : Side → List (Nat × Option α)}

section

variable (rep : Represents users n s log)
include rep

lemma slot_eq (i : Nat) : s.queue.slot (BitVec.ofNat 32 i) = i % n := by
  obtain ⟨k, small, pow⟩ := rep.sized
  rw [slot, rep.mask, pow, toNat_and_mask (by omega)]

lemma size_le : n ≤ 2 ^ 31 := by
  obtain ⟨k, small, pow⟩ := rep.sized
  rw [pow]
  exact Nat.pow_le_pow_right (by decide) small

lemma availableCount_eq (seen other : Nat) (side : Side) :
    s.queue.availableCount (BitVec.ofNat 32 seen) (BitVec.ofNat 32 other) side =
      BitVec.ofNat 32 (other + slack n side) - BitVec.ofNat 32 seen := by
  cases side with
  | producer =>
    rw [availableCount, rep.mask, ← BitVec.ofNat_add, add_comm]
    rfl
  | consumer => rfl

lemma room_of_available {t call head otherTail seen}
    (here : s.threads t = some (call, .claim head otherTail seen))
    (current : seen = s.claims call.side)
    (available : ¬ s.queue.availableCount head otherTail call.side < 1) :
    s.claims call.side < (ringOf s log).served call.side.other + slack n call.side := by
  obtain ⟨word, _, _, other, otherWord, otherLe, bound⟩ := (rep.threads t call _ here).pcOk
  have near : other + slack n call.side < seen + 2 ^ 32 := by
    rw [current]
    exact slack_lt rep.sound rep.size_le otherLe
  have difference := toNat_sub bound near
  rw [← rep.availableCount_eq, ← word, ← otherWord] at difference
  have positive : ¬ (s.queue.availableCount head otherTail call.side).toNat < 1 := available
  omega

lemma first_of_single {t : T} {call : QueueCall α} {index : Nat}
    (mine : (ringOf s log).ticket t = some (call.side, index))
    (user : users call.side = if call.multi then none else some t) (single : call.multi = false) :
    index = (ringOf s log).served call.side := by
  rw [single] at user
  have one := (rep.single call.side t user).1 index mine
  have held := rep.sound.held t call.side index mine
  have low := held.1
  have high := held.2
  omega

end

end Represents

section
variable {users : Side → Option T} {n : Nat} {r : Ring T (Option α)} {t : T}
  {call : QueueCall α} {pc : QueuePc} {side : Side}

lemma ThreadOk.eq_owner (ok : ThreadOk users n r t call pc) {owner}
    (isOwner : users call.side = some owner) : owner = t := by
  rw [ok.user] at isOwner
  split at isOwner
  · cases isOwner
  · exact (Option.some.inj isOwner).symm

variable {v : Option α}

lemma PcOk.store {i} (sound : r.Sound n) (ok : PcOk n r call pc) (held : r.Held .producer i)
    (mine : ∀ side j, ticketOf (some (call, pc)) = some (side, j) → r.Held side j ∧
      (side = .producer → j ≠ i)) : PcOk n (r.store n i v) call pc := by
  cases pc with
  | wait head index | addLoad index =>
    exact ⟨ok.1, sound.accessed_store held (mine _ _ rfl).1 (mine _ _ rfl).2 ok.2⟩
  | publish next index =>
    exact ⟨ok.1, ok.2.1, sound.accessed_store held (mine _ _ rfl).1 (mine _ _ rfl).2 ok.2.2⟩
  | readHead | readTail _ _ | claim _ _ _ | access _ _ => exact ok

variable [DecidableEq T]

lemma PcOk.claim (ok : PcOk n r call pc) (notMine : side = call.side → call.multi) :
    PcOk n (r.claim side t) call pc := by
  have grown : r.claims call.side ≤ (r.claim side t).claims call.side := le_claims_claim
  have kept : call.multi = false → (r.claim side t).claims call.side = r.claims call.side := by
    intro single
    refine claims_claim_of_ne fun same => ?_
    simp [notMine same.symm] at single
  cases pc with
  | readTail head seen =>
    obtain ⟨word, le, exact_⟩ := ok
    exact ⟨word, le_trans le grown, fun single => (exact_ single).trans (kept single).symm⟩
  | claim head otherTail seen =>
    obtain ⟨word, le, exact_, rest⟩ := ok
    exact ⟨word, le_trans le grown, fun single => (exact_ single).trans (kept single).symm, rest⟩
  | readHead | access _ _ | wait _ _ | addLoad _ | publish _ _ => exact ok

lemma PcOk.finish (ok : PcOk n r call pc)
    (later : ∀ j, ticketOf (some (call, pc)) = some (side, j) → j ≠ r.served side) :
    PcOk n (r.finish side t v) call pc := by
  have kept : ∀ index, ticketOf (some (call, pc)) = some (call.side, index) →
      index = r.served call.side → index = (r.finish side t v).served call.side := by
    intro index mine first
    by_cases same : call.side = side
    · rw [same] at mine first
      exact absurd first (later index mine)
    · rw [served_finish_of_ne same]
      exact first
  cases pc with
  | claim head otherTail seen =>
    obtain ⟨word, le, exact_, other, otherWord, otherLe, bound⟩ := ok
    exact ⟨word, le, exact_, other, otherWord, le_trans otherLe le_served_finish, bound⟩
  | wait head index => exact ⟨ok.1, accessed_finish ok.2⟩
  | addLoad index => exact ⟨kept index rfl ok.1, accessed_finish ok.2⟩
  | publish next index => exact ⟨ok.1, kept index rfl ok.2.1, accessed_finish ok.2.2⟩
  | readHead | readTail _ _ | access _ _ => exact ok

lemma Single.claim (single : Single users r) (idle : r.ticket t = none)
    (user : ∀ owner, users side = some owner → owner = t) : Single users (r.claim side t) := by
  intro σ owner isOwner
  obtain ⟨holding, resting⟩ := single σ owner isOwner
  by_cases same : σ = side
  · subst same
    obtain rfl := user owner isOwner
    have before := resting (fun i => by rw [idle]; exact fun h => by cases h)
    refine ⟨fun i _ => ?_, fun free => absurd ticket_claim_self (free _)⟩
    rw [claims_claim_self, before]
    rfl
  · rw [claims_claim_of_ne same]
    by_cases isT : owner = t
    · subst isT
      refine ⟨fun i held => ?_, fun _ => resting (fun i => by rw [idle]; exact fun h => by cases h)⟩
      rw [ticket_claim_self] at held
      cases held
      exact absurd rfl same
    · rw [ticket_claim_of_ne isT]
      exact ⟨holding, resting⟩

lemma Single.finish {i} (single : Single users r) (mine : r.ticket t = some (side, i))
    (user : ∀ owner, users side = some owner → owner = t) : Single users (r.finish side t v) := by
  intro σ owner isOwner
  obtain ⟨holding, resting⟩ := single σ owner isOwner
  by_cases same : σ = side
  · subst same
    obtain rfl := user owner isOwner
    have before := holding i mine
    refine ⟨fun i held => ?_, fun _ => ?_⟩
    · simp [ticket_finish_self] at held
    · rw [served_finish_self]
      exact before
  · rw [served_finish_of_ne same]
    by_cases isT : owner = t
    · subst isT
      refine ⟨fun i held => ?_, fun _ => resting (fun j held => ?_)⟩
      · simp [ticket_finish_self] at held
      · rw [mine] at held
        cases held
        exact same rfl
    · rw [ticket_finish_of_ne isT]
      exact ⟨holding, resting⟩

lemma forall_threads {P : T → QueueCall α → QueuePc → Prop}
    {threads : T → Option (QueueCall α × QueuePc)} {thread : Option (QueueCall α × QueuePc)}
    (mine : ∀ call pc, thread = some (call, pc) → P t call pc)
    (others : ∀ u call pc, u ≠ t → threads u = some (call, pc) → P u call pc) :
    ∀ u call pc, update threads t thread u = some (call, pc) → P u call pc := by
  intro u call pc h
  by_cases same : u = t
  · subst same
    rw [update_self] at h
    exact mine call pc h
  · rw [update_of_ne same] at h
    exact others u call pc same h

end

namespace Represents
variable [DecidableEq T] {users : Side → Option T} {n : Nat} {s : QueueState T α}
  {log : Side → List (Nat × Option α)} {t : T} {call : QueueCall α} {pc : QueuePc}

variable {thread : Option (QueueCall α × QueuePc)} {head : BitVec 32}

lemma ringOf_setThread (same : ticketOf thread = ticketOf (s.threads t)) :
    ringOf (s.setThread t thread) log = ringOf s log := by
  have tickets : (fun u => ticketOf (update s.threads t thread u)) =
      fun u => ticketOf (s.threads u) := by
    funext u
    by_cases here : u = t
    · rw [here, update_self, same]
    · rw [update_of_ne here]
  simp only [ringOf, QueueState.setThread, tickets]

lemma setThread (rep : Represents users n s log) (same : ticketOf thread = ticketOf (s.threads t))
    (ok : ∀ call pc, thread = some (call, pc) → ThreadOk users n (ringOf s log) t call pc) :
    Represents users n (s.setThread t thread) log := by
  have ring : ringOf (s.setThread t thread) log = ringOf s log := ringOf_setThread same
  exact { rep with
    sound := ring ▸ rep.sound
    single := ring ▸ rep.single
    tails := ring ▸ rep.tails
    threads := by
      rw [ring]
      exact forall_threads ok fun u call pc _ h => rep.threads u call pc h }

lemma ringOf_claimNext :
    ringOf (claimNext s t call head) log = (ringOf s log).claim call.side t := by
  have tickets : (fun u => ticketOf (update s.threads t
      (some (call, .access head (s.claims call.side))) u)) =
      update (fun u => ticketOf (s.threads u)) t
        (some (call.side, s.claims call.side)) := by
    funext u
    by_cases here : u = t
    · rw [here, update_self, update_self]
      rfl
    · rw [update_of_ne here, update_of_ne here]
  simp only [ringOf, claimNext, claim, nodes_setHead, tickets]

lemma claimNext (rep : Represents users n s log) (ok : ThreadOk users n (ringOf s log) t call pc)
    (free : ticketOf (s.threads t) = none) (word : head = BitVec.ofNat 32 (s.claims call.side))
    (room : s.claims call.side < (ringOf s log).served call.side.other + slack n call.side) :
    Represents users n (Queue.claimNext s t call head) log := by
  have ring : ringOf (Queue.claimNext s t call head) log = (ringOf s log).claim call.side t :=
    ringOf_claimNext
  exact { rep with
    sound := ring ▸ rep.sound.claim room
    single := ring ▸ rep.single.claim free fun _ => ok.eq_owner
    heads := by
      intro side
      by_cases same : side = call.side
      · subst same
        simp only [Queue.claimNext, head_setHead_self, update_self]
        rw [word, ofNat_succ]
      · simp only [Queue.claimNext, head_setHead_of_ne same, update_of_ne same]
        exact rep.heads side
    tails := by
      intro side
      rw [ring]
      exact tail_setHead.trans (rep.tails side)
    mask := mask_setHead.trans rep.mask
    length := (congrArg List.length nodes_setHead).trans rep.length
    threads := by
      rw [ring]
      refine forall_threads ?_ ?_
      · intro call' pc' h
        cases h
        exact ⟨ok.user, ok.node, word⟩
      · intro u call' pc' other h
        have theirs := rep.threads u call' pc' h
        refine ⟨theirs.user, theirs.node, theirs.pcOk.claim fun same => ?_⟩
        by_contra alone
        have single := theirs.user
        rw [if_neg alone, ← same] at single
        exact other (ok.eq_owner single) }

lemma store (rep : Represents users n s log) {index next}
    (here : s.threads t = some (call, .access head index)) (isProducer : call.side = .producer)
    (ticket : ticketOf (some (call, next)) = some (.producer, index))
    (ok : ThreadOk users n ((ringOf s log).store n index call.node) t call next) :
    Represents users n { s.setThread t (some (call, next)) with
      queue := { s.queue with nodes := s.queue.nodes.set (index % n) call.node } } log := by
  have mine : (ringOf s log).ticket t = some (.producer, index) := by
    change ticketOf (s.threads t) = _
    rw [here, ← isProducer]
    rfl
  have held := rep.sound.held t .producer index mine
  have inside : index % n < s.queue.nodes.length := by
    rw [rep.length]
    exact Nat.mod_lt _ rep.sound.sized
  have slots : (fun j => (s.queue.nodes.set (index % n) call.node)[j]?.join) =
      update (fun j => s.queue.nodes[j]?.join) (index % n) call.node := by
    funext j
    by_cases same : j = index % n
    · rw [same, getElem?_set_self inside, update_self]
      rfl
    · rw [getElem?_set_ne (fun h => same h.symm), update_of_ne same]
  have ring : ringOf { s.setThread t (some (call, next)) with
      queue := { s.queue with nodes := s.queue.nodes.set (index % n) call.node } } log =
      (ringOf s log).store n index call.node := by
    have moved : ringOf (s.setThread t (some (call, next))) log = ringOf s log :=
      ringOf_setThread (ticket.trans mine.symm)
    rw [← moved]
    simp only [ringOf, slots]
    rfl
  exact { rep with
    sound := ring ▸ rep.sound.store held
    single := ring ▸ rep.single
    tails := ring ▸ rep.tails
    length := (length_set ..).trans rep.length
    threads := by
      rw [ring]
      refine forall_threads ?_ ?_
      · intro call' pc' h
        cases h
        exact ok
      · intro u call' pc' other h
        have theirs := rep.threads u call' pc' h
        refine ⟨theirs.user, theirs.node, theirs.pcOk.store rep.sound held ?_⟩
        intro side j held'
        rw [← h] at held'
        refine ⟨rep.sound.held u side j held', fun isSame eq => other ?_⟩
        rw [isSame, eq] at held'
        exact rep.sound.distinct u t _ held' mine }

lemma finish (rep : Represents users n s log) {next index}
    (here : s.threads t = some (call, .publish next index)) :
    Represents users n { s.setThread t none with queue := s.queue.setTail next call.side }
      (fun side => log side ++
        completed [QueueEvent.completed t call.side index call.node] side) := by
  have ok := rep.threads t call _ here
  obtain ⟨word, first, accessed⟩ := ok.pcOk
  have mine : (ringOf s log).ticket t = some (call.side, (ringOf s log).served call.side) := by
    change ticketOf (s.threads t) = _
    rw [here, ← first]
    rfl
  rw [first] at accessed
  have finished : (fun side => (log side ++
      completed [QueueEvent.completed t call.side index call.node] side).map Prod.snd) =
      update (fun side => (log side).map Prod.snd) call.side
        ((log call.side).map Prod.snd ++ [call.node]) := by
    funext side
    rw [completed_singleton]
    by_cases same : side = call.side
    · rw [same, if_pos rfl, update_self, map_append]
      rfl
    · rw [if_neg (fun h => same h.symm), update_of_ne same, append_nil]
  have tickets : (fun u => ticketOf (update s.threads t none u)) =
      update (fun u => ticketOf (s.threads u)) t none := by
    funext u
    by_cases same : u = t
    · rw [same, update_self, update_self]
      rfl
    · rw [update_of_ne same, update_of_ne same]
  have ring : ringOf { s.setThread t none with queue := s.queue.setTail next call.side }
      (fun side => log side ++ completed [QueueEvent.completed t call.side index call.node] side) =
      (ringOf s log).finish call.side t call.node := by
    simp only [ringOf, QueueState.setThread, Ring.finish, nodes_setTail, finished, tickets]
  exact { rep with
    sound := ring ▸ rep.sound.finish mine accessed
    single := ring ▸ rep.single.finish mine fun _ => ok.eq_owner
    heads := fun side => head_setTail.trans (rep.heads side)
    tails := by
      intro side
      rw [ring]
      by_cases same : side = call.side
      · subst same
        rw [served_finish_self, ← first, ← word]
        exact tail_setTail_self
      · rw [served_finish_of_ne same, ← rep.tails side]
        exact tail_setTail_of_ne same
    mask := mask_setTail.trans rep.mask
    length := (congrArg List.length nodes_setTail).trans rep.length
    threads := by
      rw [ring]
      refine forall_threads (fun _ _ h => by cases h) ?_
      intro u call' pc' other h
      have theirs := rep.threads u call' pc' h
      refine ⟨theirs.user, theirs.node, theirs.pcOk.finish fun j held => ?_⟩
      rw [← h] at held
      exact rep.sound.ne_served mine other held rfl
    indexed := by
      intro side
      rw [completed_singleton]
      by_cases same : call.side = side
      · subst same
        have position : index = (log call.side).length := by
          rw [first, served]
          exact length_map ..
        rw [if_pos rfl, map_append, rep.indexed, length_append, length_singleton,
          range_succ, position]
        rfl
      · rw [if_neg same, append_nil]
        exact rep.indexed side
    nodes := by
      intro entry mem
      rw [completed_singleton] at mem
      cases mem_append.mp mem with
      | inl old => exact rep.nodes entry old
      | inr new =>
        split at new
        next isProducer =>
          rw [mem_singleton.mp new]
          exact ok.node isProducer
        · cases new }

end Represents

end DSoftBus.Queue
