import DSoftBus.Lnn.NetBuilder
import DSoftBus.Lnn.ConnectionFsmSteps

/-!
The bookkeeping of the net builder over whole runs: the counter, the limit, the ids and
the memory of the linked machines. Three things can break it: a join whose message cannot
be sent frees its new machine without unlinking it; the 16-bit id of a new machine may be
that of a live one; and a clean request may come from an unlinked machine while another
has its id.
-/
namespace DSoftBus.Lnn

open Execution NetBuilder List KeyedList Linked

namespace NetBuilder

/-- The counter counts the linked machines, up to the limit, and they are whole and told apart
by their ids. -/
structure Bookkept (nb : NetBuilder) : Prop where
  counted : nb.connCount = nb.fsmList.length
  bounded : nb.connCount ≤ nb.maxConnCount
  whole : ∀ item ∈ nb.fsmList, item.freed = false
  distinct : (nb.fsmList.map fun item => item.fsm.id).Nodup

structure Numbered (nb : NetBuilder) : Prop where
  id : ∀ item ∈ nb.fsmList, item.fsm.id = .ofNat 16 item.serial
  made : ∀ item ∈ nb.fsmList, item.serial ≤ nb.created
  serials : (nb.fsmList.map serial).Nodup

def tag (item : Linked) : Nat × BitVec 16 × Bool := (item.serial, item.fsm.id, item.freed)

/-- A step that leaves the bookkeeping alone, but for ids that were taken in vain. -/
structure SameBooks (nb nb' : NetBuilder) : Prop where
  tags : nb'.fsmList.map tag = nb.fsmList.map tag
  connCount : nb'.connCount = nb.connCount
  maxConnCount : nb'.maxConnCount = nb.maxConnCount
  created : nb.created ≤ nb'.created

lemma SameBooks.refl (nb) : SameBooks nb nb := ⟨rfl, rfl, rfl, le_rfl⟩

variable {nb nb' : NetBuilder} {posted : Nat → Bool} {out : List NetAction} {event : NetEvent}

lemma SameBooks.mem (same : SameBooks nb nb') {item} (mem : item ∈ nb'.fsmList) :
    ∃ old ∈ nb.fsmList, tag old = tag item := by
  have there : tag item ∈ nb'.fsmList.map tag := mem_map_of_mem mem
  rw [same.tags] at there
  obtain ⟨old, mem', eq⟩ := mem_map.mp there
  exact ⟨old, mem', eq⟩

lemma SameBooks.map {β : Type*} (same : SameBooks nb nb') (read : Nat × BitVec 16 × Bool → β) :
    nb'.fsmList.map (read ∘ tag) = nb.fsmList.map (read ∘ tag) := by
  rw [← map_map, same.tags, map_map]

lemma SameBooks.bookkept (same : SameBooks nb nb') (books : nb.Bookkept) : nb'.Bookkept where
  counted := by
    have length := congrArg length same.tags
    rw [length_map, length_map] at length
    rw [same.connCount, books.counted, length]
  bounded := by
    rw [same.connCount, same.maxConnCount]
    exact books.bounded
  whole item mem := by
    obtain ⟨old, mem', eq⟩ := same.mem mem
    exact (congrArg (·.2.2) eq).symm.trans (books.whole old mem')
  distinct := (same.map (·.2.1)).symm ▸ books.distinct

lemma SameBooks.bookkept_iff (same : SameBooks nb nb') (created : nb'.created = nb.created) :
    nb'.Bookkept ↔ nb.Bookkept := by
  refine ⟨fun books => ?_, same.bookkept⟩
  have back : SameBooks nb' nb :=
    ⟨same.tags.symm, same.connCount.symm, same.maxConnCount.symm, le_of_eq created⟩
  exact back.bookkept books

lemma Numbered.of_map (num : nb.Numbered)
    (same : nb'.fsmList.map (fun item => (item.serial, item.fsm.id)) =
      nb.fsmList.map fun item => (item.serial, item.fsm.id)) (created : nb.created ≤ nb'.created) :
    nb'.Numbered := by
  have mem (item : Linked) (there : item ∈ nb'.fsmList) :
      ∃ old ∈ nb.fsmList, old.serial = item.serial ∧ old.fsm.id = item.fsm.id := by
    have pair : (item.serial, item.fsm.id) ∈
        nb'.fsmList.map fun item => (item.serial, item.fsm.id) := mem_map.mpr ⟨item, there, rfl⟩
    rw [same] at pair
    simpa using pair
  refine ⟨fun item there => ?_, fun item there => ?_, ?_⟩
  · obtain ⟨old, there', serial, id⟩ := mem item there
    rw [← id, ← serial]
    exact num.id old there'
  · obtain ⟨old, there', serial, -⟩ := mem item there
    rw [← serial]
    exact (num.made old there').trans created
  · have serials := congrArg (map Prod.fst) same
    rw [map_map, map_map] at serials
    exact serials.symm ▸ num.serials

lemma SameBooks.numbered (same : SameBooks nb nb') (num : nb.Numbered) : nb'.Numbered :=
  num.of_map (same.map fun entry => (entry.1, entry.2.1)) same.created

lemma sameBooks_update {nb serial f}
    (keeps : ∀ item, tag (f item) = tag item) : SameBooks nb (nb.update serial f) :=
  ⟨map_update_same (fun item _ => keeps item) nb.fsmList, rfl, rfl, le_rfl⟩

lemma tag_send {posted msg mark} (keeps : ∀ fsm, (mark fsm).id = fsm.id) (item : Linked) :
    tag (item.send posted msg mark) = tag item := by
  unfold send
  split
  · rfl
  next sent h =>
    obtain ⟨-, rfl⟩ := sendToConnFsm_eq_some h
    rw [tag, tag, keeps]

lemma id_markJoin (report fsm) : (markJoin fsm report).id = fsm.id := by
  cases report <;> rfl

lemma id_markLeave (reason fsm) : (markLeave fsm reason).id = fsm.id := by
  cases reason <;> rfl

lemma sameBooks_sendTo (nb found posted msg) : SameBooks nb (nb.sendTo found posted msg) := by
  unfold sendTo
  split
  · exact .refl nb
  · exact sameBooks_update (tag_send fun _ => rfl)

lemma sameBooks_sendToAll {fits msg} {mark} (keeps : ∀ fsm, (mark fsm).id = fsm.id) :
    SameBooks nb (nb.sendToAll fits posted msg mark) := by
  refine ⟨?_, rfl, rfl, le_rfl⟩
  simp only [sendToAll, map_map]
  refine map_congr_left fun item _ => ?_
  simp only [Function.comp_apply]
  split
  · exact tag_send keeps item
  · rfl

lemma sameBooks_fsmHandle {serial k env} (distinct : (nb.fsmList.map Linked.serial).Nodup)
    (done : nb.fsmHandle serial k env = some (nb', out)) : SameBooks nb nb' := by
  unfold fsmHandle at done
  split at done
  · cases done
    exact .refl nb
  rename_i item found
  obtain ⟨handled, hHandled, same⟩ := Option.map_eq_some_iff.mp done
  cases same
  have keeps (other : Linked) (mem : other ∈ nb.fsmList) (here : other.serial = serial) :
      tag { other with fsm := handled.1 } = id (tag other) := by
    have found' := (lookup_eq_some distinct).mpr ⟨mem, here⟩
    cases found.symm.trans found'
    rw [tag, (sameMachine_handleMessage hHandled).id]
    rfl
  have mapped : (KeyedList.update Linked.serial serial (fun item => { item with fsm := handled.1 })
      nb.fsmList).map tag = KeyedList.update Prod.fst serial id (nb.fsmList.map tag) :=
    KeyedList.map_update (fun _ => rfl) keeps
  exact ⟨mapped.trans (KeyedList.update_id _), rfl, rfl, le_rfl⟩

def Starts (nb : NetBuilder) (env : StartEnv) : Prop :=
  nb.connCount < nb.maxConnCount ∧ env.allocated ∧ env.initialised ∧ env.started
deriving Decidable

def FreshId (nb : NetBuilder) : Prop := ∀ item ∈ nb.fsmList, item.fsm.id ≠ nb.nextConnectionFsmId
deriving Decidable

def withMachine (nb : NetBuilder) (fsm : LnnConnectionFsm) : NetBuilder :=
  { nb with
    fsmList := { serial := nb.created + 1, fsm := fsm } :: nb.fsmList
    connCount := nb.connCount + 1
    created := nb.created + 1 }

lemma startNewConnectionFsm_of_starts {env make}
    (starts : nb.Starts env) : nb.startNewConnectionFsm env make =
      (nb.withMachine (make nb.nextConnectionFsmId),
        some { serial := nb.created + 1, fsm := make nb.nextConnectionFsmId }) := by
  obtain ⟨room, allocated, initialised, started⟩ := starts
  simp [startNewConnectionFsm, withMachine, Int.not_le.mpr room, allocated, initialised, started]

lemma startNewConnectionFsm_of_not_starts {env} (make : BitVec 16 → LnnConnectionFsm)
    (fails : ¬nb.Starts env) :
    ∃ next, nb.startNewConnectionFsm env make = (next, none) ∧ SameBooks nb next := by
  by_cases full : (nb.maxConnCount : Int) ≤ nb.connCount
  · exact ⟨nb, by simp [startNewConnectionFsm, full], .refl nb⟩
  cases allocated : env.allocated with
  | false => exact ⟨nb, by simp [startNewConnectionFsm, full, allocated], .refl nb⟩
  | true =>
    refine ⟨{ nb with created := nb.created + 1 }, ?_, ⟨rfl, rfl, rfl, Nat.le_succ _⟩⟩
    have broken : env.initialised = false ∨ env.started = false := by
      by_contra fine
      simp only [not_or, Bool.not_eq_false] at fine
      exact fails ⟨not_le.mp full, allocated, fine.1, fine.2⟩
    cases broken with
    | inl h | inr h => simp [startNewConnectionFsm, full, allocated, h]

lemma bookkept_withMachine_iff {fsm} (room : nb.connCount < nb.maxConnCount)
    (id : fsm.id = nb.nextConnectionFsmId) (books : nb.Bookkept) :
    (nb.withMachine fsm).Bookkept ↔ nb.FreshId := by
  constructor
  · intro books' item mem same
    have distinct := books'.distinct
    rw [withMachine, map_cons, nodup_cons] at distinct
    refine distinct.1 (mem_map.mpr ⟨item, mem, ?_⟩)
    rw [same, id]
  · intro fresh
    refine ⟨?_, ?_, fun item mem => ?_, ?_⟩
    · simp only [withMachine, length_cons, books.counted]
      omega
    · simp only [withMachine]
      omega
    · cases mem with
      | head => rfl
      | tail _ mem => exact books.whole item mem
    · rw [withMachine, map_cons, nodup_cons]
      refine ⟨fun there => ?_, books.distinct⟩
      obtain ⟨item, mem, same⟩ := mem_map.mp there
      exact fresh item mem (same.trans id)

lemma numbered_withMachine {fsm} (id : fsm.id = nb.nextConnectionFsmId)
    (num : nb.Numbered) : (nb.withMachine fsm).Numbered where
  id item mem := by
    cases mem with
    | head => exact id
    | tail _ mem => exact num.id item mem
  made item mem := by
    cases mem with
    | head => exact le_rfl
    | tail _ mem => exact (num.made item mem).trans (Nat.le_succ _)
  serials := by
    rw [withMachine, map_cons, nodup_cons]
    refine ⟨fun there => ?_, num.serials⟩
    obtain ⟨item, mem, same⟩ := mem_map.mp there
    have := num.made item mem
    simp only at same
    omega

def NeedsNew (found : Option Linked) : Prop := (found.filter fun item => !item.fsm.isDead) = none
deriving Decidable

def JoinOrderly (nb : NetBuilder) (addr : ConnectionAddr) (env : StartEnv) : Prop :=
  NeedsNew (nb.findConnectionFsmByAddr addr) ∧ nb.Starts env → env.sent ∧ nb.FreshId

lemma trySendJoinLNNRequest_iff (addr report env) (books : nb.Bookkept) :
    (nb.trySendJoinLNNRequest addr report env).1.Bookkept ↔ nb.JoinOrderly addr env := by
  have keeps (nb serial) :
      SameBooks nb (nb.update serial (send true .joinLNN (markJoin · report))) :=
    sameBooks_update (tag_send (id_markJoin report))
  simp only [trySendJoinLNNRequest]
  cases found : (nb.findConnectionFsmByAddr addr).filter fun item => !item.fsm.isDead with
  | some item =>
    have ok : nb.JoinOrderly addr env := fun needs =>
      absurd (found.symm.trans needs.1) (Option.some_ne_none item)
    cases env.sent with
    | true => exact iff_of_true ((keeps nb item.serial).bookkept books) ok
    | false => exact iff_of_true books ok
  | none =>
    by_cases starts : nb.Starts env
    · rw [startNewConnectionFsm_of_starts starts]
      have linked : (nb.withMachine (lnnCreateConnectionFsm nb.nextConnectionFsmId addr)).Bookkept ↔
          nb.FreshId := bookkept_withMachine_iff starts.1 rfl books
      cases sent : env.sent with
      | true =>
        have same := keeps (nb.withMachine (lnnCreateConnectionFsm nb.nextConnectionFsmId addr))
          (nb.created + 1)
        refine (same.bookkept_iff rfl).trans (linked.trans ?_)
        exact ⟨fun fresh _ => ⟨sent, fresh⟩, fun ok => (ok ⟨found, starts⟩).2⟩
      | false =>
        refine ⟨fun books' => ?_, fun ok => ?_⟩
        · have whole := books'.whole
            ⟨nb.created + 1, lnnCreateConnectionFsm nb.nextConnectionFsmId addr, true⟩
            (by simp [update, withMachine, KeyedList.update])
          cases whole
        · exact absurd (sent.symm.trans (ok ⟨found, starts⟩).1) Bool.false_ne_true
    · obtain ⟨next, started, same⟩ :=
        startNewConnectionFsm_of_not_starts (fun id => lnnCreateConnectionFsm id addr) starts
      rw [started]
      exact iff_of_true (same.bookkept books) fun needs => absurd needs.2 starts

lemma numbered_startNewConnectionFsm (env) (make : BitVec 16 → LnnConnectionFsm)
    (id : ∀ id, (make id).id = id) (num : nb.Numbered) :
    (nb.startNewConnectionFsm env make).1.Numbered := by
  by_cases starts : nb.Starts env
  · rw [startNewConnectionFsm_of_starts starts]
    exact numbered_withMachine (id _) num
  · obtain ⟨next, started, same⟩ := startNewConnectionFsm_of_not_starts make starts
    rw [started]
    exact same.numbered num

lemma numbered_update {serial f}
    (keeps : ∀ item, ((f item).serial, (f item).fsm.id) = (item.serial, item.fsm.id))
    (num : nb.Numbered) : (nb.update serial f).Numbered :=
  num.of_map (map_update_same (fun item _ => keeps item) nb.fsmList) le_rfl

lemma numbered_trySendJoinLNNRequest (addr report env) (num : nb.Numbered) :
    (nb.trySendJoinLNNRequest addr report env).1.Numbered := by
  have keeps {nb : NetBuilder} (serial : Nat) (num : nb.Numbered) :
      (nb.update serial (send true .joinLNN (markJoin · report))).Numbered :=
    (sameBooks_update (tag_send (id_markJoin report))).numbered num
  have started := numbered_startNewConnectionFsm env (fun id => lnnCreateConnectionFsm id addr)
    (fun _ => rfl) num
  simp only [trySendJoinLNNRequest]
  split
  · cases env.sent with
    | true => exact keeps _ num
    | false => exact num
  · split
    next next h => rwa [h] at started
    next next item h =>
      rw [h] at started
      cases env.sent with
      | true => exact keeps _ started
      | false => exact numbered_update (fun _ => rfl) started

def KeyOrderly (nb : NetBuilder) (authId : Int) (env : StartEnv) : Prop :=
  NeedsNew (nb.findConnectionFsmByAuthId authId) ∧ nb.Starts env ∧ env.sent → nb.FreshId

lemma tag_keyed (version posted) (item : Linked) :
    tag ((setPeerVersion version item).send posted .authKeyGenerated id) = tag item :=
  tag_send (fun _ => rfl) _

lemma processAuthKeyGenerated_iff (authId addr version env) (books : nb.Bookkept) :
    (nb.processAuthKeyGenerated authId addr version env).Bookkept ↔
      nb.KeyOrderly authId env := by
  simp only [processAuthKeyGenerated]
  cases found : (nb.findConnectionFsmByAuthId authId).filter fun item => !item.fsm.isDead with
  | some item =>
    have same := @sameBooks_update nb item.serial _ (tag_keyed version env.sent)
    refine iff_of_true (same.bookkept books) fun needs => ?_
    exact absurd (found.symm.trans needs.1) (Option.some_ne_none item)
  | none =>
    by_cases starts : nb.Starts env
    · rw [startNewConnectionFsm_of_starts starts]
      cases sent : env.sent with
      | true =>
        have linked : (nb.withMachine
            (passiveConnectionFsm nb.nextConnectionFsmId addr authId)).Bookkept ↔ nb.FreshId :=
          bookkept_withMachine_iff starts.1 rfl books
        have same : SameBooks
            (nb.withMachine (passiveConnectionFsm nb.nextConnectionFsmId addr authId)) _ :=
          @sameBooks_update _ (nb.created + 1) _ (tag_keyed version true)
        refine (same.bookkept_iff rfl).trans (linked.trans ?_)
        exact ⟨fun fresh _ => fresh, fun ok => ok ⟨found, starts, sent⟩⟩
      | false =>
        refine iff_of_true (@SameBooks.bookkept nb _ ⟨?_, ?_, rfl, Nat.le_succ _⟩ books)
          fun needs => ?_
        · simp [unlink, withMachine, remove]
        · simp only [Bool.false_eq_true, if_false, unlink, withMachine]
          omega
        · exact absurd (sent.symm.trans needs.2.2) Bool.false_ne_true
    · obtain ⟨next, started, same⟩ :=
        startNewConnectionFsm_of_not_starts (fun id => passiveConnectionFsm id addr authId) starts
      rw [started]
      exact iff_of_true (same.bookkept books) fun needs => absurd needs.2.1 starts

lemma numbered_unlink (serial) (num : nb.Numbered) : (nb.unlink serial).Numbered where
  id item mem := num.id item (mem_of_mem_remove mem)
  made item mem := num.made item (mem_of_mem_remove mem)
  serials := num.serials.sublist ((eraseP_sublist).map _)

lemma numbered_processAuthKeyGenerated (authId addr version env) (num : nb.Numbered) :
    (nb.processAuthKeyGenerated authId addr version env).Numbered := by
  have keeps {nb : NetBuilder} (serial : Nat) (posted : Bool) (num : nb.Numbered) :
      (nb.update serial fun item =>
        (setPeerVersion version item).send posted .authKeyGenerated id).Numbered :=
    (sameBooks_update (tag_keyed version posted)).numbered num
  have started := numbered_startNewConnectionFsm env
    (fun id => passiveConnectionFsm id addr authId) (fun _ => rfl) num
  simp only [processAuthKeyGenerated]
  split
  · exact keeps _ _ num
  split
  next next h => rwa [h] at started
  next next item h =>
    rw [h] at started
    cases env.sent with
    | true => exact keeps _ _ started
    | false => exact numbered_unlink _ started

/-- The condition under which a clean request removes the machine it came from: the machine is
linked, or no linked machine has its id. -/
def CleanOrderly (nb : NetBuilder) (requester : Nat) : Prop :=
  (∃ item ∈ nb.fsmList, item.serial = requester) ∨
    ∀ item ∈ nb.fsmList, item.fsm.id ≠ .ofNat 16 requester
deriving Decidable

lemma sameBooks_tryInitiateNewNetworkOnline {cleaned}
    (done : nb.tryInitiateNewNetworkOnline cleaned posted = some (nb', out)) :
    SameBooks nb nb' := by
  simp only [tryInitiateNewNetworkOnline] at done
  split at done
  · cases done
    exact .refl nb
  split at done
  · cases done
    exact .refl nb
  split at done
  · split at done
    · cases done
      exact .refl nb
    · cases done
  · cases done
    exact sameBooks_sendToAll fun _ => rfl

lemma bookkept_unlink {item} (mem : item ∈ nb.fsmList) (books : nb.Bookkept) :
    (nb.unlink item.serial).Bookkept where
  counted := by
    have shorter : (remove serial item.serial nb.fsmList).length =
        nb.fsmList.length - 1 := length_eraseP_of_mem mem (by simp)
    have filled := length_pos_of_mem mem
    simp only [unlink, shorter, books.counted]
    omega
  bounded := by
    have := books.bounded
    simp only [unlink]
    omega
  whole other there := books.whole other (mem_of_mem_remove there)
  distinct := books.distinct.sublist ((eraseP_sublist).map _)

lemma findConnectionFsmByConnFsmId_eq_some {id item}
    (found : nb.findConnectionFsmByConnFsmId id = some item) :
    item ∈ nb.fsmList ∧ item.fsm.id = id := by
  rw [findConnectionFsmByConnFsmId] at found
  have here := find?_some found
  exact ⟨mem_of_find?_eq_some found, (of_decide_eq_true here).symm⟩

lemma processCleanConnectionFsm_found {cleaned id}
    (found : nb.findConnectionFsmByConnFsmId id = some cleaned)
    (done : nb.processCleanConnectionFsm id posted = some (nb', out)) :
    SameBooks (nb.unlink cleaned.serial) nb' := by
  rw [processCleanConnectionFsm, found] at done
  obtain ⟨result, hInitiate, same⟩ := Option.map_eq_some_iff.mp done
  cases same
  exact sameBooks_tryInitiateNewNetworkOnline hInitiate

lemma numbered_processCleanConnectionFsm {id} (num : nb.Numbered)
    (done : nb.processCleanConnectionFsm id posted = some (nb', out)) : nb'.Numbered := by
  cases found : nb.findConnectionFsmByConnFsmId id with
  | none =>
    rw [processCleanConnectionFsm, found] at done
    cases done
    exact num
  | some cleaned =>
    exact (processCleanConnectionFsm_found found done).numbered
      (numbered_unlink cleaned.serial num)

lemma processCleanConnectionFsm_iff {asker} (books : nb.Bookkept) (num : nb.Numbered)
    (done : nb.processCleanConnectionFsm (.ofNat 16 asker) posted = some (nb', out)) :
    nb'.Bookkept ∧ nb'.fsmList.map serial =
        (nb.fsmList.map serial).filter (· ≠ asker) ↔ nb.CleanOrderly asker := by
  cases found : nb.findConnectionFsmByConnFsmId (.ofNat 16 asker) with
  | none =>
    rw [processCleanConnectionFsm, found] at done
    cases done
    have absent (item : Linked) (mem : item ∈ nb.fsmList) : item.fsm.id ≠ .ofNat 16 asker := by
      have unequal := find?_eq_none.mp found item mem
      exact fun same => unequal (by simp [same])
    refine ⟨fun _ => .inr absent, fun _ => ⟨books, ?_⟩⟩
    refine (filter_eq_self.mpr fun serial mem => ?_).symm
    obtain ⟨item, mem', rfl⟩ := mem_map.mp mem
    simp only [ne_eq, decide_eq_true_eq]
    exact fun same => absent item mem' (same ▸ num.id item mem')
  | some cleaned =>
    have same := processCleanConnectionFsm_found found done
    obtain ⟨mem, id⟩ := findConnectionFsmByConnFsmId_eq_some found
    have left : nb'.fsmList.map serial = (nb.fsmList.map serial).filter (· ≠ cleaned.serial) :=
      (same.map (·.1)).trans (map_key_remove num.serials)
    rw [left]
    constructor
    · intro removed
      refine .inl ⟨cleaned, mem, ?_⟩
      by_contra other
      have stays : cleaned.serial ∈ (nb.fsmList.map serial).filter (· ≠ asker) :=
        mem_filter.mpr ⟨mem_map_of_mem mem, by simpa using other⟩
      rw [← removed.2] at stays
      simpa using (mem_filter.mp stays).2
    · intro ok
      have here : cleaned.serial = asker := by
        cases ok with
        | inl linked =>
          obtain ⟨item, mem', rfl⟩ := linked
          have sameId : item.fsm.id = cleaned.fsm.id := (num.id item mem').trans id.symm
          exact (congrArg serial
            (inj_on_of_nodup_map books.distinct mem' mem sameId)).symm
        | inr absent => exact absurd id (absent cleaned mem)
      exact ⟨same.bookkept (bookkept_unlink mem books), by rw [here]⟩

def Orderly (nb : NetBuilder) : NetEvent → Prop
  | .joinLNNRequest addr env | .devDiscovery addr env => nb.JoinOrderly addr env
  | .authKeyGenerated authId _ _ env => nb.KeyOrderly authId env
  | .cleanConnFsm requester _ => nb.CleanOrderly requester
  | _ => True

instance (nb : NetBuilder) (event : NetEvent) : Decidable (nb.Orderly event) := by
  cases event <;> simp only [Orderly, JoinOrderly, KeyOrderly] <;> infer_instance

/-- What holds after one step: the books are kept, and a clean request removes the machine
it came from and no other. -/
structure StepKept (nb : NetBuilder) (event : NetEvent) (nb' : NetBuilder) : Prop where
  books : nb'.Bookkept
  cleaned : ∀ requester posted, event = .cleanConnFsm requester posted →
    nb'.fsmList.map serial = (nb.fsmList.map serial).filter (· ≠ requester)

lemma StepKept.of_books (other : ∀ asker posted, event ≠ .cleanConnFsm asker posted) :
    nb.StepKept event nb' ↔ nb'.Bookkept :=
  ⟨StepKept.books, fun books => ⟨books, fun _ _ same => absurd same (other _ _)⟩⟩

def relinks : NetEvent → Bool
  | .joinLNNRequest .. | .devDiscovery .. | .authKeyGenerated .. | .cleanConnFsm .. => true
  | _ => false

section
variable (done : netBuilderProcess nb event = some (nb', out))
include done

lemma netBuilderProcess_sameBooks (serials : (nb.fsmList.map serial).Nodup)
    (quiet : relinks event = false) : SameBooks nb nb' := by
  cases event with
  | joinLNNRequest | devDiscovery | authKeyGenerated | cleanConnFsm => cases quiet
  | authDone | syncDeviceInfoDone | deviceNotTrusted | authDisconnect =>
    cases done
    exact sameBooks_sendTo _ _ _ _
  | leaveLNNRequest networkId posted =>
    cases done
    exact sameBooks_sendToAll (id_markLeave .request)
  | syncOfflineFinish networkId posted =>
    cases done
    exact sameBooks_sendToAll fun _ => rfl
  | leaveInvalidConn oldNetworkId cleanInfo posted =>
    cases done
    exact sameBooks_sendToAll (id_markLeave (.invalidConn cleanInfo))
  | leaveByAddrType type posted =>
    cases done
    exact sameBooks_sendToAll (id_markLeave .addrType)
  | fsmHandle serial k env => exact sameBooks_fsmHandle serials done

lemma netBuilderProcess_numbered (num : nb.Numbered) : nb'.Numbered := by
  cases event with
  | joinLNNRequest addr env =>
    have joined := numbered_trySendJoinLNNRequest addr true env num
    rwa [Option.some.inj done] at joined
  | devDiscovery addr env =>
    have joined := numbered_trySendJoinLNNRequest addr false env num
    rwa [Option.some.inj done] at joined
  | authKeyGenerated authId addr version env =>
    cases done
    exact numbered_processAuthKeyGenerated authId addr version env num
  | cleanConnFsm asker posted => exact numbered_processCleanConnectionFsm num done
  | _ =>
    exact (netBuilderProcess_sameBooks done num.serials rfl).numbered num

lemma netBuilderProcess_iff (books : nb.Bookkept) (num : nb.Numbered) :
    nb.StepKept event nb' ↔ nb.Orderly event := by
  cases event with
  | joinLNNRequest addr env =>
    have effect := trySendJoinLNNRequest_iff addr true env books
    rw [Option.some.inj done] at effect
    exact .trans (StepKept.of_books nofun) effect
  | devDiscovery addr env =>
    have effect := trySendJoinLNNRequest_iff addr false env books
    rw [Option.some.inj done] at effect
    exact .trans (StepKept.of_books nofun) effect
  | authKeyGenerated authId addr version env =>
    cases done
    exact .trans (StepKept.of_books nofun)
      (processAuthKeyGenerated_iff authId addr version env books)
  | cleanConnFsm asker posted =>
    refine .trans ⟨fun kept => ⟨kept.books, kept.cleaned asker posted rfl⟩,
      fun kept => ⟨kept.1, ?_⟩⟩ (processCleanConnectionFsm_iff books num done)
    rintro _ _ ⟨⟩
    exact kept.2
  | _ =>
    have same := netBuilderProcess_sameBooks done num.serials rfl
    exact .trans (StepKept.of_books nofun)
      ⟨fun _ => trivial, fun _ => same.bookkept books⟩

end

lemma netBuilderStep_eq_some (done : netBuilderStep nb event = some (nb', out)) :
    netBuilderProcess nb event = some (nb', out) := by
  rw [netBuilderStep] at done
  split at done
  · cases done
  · exact done

lemma numbered_init (maxConnCount) : (netBuilderInit maxConnCount).Numbered :=
  ⟨by simp [netBuilderInit], by simp [netBuilderInit], nodup_nil⟩

end NetBuilder

/-- The books are kept at every step of a run, and every clean request removes the machine it
came from, if and only if every step is orderly. -/
theorem netBuilder_books_iff (maxConnCount : Nat) {events : List NetEvent} {nb : NetBuilder}
    {outs : List NetAction}
    (hRun : run netBuilderStep (netBuilderInit maxConnCount) events = some (nb, outs)) :
    AllResults netBuilderStep (fun nb event nb' _ => nb.StepKept event nb')
        (netBuilderInit maxConnCount) events ↔
      AllSteps netBuilderStep NetBuilder.Orderly (netBuilderInit maxConnCount) events := by
  have books : (netBuilderInit maxConnCount).Bookkept :=
    ⟨by simp [netBuilderInit], by simp [netBuilderInit], by simp [netBuilderInit], nodup_nil⟩
  have one (t event t' out)
      (inv : t.Bookkept ∧ t.Numbered) (done : netBuilderStep t event = some (t', out)) :
      t.StepKept event t' ↔ t.Orderly event :=
    netBuilderProcess_iff (netBuilderStep_eq_some done) inv.1 inv.2
  refine allResults_iff_allSteps_of_inv one (fun t event t' out inv ok done => ?_)
    ⟨books, numbered_init maxConnCount⟩ hRun
  exact ⟨((one t event t' out inv done).mpr ok).books,
    netBuilderProcess_numbered (netBuilderStep_eq_some done) inv.2⟩

def brAddr : ConnectionAddr := ⟨.br, ⟨[90], by decide⟩, 0⟩

theorem netBuilder_books_iff_join : AllSteps netBuilderStep NetBuilder.Orderly (netBuilderInit 10)
        [.joinLNNRequest brAddr {}, .devDiscovery brAddr {}, .cleanConnFsm 1 fun _ => true] ∧
      AllResults netBuilderStep (fun nb event nb' _ => nb.StepKept event nb') (netBuilderInit 10)
        [.joinLNNRequest brAddr {}, .devDiscovery brAddr {}, .cleanConnFsm 1 fun _ => true] := by
  have orderly : AllSteps netBuilderStep NetBuilder.Orderly (netBuilderInit 10)
      [.joinLNNRequest brAddr {}, .devDiscovery brAddr {}, .cleanConnFsm 1 fun _ => true] := by
    decide +kernel
  have defined : (run netBuilderStep (netBuilderInit 10)
      [.joinLNNRequest brAddr {}, .devDiscovery brAddr {},
        .cleanConnFsm 1 fun _ => true]).isSome := by
    decide +kernel
  obtain ⟨⟨nb, outs⟩, hRun⟩ := Option.isSome_iff_exists.mp defined
  exact ⟨orderly, (netBuilder_books_iff 10 hRun).mpr orderly⟩

/-- The message to the new machine cannot be sent: the machine is freed and stays linked and
counted. -/
theorem freed_machine_linked :
    ∃ nb outs, run netBuilderStep (netBuilderInit 10) [.joinLNNRequest brAddr { sent := false }] =
        some (nb, outs) ∧ nb.connCount = 1 ∧ ∃ item ∈ nb.fsmList, item.freed := by
  refine ⟨_, _, rfl, ?_⟩
  decide +kernel

end DSoftBus.Lnn
