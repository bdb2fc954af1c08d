import DSoftBus.DFile.SessionRules

/-!
Transfers of a server session that are done stay done. The session remembers their numbers
in a bounded list, and a late HEADER frame creates a transfer again only after its number
has been forgotten for others.

A number is recorded when its transfer is destroyed: while a transfer lives no other one
has its number, and that of a new one is not in the list.
-/
namespace DSoftBus.DFile
open Effect Execution DFileTrans BoundedMemory RecordHeap List

def recordedOthers (transId : BitVec 16) (events : List SessionEvent) : List (BitVec 16) :=
  events.filterMap fun
    | .transDestroyed other _ => if other = transId then none else some other
    | _ => none

/-- A transfer that was destroyed is created again only when enough others have been
recorded since, and recording does not fail. -/
def NotResurrected (maxSize : Nat) (past : List SessionEvent) : SessionEvent → Prop
  | .transCreated transId => ∀ before recorded since,
      past = before ++ .transDestroyed transId recorded :: since →
        maxSize - 1 ≤ (recordedOthers transId since).toFinset.card
  | .transDestroyed _ recorded => recorded
  | _ => True

def InMemory (list : TransStateList) : SessionEvent → List SessionEvent → Prop
  | .transDestroyed transId _, since =>
    (recordedOthers transId since).toFinset.card < list.maxSize - 1 →
      Remembered transId (recordedOthers transId since).reverse list.transIds
  | _, _ => True

structure Remembers (s : Session) (past : List SessionEvent) : Prop where
  server : s.isClient = false
  sound : TransStateList.Sound s.tranIdStateList
  maxSize : s.tranIdStateList.maxSize = maxTranStateListSize
  distinct : ∀ g h t u, s.trans.get? g = some t → s.trans.get? h = some u →
    t.transId = u.transId → g = h
  fresh : ∀ h t, s.trans.get? h = some t → t.transId ∉ s.tranIdStateList.transIds
  inMemory : Followed (InMemory s.tranIdStateList) past
  justified : Justified (NotResurrected maxTranStateListSize) past

section
variable {s : Session} {past since : List SessionEvent} {event : SessionEvent}
  {list : TransStateList} {tid : BitVec 16}

def SessionEvent.unrecorded : SessionEvent → Bool
  | .transDestroyed _ _ => false
  | _ => true

lemma recordedOthers_concat (unrecorded : event.unrecorded) :
    recordedOthers tid (since ++ [event]) = recordedOthers tid since := by
  rw [recordedOthers, filterMap_append]
  cases event with
  | transDestroyed _ _ => cases unrecorded
  | trans _ _ | transCreated _ | rstHandled _ | settingHandled _ => simp [recordedOthers]

lemma recordedOthers_concat_self (recorded) :
    recordedOthers tid (since ++ [.transDestroyed tid recorded]) =
      recordedOthers tid since := by
  simp [recordedOthers, filterMap_append]

lemma recordedOthers_concat_other {other} (ne : other ≠ tid) (recorded) :
    recordedOthers tid (since ++ [.transDestroyed other recorded]) =
      recordedOthers tid since ++ [other] := by
  simp [recordedOthers, filterMap_append, ne]

lemma inMemory_concat (unrecorded : event.unrecorded)
    (inMemory : Followed (InMemory list) past) : Followed (InMemory list) (past ++ [event]) := by
  refine followed_concat inMemory (fun p since old => ?_) ?_
  · cases p with
    | transDestroyed tid recorded =>
      rw [InMemory, recordedOthers_concat unrecorded]
      exact old
    | trans _ _ | transCreated _ | rstHandled _ | settingHandled _ => trivial
  · cases event with
    | transDestroyed _ _ => cases unrecorded
    | trans _ _ | transCreated _ | rstHandled _ | settingHandled _ => trivial

lemma Remembers.concat (inv : Remembers s past) (unrecorded : event.unrecorded)
    (justified : NotResurrected maxTranStateListSize past event) : Remembers s (past ++ [event]) :=
  { inv with
    inMemory := inMemory_concat unrecorded inv.inMemory
    justified := justified_concat.mpr ⟨inv.justified, justified⟩ }

end

section
variable {s s' : Session} {past : List SessionEvent} {h : Nat} {t t' : DFileTrans}

lemma Remembers.congr (inv : Remembers s past) (isClient : s'.isClient = s.isClient)
    (list : s'.tranIdStateList = s.tranIdStateList) (numbers : ∀ g u, s'.trans.get? g = some u →
      ∃ t, s.trans.get? g = some t ∧ t.transId = u.transId) : Remembers s' past := by
  refine ⟨isClient.trans inv.server, list ▸ inv.sound, list ▸ inv.maxSize,
    fun g h t u here there same => ?_, fun h t here => ?_, list ▸ inv.inMemory,
    inv.justified⟩
  · obtain ⟨t', old, number⟩ := numbers g t here
    obtain ⟨u', other, number'⟩ := numbers h u there
    exact inv.distinct g h t' u' old other (number.trans (same.trans number'.symm))
  · obtain ⟨t', old, number⟩ := numbers h t here
    rw [list, ← number]
    exact inv.fresh h t' old

lemma Remembers.put (inv : Remembers s past) (here : s.trans.get? h = some t)
    (same : SameTrans t t') : Remembers (s.putTrans h t') past := by
  refine inv.congr rfl rfl fun g u found => ?_
  rcases get?_modify_eq_some found with ⟨_, old⟩ | ⟨rfl, _, _, rfl⟩
  · exact ⟨u, old, rfl⟩
  · exact ⟨t, here, same.transId.symm⟩

lemma Remembers.setMtu (inv : Remembers s past) (mtu) : Remembers (s.setMtu mtu) past := by
  refine inv.congr rfl rfl fun g u found => ?_
  obtain ⟨t, here, rfl⟩ := Option.map_eq_some_iff.mp (get?_map.symm.trans found)
  exact ⟨t, here, (transId_setMtu mtu).symm⟩

lemma inMemory_record {list list' tid}
    (sound : TransStateList.Sound list) (maxSize : list'.maxSize = list.maxSize)
    (ids : list'.transIds = record list.maxSize tid list.transIds)
    (new : tid ∉ list.transIds) (inMemory : Followed (InMemory list) past) :
    Followed (InMemory list') (past ++ [.transDestroyed tid true]) := by
  refine followed_concat inMemory (fun p since old => ?_) fun few => ?_
  · cases p with
    | transDestroyed other recorded =>
      intro few
      rw [ids]
      rw [maxSize] at few
      by_cases same : tid = other
      · subst same
        rw [recordedOthers_concat_self] at few ⊢
        exact (old few).record_self
      · rw [recordedOthers_concat_other same] at few ⊢
        have fewer : (recordedOthers other since).toFinset.card < list.maxSize - 1 := by
          refine lt_of_le_of_lt (Finset.card_le_card fun id mem => ?_) few
          rw [mem_toFinset] at mem ⊢
          exact mem_append_left _ mem
        rw [reverse_concat]
        refine (old fewer).record sound.distinct ?_
        rwa [← reverse_concat, toFinset_reverse]
    | trans _ _ | transCreated _ | rstHandled _ | settingHandled _ => trivial
  · rw [ids]
    refine remembered_record ?_ new
    rw [maxSize] at few
    omega

lemma Remembers.destroy (inv : Remembers s past) (here : s.trans.get? h = some t) :
    Remembers (s.destroyTrans h t) (past ++ [.transDestroyed t.transId
      (s.tranIdStateList.setTransIdState s.isClient t.transId .done).2]) := by
  obtain ⟨list', result, sound, maxSize, ids⟩ :=
    TransStateList.setTransIdState_done inv.sound t.transId
  have list : (s.destroyTrans h t).tranIdStateList = list' := by
    rw [Session.destroyTrans, inv.server, result]
  have recorded : (s.tranIdStateList.setTransIdState s.isClient t.transId .done).2 := by
    rw [inv.server, result]
  rw [← list] at sound maxSize ids
  rw [recorded]
  refine ⟨inv.server, sound, maxSize.trans inv.maxSize,
    fun g k u w found other same => ?_, fun g u found => ?_,
    inMemory_record inv.sound maxSize ids (inv.fresh h t here) inv.inMemory,
    justified_concat.mpr ⟨inv.justified, rfl⟩⟩
  · exact inv.distinct g k u w (get?_of_free found)
      (get?_of_free other) same
  · have old := get?_of_free found
    intro mem
    rw [ids] at mem
    rcases mem_of_mem_record mem with same | known
    · exact ne_of_get?_free found (inv.distinct g h u t old here same)
    · exact inv.fresh g u old known

lemma Remembers.create {tid} (inv : Remembers s past)
    (number : t.transId = tid) (unknown : s.findTrans tid = none)
    (notDone : s.tranIdStateList.isTransIdDone s.isClient tid = false) :
    Remembers (s.addTrans t) (past ++ [.transCreated tid]) := by
  have absent : tid ∉ s.tranIdStateList.transIds := by
    intro mem
    simp [inv.server, (TransStateList.isTransIdDone_server inv.sound).mpr mem] at notDone
  have other {g u} (old : s.trans.get? g = some u) : u.transId ≠ tid := by
    have missed := not_of_oldest?_eq_none unknown old
    simpa using missed
  have added : Remembers (s.addTrans t) past := by
    refine { inv with
      distinct := fun g k u w found found' same => ?_
      fresh := fun g u found => ?_ }
    · rcases get?_alloc_eq_some found with ⟨rfl, rfl⟩ | old
      · rcases get?_alloc_eq_some found' with ⟨rfl, rfl⟩ | old'
        · rfl
        · exact absurd (same.symm.trans number) (other old')
      · rcases get?_alloc_eq_some found' with ⟨rfl, rfl⟩ | old'
        · exact absurd (same.trans number) (other old)
        · exact inv.distinct g k u w old old' same
    · rcases get?_alloc_eq_some found with ⟨rfl, rfl⟩ | old
      · rwa [number]
      · exact inv.fresh g u old
  refine added.concat rfl fun before recorded since split => ?_
  by_contra few
  have kept := inv.inMemory before _ since split
  rw [InMemory, inv.maxSize] at kept
  exact absent (kept (not_le.mp few)).mem

end

lemma kept_remembers : Kept (fun _ => True) Remembers where
  todo inv _ := inv.congr rfl rfl fun _ u found => ⟨u, found, rfl⟩
  put inv here same := inv.put here same
  emit inv _ _ := inv.concat rfl trivial
  destroy inv here := inv.destroy here
  create inv unknown notDone := inv.create (transId_setMtu _) unknown notDone
  start inv client := by
    simp [inv.server] at client
  clientSetting inv client := by
    simp [inv.server] at client
  serverSetting {s past peers addr} inv _ := by
    have same : Remembers { s with peers := peers } past :=
      inv.congr rfl rfl fun _ u found => ⟨u, found, rfl⟩
    exact same.concat rfl trivial
  rst inv _ _ := (inv.setMtu 0).concat rfl trivial

lemma remembers_create (capsTcp config peers) :
    Remembers (Session.create false capsTcp config peers) [] := by
  have none (h) : (Session.create false capsTcp config peers).trans.get? h = none := rfl
  refine ⟨rfl, TransStateList.sound_init (by decide), rfl, fun g _ _ _ found => ?_,
    fun h _ found => ?_, followed_nil _, justified_nil _⟩
  · simp [none g] at found
  · simp [none h] at found

theorem run_notResurrected (capsTcp : Bool) (config : DFileTransConfig) (peers : List Peer)
    (inputs : List SessionInput) (s : Session) (out : List SessionEvent)
    (result : run sessionStep (Session.create false capsTcp config peers) inputs = some (s, out)) :
    Justified (NotResurrected s.tranIdStateList.maxSize) out ∧
      s.tranIdStateList.items.length ≤ s.tranIdStateList.maxSize ∧
      s.tranIdStateList.transIds.Nodup := by
  have unguarded : AllSteps sessionStep (Guarded fun _ => True)
      (Session.create false capsTcp config peers) inputs := by
    intro front input back _ s out _
    cases input with
    | post job => trivial
    | work env =>
      intro task mem
      cases task with
      | handleFrame addr frame => cases frame <;> simp [Before]
      | _ => trivial
  have remembers := run_kept kept_remembers (fun _ _ _ => trivial)
    (remembers_create capsTcp config peers) rfl unguarded result
  refine ⟨?_, le_of_lt remembers.sound.spare, remembers.sound.distinct⟩
  rw [remembers.maxSize]
  exact remembers.justified

/-- A transfer fails on the disk, and its HEADER frame comes once more. -/
def lateHeader : List SessionInput :=
  [.post (.frame 1 (.setting 1000)), .work .good, .post (.frame 1 (.trans 7 .fileHeader))] ++
    replicate 9 (.work .good) ++ [.post (.fileManagerMsg 7 0 .receiveFail), .work .good,
      .post (.frame 1 (.trans 7 .fileHeader)), .work .good]

theorem run_notResurrected_lateHeader :
    ∃ s out,
      run sessionStep (Session.create false true defaultConfig []) lateHeader = some (s, out) ∧
      .transDestroyed 7 true ∈ out ∧ Justified (NotResurrected s.tranIdStateList.maxSize) out ∧
      s.tranIdStateList.items.length ≤ s.tranIdStateList.maxSize ∧
      s.tranIdStateList.transIds.Nodup := by
  have finished : ∃ r ∈ run sessionStep (Session.create false true defaultConfig []) lateHeader,
      .transDestroyed 7 true ∈ r.2 := by
    decide +kernel
  obtain ⟨⟨s, out⟩, result, destroyed⟩ := finished
  exact ⟨s, out, result, destroyed, run_notResurrected _ _ _ _ s out result⟩

end DSoftBus.DFile
