import DSoftBus.Auth.VerifyPass
import DSoftBus.Auth.SessionKey

/-!
Whose session key is used, and whose is removed. The key list knows an AuthManager by the
low half of its id, which the peer may choose, and holds a bounded number of keys. An
AuthManager is sure of its keys only in runs in which no two come to have ids with the
same low half and the list does not overflow, as `KeyGuarded` says.
-/
namespace DSoftBus.Auth
open Effect Execution RecordHeap List Option Nat Triple Event

def lastStored (h : Nat) (past : List Event) : Option SessionKeyList :=
  (past.filterMap (storedFor h)).getLast?

variable (ctx : AuthContext) (s : AuthState)

/-- Leaving and clearing remove only keys stored for the AuthManager, and the key found for it,
with which it also encrypts, is the one stored last. -/
def KeysIsolated (past : List Event) : Prop :=
  (∀ authId h t out, authFindManager s authId = some h →
    authStep ctx s (.leaveLNN authId) = some (t, out) →
    ∀ key ∈ s.keys, key ∉ t.keys → sessionKeyStored h key ∈ past) ∧
  ∀ h auth, s.auths.get? h = some auth →
    (∀ key ∈ s.keys, key ∉ authClearSessionKeyBySeq (seqOf auth.authId) s.keys →
      sessionKeyStored h key ∈ past) ∧
    authGetSessionKeyBySeq (seqOf auth.authId) s.keys = lastStored h past ∧
    ∀ gcm iv data bufLen, authEncryptBySeq gcm iv (seqOf auth.authId) data bufLen s.keys =
      authEncryptBySeq gcm iv (seqOf auth.authId) data bufLen (lastStored h past).toList

def FreshId (auths : RecordHeap AuthManager) (h : Nat) (authId : BitVec 64) : Prop :=
  ∀ c ∈ auths.cells, c.1 ≠ h → seqOf c.2.authId ≠ seqOf authId
deriving Decidable

def HichainCall.keyReturns : HichainCall → Nat
  | .onSessionKeyReturned _ _ _ _ => 1
  | _ => 0

def keyReturns (calls : List HichainCall) : Nat := (calls.map HichainCall.keyReturns).sum

/-- The ids given differ from the others in their low halves, no key is returned for the id 0,
and there is room for the keys. -/
def KeyGuarded (input : Input) : Prop :=
  (∀ new ∈ newIds ctx s input, FreshId s.auths new.1 new.2) ∧
    (∀ call ∈ input.hichainCalls, call.KeyAllowed (· ≠ 0)) ∧
    s.keys.length + keyReturns input.hichainCalls ≤ maxKeyListSize
deriving Decidable

structure Isolated (s : AuthState) (past : List Event) : Prop where
  distinct : DistinctSeqs s
  owned : ∀ key ∈ s.keys, ∃ h auth, s.auths.get? h = some auth ∧ auth.authId ≠ 0 ∧
    seqOf auth.authId = key.seq ∧ sessionKeyStored h key ∈ past
  latest : ∀ h auth, s.auths.get? h = some auth →
    authGetSessionKeyBySeq (seqOf auth.authId) s.keys = lastStored h past
  fresh : ∀ h, s.auths.next ≤ h → lastStored h past = none

lemma lastStored_concat (h past event) :
    lastStored h (past ++ [event]) = (event.storedFor h).or (lastStored h past) := by
  rw [lastStored, filterMap_append, getLast?_append, lastStored]
  cases hStored : event.storedFor h with
  | none => rw [filterMap_cons_none hStored]; rfl
  | some key => rw [filterMap_cons_some hStored]; rfl

lemma authGetSessionKeyBySeq_eq (seq keys) :
    authGetSessionKeyBySeq seq keys = KeyedList.lookup SessionKeyList.seq seq keys := rfl

lemma storedFor_neutral {event : Event} (neutral : event.Neutral) (h) :
    event.storedFor h = none := by
  cases event <;> first | rfl | exact neutral.elim

namespace Isolated
variable {s : AuthState} {past : List Event} {h : Nat} {auth : AuthManager}

section

variable (iso : Isolated s past)
include iso

lemma of_seq (hGet : s.auths.get? h = some auth)
    {key} (mem : key ∈ s.keys) (hSeq : key.seq = seqOf auth.authId) :
    auth.authId ≠ 0 ∧ sessionKeyStored h key ∈ past := by
  obtain ⟨g, owner, hOwn, hId, hOwned, hStored⟩ := iso.owned key mem
  have same : g = h :=
    distinctSeqs_iff.mp iso.distinct g h owner auth hOwn hGet (hOwned.trans hSeq)
  subst same
  rw [hGet] at hOwn
  cases hOwn
  exact ⟨hId, hStored⟩

lemma emit {event} (other : ∀ g, event.storedFor g = none) : Isolated s (past ++ [event]) where
  distinct := iso.distinct
  owned key mem := by
    obtain ⟨g, owner, hOwn, hId, hSeq, hStored⟩ := iso.owned key mem
    exact ⟨g, owner, hOwn, hId, hSeq, mem_append_left _ hStored⟩
  latest g owner hOwn := by
    rw [lastStored_concat, other g, none_or, iso.latest g owner hOwn]
  fresh g hNext := by rw [lastStored_concat, other g, none_or, iso.fresh g hNext]

lemma update {f} (sameId : ∀ auth, s.auths.get? h = some auth → (f auth).authId = auth.authId) :
    Isolated (s.update h f) past where
  distinct := iso.distinct.update sameId
  owned key mem := by
    obtain ⟨g, owner, hOwn, hId, hSeq, hStored⟩ := iso.owned key mem
    refine ⟨g, _, get?_modify_of_get? hOwn, ?_, ?_, hStored⟩
    all_goals
      split
      next same =>
        rw [sameId owner (same ▸ hOwn)]
        assumption
      · assumption
  latest g other hNe := by
    rcases get?_modify_eq_some hNe with ⟨_, hOld⟩ | ⟨rfl, old, hOld, rfl⟩
    · exact iso.latest g other hOld
    · rw [sameId old hOld]
      exact iso.latest g old hOld
  fresh := iso.fresh

lemma push (room : s.keys.length < maxKeyListSize)
    {key} (hGet : s.auths.get? h = some auth) (hId : auth.authId ≠ 0)
    (hSeq : key.seq = seqOf auth.authId) :
    Isolated (s.pushKey key) (past ++ [.sessionKeyStored h key]) := by
  have keys : (s.pushKey key).keys = key :: s.keys := by
    rw [AuthState.pushKey, RecentList.push, RecentList.evict_of_lt room]
  have other : ∀ {g}, g ≠ h → (sessionKeyStored h key).storedFor g = none :=
    fun different => if_neg different.symm
  refine ⟨iso.distinct, fun entry mem => ?_, fun g owner hOwn => ?_, fun g hNext => ?_⟩
  · rw [keys] at mem
    cases mem_cons.mp mem with
    | inl new =>
      subst new
      exact ⟨h, auth, hGet, hId, hSeq.symm, mem_concat_self⟩
    | inr old =>
      obtain ⟨g, owner, hOwn, hId, hSeq, hStored⟩ := iso.owned entry old
      exact ⟨g, owner, hOwn, hId, hSeq, mem_append_left _ hStored⟩
  · rw [keys, lastStored_concat]
    change s.auths.get? g = some owner at hOwn
    by_cases same : g = h
    · subst same
      rw [hGet] at hOwn
      cases hOwn
      rw [storedFor, if_pos rfl, some_or, authGetSessionKeyBySeq_eq,
        KeyedList.lookup_cons_self hSeq]
    · have apart : key.seq ≠ seqOf owner.authId := fun equal => same <|
        distinctSeqs_iff.mp iso.distinct g h owner auth hOwn hGet (equal ▸ hSeq)
      rw [other same, none_or, authGetSessionKeyBySeq_eq, KeyedList.lookup_cons_of_ne apart]
      exact iso.latest g owner hOwn
  · have notNew : g ≠ h := fun same => lt_irrefl _ <| lt_of_le_of_lt hNext (same ▸ lt_next hGet)
    rw [lastStored_concat, other notNew, none_or]
    exact iso.fresh g hNext

lemma alloc (new : FreshId s.auths s.auths.next auth.authId) :
    Isolated { s with auths := s.auths.alloc auth } past := by
  have unused : ∀ g other, s.auths.get? g = some other →
      seqOf other.authId ≠ seqOf auth.authId := by
    intro g other hNe
    exact new (g, other) (mem_of_get? hNe) (Nat.ne_of_lt (lt_next hNe))
  refine ⟨distinctSeqs_iff.mpr fun g k other owner hNe hOwn same => ?_, fun key mem => ?_,
    fun g other hNe => ?_, fun g hNext => iso.fresh g (Nat.le_of_succ_le hNext)⟩
  · rcases get?_alloc_eq_some hNe with ⟨hG, hNew⟩ | hOld
    · rcases get?_alloc_eq_some hOwn with ⟨hK, _⟩ | hOld'
      · rw [hG, hK]
      · exact absurd (hNew ▸ same.symm) (unused k owner hOld')
    · rcases get?_alloc_eq_some hOwn with ⟨_, hNew⟩ | hOld'
      · exact absurd (hNew ▸ same) (unused g other hOld)
      · exact distinctSeqs_iff.mp iso.distinct g k other owner hOld hOld' same
  · obtain ⟨g, owner, hOwn, rest⟩ := iso.owned key mem
    exact ⟨g, owner, (get?_alloc_of_lt (lt_next hOwn)).trans hOwn, rest⟩
  · rcases get?_alloc_eq_some hNe with ⟨rfl, rfl⟩ | hNe
    · rw [iso.fresh _ (le_refl _), authGetSessionKeyBySeq, find?_eq_none]
      intro key mem hSeq
      obtain ⟨g, owner, hOwn, _, hOwned, _⟩ := iso.owned key mem
      exact unused g owner hOwn (hOwned.trans (of_decide_eq_true hSeq))
    · exact iso.latest g other hNe

lemma leave (hGet : s.auths.get? h = some auth) : Isolated { s with
      auths := s.auths.free h
      keys := authClearSessionKeyBySeq (seqOf auth.authId) s.keys } past := by
  have stays : ∀ g other, (s.auths.free h).get? g = some other →
      s.auths.get? g = some other ∧ seqOf other.authId ≠ seqOf auth.authId := by
    intro g other hNe
    have hOld := get?_of_free hNe
    refine ⟨hOld, fun same => ne_of_get?_free hNe ?_⟩
    exact distinctSeqs_iff.mp iso.distinct g h other auth hOld hGet same
  refine ⟨distinctSeqs_iff.mpr fun g k other owner hNe hOwn same => ?_, fun key mem => ?_,
    fun g other hNe => ?_, iso.fresh⟩
  · exact distinctSeqs_iff.mp iso.distinct g k other owner (stays g other hNe).1
      (stays k owner hOwn).1 same
  · obtain ⟨mem, hSeq⟩ := mem_filter.mp mem
    obtain ⟨g, owner, hOwn, hId, hOwned, hStored⟩ := iso.owned key mem
    have other : g ≠ h := by
      intro same
      subst same
      rw [hGet] at hOwn
      cases hOwn
      exact of_decide_eq_true hSeq hOwned.symm
    exact ⟨g, owner, (get?_free_of_ne other).trans hOwn, hId, hOwned, hStored⟩
  · obtain ⟨hOld, apart⟩ := stays g other hNe
    rw [← iso.latest g other hOld, authGetSessionKeyBySeq, authClearSessionKeyBySeq,
      find?_filter, authGetSessionKeyBySeq]
    congr 1
    funext key
    by_cases hSeq : key.seq = seqOf other.authId
    · simp [hSeq, apart]
    · simp [hSeq]

lemma assign (hGet : s.auths.get? h = some auth)
    (zero : auth.authId = 0) {authId} (new : FreshId s.auths h authId) :
    Isolated (s.update h fun auth => { auth with authId := authId }) past := by
  have unused : ∀ g other, s.auths.get? g = some other → g ≠ h →
      seqOf other.authId ≠ seqOf authId :=
    fun g other hNe apart => new (g, other) (mem_of_get? hNe) apart
  -- The keys all belong to others, since this AuthManager has had no id to get one for.
  have foreign : ∀ key ∈ s.keys, ∃ g owner, g ≠ h ∧ s.auths.get? g = some owner ∧
      owner.authId ≠ 0 ∧ seqOf owner.authId = key.seq ∧ sessionKeyStored g key ∈ past := by
    intro key mem
    obtain ⟨g, owner, hOwn, hId, rest⟩ := iso.owned key mem
    refine ⟨g, owner, fun same => hId ?_, hOwn, hId, rest⟩
    rw [same, hGet] at hOwn
    cases hOwn
    exact zero
  have absent : ∀ id : BitVec 64, (∀ g owner, s.auths.get? g = some owner → g ≠ h →
      seqOf owner.authId ≠ seqOf id) → authGetSessionKeyBySeq (seqOf id) s.keys = none := by
    intro id apart
    refine find?_eq_none.mpr fun key mem hSeq => ?_
    obtain ⟨g, owner, other, hOwn, _, hOwned, _⟩ := foreign key mem
    exact apart g owner hOwn other (hOwned.trans (of_decide_eq_true hSeq))
  refine ⟨distinctSeqs_iff.mpr fun g k other owner hNe hOwn same => ?_, fun key mem => ?_,
    fun g other hNe => ?_, iso.fresh⟩
  · rcases get?_modify_eq_some hNe with ⟨apart, hOld⟩ | ⟨hG, old, _, hNew⟩
    · rcases get?_modify_eq_some hOwn with ⟨_, hOld'⟩ | ⟨_, old, _, hNew⟩
      · exact distinctSeqs_iff.mp iso.distinct g k other owner hOld hOld' same
      · subst hNew
        exact absurd same (unused g other hOld apart)
    · rcases get?_modify_eq_some hOwn with ⟨apart, hOld'⟩ | ⟨hK, _, _, _⟩
      · subst hNew
        exact absurd same.symm (unused k owner hOld' apart)
      · rw [hG, hK]
  · obtain ⟨g, owner, other, hOwn, rest⟩ := foreign key mem
    exact ⟨g, owner, (get?_modify_of_ne other).trans hOwn, rest⟩
  · rcases get?_modify_eq_some hNe with ⟨_, hOld⟩ | ⟨hG, old, hOld, hNew⟩
    · exact iso.latest g other hOld
    · have before := iso.latest h auth hGet
      rw [absent auth.authId fun k owner hOwn apart same => apart <|
        distinctSeqs_iff.mp iso.distinct k h owner auth hOwn hGet same] at before
      rw [hNew, hG, ← before]
      exact absent authId unused

end

end Isolated

def Room (n : Nat) (s : AuthState) (past : List Event) : Prop :=
  Isolated s past ∧ s.keys.length + n ≤ maxKeyListSize

lemma room_synced (n) : Synced (Room n) where
  emit _ neutral hInv := ⟨hInv.1.emit (storedFor_neutral neutral), hInv.2⟩
  update _ _ harmless hInv := ⟨hInv.1.update fun auth _ => (harmless auth).1, hInv.2⟩
  integer _ hInv := ⟨⟨hInv.1.distinct, hInv.1.owned, hInv.1.latest, hInv.1.fresh⟩, hInv.2⟩
  pass _ _ _ hInv := ⟨hInv.1.update fun _ _ => rfl, hInv.2⟩
  verified _ _ hInv := ⟨hInv.1.emit fun _ => rfl, hInv.2⟩

lemma room_managed (n) : Managed FreshId (Room n) where
  toQuiet := (room_synced n).toQuiet
  create _ new _ hInv := ⟨hInv.1.alloc new, hInv.2⟩
  leave hGet hInv :=
    ⟨hInv.1.leave hGet, le_trans (Nat.add_le_add_right (length_filter_le _ _) n) hInv.2⟩
  assign _ hGet zero new hInv := ⟨hInv.1.assign hGet zero new, hInv.2⟩

lemma Isolated.room {s past ctx input} (iso : Isolated s past) (guarded : KeyGuarded ctx s input) :
    Room (keyReturns input.hichainCalls) s past := ⟨iso, guarded.2.2⟩

section
variable {ctx : AuthContext} {env : Env} {h : Nat} {input : Input} {n : Nat}

lemma authOnSessionKeyReturned_room {authId} (nonzero : authId ≠ 0) (sk alloc replies) :
    Triple (Room (n + 1)) (authOnSessionKeyReturned ctx authId sk alloc replies)
      fun _ => Room n := by
  have spare : ∀ {s : AuthState} {past}, Room (n + 1) s past → s.keys.length < maxKeyListSize :=
    fun hInv => lt_of_lt_of_le (Nat.lt_add_of_pos_right n.succ_pos) hInv.2
  refine authOnSessionKeyReturned_spec (room_synced (n + 1)).toQuiet (room_synced n) sk alloc
    replies (fun s past hInv => ⟨hInv.1, Nat.le_of_succ_le hInv.2⟩) ?_ fun s past hInv => ?_
  · intro s past h auth key hGet same hSeq hInv
    refine ⟨hInv.1.push (spare hInv) hGet (same ▸ nonzero) hSeq, ?_⟩
    rw [AuthState.pushKey, RecentList.push, RecentList.evict_of_lt (spare hInv), length_cons,
      succ_add_eq_add_succ]
    exact hInv.2
  · rw [AuthState.evictKey, RecentList.evict_of_lt (spare hInv)]
    exact ⟨hInv.1, le_of_succ_le hInv.2⟩

lemma hichainCall_room {call} (ok : call.KeyAllowed (· ≠ 0)) :
    Triple (Room (call.keyReturns + n)) (hichainCall ctx call) fun _ => Room n := by
  have idle : ∀ {x : AuthM PUnit}, Keeps (Room n) x → Triple (Room (0 + n)) x fun _ => Room n :=
    fun kept => (zero_add n).symm ▸ kept
  cases call with
  | onTransmit authId data sent =>
    exact idle ((room_synced n).keeps_authOnTransmit authId data sent)
  | onSessionKeyReturned authId sk alloc replies =>
    rw [HichainCall.keyReturns, add_comm]
    exact authOnSessionKeyReturned_room ok sk alloc replies
  | onError authId => exact idle ((room_synced n).keeps_authOnError authId)
  | onRequest authReqId => exact idle ((room_synced n).keeps_authOnRequest authReqId)

lemma each_hichainCall_room {calls} (ok : ∀ call ∈ calls, call.KeyAllowed (· ≠ 0)) :
    Triple (Room (keyReturns calls)) (each (hichainCall ctx) calls) fun _ => Room 0 := by
  induction calls with
  | nil => exact Keeps.pure _
  | cons call rest ih =>
    rw [keyReturns, map_cons, sum_cons]
    exact .bind (hichainCall_room (ok call mem_cons_self)) fun _ =>
      ih fun other mem => ok other (mem_cons_of_mem call mem)

lemma callHichain_room {reply} (ok : ∀ call ∈ reply.calls, call.KeyAllowed (· ≠ 0)) :
    Triple (Room (keyReturns reply.calls)) (callHichain ctx reply h) fun _ => Isolated := by
  refine .bind (each_hichainCall_room ok) fun _ => ?_
  have rest : Keeps (Room 0) (when (reply.ok = false) (handleAuthFail ctx h)) :=
    Keeps.when fun _ => (room_synced 0).keeps_handleAuthFail
  exact rest.consequence (fun _ _ hInv => hInv) fun _ _ _ hInv => hInv.1

lemma handleReceiveAuthData_room (ok : ∀ call ∈ env.hichain.calls, call.KeyAllowed (· ≠ 0))
    (module) : Triple (Room (keyReturns env.hichain.calls)) (handleReceiveAuthData ctx env h module)
      fun _ => Isolated :=
  ite (fun _ => callHichain_room ok) fun _ => pure fun _ _ hInv => hInv.1

lemma handleReceiveDeviceId_room (ok : ∀ call ∈ env.hichain.calls, call.KeyAllowed (· ≠ 0))
    (data) : Triple (Room (keyReturns env.hichain.calls)) (handleReceiveDeviceId ctx env h data)
      fun _ => Isolated := by
  refine (room_synced _).handleReceiveDeviceId_spec (fun s past auth hGet hInv => ⟨?_, hInv.2⟩)
    (fun _ _ hInv => hInv.1) fun _ _ _ _ _ _ => ite (fun _ => callHichain_room ok)
    fun _ => pure fun _ _ hInv => hInv.1
  refine hInv.1.update fun other hNe => ?_
  rw [hGet] at hNe
  cases hNe
  exact authUnpackDeviceInfo_authId ctx auth data

lemma keeps_receiveCloseAck (cid) : Keeps (Room n) (receiveCloseAck ctx env cid) := by
  refine .bind (ite (fun _ => (room_synced n).keeps_emit trivial)
    fun _ => Keeps.pure _) fun _ => Keeps.get fun s => ?_
  split
  · exact .pure _
  · exact triple_callback fun _ _ _ _ hInv => ⟨hInv.1.emit fun _ => rfl, hInv.2⟩

lemma spec_of_room {x : AuthM β} (spec : (∀ call ∈ input.hichainCalls, call.KeyAllowed (· ≠ 0)) →
      Triple (Room (keyReturns input.hichainCalls)) x fun _ => Isolated) :
    Triple (fun s past => KeyGuarded ctx s input ∧ Isolated s past) x fun _ => Isolated :=
  fun s past hP => spec hP.1.2.1 s past (hP.2.room hP.1)

lemma spec_of_keeps {x : AuthM β} (kept : ∀ n, Keeps (Room n) x) :
    Triple (fun s past => KeyGuarded ctx s input ∧ Isolated s past) x fun _ => Isolated :=
  spec_of_room fun _ => (kept _).consequence (fun _ _ hInv => hInv) fun _ _ _ hInv => hInv.1

lemma authOnDataReceived_isolated (cid mid seq data beyond) : Triple (fun s past =>
        KeyGuarded ctx s (.dataReceived cid mid seq data beyond env) ∧ Isolated s past)
      (authOnDataReceived ctx env cid mid seq data beyond) fun _ => Isolated := by
  refine authOnDataReceived_dispatch (fun _ _ hP => hP.2) (fun _ _ => ?_)
    (fun h info _ _ _ => ?_) (fun h info hInfo hType => ?_) (fun h module => ?_) fun h info => ?_
  · exact spec_of_keeps fun _ => keeps_receiveCloseAck cid
  · exact (spec_of_room fun ok => handleReceiveDeviceId_room ok _).weaken
      fun _ _ hP => hP.2
  · rintro _ past ⟨old, option, ⟨absent, guarded, hInv⟩, rfl, rfl⟩
    have new : FreshId old.auths old.auths.next
        (serverAuth info.authId cid 0 option).authId := by
      refine guarded.1 (old.auths.next, info.authId) ?_
      rw [newIds, hInfo]
      dsimp only
      rw [if_pos ⟨hType, absent⟩]
      exact mem_singleton.mpr rfl
    exact handleReceiveDeviceId_room guarded.2.1 _ _ past
      ⟨hInv.alloc new, guarded.2.2⟩
  · exact spec_of_room fun ok => handleReceiveAuthData_room ok module
  · exact spec_of_keeps fun n => (room_synced n).keeps_syncDeviceInfo env.replies _ _ _

lemma newIds_socketData {s auth fd}
    (found : authGetManagerByFd s fd = some h) (hGet : s.auths.get? h = some auth)
    (zero : auth.authId = 0) (head reads stale) :
    newIds ctx s (.socketData fd (.full head) reads stale env) =
      [(h, if ConnModule.ofCode head.module = some .trustEngine then head.seq
        else nextSeq ctx s)] := by
  rw [newIds, found]
  dsimp only
  rw [hGet, any_some, if_pos (decide_eq_true zero)]

lemma authIpOnDataReceived_isolated (fd head reads stale data) : Triple (fun s past =>
        KeyGuarded ctx s (.socketData fd (.full head) reads stale env) ∧ Isolated s past)
      (authIpOnDataReceived ctx env fd head data) fun _ => Isolated := by
  refine authIpOnDataReceived_dispatch (fun _ _ hP => hP.2) (fun h auth hModule _ => ?_)
    (fun h module => ?_) (fun h => ?_) (fun h => ?_) fun h auth hModule => ?_
  · rintro s past ⟨found, hGet, guarded, hInv⟩
    refine bind (P := fun t past => t = s ∧ Isolated t past)
      (ite (fun adopted => triple_updateAuth ?_) fun _ => pure ?_)
      (fun _ => handleReceiveDeviceId_room guarded.2.1 data) s past ⟨rfl, hInv⟩
    · rintro t seen ⟨rfl, hSeen⟩
      have new : FreshId t.auths h head.seq := by
        refine guarded.1 (h, head.seq) ?_
        rw [newIds_socketData found hGet adopted.2.2, if_pos hModule]
        exact mem_singleton.mpr rfl
      exact ⟨hSeen.assign hGet adopted.2.2 new, guarded.2.2⟩
    · rintro t seen ⟨rfl, hSeen⟩
      exact ⟨hSeen, guarded.2.2⟩
  · exact spec_of_room fun ok => handleReceiveAuthData_room ok module
  · exact spec_of_keeps fun n => (room_synced n).keeps_syncDeviceInfo env.replies _ _ _
  · exact spec_of_keeps fun n => (room_synced n).keeps_authHandleTransInfo head data
  · refine .bind (M := fun _ => Room 0) ((room_managed 0).assignAuthId_spec.weaken ?_)
      fun _ => ((room_synced 0).keeps_authHandleTransInfo head data).consequence
        (fun _ _ hInv => hInv) fun _ _ _ hInv => hInv.1
    rintro s past ⟨found, hGet, guarded, hInv⟩
    refine ⟨fun zero => guarded.1 (h, nextSeq ctx s) ?_, hGet, hInv,
      le_trans (le_add_right _ _) guarded.2.2⟩
    rw [newIds_socketData found hGet zero, if_neg hModule]
    exact mem_singleton.mpr rfl

lemma handleInput_isolated (input) :
    Triple (fun s past => KeyGuarded ctx s input ∧ Isolated s past) (handleInput ctx input)
      fun _ => Isolated := by
  refine (room_managed _).handleInput_dispatch input (fun hP => ⟨hP.2.room hP.1, hP.1.1⟩) And.left
    ?_ ?_ ?_ ?_
  · rintro cid mid seq data beyond env rfl
    exact authOnDataReceived_isolated cid mid seq data beyond
  · rintro fd head reads stale env data rfl -
    exact authIpOnDataReceived_isolated fd head reads stale data
  · rintro call rfl
    refine spec_of_room fun ok => ?_
    exact (hichainCall_room (n := 0) (ok call (mem_singleton.mpr rfl))).consequence
      (fun _ _ hInv => hInv) fun _ _ _ hInv => hInv.1
  · rintro post replies rfl
    exact spec_of_keeps fun n => (room_synced n).keeps_authPostData replies post

end

lemma isolated_init : Isolated .init [] where
  distinct _ hc := absurd hc not_mem_nil
  owned _ mem := absurd mem not_mem_nil
  latest _ _ hGet := by
    simp [AuthState.init, get?_empty] at hGet
  fresh _ _ := rfl

/-- Leaving changes the key list by the clearing under the AuthManager's own number. -/
lemma leaveLNN_keys {ctx s t out authId h} (found : authFindManager s authId = some h)
    (hStep : authStep ctx s (.leaveLNN authId) = some (t, out)) :
    t.keys = authClearSessionKeyBySeq (seqOf authId) s.keys := by
  have spec : Triple (fun u _ => u = s) (authHandleLeaveLNN authId) fun _ u _ =>
      u.keys = authClearSessionKeyBySeq (seqOf authId) s.keys := by
    refine .get_of_eq ?_
    rw [found]
    let Cleared (u : AuthState) (_ : List Event) : Prop :=
      u.keys = authClearSessionKeyBySeq (seqOf authId) s.keys
    refine .bind (M := fun _ => Cleared) (modify fun u _ same => by rw [same]) fun _ => ?_
    refine keeps_deref (P := Cleared) fun auth => ?_
    exact .bind (ite (fun _ => emit fun _ _ hKeys => hKeys) fun _ => Keeps.pure _)
      fun _ => modify fun _ _ hKeys => hKeys
  exact spec.step [] rfl hStep

lemma Isolated.keysIsolated {s past} (iso : Isolated s past) (ctx) : KeysIsolated ctx s past := by
  have cleared : ∀ h auth, s.auths.get? h = some auth → ∀ key ∈ s.keys,
      key ∉ authClearSessionKeyBySeq (seqOf auth.authId) s.keys →
      sessionKeyStored h key ∈ past := by
    intro h auth hGet key mem gone
    refine (iso.of_seq hGet mem ?_).2
    by_contra other
    exact gone (mem_filter.mpr ⟨mem, decide_eq_true other⟩)
  constructor
  · intro authId h t out found hStep key mem gone
    obtain ⟨auth, hGet, rfl⟩ := get?_of_authFindManager found
    rw [leaveLNN_keys found hStep] at gone
    exact cleared h auth hGet key mem gone
  · intro h auth hGet
    have latest := iso.latest h auth hGet
    refine ⟨cleared h auth hGet, latest, fun gcm iv data bufLen => ?_⟩
    have same : authGetSessionKeyBySeq (seqOf auth.authId) (lastStored h past).toList =
        authGetSessionKeyBySeq (seqOf auth.authId) s.keys := by
      rw [← latest]
      cases found : authGetSessionKeyBySeq (seqOf auth.authId) s.keys with
      | none => rfl
      | some key =>
        have hSeq := find?_some found
        exact find?_cons_of_pos hSeq
    rw [authEncryptBySeq, authEncryptBySeq, same]

/-- However AuthManagers come and go, each has its own keys, as long as every step is
guarded. -/
theorem run_keysIsolated (ctx : AuthContext) {inputs : List Input} {t : AuthState}
    {outs : List Event} (guarded : AllSteps (authStep ctx) (KeyGuarded ctx) .init inputs)
    (hRun : run (authStep ctx) .init inputs = some (t, outs)) : KeysIsolated ctx t outs := by
  have preserve : ∀ s past input t out, Isolated s past → KeyGuarded ctx s input →
      authStep ctx s input = some (t, out) → Isolated t (past ++ out) :=
    fun s past input t out hInv hGuard hStep =>
      (handleInput_isolated input).step past ⟨hGuard, hInv⟩ hStep
  have final : Isolated t ([] ++ outs) := run_invariant preserve isolated_init guarded hRun
  exact final.keysIsolated ctx

/-- A peer that connects over Bluetooth under an id of its choice and gets a key. -/
def keyedPeer (authId : BitVec 64) (sessionKey : Bytes) : List Input :=
  [.dataReceived 1 14 0 (packet .deviceId authId (deviceInfoText "A" "a")) [] sampleEnv,
    .hichain (.onSessionKeyReturned authId (some sessionKey) true [])]

/-- Two peers get keys, the first gets another one and the second leaves. -/
def rekeyRun : List Input :=
  keyedPeer 5 [1] ++ keyedPeer 6 [2] ++
    [.hichain (.onSessionKeyReturned 5 (some [3]) true []), .leaveLNN 6]

theorem run_keysIsolated_rekeyRun :
    ∃ t outs, run (authStep sampleContext) .init rekeyRun = some (t, outs) ∧
      (lastStored 0 outs).map SessionKeyList.sessionKey = some [3] ∧
      KeysIsolated sampleContext t outs := by
  have result : ∃ r ∈ run (authStep sampleContext) .init rekeyRun,
      (lastStored 0 r.2).map SessionKeyList.sessionKey = some [3] := by decide +kernel
  obtain ⟨⟨t, outs⟩, hRun, stored⟩ := result
  exact ⟨t, outs, hRun, stored, run_keysIsolated sampleContext (by decide +kernel) hRun⟩

/-- The second peer chooses an id with the low half of the first one's, and leaves. -/
def collisionRun : List Input :=
  keyedPeer 5 [1] ++ keyedPeer 0x100000005 [2] ++ [.leaveLNN 0x100000005]

/-- The second peer has so many keys that the first one's is dropped. -/
def evictionRun : List Input :=
  keyedPeer 5 [1] ++ keyedPeer 6 [2] ++
    replicate 19 (.hichain (.onSessionKeyReturned 6 (some [2]) true []))

lemma not_keysIsolated {ctx t outs h} (other : ∃ auth ∈ t.auths.get? h,
      authGetSessionKeyBySeq (seqOf auth.authId) t.keys ≠ lastStored h outs) :
    ¬ KeysIsolated ctx t outs := by
  intro iso
  obtain ⟨auth, hGet, other⟩ := other
  exact other (iso.2 h auth hGet).2.1

/-- A peer can take the first peer's key away by the choice of its id or by the number
of its keys. -/
theorem run_not_keysIsolated :
    (∃ t outs, run (authStep sampleContext) .init collisionRun = some (t, outs) ∧
      ¬ KeysIsolated sampleContext t outs) ∧
    ∃ t outs, run (authStep sampleContext) .init evictionRun = some (t, outs) ∧
      DistinctSeqs t ∧ ¬ KeysIsolated sampleContext t outs := by
  have collided : ∃ r ∈ run (authStep sampleContext) .init collisionRun, ∃ auth ∈ r.1.auths.get? 0,
      authGetSessionKeyBySeq (seqOf auth.authId) r.1.keys ≠ lastStored 0 r.2 := by
    decide +kernel
  have evicted : ∃ r ∈ run (authStep sampleContext) .init evictionRun, DistinctSeqs r.1 ∧
      ∃ auth ∈ r.1.auths.get? 0,
        authGetSessionKeyBySeq (seqOf auth.authId) r.1.keys ≠ lastStored 0 r.2 := by
    decide +kernel
  constructor
  · obtain ⟨⟨t, outs⟩, hRun, other⟩ := collided
    exact ⟨t, outs, hRun, not_keysIsolated other⟩
  · obtain ⟨⟨t, outs⟩, hRun, distinct, other⟩ := evicted
    exact ⟨t, outs, hRun, distinct, not_keysIsolated other⟩

end DSoftBus.Auth
