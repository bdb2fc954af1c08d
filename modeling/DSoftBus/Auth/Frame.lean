import DSoftBus.Auth.Sequence
import DSoftBus.Auth.Session
import DSoftBus.Lib.RecentList

/-!
What the handlers of the authentication manager do, said once for every invariant over
states and past outputs that is closed under a few elementary effects. `Quiet` collects
those of the exchange of device ids and of all failures, `Synced` adds those of a
completed exchange of device information, and `Closed` the storing of a session key.
`Managed` adds creating and deleting an AuthManager and giving it another id; writing the
peer's ids and verifying on a closing acknowledgement belong to none.
-/
namespace DSoftBus.Auth
open Effect Triple

def AuthState.update (s : AuthState) (h : Nat) (f : AuthManager → AuthManager) : AuthState :=
  { s with auths := s.auths.modify h f }

def Event.Neutral : Event → Prop
  | .onDeviceVerifyPass _ _ | .sessionKeyStored _ _ => False
  | _ => True

/-- The session key that the output stores for the AuthManager, if it does. -/
def Event.storedFor (h : Nat) : Event → Option SessionKeyList
  | .sessionKeyStored auth key => if auth = h then some key else none
  | _ => none

def KeyStored (h : Nat) (past : List Event) : Prop := ∃ key, Event.sessionKeyStored h key ∈ past

def RecvSynced (h : Nat) (past : List Event) : Prop :=
  ∃ authId side peerUuid data, Event.onRecvSyncDeviceInfo h authId side peerUuid data ∈ past

/-- The change keeps the ids and does not by itself make the authentication pass. -/
def Harmless (f : AuthManager → AuthManager) : Prop :=
  ∀ auth, (f auth).authId = auth.authId ∧ (f auth).peerUuid = auth.peerUuid ∧
    (f auth).peerUdid = auth.peerUdid ∧ ((f auth).status = .authPassed → auth.status = .authPassed)

lemma harmless_status {status} (other : status ≠ .authPassed) :
    Harmless fun auth => { auth with status := status } :=
  fun _ => ⟨rfl, rfl, rfl, fun passed => absurd passed other⟩

structure Quiet (Inv : AuthState → List Event → Prop) : Prop where
  emit : ∀ {s past} (event : Event), event.Neutral → Inv s past → Inv s (past ++ [event])
  update : ∀ {s past} (h : Nat) {f}, Harmless f → Inv s past → Inv (s.update h f) past
  integer : ∀ {s past} (n : BitVec 64), Inv s past → Inv { s with integer := n } past

structure Synced (Inv : AuthState → List Event → Prop) : Prop extends Quiet Inv where
  pass : ∀ {s past} {h : Nat} {auth}, s.auths.get? h = some auth →
    authIsSeqInKeyList (seqOf auth.authId) s.keys → RecvSynced h past →
    Inv s past → Inv (s.update h fun auth => { auth with status := .authPassed }) past
  verified : ∀ {s past} {h : Nat} {auth}, s.auths.get? h = some auth →
    auth.status = .authPassed → Inv s past → Inv s (past ++ [.onDeviceVerifyPass h auth.authId])

def AuthState.pushKey (s : AuthState) (key : SessionKeyList) : AuthState :=
  { s with keys := RecentList.push maxKeyListSize key s.keys }

def AuthState.evictKey (s : AuthState) : AuthState :=
  { s with keys := RecentList.evict maxKeyListSize s.keys }

/-- `Allowed` restricts the ids for which a session key may come. A key that cannot be
stored may still drop the oldest one. -/
structure Closed (Allowed : BitVec 64 → Prop) (Inv : AuthState → List Event → Prop) : Prop
    extends Synced Inv where
  store : ∀ {s past} {h : Nat} {auth} (key : SessionKeyList), s.auths.get? h = some auth →
    Allowed auth.authId → key.seq = seqOf auth.authId → Inv s past →
    Inv (s.pushKey key) (past ++ [.sessionKeyStored h key])
  evict : ∀ {s past}, Inv s past → Inv s.evictKey past

/-- `NewId` restricts the ids that an AuthManager may be given. -/
structure Managed (NewId : RecordHeap AuthManager → Nat → BitVec 64 → Prop)
    (Inv : AuthState → List Event → Prop) : Prop extends Quiet Inv where
  create : ∀ {s past} (auth : AuthManager), NewId s.auths s.auths.next auth.authId →
    auth.status ≠ .authPassed → Inv s past → Inv { s with auths := s.auths.alloc auth } past
  leave : ∀ {s past} {h : Nat} {auth}, s.auths.get? h = some auth → Inv s past → Inv { s with
      auths := s.auths.free h
      keys := authClearSessionKeyBySeq (seqOf auth.authId) s.keys } past
  assign : ∀ {s past} {h : Nat} {auth} (authId : BitVec 64), s.auths.get? h = some auth →
    auth.authId = 0 → NewId s.auths h authId → Inv s past →
    Inv (s.update h fun auth => { auth with authId := authId }) past

variable (ctx : AuthContext)

def nextSeq (s : AuthState) : BitVec 64 := seqValue ctx (nextInteger s.integer)

section
variable {β : Type} {P : AuthState → List Event → Prop} {Q : β → AuthState → List Event → Prop}
  {ctx : AuthContext} {h : Nat}

lemma deref_spec : Triple P (deref h) fun auth s past => s.auths.get? h = some auth ∧ P s past := by
  refine .get fun s => ?_
  cases found : s.auths.get? h with
  | none => exact .fault
  | some auth =>
    refine .pure ?_
    rintro _ past ⟨rfl, hP⟩
    exact ⟨found, hP⟩

variable {f : AuthManager → AuthM β}

lemma triple_deref
    (next : ∀ auth, Triple (fun s past => s.auths.get? h = some auth ∧ P s past) (f auth) Q) :
    Triple P (deref h >>= f) Q := deref_spec.bind next

lemma triple_deref_of_eq {s auth} (hGet : s.auths.get? h = some auth)
    (next : Triple (fun t _ => t = s) (f auth) Q) :
    Triple (fun t _ => t = s) (deref h >>= f) Q := by
  refine triple_deref fun other => ?_
  rintro _ past ⟨hOther, rfl⟩
  rw [hGet] at hOther
  cases hOther
  exact next _ past rfl

lemma keeps_deref (next : ∀ auth, Keeps P (f auth)) : Keeps P (deref h >>= f) :=
  triple_deref fun auth => (next auth).weaken fun _ _ hP => hP.2

lemma triple_callback {event Q} (called : ∀ auth s past, s.auths.get? h = some auth → P s past →
      Q ⟨⟩ s (past ++ [event auth])) : Triple P (callback ctx h event) Q := by
  refine triple_deref fun auth => ?_
  split
  · exact .fault
  · refine .ite (fun _ => emit fun s past hP => ?_) fun _ => fault
    exact called auth s past hP.1 hP.2

lemma triple_updateAuth {f} {Q}
    (updated : ∀ s past, P s past → Q ⟨⟩ (s.update h f) past) : Triple P (updateAuth h f) Q :=
  modify updated

lemma createAuth_spec {auth} :
    Triple P (createAuth auth) fun g s past => ∃ old, P old past ∧ g = old.auths.next ∧
      s = { old with auths := old.auths.alloc auth } := by
  refine .get fun s => bind (M := fun _ t past => P s past ∧
    t = { s with auths := s.auths.alloc auth }) (modify ?_) fun _ => pure ?_
  · rintro _ past ⟨rfl, hP⟩
    exact ⟨hP, rfl⟩
  · exact fun t past hP => ⟨s, hP.1, rfl, hP.2⟩

lemma createServerAuth_spec {env cid authId} :
    Triple P (createServerAuth env cid authId) fun created s past =>
      match created with
      | none => P s past
      | some g => ∃ old option, P old past ∧ g = old.auths.next ∧
          s = { old with auths := old.auths.alloc (serverAuth authId cid 0 option) } := by
  unfold createServerAuth
  split
  · refine .bind createAuth_spec fun g => pure ?_
    rintro s past ⟨old, hP, hNext, hAlloc⟩
    exact ⟨old, _, hP, hNext, hAlloc⟩
  · exact .pure fun _ _ hP => hP

lemma getSeq_spec : Triple P (getSeq ctx) fun seq t past =>
    ∃ s, P s past ∧ seq = nextSeq ctx s ∧ t = { s with integer := nextInteger s.integer } := by
  intro s past hP seq t out hSeq
  rw [getSeq_returns ctx s] at hSeq
  cases hSeq
  rw [List.append_nil]
  exact ⟨s, hP, rfl, rfl⟩

lemma getSeq_keeps
    (counted : ∀ {s past} (n : BitVec 64), P s past → P { s with integer := n } past) :
    Keeps P (getSeq ctx) :=
  Keeps.get fun _ => Keeps.bind (modify fun _ _ hP => counted _ hP) fun _ => Keeps.pure _

end

lemma keeps_listForEachSafe {P body}
    (each : ∀ h, Keeps P (body h)) {items} : Keeps P (listForEachSafe body items) := by
  induction items with
  | nil => exact .pure _
  | cons item rest ih =>
    refine .get fun s => ite (fun _ => ih) fun _ => ?_
    refine .bind (each item) fun _ => Keeps.get fun t => ?_
    split
    · exact .pure _
    · exact .ite (fun _ => fault) fun _ => ih

section
variable {Inv : AuthState → List Event → Prop} (quiet : Quiet Inv) {ctx : AuthContext} {h : Nat}
include quiet

lemma Quiet.keeps_emit {event} (neutral : event.Neutral) : Keeps Inv (Effect.emit event) :=
  Triple.emit fun _ _ hInv => quiet.emit event neutral hInv

lemma Quiet.keeps_callback {event} (neutral : ∀ auth, (event auth).Neutral) :
    Keeps Inv (callback ctx h event) :=
  triple_callback fun auth _ _ _ hInv => quiet.emit (event auth) (neutral auth) hInv

lemma Quiet.keeps_updateAuth {f} (harmless : Harmless f) :
    Keeps Inv (updateAuth h f) := triple_updateAuth fun _ _ hInv => quiet.update h harmless hInv

lemma Quiet.keeps_handleAuthFail : Keeps Inv (handleAuthFail ctx h) :=
  quiet.keeps_callback fun _ => trivial

lemma Quiet.getSeq_value {R : RecordHeap AuthManager → BitVec 64 → Prop} :
    Triple (fun s past => R s.auths (nextSeq ctx s) ∧ Inv s past) (getSeq ctx)
      fun seq s past => R s.auths seq ∧ Inv s past := by
  refine getSeq_spec.consequence (fun _ _ hP => hP) ?_
  rintro _ _ past ⟨s, ⟨hNew, hInv⟩, rfl, rfl⟩
  exact ⟨hNew, quiet.integer _ hInv⟩

lemma Quiet.keeps_sendBytes (auth post) : Keeps Inv (sendBytes ctx auth post) := by
  unfold sendBytes authSocketSendData postDataByConn
  split
  · split
    · exact .bind (quiet.keeps_emit trivial) fun _ => Keeps.pure _
    · exact .pure _
  · refine .bind (getSeq_keeps quiet.integer) fun seq => ?_
    split
    · exact .bind (quiet.keeps_emit trivial) fun _ => Keeps.pure _
    · exact .pure _

lemma Quiet.keeps_authPostDataWith {onKey post}
    (after : ∀ h, Keeps Inv (handlePeerSyncDeviceInfo ctx onKey h post)) :
    Keeps Inv (authPostDataWith ctx onKey post) := by
  refine .get fun s => ?_
  split
  · exact .pure _
  next h _ =>
    refine keeps_deref fun auth => Keeps.bind (quiet.keeps_sendBytes auth post) fun sent => ?_
    split
    · exact .bind (after h) fun _ => Keeps.pure _
    · exact .pure _

lemma Quiet.keeps_authPostData {replies post}
    (other : post.head.dataType ≠ some .sync) : Keeps Inv (authPostData ctx replies post) := by
  refine quiet.keeps_authPostDataWith fun h => ?_
  rw [handlePeerSyncDeviceInfo, if_neg other]
  exact .pure _

lemma Quiet.keeps_authSyncDeviceUuid (packed sent) :
    Keeps Inv (authSyncDeviceUuid ctx packed sent h) := by
  unfold authSyncDeviceUuid
  split
  · refine keeps_deref fun auth => ?_
    refine .bind (quiet.keeps_updateAuth (harmless_status nofun)) fun _ => ?_
    apply quiet.keeps_authPostData
    unfold deviceIdHead
    split <;> nofun
  · exact .pure _

lemma Quiet.keeps_answerDeviceId (env) : Keeps Inv (answerDeviceId ctx env h) := by
  unfold answerDeviceId
  split
  · exact .bind (quiet.keeps_authSyncDeviceUuid env.packed env.sent) fun _ =>
      Keeps.when fun _ => quiet.keeps_handleAuthFail
  · exact quiet.keeps_handleAuthFail

variable (authId : BitVec 64)

lemma Quiet.keeps_authOnTransmit (data sent) : Keeps Inv (authOnTransmit ctx authId data sent) := by
  refine .get fun s => ?_
  split
  · exact .pure _
  · exact keeps_deref fun auth => Keeps.bind (quiet.keeps_authPostData nofun) fun _ => Keeps.pure _

lemma Quiet.keeps_authOnError : Keeps Inv (authOnError ctx authId) := by
  refine .get fun s => ?_
  split
  · exact .pure _
  · exact quiet.keeps_handleAuthFail

lemma Quiet.keeps_authOnRequest (authReqId) : Keeps Inv (authOnRequest authReqId) := by
  refine .get fun s => ?_
  split
  · exact .pure _
  · exact keeps_deref fun auth => quiet.keeps_emit trivial

lemma Quiet.keeps_authOnConnectSuccessful (env requestId cid) :
    Keeps Inv (authOnConnectSuccessful ctx env requestId cid) := by
  refine .get fun s => ?_
  split
  · exact .pure _
  · refine .bind (quiet.keeps_updateAuth fun _ => ⟨rfl, rfl, rfl, id⟩) fun _ => ?_
    exact .bind (quiet.keeps_authSyncDeviceUuid env.packed env.sent) fun _ =>
      Keeps.when fun _ => quiet.keeps_handleAuthFail

lemma Quiet.keeps_authOnConnectFailed (requestId) :
    Keeps Inv (authOnConnectFailed ctx requestId) := by
  refine .get fun s => ?_
  split
  · exact .pure _
  · exact quiet.keeps_handleAuthFail

lemma Quiet.keeps_authOnDeviceNotTrusted (peerUdid) :
    Keeps Inv (authOnDeviceNotTrusted ctx peerUdid) := by
  refine .get fun s => ?_
  split
  · exact .pure _
  · exact quiet.keeps_callback fun _ => trivial

lemma Quiet.keeps_authHandleTransInfo (head data) :
    Keeps Inv (authHandleTransInfo ctx h head data) :=
  keeps_deref fun _ => Keeps.each fun _ _ => quiet.keeps_emit trivial

lemma Quiet.keeps_authNotifyTransDisconn :
    Keeps Inv (authNotifyTransDisconn ctx authId) := Keeps.each fun _ _ => quiet.keeps_emit trivial

lemma Quiet.keeps_saveEncryptDevData (saved data) :
    Keeps Inv (saveEncryptDevData ctx saved h data) := by
  unfold saveEncryptDevData
  split
  · exact quiet.keeps_updateAuth fun _ => ⟨rfl, rfl, rfl, id⟩
  · refine .bind (quiet.keeps_updateAuth ?_) fun _ => quiet.keeps_handleAuthFail
    exact fun _ => ⟨rfl, rfl, rfl, id⟩

end

def HichainCall.KeyAllowed (Allowed : BitVec 64 → Prop) : HichainCall → Prop
  | .onSessionKeyReturned authId _ _ _ => Allowed authId
  | _ => True

lemma HichainCall.keyAllowed_true (call : HichainCall) : call.KeyAllowed fun _ => True := by
  cases call <;> trivial

/-- Either the key enters the list, or only the oldest one of a full list is dropped. -/
lemma authSetLocalSessionKey_cases (alloc devInfo peerUdid sk keys) :
    authSetLocalSessionKey alloc devInfo peerUdid sk keys =
        (RecentList.push maxKeyListSize ⟨devInfo, sk, peerUdid⟩ keys, true) ∨
      authSetLocalSessionKey alloc devInfo peerUdid sk keys =
        (RecentList.evict maxKeyListSize keys, false) := by
  unfold authSetLocalSessionKey
  dsimp only
  split
  · exact .inr rfl
  · exact .inl rfl

lemma get?_of_authFindManager {s authId h} (found : authFindManager s authId = some h) :
    ∃ auth, s.auths.get? h = some auth ∧ auth.authId = authId := by
  have hit : ∃ side, authGetManagerByAuthId s authId side = some h := by
    rcases Option.or_eq_some_iff.mp found with hClient | ⟨_, hServer⟩
    · exact ⟨_, hClient⟩
    · exact ⟨_, hServer⟩
  obtain ⟨side, hFind⟩ := hit
  obtain ⟨auth, hGet, hAuth⟩ := RecordHeap.get?_of_find? hFind
  exact ⟨auth, hGet, (of_decide_eq_true hAuth).2⟩

section
variable {Inv : AuthState → List Event → Prop} (synced : Synced Inv) {ctx : AuthContext} {h : Nat}
include synced

/-- The device information is reported before the status changes, and the status
changes before the verification is. -/
lemma Synced.acceptSyncDeviceInfo_spec {auth} (data) :
    Triple (fun s past => s.auths.get? h = some auth ∧
        authIsSeqInKeyList (seqOf auth.authId) s.keys ∧ Inv s past)
      (acceptSyncDeviceInfo ctx h auth data) fun _ => Inv := by
  refine .bind (M := fun _ s past => s.auths.get? h = some auth ∧
    authIsSeqInKeyList (seqOf auth.authId) s.keys ∧ RecvSynced h past ∧ Inv s past)
    (triple_callback ?_) fun _ => ?_
  · rintro other s past - ⟨hGet, hKey, hInv⟩
    refine ⟨hGet, hKey, ⟨_, _, _, _, List.mem_concat_self⟩, ?_⟩
    exact synced.emit _ trivial hInv
  refine .bind (M := fun _ s past =>
    ∃ auth, s.auths.get? h = some auth ∧ auth.status = .authPassed ∧ Inv s past)
    (triple_updateAuth ?_) fun _ => ite (fun _ => triple_callback ?_) fun _ => pure ?_
  · rintro s past ⟨hGet, hKey, hRecv, hInv⟩
    refine ⟨{ auth with status := .authPassed }, ?_, rfl, synced.pass hGet hKey hRecv hInv⟩
    rw [AuthState.update, RecordHeap.get?_modify_self, hGet]
    rfl
  · rintro other s past hOther ⟨auth, hGet, hStatus, hInv⟩
    rw [hOther] at hGet
    cases hGet
    exact synced.verified hOther hStatus hInv
  · rintro s past ⟨_, _, _, hInv⟩
    exact hInv

variable {onKey : Nat → AuthM PUnit}

lemma Synced.testPeerSyncDeviceInfo_spec (keyed : ∀ h, Keeps Inv (onKey h)) :
    Triple Inv (testPeerSyncDeviceInfo onKey h) fun tested s past =>
      s.auths.get? h = some tested.1 ∧
        (¬ tested.2 → authIsSeqInKeyList (seqOf tested.1.authId) s.keys) ∧ Inv s past := by
  refine triple_deref fun auth => Triple.bind (M := fun _ => Inv) ?_ fun _ => ?_
  · exact (Keeps.when fun _ => keyed h).weaken fun _ _ hP => hP.2
  refine Triple.bind (synced.keeps_updateAuth fun _ => ⟨rfl, rfl, rfl, id⟩) fun _ => ?_
  refine get fun s => triple_deref fun auth => pure ?_
  rintro _ past ⟨hGet, rfl, hInv⟩
  refine ⟨hGet, fun late => Bool.of_not_eq_false fun absent => late ?_, hInv⟩
  exact decide_eq_true (.inl absent)

lemma Synced.keeps_authHandlePeerSyncDeviceInfo (keyed : ∀ h, Keeps Inv (onKey h))
    (saved data len) : Keeps Inv (authHandlePeerSyncDeviceInfo ctx onKey saved h data len) := by
  unfold authHandlePeerSyncDeviceInfo
  split
  · exact .pure _
  split
  · exact .fault
  refine Triple.bind (synced.testPeerSyncDeviceInfo_spec keyed) fun tested => ?_
  refine ite (fun _ => ?_) fun late => ?_
  · exact (synced.keeps_saveEncryptDevData saved _).weaken fun _ _ hP => hP.2.2
  · refine (synced.acceptSyncDeviceInfo_spec _).weaken ?_
    rintro s past ⟨hGet, hKey, hInv⟩
    exact ⟨hGet, hKey late, hInv⟩

lemma Synced.keeps_handlePeerSyncDeviceInfo (keyed : ∀ h, Keeps Inv (onKey h)) (post) :
    Keeps Inv (handlePeerSyncDeviceInfo ctx onKey h post) := by
  unfold handlePeerSyncDeviceInfo
  split
  · refine .bind (synced.keeps_updateAuth (harmless_status nofun))
      fun _ => keeps_deref fun auth => ?_
    split
    · exact .pure _
    · refine .bind (synced.keeps_authHandlePeerSyncDeviceInfo keyed _ _ _) fun _ => ?_
      exact synced.keeps_updateAuth fun _ => ⟨rfl, rfl, rfl, id⟩
  · exact .pure _

variable (replies : List Post)

lemma Synced.keeps_onKeyGenerated (h) : Keeps Inv (onKeyGenerated ctx replies h) := by
  induction replies generalizing h with
  | nil => exact synced.keeps_callback fun _ => trivial
  | cons post rest ih =>
    refine .bind (synced.keeps_callback fun _ => trivial) fun _ => ?_
    refine .bind (synced.keeps_authPostDataWith fun h => ?_) fun _ => Keeps.pure _
    exact synced.keeps_handlePeerSyncDeviceInfo ih post

lemma Synced.keeps_syncDeviceInfo (saved data len) :
    Keeps Inv (authHandlePeerSyncDeviceInfo ctx (onKeyGenerated ctx replies) saved h data len) :=
  synced.keeps_authHandlePeerSyncDeviceInfo (synced.keeps_onKeyGenerated replies) saved data len

lemma Synced.keeps_authPostData (post) : Keeps Inv (authPostData ctx replies post) :=
  synced.keeps_authPostDataWith fun _ =>
    synced.keeps_handlePeerSyncDeviceInfo (synced.keeps_onKeyGenerated replies) post

lemma Synced.keeps_notifyKeyGenerated (auth) :
    Keeps Inv (notifyKeyGenerated ctx replies h auth) := by
  unfold notifyKeyGenerated
  split
  · split
    · exact synced.keeps_updateAuth fun _ => ⟨rfl, rfl, rfl, id⟩
    · exact synced.keeps_onKeyGenerated replies h
    · exact .pure _
  · exact synced.keeps_onKeyGenerated replies h

end

section
variable {P Before After : AuthState → List Event → Prop} {ctx : AuthContext} {h : Nat}

lemma storeSessionKey_spec (alloc : Bool) {auth} (deviceKey : Bytes × Nat) (sk : Bytes)
    (stored : ∀ s past key, s.auths.get? h = some auth → key.seq = seqOf auth.authId → P s past →
      After (s.pushKey key) (past ++ [.sessionKeyStored h key]))
    (failed : ∀ s past, P s past → After s.evictKey past) :
    Triple (fun s past => s.auths.get? h = some auth ∧ P s past)
      (storeSessionKey alloc h auth deviceKey sk) fun _ => After := by
  refine .get fun s => ?_
  let devInfo : NecessaryDevInfo :=
    ⟨auth.option.type, deviceKey.1, deviceKey.2, auth.side, seqOf auth.authId⟩
  let key : SessionKeyList := ⟨devInfo, sk, auth.peerUdid⟩
  dsimp only
  rcases authSetLocalSessionKey_cases alloc devInfo auth.peerUdid sk s.keys with new | full
  · rw [new]
    refine .bind (M := fun _ t past => ∃ old, past = old ++ [.sessionKeyStored h key] ∧ t = s ∧
      t.auths.get? h = some auth ∧ P t old) (ite (fun _ => emit ?_) fun no =>
      absurd rfl no) fun _ => modify ?_
    · rintro _ past ⟨rfl, hGet, hP⟩
      exact ⟨past, rfl, rfl, hGet, hP⟩
    · rintro _ _ ⟨past, rfl, rfl, hGet, hP⟩
      exact stored _ past _ hGet rfl hP
  · rw [full]
    refine .bind (M := fun _ t past => t = s ∧ P t past) (ite (by simp)
      fun _ => pure ?_) fun _ => modify ?_
    · rintro _ past ⟨rfl, _, hP⟩
      exact ⟨rfl, hP⟩
    · rintro _ past ⟨rfl, hP⟩
      exact failed _ past hP

lemma authOnSessionKeyReturned_spec (quiet : Quiet Before) (synced : Synced After)
    {authId} (sk : Option Bytes) (alloc : Bool) (replies : List Post)
    (idle : ∀ s past, Before s past → After s past)
    (stored : ∀ s past h auth key, s.auths.get? h = some auth → auth.authId = authId →
      key.seq = seqOf auth.authId → Before s past →
      After (s.pushKey key) (past ++ [.sessionKeyStored h key]))
    (failed : ∀ s past, Before s past → After s.evictKey past) :
    Triple Before (authOnSessionKeyReturned ctx authId sk alloc replies)
      fun _ => After := by
  refine .get fun s => ?_
  split
  next key h found =>
    obtain ⟨owner, hOwner, rfl⟩ := get?_of_authFindManager found
    refine .bind (M := fun _ t past => t = s ∧ Before t past) (emit ?_) fun _ =>
      triple_deref fun auth => ?_
    · rintro _ past ⟨rfl, hInv⟩
      exact ⟨rfl, quiet.emit _ trivial hInv⟩
    split
    · exact .pure fun t past hP => idle t past hP.2.2
    · refine .bind (M := fun _ => After) ?_ fun _ => Keeps.bind (synced.keeps_updateAuth
        (harmless_status nofun)) fun _ => synced.keeps_notifyKeyGenerated replies auth
      rintro t past ⟨hGet, rfl, hInv⟩
      rw [hOwner] at hGet
      cases hGet
      exact storeSessionKey_spec alloc _ key (fun s past new hGet hSeq hP =>
        stored s past h owner new hGet rfl hSeq hP) failed t past ⟨hOwner, hInv⟩
  · exact .pure fun t past hP => idle t past hP.2

end

section
variable {Allowed : BitVec 64 → Prop} {Inv : AuthState → List Event → Prop}
  (closed : Closed Allowed Inv) {ctx : AuthContext} {h : Nat}
include closed

lemma Closed.keeps_authOnSessionKeyReturned {authId} (ok : Allowed authId)
    (sk : Option Bytes) (alloc : Bool) (replies : List Post) :
    Keeps Inv (authOnSessionKeyReturned ctx authId sk alloc replies) := by
  refine authOnSessionKeyReturned_spec closed.toQuiet closed.toSynced sk alloc replies
    (fun _ _ hInv => hInv) (fun s past h auth key hGet same hSeq hInv => ?_)
    fun _ _ hInv => closed.evict hInv
  subst same
  exact closed.store key hGet ok hSeq hInv

lemma Closed.keeps_hichainCall {call} (ok : call.KeyAllowed Allowed) :
    Keeps Inv (hichainCall ctx call) := by
  cases call with
  | onTransmit authId data sent => exact closed.keeps_authOnTransmit authId data sent
  | onSessionKeyReturned authId sk alloc replies =>
    exact closed.keeps_authOnSessionKeyReturned ok sk alloc replies
  | onError authId => exact closed.keeps_authOnError authId
  | onRequest authReqId => exact closed.keeps_authOnRequest authReqId

lemma Closed.keeps_callHichain {reply} (ok : ∀ call ∈ reply.calls, call.KeyAllowed Allowed) :
    Keeps Inv (callHichain ctx reply h) :=
  Keeps.bind (Keeps.each fun call mem => closed.keeps_hichainCall (ok call mem))
    fun _ => Keeps.when fun _ => closed.keeps_handleAuthFail

lemma Closed.keeps_startAuth {env} (ok : ∀ call ∈ env.hichain.calls, call.KeyAllowed Allowed) :
    Keeps Inv (startAuth ctx env h) :=
  ite (fun _ => closed.keeps_callHichain ok) fun _ => Keeps.pure _

lemma Closed.keeps_handleReceiveAuthData {env}
    (ok : ∀ call ∈ env.hichain.calls, call.KeyAllowed Allowed) (module) :
    Keeps Inv (handleReceiveAuthData ctx env h module) :=
  ite (fun _ => closed.keeps_callHichain ok) fun _ => Keeps.pure _

end

lemma authUnpackDeviceInfo_fst (auth data) :
    ∃ uuid udid version, (authUnpackDeviceInfo ctx auth data).1 =
      { auth with peerUuid := uuid, peerUdid := udid, peerVersion := version } := by
  have ids : ∀ msg, ∃ uuid udid, (unpackDeviceId msg auth).1 =
      { auth with peerUuid := uuid, peerUdid := udid } := by
    intro msg
    unfold unpackDeviceId
    split
    · exact ⟨_, _, rfl⟩
    · split <;> exact ⟨_, _, rfl⟩
  unfold authUnpackDeviceInfo
  split
  · exact ⟨_, _, _, rfl⟩
  rename_i msg _
  obtain ⟨uuid, udid, hIds⟩ := ids msg
  split
  next unpacked hUnpack =>
    rw [hUnpack] at hIds
    exact ⟨uuid, udid, _, hIds⟩
  next unpacked hUnpack =>
    rw [hUnpack] at hIds
    cases hIds
    split <;> exact ⟨uuid, udid, _, rfl⟩

lemma authUnpackDeviceInfo_authId (auth data) :
    (authUnpackDeviceInfo ctx auth data).1.authId = auth.authId := by
  obtain ⟨uuid, udid, version, hUnpack⟩ := authUnpackDeviceInfo_fst ctx auth data
  rw [hUnpack]

section
variable {P Inv Out : AuthState → List Event → Prop} (quiet : Quiet Inv) {ctx : AuthContext}
include quiet

lemma Quiet.handleReceiveDeviceId_spec {env h data}
    (unpacked : ∀ s past auth, s.auths.get? h = some auth → P s past →
      Inv (s.update h fun _ => (authUnpackDeviceInfo ctx auth data).1) past)
    (idle : ∀ s past, Inv s past → Out s past)
    (client : ∀ s past auth, s.auths.get? h = some auth → P s past → auth.side ≠ .server →
      Triple Inv (startAuth ctx env h) fun _ => Out) :
    Triple P (handleReceiveDeviceId ctx env h data) fun _ => Out := by
  refine triple_deref fun auth => ?_
  intro s past hP
  have rest : Triple Inv (if (authUnpackDeviceInfo ctx auth data).2 then
      if auth.side = .server then answerDeviceId ctx env h else startAuth ctx env h
      else handleAuthFail ctx h) fun _ => Out := by
    refine .ite (fun _ => ite (fun _ => ?_) fun other => ?_) fun _ => ?_
    · exact (quiet.keeps_answerDeviceId env).consequence (fun _ _ hInv => hInv) fun _ => idle
    · exact client s past auth hP.1 hP.2 other
    · exact quiet.keeps_handleAuthFail.consequence (fun _ _ hInv => hInv) fun _ => idle
  have whole : Triple (fun s past => s.auths.get? h = some auth ∧ P s past) _ fun _ => Out :=
    bind (M := fun _ => Inv)
      (triple_updateAuth fun s past hP => unpacked s past auth hP.1 hP.2) fun _ => rest
  exact whole s past hP

end

section
variable {NewId : RecordHeap AuthManager → Nat → BitVec 64 → Prop}
  {Inv : AuthState → List Event → Prop} (managed : Managed NewId Inv) {ctx : AuthContext}
include managed

lemma Managed.createAuth_new {auth authId}
    (own : auth.authId = authId) (fresh : auth.status ≠ .authPassed) :
    Triple (fun s past => NewId s.auths s.auths.next authId ∧ Inv s past) (createAuth auth)
      fun _ => Inv := by
  refine createAuth_spec.consequence (fun _ _ hP => hP) ?_
  rintro _ _ past ⟨old, ⟨hNew, hInv⟩, _, rfl⟩
  exact managed.create auth (own ▸ hNew) fresh hInv

lemma Managed.keeps_authHandleLeaveLNN (authId) : Keeps Inv (authHandleLeaveLNN authId) := by
  refine get fun s => ?_
  split
  · exact pure fun _ _ hP => hP.2
  rename_i h found
  obtain ⟨auth, hGet, rfl⟩ := get?_of_authFindManager found
  -- The keys are gone before the AuthManager is: the invariant is carried for the
  -- state in which both are still there.
  refine .bind (M := fun _ t past =>
    t = { s with keys := authClearSessionKeyBySeq (seqOf auth.authId) s.keys } ∧ Inv s past)
    (modify ?_) fun _ => triple_deref fun other => bind (M := fun _ t past =>
      t = { s with keys := authClearSessionKeyBySeq (seqOf auth.authId) s.keys } ∧ Inv s past)
      (ite (fun _ => emit ?_) fun _ => pure ?_) fun _ => modify ?_
  · rintro _ past ⟨rfl, hInv⟩
    exact ⟨rfl, hInv⟩
  · rintro _ past ⟨_, rfl, hInv⟩
    exact ⟨rfl, managed.emit _ trivial hInv⟩
  · rintro _ past ⟨_, rfl, hInv⟩
    exact ⟨rfl, hInv⟩
  · rintro _ past ⟨rfl, hInv⟩
    exact managed.leave hGet hInv

lemma Managed.authVerifyDevice_spec (env moduleId option requestId fd connected) :
    Triple (fun s past => NewId s.auths s.auths.next (nextSeq ctx s) ∧ Inv s past)
      (authVerifyDevice ctx env moduleId option requestId fd connected) fun _ => Inv := by
  refine .ite (fun _ => ?_) fun _ => pure fun _ _ hP => hP.2
  refine .bind (managed.getSeq_value (R := fun auths => NewId auths auths.next))
    fun authId => bind (managed.createAuth_new rfl nofun) fun h => ?_
  refine .bind ?_ fun _ => Keeps.when fun _ => managed.keeps_authHandleLeaveLNN authId
  unfold startConnection handleIpVerifyDevice
  split
  · split
    · exact Keeps.pure _
    · refine .bind (managed.keeps_updateAuth ?_) fun _ =>
        managed.keeps_authSyncDeviceUuid env.packed env.sent
      exact fun _ => ⟨rfl, rfl, rfl, id⟩
  · exact Keeps.pure _
  · exact Keeps.pure _

lemma Managed.authOpenChannel_spec (env option fd) :
    Triple (fun s past => NewId s.auths s.auths.next (nextSeq ctx s) ∧ Inv s past)
      (authOpenChannel ctx env option fd) fun _ => Inv := by
  refine .ite (fun _ => ?_) fun _ => pure fun _ _ hP => hP.2
  refine .bind (managed.getSeq_value (R := fun auths => NewId auths auths.next))
    fun authId => bind (managed.createAuth_new rfl nofun) fun _ => Keeps.pure _

lemma Managed.createServerIpAuth_spec (env cfd ip port) :
    Triple (fun s past => NewId s.auths s.auths.next (cfd.signExtend 64) ∧ Inv s past)
      (createServerIpAuth env cfd ip port) fun _ => Inv := by
  refine .ite (fun _ => ?_) fun _ => ?_
  · exact .emit fun _ _ hP => managed.emit _ trivial hP.2
  · exact .bind (managed.createAuth_new rfl nofun) fun _ => Keeps.pure _

lemma Managed.keeps_authNotifyDisconn (fd stale) : Keeps Inv (authNotifyDisconn ctx fd stale) := by
  refine .get fun s => ?_
  split
  · exact .pure _
  · refine keeps_deref fun auth => Keeps.bind ?_ fun _ => Keeps.get fun t =>
      managed.keeps_authNotifyTransDisconn _
    unfold authNotifyLnnDisconn
    split
    · exact managed.keeps_authHandleLeaveLNN auth.authId
    · exact .when fun _ => managed.keeps_callback fun _ => trivial

lemma Managed.keeps_authIpChanged : Keeps Inv (authIpChanged ctx) := by
  refine .get fun s => Keeps.bind (keeps_listForEachSafe fun h => ?_) fun _ =>
    Keeps.get fun t => keeps_listForEachSafe fun h => ?_
  · exact keeps_deref fun _ => Keeps.when fun _ => managed.keeps_callback fun _ => trivial
  · refine keeps_deref fun auth => Keeps.when fun _ => ite (fun _ => ?_) fun _ => ?_
    · exact managed.keeps_authHandleLeaveLNN auth.authId
    · exact managed.keeps_callback fun _ => trivial

lemma Managed.assignAuthId_spec {h auth} :
    Triple (fun s past => (auth.authId = 0 → NewId s.auths h (nextSeq ctx s)) ∧
        s.auths.get? h = some auth ∧ Inv s past) (assignAuthId ctx h auth) fun _ => Inv := by
  refine .ite (fun zero => ?_) fun _ => pure fun _ _ hP => hP.2.2
  have value : Triple (fun s past =>
      (NewId s.auths h (nextSeq ctx s) ∧ s.auths.get? h = some auth) ∧ Inv s past) (getSeq ctx) _ :=
    managed.getSeq_value (R := fun auths seq => NewId auths h seq ∧ auths.get? h = some auth)
  refine .bind (value.weaken fun _ _ hP => ⟨⟨hP.1 zero, hP.2.1⟩, hP.2.2⟩) fun authId =>
    triple_updateAuth ?_
  rintro s past ⟨⟨hNew, hGet⟩, hInv⟩
  exact managed.assign authId hGet zero hNew hInv

end

end DSoftBus.Auth
