import DSoftBus.Auth.VerifyPass

/-!
How an authentication completes. Hichain returns the session key, the peer's device
information arrives, and the local one is posted, perhaps from inside the callback
onKeyGenerated, in any order. Information that comes too early is kept and taken up later.

Each event takes the part of the state that an AuthManager depends on, a `View`, from one
`Progress` to the next and makes the callbacks in which the two differ, so the outcome is
the same for every interleaving.
-/
namespace DSoftBus.Auth
open Effect Execution List Delivers Event ConnModule

def Event.callbackOf (h : Nat) : Event → Bool
  | .onKeyGenerated auth _ _ _ | .onDeviceVerifyFail auth _ | .onRecvSyncDeviceInfo auth _ _ _ _
  | .onDeviceVerifyPass auth _ | .onDeviceNotTrusted auth _ | .onDisconnect auth _ => auth = h
  | _ => false

/-- What an AuthManager depends on: its record and whether its key is in the list. -/
structure View where
  auth : AuthManager
  keyed : Bool

def View.set (view : View) (f : AuthManager → AuthManager) : View := ⟨f view.auth, view.keyed⟩

structure Sees (h : Nat) (view : View) (s : AuthState) : Prop where
  record : s.auths.get? h = some view.auth
  found : authFindManager s view.auth.authId = some h
  inList : authIsSeqInKeyList (seqOf view.auth.authId) s.keys = view.keyed

/-- From what the AuthManager sees, the callbacks made for it are these. -/
abbrev Shows (h : Nat) (view : View) {α : Type} :
    AuthM α → α → (AuthState → Prop) → List Event → Prop :=
  Delivers (callbackOf h) (Sees h view)

def Registered (ctx : AuthContext) (auth : AuthManager) : Prop :=
  ∃ moduleId ∈ ctx.verifyCallbacks, auth.cb = some moduleId

section
variable {h : Nat} {v w : View} {ctx : AuthContext} {calls : List Event}

variable {f : AuthManager → AuthManager}

lemma Sees.update {s} (sees : Sees h v s) (sameId : (f v.auth).authId = v.auth.authId)
    (sameSide : (f v.auth).side = v.auth.side) : Sees h (v.set f) (s.update h f) where
  record := by
    rw [AuthState.update, RecordHeap.get?_modify_self, sees.record]
    rfl
  found := by
    have same : ∀ authId side,
        authGetManagerByAuthId (s.update h f) authId side =
        authGetManagerByAuthId s authId side := by
      intro authId side
      refine RecordHeap.find?_modify fun auth hGet => ?_
      rw [sees.record] at hGet
      cases hGet
      rw [sameId, sameSide]
    rw [authFindManager, same, same]
    exact sameId ▸ sees.found
  inList := sameId ▸ sees.inList

lemma delivers_updateAuth (sameId : (f v.auth).authId = v.auth.authId)
    (sameSide : (f v.auth).side = v.auth.side) : Shows h v (updateAuth h f) ⟨⟩
      (Sees h (v.set f)) [] := modify fun _ sees => sees.update sameId sameSide

variable {Q : AuthState → Prop} {post : Post}

lemma delivers_deref {β : Type} {f : AuthManager → AuthM β} {b}
    (next : Shows h v (f v.auth) b Q calls) : Shows h v (deref h >>= f) b Q calls := by
  have read : Shows h v (deref h) v.auth (Sees h v) [] := by
    refine .get fun s sees => ?_
    rw [sees.record]
    refine .pure fun t same => ?_
    rw [same]
    exact sees
  exact read.bind_silent next

lemma delivers_callback (reg : Registered ctx v.auth)
    {event : AuthManager → Event} (own : (event v.auth).callbackOf h) :
    Shows h v (callback ctx h event) ⟨⟩ (Sees h v) [event v.auth] := by
  obtain ⟨moduleId, mem, hCb⟩ := reg
  refine delivers_deref ?_
  rw [hCb]
  dsimp only
  have visible : [event v.auth].filter (callbackOf h) = [event v.auth] :=
    filter_cons_of_pos own
  rw [if_pos mem, ← visible]
  exact .emit fun _ sees => sees

lemma delivers_sendBytes (sent : post.sent) :
    Shows h v (sendBytes ctx v.auth post) true (Sees h v) [] := by
  unfold sendBytes authSocketSendData postDataByConn
  simp only [sent, if_true]
  split
  · exact .bind_silent (emit fun _ sees => sees) (pure fun _ sees => sees)
  · intro s sees
    refine ⟨{ s with integer := nextInteger s.integer }, _, Returns.bind (getSeq_returns ctx s) rfl,
      ⟨sees.record, sees.found, sees.inList⟩, rfl⟩

def acceptCalls (h : Nat) (auth : AuthManager) (data : Bytes) : List Event :=
  [.onRecvSyncDeviceInfo h auth.authId auth.side auth.peerUuid data] ++
    if auth.option.type = .tcp then [.onDeviceVerifyPass h auth.authId] else []

lemma delivers_acceptSyncDeviceInfo (reg : Registered ctx v.auth) (data) :
    Shows h v (acceptSyncDeviceInfo ctx h v.auth data) ⟨⟩
      (Sees h (v.set fun auth => { auth with status := .authPassed }))
      (acceptCalls h v.auth data) := by
  let passed := v.set fun auth => { auth with status := .authPassed }
  have own : ∀ event : Event, event.callbackOf h = decide (h = h) → event.callbackOf h :=
    fun event same => same.trans (decide_eq_true rfl)
  unfold acceptCalls
  refine .bind
    (delivers_callback reg (own (.onRecvSyncDeviceInfo h _ _ _ _) rfl))
    (bind_silent (R := Sees h passed) (delivers_updateAuth rfl rfl) ?_)
  by_cases tcp : v.auth.option.type = .tcp
  · rw [when, if_pos tcp, if_pos tcp]
    exact delivers_callback (v := passed) reg (own (.onDeviceVerifyPass h _) rfl)
  · rw [when, if_neg tcp, if_neg tcp]
    exact .pure fun _ sees => sees

section
variable {onKey : Nat → AuthM PUnit} {saved : Bool} {memory data : Bytes}
  (size : 0 < data.length ∧ data.length ≤ authMaxDataLen) (given : data <+: memory)
  (first : Shows h v (when (v.auth.option.type = .tcp ∧
    v.auth.side = .server ∧ v.auth.encryptInfoStatus = .keyGeneratedState) (onKey h)) ⟨⟩
    (Sees h w) calls)
include size given first

/-- AuthHandlePeerSyncDeviceInfo after its own call of onKeyGenerated, if any, which led to
`w`. -/
lemma delivers_authHandlePeerSyncDeviceInfo {Q : AuthState → Prop} {more}
    (rest : Shows h (w.set fun auth => { auth with encryptInfoStatus := .recvEncryptDataState })
      (if w.keyed = false ∨ w.auth.status = .inSyncProgress then
        saveEncryptDevData ctx saved h data
      else acceptSyncDeviceInfo ctx h { w.auth with encryptInfoStatus := .recvEncryptDataState }
        data) ⟨⟩ Q more) : Shows h v
      (authHandlePeerSyncDeviceInfo ctx onKey saved h memory data.length) ⟨⟩ Q (calls ++ more) := by
  let received := w.set fun auth => { auth with encryptInfoStatus := .recvEncryptDataState }
  have within := given.length_le
  rw [authHandlePeerSyncDeviceInfo, if_neg (by omega), if_neg (by omega),
    ← prefix_iff_eq_take.mp given]
  have tested : Shows h v (testPeerSyncDeviceInfo onKey h)
      (received.auth, decide (w.keyed = false ∨ w.auth.status = .inSyncProgress))
      (Sees h received) calls := by
    rw [← append_nil calls]
    refine delivers_deref (bind first (bind_silent (R := Sees h received)
      (delivers_updateAuth rfl rfl) (get fun s sees => ?_)))
    refine Delivers.weaken (delivers_deref ?_) fun t same => same ▸ sees
    rw [sees.inList]
    exact .pure fun _ sees => sees
  refine bind tested ?_
  simp only [takePeerSyncDeviceInfo, decide_eq_true_eq]
  exact rest

lemma delivers_peerSync_kept (space : saved)
    (early : w.keyed = false ∨ w.auth.status = .inSyncProgress) : Shows h v
      (authHandlePeerSyncDeviceInfo ctx onKey saved h memory data.length) ⟨⟩
      (Sees h (w.set fun auth => { auth with
        encryptInfoStatus := .recvEncryptDataState
        encryptDevData := some data })) calls := by
  rw [← append_nil calls]
  refine delivers_authHandlePeerSyncDeviceInfo size given first ?_
  rw [if_pos early, saveEncryptDevData, if_pos space]
  exact delivers_updateAuth rfl rfl

lemma delivers_peerSync_taken (reg : Registered ctx w.auth) (keyed : w.keyed)
    (ready : w.auth.status ≠ .inSyncProgress) : Shows h v
      (authHandlePeerSyncDeviceInfo ctx onKey saved h memory data.length) ⟨⟩
      (Sees h (w.set fun auth => { auth with
        status := .authPassed
        encryptInfoStatus := .recvEncryptDataState }))
      (calls ++ acceptCalls h w.auth data) := by
  refine delivers_authHandlePeerSyncDeviceInfo size given first ?_
  have late : ¬ (w.keyed = false ∨ w.auth.status = .inSyncProgress) := by
    rw [keyed]
    rintro (absent | early)
    · cases absent
    · exact ready early
  rw [if_neg late]
  exact delivers_acceptSyncDeviceInfo (v := w.set fun auth =>
    { auth with encryptInfoStatus := .recvEncryptDataState }) reg _

end

lemma delivers_authPostDataWith {onKey : Nat → AuthM PUnit} (sent : post.sent)
    (own : post.head.authId = v.auth.authId)
    (after : Shows h v (handlePeerSyncDeviceInfo ctx onKey h post) ⟨⟩
      Q calls) : Shows h v (authPostDataWith ctx onKey post) true Q calls := by
  refine .get fun s sees => ?_
  rw [own, sees.found]
  have rest : Shows h v (deref h >>= fun auth =>
      sendBytes ctx auth post >>= fun sent =>
        if sent then do handlePeerSyncDeviceInfo ctx onKey h post; pure true else pure false) true Q
      calls := by
    refine delivers_deref (bind_silent (delivers_sendBytes sent) ?_)
    rw [if_pos rfl, ← append_nil calls]
    exact after.bind (pure fun _ hQ => hQ)
  exact rest.weaken fun t same => same ▸ sees

lemma delivers_authPostDataWith_none {onKey : Nat → AuthM PUnit} (sent : post.sent)
    (sync : post.head.dataType = some .sync) (own : post.head.authId = v.auth.authId)
    (early : v.auth.encryptDevData = none) : Shows h v (authPostDataWith ctx onKey post) true
      (Sees h (v.set fun auth => { auth with status := .syncFinish })) [] := by
  refine delivers_authPostDataWith sent own ?_
  rw [handlePeerSyncDeviceInfo, if_pos sync]
  refine .bind_silent (delivers_updateAuth rfl rfl) (delivers_deref ?_)
  have none : (v.set fun auth => { auth with status := .syncFinish }).auth.encryptDevData = none :=
    early
  rw [none]
  exact .pure fun _ sees => sees

lemma delivers_authPostDataWith_some {onKey : Nat → AuthM PUnit} {data}
    (reg : Registered ctx v.auth) (sent : post.sent)
    (sync : post.head.dataType = some .sync) (own : post.head.authId = v.auth.authId)
    (kept : v.auth.encryptDevData = some data)
    (size : 0 < data.length ∧ data.length ≤ authMaxDataLen) (keyed : v.keyed)
    (received : v.auth.encryptInfoStatus = .recvEncryptDataState) :
    Shows h v (authPostDataWith ctx onKey post) true (Sees h (v.set fun auth => { auth with
        status := .authPassed
        encryptInfoStatus := .recvEncryptDataState
        encryptDevData := none }))
      (acceptCalls h v.auth data) := by
  let finished := v.set fun auth => { auth with status := .syncFinish }
  let passed := v.set fun auth => { auth with
    status := .authPassed
    encryptInfoStatus := .recvEncryptDataState }
  refine delivers_authPostDataWith sent own ?_
  rw [handlePeerSyncDeviceInfo, if_pos sync, ← append_nil (acceptCalls h v.auth data)]
  refine .bind_silent (R := Sees h finished) (delivers_updateAuth rfl rfl) (delivers_deref ?_)
  rw [show finished.auth.encryptDevData = some data from kept]
  have taken : Shows h finished
      (authHandlePeerSyncDeviceInfo ctx onKey post.saved h data data.length) ⟨⟩ (Sees h passed)
      ([] ++ acceptCalls h v.auth data) := by
    refine delivers_peerSync_taken (w := finished) size (prefix_refl _) (when_neg ?_)
      reg keyed (by rintro ⟨⟩)
    rintro ⟨_, _, generated⟩
    cases received.symm.trans generated
  exact taken.bind (delivers_updateAuth rfl rfl)

def keyCall (h : Nat) (auth : AuthManager) : Event :=
  .onKeyGenerated h auth.authId auth.option auth.peerVersion

lemma delivers_onKeyGenerated_nil (reg : Registered ctx v.auth) :
    Shows h v (onKeyGenerated ctx [] h) ⟨⟩ (Sees h v) [keyCall h v.auth] :=
  delivers_callback reg (decide_eq_true rfl : (keyCall h v.auth).callbackOf h)

lemma delivers_onKeyGenerated_post (reg : Registered ctx v.auth)
    (after : Shows h v (authPostDataWith ctx (onKeyGenerated ctx []) post) true Q calls) :
    Shows h v (onKeyGenerated ctx [post] h) ⟨⟩ Q ([keyCall h v.auth] ++ calls) := by
  refine .bind (delivers_onKeyGenerated_nil reg) ?_
  rw [← append_nil calls]
  exact after.bind (pure fun _ hQ => hQ)

lemma delivers_authOnSessionKeyReturned {sk replies}
    (transport : v.auth.option.type ≠ .ble) (udidFits : v.auth.peerUdid.length ≤ udidBufLen)
    (keyFits : sk.length ≤ sessionKeyLength) (notified : Delivers (callbackOf h)
      (Sees h ⟨{ v.auth with status := .inSyncProgress }, true⟩)
      (notifyKeyGenerated ctx replies h v.auth) ⟨⟩ Q calls) : Shows h v
      (authOnSessionKeyReturned ctx v.auth.authId (some sk) true replies) ⟨⟩ Q calls := by
  have deviceKey : ∃ key len, authGetDeviceKey v.auth.option = some (key, len) ∧
      len ≤ maxDeviceKeyLen := by
    unfold authGetDeviceKey
    split
    · exact ⟨_, _, rfl, by decide⟩
    · exact ⟨_, _, rfl, by decide⟩
    next ble => exact absurd ble transport
  obtain ⟨key, len, hKey, keyLen⟩ := deviceKey
  have stored : Shows h v
      (storeSessionKey true h v.auth (key, len) sk) ⟨⟩ (Sees h ⟨v.auth, true⟩) [] := by
    refine .get fun s sees => ?_
    have fits : ¬ (true = false ∨ udidBufLen < v.auth.peerUdid.length ∨ maxDeviceKeyLen < len ∨
        sessionKeyLength < sk.length) := by
      rintro (absurd | long | long | long)
      · cases absurd
      · exact not_lt_of_ge udidFits long
      · exact not_lt_of_ge keyLen long
      · exact not_lt_of_ge keyFits long
    have pushed : ∀ devInfo : NecessaryDevInfo, devInfo.deviceKeyLen = len →
        authSetLocalSessionKey true devInfo v.auth.peerUdid sk s.keys =
          (RecentList.push maxKeyListSize ⟨devInfo, sk, v.auth.peerUdid⟩ s.keys, true) :=
      fun devInfo hLen => if_neg (hLen ▸ fits)
    dsimp only
    rw [pushed _ rfl]
    refine .bind_silent (R := fun t => t = s)
      (when_pos rfl (emit fun _ same => same)) (modify fun t same => ?_)
    subst same
    refine ⟨sees.record, sees.found, ?_⟩
    exact any_eq_true.mpr ⟨_, mem_cons_self, decide_eq_true rfl⟩
  refine .get fun s sees => ?_
  rw [sees.found]
  refine .weaken (R := Sees h v) ?_ fun t same => same ▸ sees
  refine .bind_silent (emit fun _ sees => sees) (delivers_deref ?_)
  rw [hKey]
  exact stored.bind_silent (bind_silent (delivers_updateAuth rfl rfl) notified)

end

/-- The three events of one AuthManager, with what they carry. `inside` tells whether
the local information is posted from inside onKeyGenerated. -/
structure Exchange (ctx : AuthContext) where
  h : Nat
  auth : AuthManager
  sessionKey : Bytes
  data : Bytes
  post : Post
  inside : Bool
  registered : Registered ctx auth
  fresh : auth.encryptInfoStatus = .initialState ∧ auth.encryptDevData = none
  transport : auth.option.type ≠ .ble
  udidFits : auth.peerUdid.length ≤ udidBufLen
  keyFits : sessionKey.length ≤ sessionKeyLength
  size : 0 < data.length ∧ data.length ≤ authMaxDataLen
  own : post.head.authId = auth.authId
  sync : post.head.dataType = some .sync
  sent : post.sent

structure Progress where
  keyed : Bool
  arrived : Bool
  posted : Bool

namespace Exchange
variable {ctx : AuthContext} (x : Exchange ctx) (p : Progress)

def replies : List Post := if x.inside then [x.post] else []

/-- The AuthManagers for which onKeyGenerated waits for the peer's information. -/
def waits : Bool := x.auth.option.type = .tcp ∧ x.auth.side = .server

@[simp]
def generated : Bool := p.keyed && (!x.waits || p.arrived)

@[simp]
def finished : Bool := if x.inside then x.generated p else p.posted

@[simp]
def accepted : Bool := p.keyed && p.arrived && x.finished p

@[simp]
def status : AuthStatus :=
  if x.accepted p then .authPassed else if x.finished p then .syncFinish
  else if p.keyed then .inSyncProgress else x.auth.status

@[simp]
def encryptInfoStatus : EncryptInfoStatus :=
  if p.arrived then .recvEncryptDataState
  else if p.keyed && x.waits then .keyGeneratedState else .initialState

@[simp]
def encryptDevData : Option Bytes :=
  if p.arrived && !x.accepted p then some x.data else none

def shown (status : AuthStatus) (info : EncryptInfoStatus) (kept : Option Bytes)
    (keyed : Bool) : View :=
  ⟨{ x.auth with status := status, encryptInfoStatus := info, encryptDevData := kept }, keyed⟩

@[simp]
def view : View := x.shown (x.status p) (x.encryptInfoStatus p) (x.encryptDevData p) p.keyed

@[simp]
def callbacks : List Event :=
  (if x.generated p then [keyCall x.h x.auth] else []) ++
    if x.accepted p then acceptCalls x.h x.auth x.data else []

def Advances (y : AuthM PUnit) (q : Progress) : Prop :=
  ∃ seen, Shows x.h (x.view p) y ⟨⟩ (Sees x.h (x.view q)) seen ∧
    x.callbacks q = x.callbacks p ++ seen

abbrev returnKey : AuthM PUnit :=
  authOnSessionKeyReturned ctx x.auth.authId (some x.sessionKey) true x.replies

abbrev takePacket (memory : Bytes) : AuthM PUnit :=
  authHandlePeerSyncDeviceInfo ctx (onKeyGenerated ctx x.replies) true x.h memory x.data.length

abbrev greet (info : EncryptInfoStatus) : AuthM PUnit :=
  when (x.auth.option.type = .tcp ∧ x.auth.side = .server ∧ info = .keyGeneratedState)
    (onKeyGenerated ctx x.replies x.h)

abbrev holding (status : AuthStatus) (keyed : Bool) : View :=
  x.shown status .recvEncryptDataState (some x.data) keyed

lemma advances_of_eq {y q v w seen}
    (before : x.view p = v) (after : x.view q = w) (calls : x.callbacks q = x.callbacks p ++ seen)
    (spec : Shows x.h v y ⟨⟩ (Sees x.h w) seen) :
    x.Advances p y q := ⟨seen, before ▸ after ▸ spec, calls⟩

lemma waits_iff : x.waits ↔ x.auth.option.type = .tcp ∧ x.auth.side = .server :=
  decide_eq_true_iff

section
variable (status : AuthStatus) (info : EncryptInfoStatus) (kept : Option Bytes) (keyed : Bool)

lemma post_none (onKey : Nat → AuthM PUnit) : Shows x.h (x.shown status info none true)
      (authPostDataWith ctx onKey x.post) true (Sees x.h (x.shown .syncFinish info none true)) [] :=
  delivers_authPostDataWith_none (v := x.shown status info none true) x.sent x.sync x.own rfl

lemma post_some (onKey : Nat → AuthM PUnit) : Shows x.h (x.holding status true)
      (authPostDataWith ctx onKey x.post) true
      (Sees x.h (x.shown .authPassed .recvEncryptDataState none true))
      (acceptCalls x.h x.auth x.data) :=
  delivers_authPostDataWith_some (v := x.holding status true) x.registered x.sent x.sync x.own
    rfl x.size rfl rfl

lemma callback_none : Shows x.h (x.shown status info none true)
      (onKeyGenerated ctx x.replies x.h) ⟨⟩
      (Sees x.h (x.shown (if x.inside then .syncFinish else status) info none true))
      [keyCall x.h x.auth] := by
  unfold replies
  split
  · exact delivers_onKeyGenerated_post (v := x.shown status info none true) x.registered
      (x.post_none status info _)
  · exact delivers_onKeyGenerated_nil (v := x.shown status info none true) x.registered

lemma callback_some : Shows x.h (x.holding status true) (onKeyGenerated ctx x.replies x.h) ⟨⟩
      (Sees x.h (x.shown (if x.inside then .authPassed else status) .recvEncryptDataState
        (if x.inside then none else some x.data) true))
      ([keyCall x.h x.auth] ++ if x.inside then acceptCalls x.h x.auth x.data else []) := by
  unfold replies
  split
  · exact delivers_onKeyGenerated_post (v := x.holding status true) x.registered
      (x.post_some status _)
  · exact delivers_onKeyGenerated_nil (v := x.holding status true) x.registered

lemma key_delivers {Q calls} (notified : Shows x.h (x.shown .inSyncProgress info kept true)
      (notifyKeyGenerated ctx x.replies x.h (x.shown status info kept keyed).auth) ⟨⟩ Q calls) :
    Shows x.h (x.shown status info kept keyed) x.returnKey ⟨⟩ Q calls :=
  delivers_authOnSessionKeyReturned (v := x.shown status info kept keyed) x.transport x.udidFits
    x.keyFits notified

lemma notify_eq (auth) (option : auth.option = x.auth.option) (side : auth.side = x.auth.side)
    (ready : x.waits → auth.encryptInfoStatus = .recvEncryptDataState) :
    notifyKeyGenerated ctx x.replies x.h auth = onKeyGenerated ctx x.replies x.h := by
  unfold notifyKeyGenerated
  rw [option, side]
  split
  next waiting => rw [ready (x.waits_iff.mpr waiting)]
  · rfl

lemma key_some : Shows x.h (x.holding status keyed) x.returnKey ⟨⟩
      (Sees x.h (x.shown (if x.inside then .authPassed else .inSyncProgress) .recvEncryptDataState
        (if x.inside then none else some x.data) true))
      ([keyCall x.h x.auth] ++ if x.inside then acceptCalls x.h x.auth x.data else []) := by
  refine x.key_delivers _ _ _ _ ?_
  rw [x.notify_eq (x.holding status keyed).auth rfl rfl fun _ => rfl]
  exact x.callback_some _

lemma key_none (ready : x.waits = false) : Shows x.h (x.shown status info none keyed) x.returnKey ⟨⟩
      (Sees x.h (x.shown (if x.inside then .syncFinish else .inSyncProgress) info none true))
      [keyCall x.h x.auth] := by
  refine x.key_delivers _ _ _ _ ?_
  rw [x.notify_eq (x.shown status info none keyed).auth rfl rfl fun waiting => by
    cases ready.symm.trans waiting]
  exact x.callback_none _ _

lemma key_waiting (waiting : x.waits) :
    Shows x.h (x.shown status .initialState kept keyed) x.returnKey ⟨⟩
      (Sees x.h (x.shown .inSyncProgress .keyGeneratedState kept true)) [] := by
  refine x.key_delivers _ _ _ _ ?_
  have waited :
      notifyKeyGenerated ctx x.replies x.h (x.shown status .initialState kept keyed).auth =
      updateAuth x.h fun auth => { auth with encryptInfoStatus := .keyGeneratedState } :=
    if_pos (x.waits_iff.mp waiting)
  rw [waited]
  exact delivers_updateAuth (v := x.shown .inSyncProgress .initialState kept true) rfl rfl

/-- AuthHandlePeerSyncDeviceInfo calls onKeyGenerated itself when the key has been
waiting for the peer's information. -/
lemma greet_waiting (waiting : x.waits) : Shows x.h (x.shown status .keyGeneratedState none true)
      (x.greet .keyGeneratedState) ⟨⟩
      (Sees x.h (x.shown (if x.inside then .syncFinish else status) .keyGeneratedState none true))
      [keyCall x.h x.auth] := by
  obtain ⟨tcp, server⟩ := x.waits_iff.mp waiting
  exact .when_pos ⟨tcp, server, rfl⟩ (x.callback_none status .keyGeneratedState)

lemma greet_silent (quiet : ¬ (x.waits ∧ info = .keyGeneratedState)) :
    Shows x.h (x.shown status info none keyed) (x.greet info) ⟨⟩
      (Sees x.h (x.shown status info none keyed)) [] := by
  refine .when_neg ?_
  rintro ⟨tcp, server, generated⟩
  exact quiet ⟨x.waits_iff.mpr ⟨tcp, server⟩, generated⟩

section
variable {status after : AuthStatus} {info : EncryptInfoStatus} {keyed : Bool}
  {memory : Bytes} {calls : List Event} (given : x.data <+: memory)
  (first : Shows x.h (x.shown status info none keyed) (x.greet info) ⟨⟩
    (Sees x.h (x.shown after info none keyed)) calls)
include given first

lemma packet_kept (early : keyed = false ∨ after = .inSyncProgress) :
    Shows x.h (x.shown status info none keyed)
      (x.takePacket memory) ⟨⟩ (Sees x.h (x.holding after keyed)) calls :=
  delivers_peerSync_kept (v := x.shown status info none keyed) (w := x.shown after info none keyed)
    x.size given first rfl early

lemma packet_taken (present : keyed) (ready : after ≠ .inSyncProgress) :
    Shows x.h (x.shown status info none keyed) (x.takePacket memory) ⟨⟩
      (Sees x.h (x.shown .authPassed .recvEncryptDataState none keyed))
      (calls ++ acceptCalls x.h x.auth x.data) :=
  delivers_peerSync_taken (v := x.shown status info none keyed) (w := x.shown after info none keyed)
    x.size given first x.registered present ready

end

end

lemma key_advances (arrived posted) (outside : x.inside = false → posted = false) :
    x.Advances ⟨false, arrived, posted⟩ x.returnKey ⟨true, arrived, posted⟩ := by
  cases arrived with
  | true =>
    refine x.advances_of_eq _ ?_ ?_ ?_ (x.key_some x.auth.status false)
    all_goals cases hInside : x.inside <;> simp_all
  | false =>
    cases hWaits : x.waits with
    | true =>
      refine x.advances_of_eq _ ?_ ?_ ?_ (x.key_waiting x.auth.status none false hWaits)
      all_goals cases hInside : x.inside <;> simp_all
    | false =>
      refine x.advances_of_eq _ ?_ ?_ ?_ (x.key_none x.auth.status .initialState false hWaits)
      all_goals cases hInside : x.inside <;> simp_all

lemma packet_advances {memory} (given : x.data <+: memory) (keyed posted)
    (outside : x.inside = false → posted = true → x.generated ⟨keyed, false, posted⟩ = true) :
    x.Advances ⟨keyed, false, posted⟩ (x.takePacket memory) ⟨keyed, true, posted⟩ := by
  cases keyed with
  | false =>
    refine x.advances_of_eq _ ?_ ?_ ?_
      (x.packet_kept given (x.greet_silent x.auth.status .initialState false nofun) (.inl rfl))
    all_goals cases hInside : x.inside <;> simp_all
  | true =>
    cases hWaits : x.waits with
    | true =>
      cases hInside : x.inside with
      | true =>
        have spec := x.packet_taken given (x.greet_waiting .inSyncProgress hWaits) rfl (by
          rw [hInside]
          nofun)
        refine x.advances_of_eq _ ?_ ?_ ?_ spec
        all_goals simp_all
      | false =>
        have spec := x.packet_kept given (x.greet_waiting .inSyncProgress hWaits) (by
          rw [hInside]
          exact .inr rfl)
        refine x.advances_of_eq _ ?_ ?_ ?_ spec
        all_goals simp_all
    | false =>
      have quiet := x.greet_silent (x.status ⟨true, false, posted⟩) .initialState true nofun
      cases done : x.finished ⟨true, false, posted⟩ with
      | true =>
        refine x.advances_of_eq _ ?_ ?_ ?_ (x.packet_taken given quiet rfl ?_)
        all_goals cases hInside : x.inside <;> simp_all
      | false =>
        refine x.advances_of_eq _ ?_ ?_ ?_ (x.packet_kept given quiet (.inr ?_))
        all_goals cases hInside : x.inside <;> simp_all

lemma post_advances (arrived) (outside : x.inside = false)
    (called : x.generated ⟨true, arrived, false⟩) (replies) :
    x.Advances ⟨true, arrived, false⟩ (do let _ ← authPostData ctx replies x.post)
      ⟨true, arrived, true⟩ := by
  cases arrived with
  | true =>
    refine x.advances_of_eq _ ?_ ?_ ?_ (bind (x.post_some .inSyncProgress _)
      (pure fun _ sees => sees))
    all_goals simp_all
  | false =>
    refine x.advances_of_eq _ ?_ ?_ ?_ (bind (x.post_none .inSyncProgress .initialState _)
      (pure fun _ sees => sees))
    all_goals simp_all

inductive Arrives (s : AuthState) : Input → Prop
  | conn (connectionId : BitVec 32) (seq : BitVec 64) (info : AuthDataInfo) (beyond : Bytes)
      (env : Env) (type : info.type = AuthDataType.sync.code)
      (len : info.dataLen = BitVec.ofNat 32 x.data.length)
      (target : authGetManagerByAuthId s info.authId (authGetSideByRemoteSeq seq) = some x.h)
      (saved : env.saved) (inCallback : env.replies = x.replies) :
      Arrives s (.dataReceived connectionId deviceAuth.code seq (info.bytes ++ x.data)
        beyond env)
  | socket (fd : BitVec 32) (head : ConnPktHead) (reads : List Bytes) (stale : BitVec 64)
      (env : Env) (module : head.module = authConnection.code)
      (whole : recvPacket env.alloc head reads = some x.data)
      (target : authGetManagerByFd s fd = some x.h)
      (taken : ∀ auth, s.auths.get? x.h = some auth → refusesSeq auth head = false)
      (saved : env.saved) (inCallback : env.replies = x.replies) :
      Arrives s (.socketData fd (.full head) reads stale env)

def Elsewhere (s : AuthState) (input : Input) : Prop :=
  ∃ t out, authStep ctx s input = some (t, out) ∧ (∀ view, Sees x.h view s → Sees x.h view t) ∧
    out.filter (callbackOf x.h) = []

/-- The inputs bring each event once, in any order, but the local information not before
onKeyGenerated, with any other inputs in between. -/
inductive Interleaving : Progress → AuthState → List Event → List Input → Prop
  | done {s : AuthState} {past : List Event} : Interleaving ⟨true, true, true⟩ s past []
  | key {arrived posted : Bool} {s : AuthState} {past : List Event} {rest : List Input}
      (next : ∀ t out, authStep ctx s (.hichain (.onSessionKeyReturned x.auth.authId
        (some x.sessionKey) true x.replies)) = some (t, out) →
        Interleaving ⟨true, arrived, posted⟩ t (past ++ out) rest) :
      Interleaving ⟨false, arrived, posted⟩ s past (.hichain (.onSessionKeyReturned x.auth.authId
        (some x.sessionKey) true x.replies) :: rest)
  | packet {keyed posted : Bool} {s : AuthState} {past : List Event} {rest : List Input}
      {input : Input} (arrives : x.Arrives s input)
      (next : ∀ t out, authStep ctx s input = some (t, out) →
        Interleaving ⟨keyed, true, posted⟩ t (past ++ out) rest) :
      Interleaving ⟨keyed, false, posted⟩ s past (input :: rest)
  | post {keyed arrived : Bool} {s : AuthState} {past : List Event} {rest : List Input}
      (replies : List Post)
      (called : ∃ authId option version, .onKeyGenerated x.h authId option version ∈ past)
      (next : ∀ t out, authStep ctx s (.postData x.post replies) = some (t, out) →
        Interleaving ⟨keyed, arrived, true⟩ t (past ++ out) rest) :
      Interleaving ⟨keyed, arrived, false⟩ s past (.postData x.post replies :: rest)
  | other {p : Progress} {s : AuthState} {past : List Event} {rest : List Input} {input : Input}
      (elsewhere : x.Elsewhere s input)
      (next : ∀ t out, authStep ctx s input = some (t, out) → Interleaving p t (past ++ out) rest) :
      Interleaving p s past (input :: rest)

structure Reached (s : AuthState) (past : List Event) : Prop where
  sees : Sees x.h (x.view p) s
  calls : past.filter (callbackOf x.h) = x.callbacks p
  ordered : x.inside = false → p.posted → x.generated p
  inCallback : x.inside → p.posted

variable {x p}

variable {s : AuthState}

variable {past : List Event}

lemma Reached.step {q input y} (reached : x.Reached p s past)
    (advances : x.Advances p y q) (same : handleInput ctx input s = y s)
    (ordered : x.inside = false → q.posted → x.generated q) (inCallback : x.inside → q.posted) :
    ∃ t out, authStep ctx s input = some (t, out) ∧ x.Reached q t (past ++ out) := by
  obtain ⟨seen, spec, calls⟩ := advances
  obtain ⟨t, out, hStep, sees, hSeen⟩ := spec.step reached.sees
  refine ⟨t, out, ?_, sees, ?_, ordered, inCallback⟩
  · rw [authStep, Act.step, same]
    exact hStep
  · rw [filter_append, hSeen, reached.calls, calls]

lemma length_recvBody {remainLen reads data}
    (received : recvBody remainLen reads = some data) : data.length = remainLen := by
  induction reads generalizing remainLen data with
  | nil => cases received
  | cons chunk reads ih =>
    rw [recvBody] at received
    split at received
    · cases received
    split at received
    · obtain ⟨more, hMore, rfl⟩ := Option.map_eq_some_iff.mp received
      rw [length_append, ih hMore]
      omega
    · cases received
      rw [length_take]
      omega

lemma deref_returns {h auth} (hGet : s.auths.get? h = some auth) :
    Returns (deref h) s auth s [] := by
  have read : deref h s = _ := Returns.bind_apply (x := get) rfl _
  rw [Returns, read, hGet]
  rfl

lemma Arrives.eq {input} (arrives : x.Arrives s input) {auth}
    (hGet : s.auths.get? x.h = some auth) : ∃ memory, x.data <+: memory ∧ handleInput ctx input s =
      x.takePacket memory s := by
  cases arrives with
  | conn connectionId seq info beyond env type len target saved inCallback =>
    refine ⟨x.data ++ beyond, prefix_append _ _, ?_⟩
    have dataLen : info.dataLen.toNat = x.data.length := by
      have small : x.data.length ≤ 65536 := x.size.2
      rw [len, BitVec.toNat_ofNat, Nat.mod_eq_of_lt (by omega)]
    have body : (info.bytes ++ x.data ++ beyond).drop authDataInfoSize = x.data ++ beyond := by
      rw [append_assoc]
      exact drop_left' rfl
    have known : AuthDataType.ofCode info.type = some .sync := by
      rw [type]
      rfl
    rw [handleInput, authOnDataReceived, if_pos rfl, analysisData_bytes_append]
    dsimp only
    rw [handleReceiveData, Returns.bind_apply (x := get) rfl, known, target, body, dataLen, saved,
      inCallback]
  | socket fd head reads stale env module whole target taken saved inCallback =>
    refine ⟨x.data, prefix_refl _, ?_⟩
    have len : head.len.toNat = x.data.length := by
      unfold recvPacket at whole
      split at whole
      · cases whole
      · exact (length_recvBody whole).symm
    have known : ofCode head.module = some .authConnection := by
      rw [module]
      rfl
    rw [handleInput, authOnDataEvent, whole]
    dsimp only
    rw [authIpOnDataReceived, Returns.bind_apply (x := get) rfl, target]
    dsimp only
    rw [(deref_returns hGet).bind_apply, taken auth hGet, known, len, saved, inCallback]
    rfl

lemma generated_of_arrived {keyed posted} (called : x.generated ⟨keyed, false, posted⟩) :
    x.generated ⟨keyed, true, posted⟩ := by
  simp_all

lemma Reached.generated_of_called (reached : x.Reached p s past)
    (called : ∃ authId option version, .onKeyGenerated x.h authId option version ∈ past) :
    x.generated p := by
  obtain ⟨authId, option, version, mem⟩ := called
  have visible : Event.onKeyGenerated x.h authId option version ∈ x.callbacks p := by
    rw [← reached.calls]
    exact mem_filter.mpr ⟨mem, decide_eq_true rfl⟩
  have later : Event.onKeyGenerated x.h authId option version ∉ acceptCalls x.h x.auth x.data := by
    simp [acceptCalls]
  by_contra none
  rw [callbacks, if_neg none, nil_append] at visible
  split at visible
  · exact later visible
  · cases visible

lemma Interleaving.completes {inputs} (schedule : x.Interleaving p s past inputs)
    (reached : x.Reached p s past) : ∃ t outs, run (authStep ctx) s inputs = some (t, outs) ∧
      (past ++ outs).filter (callbackOf x.h) = x.callbacks ⟨true, true, true⟩ := by
  have extend : ∀ {s : AuthState} {past : List Event} {q : Progress} {input : Input}
      {rest : List Input}, (∃ t out, authStep ctx s input = some (t, out) ∧
        x.Reached q t (past ++ out)) →
      (∀ t out, authStep ctx s input = some (t, out) → x.Reached q t (past ++ out) →
        ∃ u outs, run (authStep ctx) t rest = some (u, outs) ∧
          (past ++ out ++ outs).filter (callbackOf x.h) = x.callbacks ⟨true, true, true⟩) →
      ∃ u outs, run (authStep ctx) s (input :: rest) = some (u, outs) ∧
        (past ++ outs).filter (callbackOf x.h) = x.callbacks ⟨true, true, true⟩ := by
    rintro s past q input rest ⟨t, out, hStep, hReached⟩ tail
    obtain ⟨u, outs, hRun, hCalls⟩ := tail t out hStep hReached
    refine ⟨u, out ++ outs, run_cons_eq_some.mpr ⟨t, out, outs, hStep, hRun, rfl⟩, ?_⟩
    rw [← append_assoc]
    exact hCalls
  induction schedule with
  | @done s past => exact ⟨s, [], rfl, by rw [append_nil, reached.calls]⟩
  | @key arrived posted s past rest next ih =>
    have early : x.inside = false → posted = false := fun outside =>
      Bool.eq_false_of_not_eq_true fun hPosted => by
        have called := reached.ordered outside hPosted
        cases called
    refine extend (reached.step (x.key_advances arrived posted early) rfl ?_ reached.inCallback) ih
    intro outside hPosted
    cases (early outside).symm.trans hPosted
  | packet arrives next ih =>
    obtain ⟨memory, given, same⟩ := arrives.eq reached.sees.record
    refine extend (reached.step (x.packet_advances given _ _ reached.ordered) same ?_
      reached.inCallback) ih
    intro outside hPosted
    exact x.generated_of_arrived (reached.ordered outside hPosted)
  | @post keyed arrived s past rest replies called next ih =>
    have outside : x.inside = false :=
      Bool.eq_false_of_not_eq_true fun inside => by cases reached.inCallback inside
    have generated := reached.generated_of_called called
    have present : keyed = true := (Bool.and_eq_true_iff.mp generated).1
    subst present
    exact extend (reached.step (x.post_advances arrived outside generated replies) rfl
      (fun _ _ => generated) fun _ => rfl) ih
  | other elsewhere next ih =>
    obtain ⟨t, out, hStep, sees, silent⟩ := elsewhere
    refine extend ⟨t, out, hStep, sees _ reached.sees, ?_, reached.ordered, reached.inCallback⟩ ih
    rw [filter_append, silent, append_nil, reached.calls]

end Exchange

/-- In every order the callbacks are made once each: onKeyGenerated, then
onRecvSyncDeviceInfo with the peer's bytes, and onDeviceVerifyPass last on TCP. -/
theorem exchange_completes {ctx : AuthContext} (x : Exchange ctx) {s : AuthState}
    {inputs : List Input} (start : Sees x.h ⟨x.auth, false⟩ s)
    (schedule : x.Interleaving ⟨false, false, x.inside⟩ s [] inputs) :
    ∃ t outs, run (authStep ctx) s inputs = some (t, outs) ∧ outs.filter (callbackOf x.h) =
        [.onKeyGenerated x.h x.auth.authId x.auth.option x.auth.peerVersion,
          .onRecvSyncDeviceInfo x.h x.auth.authId x.auth.side x.auth.peerUuid x.data] ++
        if x.auth.option.type = .tcp then [.onDeviceVerifyPass x.h x.auth.authId] else [] := by
  have initial : x.view ⟨false, false, x.inside⟩ = ⟨x.auth, false⟩ := by
    cases hInside : x.inside <;> simp [hInside, Exchange.shown, ← x.fresh.1, ← x.fresh.2]
  have reached : x.Reached ⟨false, false, x.inside⟩ s [] := by
    refine ⟨initial ▸ start, by simp, fun outside inside => ?_, fun inside => inside⟩
    cases outside.symm.trans inside
  obtain ⟨t, outs, hRun, hCalls⟩ := schedule.completes reached
  refine ⟨t, outs, hRun, hCalls.trans ?_⟩
  simp [acceptCalls, keyCall]

/-- The server side of a socket with a quick client, which posts its information from the
callback. -/
def socketExchange : Exchange sampleContext where
  h := 0
  auth := serverAuth 5 0 5 ⟨.tcp, cString "10.0.0.2", 6000⟩
  sessionKey := [1]
  data := [9]
  post := ⟨⟨some .sync, authConnection.code, 5, 0, 0⟩, [3], true, true⟩
  inside := true
  registered := ⟨.lnn, by decide, rfl⟩
  fresh := ⟨rfl, rfl⟩
  transport := nofun
  udidFits := by decide
  keyFits := by decide
  size := by decide
  own := rfl
  sync := rfl
  sent := rfl

theorem exchange_completes_socket : ∃ t outs, run (authStep sampleContext)
        ⟨RecordHeap.empty.alloc socketExchange.auth, [], 0⟩
        [.socketData 5 (.full ⟨authConnection.code, 5, 0, 1⟩) [[9]] 0
          { sampleEnv with replies := socketExchange.replies },
        .hichain (.onSessionKeyReturned 5 (some [1]) true socketExchange.replies)] =
        some (t, outs) ∧
      outs.filter (callbackOf 0) =
        [.onKeyGenerated 0 5 socketExchange.auth.option 0, .onRecvSyncDeviceInfo 0 5 .server [] [9],
          .onDeviceVerifyPass 0 5] := by
  refine exchange_completes socketExchange ⟨rfl, by decide, rfl⟩
    (.packet (.socket 5 _ _ _ _ rfl (by decide) (by decide) ?_ rfl rfl)
      fun _ _ _ => .key fun _ _ _ => .done)
  rintro auth ⟨⟩
  decide

/-- A client over Bluetooth up to the return of its session key. -/
def keyReturned : List Input :=
  [.verifyDevice .lnn brOption 7 none true sampleEnv,
    .hichain (.onSessionKeyReturned 0x1000002 (some [1]) true [])]

/-- The thread that brings the packet has tested the status when another posts the local
information; no lock joins the test to what follows it. -/
def postDuringSync : AuthM PUnit := do
  let tested ← testPeerSyncDeviceInfo (onKeyGenerated sampleContext []) 0
  let _ ← authPostData sampleContext [] ⟨⟨some .sync, 4, 0x1000002, 0, 0⟩, [3], true, true⟩
  takePeerSyncDeviceInfo sampleContext true 0 [9] tested

/-- The post finds no information to take up, and the packet's is kept for a post that has
been made: nothing reports it. -/
theorem postDuringSync_not_reported :
    ∃ s outs t late, run (authStep sampleContext) .init keyReturned = some (s, outs) ∧
      postDuringSync.step s = some (t, late) ∧
      (outs ++ late).filter (callbackOf 0) = [.onKeyGenerated 0 0x1000002 brOption 0] ∧
      (t.auths.get? 0).map (fun auth => (auth.status, auth.encryptDevData)) =
        some (.syncFinish, some [9]) := by
  have result : ∃ r ∈ run (authStep sampleContext) .init keyReturned,
      ∃ late ∈ postDuringSync.step r.1,
        (r.2 ++ late.2).filter (callbackOf 0) = [.onKeyGenerated 0 0x1000002 brOption 0] ∧
        (late.1.auths.get? 0).map (fun auth => (auth.status, auth.encryptDevData)) =
          some (.syncFinish, some [9]) := by
    decide +kernel
  obtain ⟨⟨s, outs⟩, hRun, ⟨t, late⟩, hLate, only, kept⟩ := result
  exact ⟨s, outs, t, late, hRun, hLate, only, kept⟩

end DSoftBus.Auth
