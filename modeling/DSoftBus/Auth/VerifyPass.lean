import DSoftBus.Auth.Dispatch

/-!
When the upper layer is told that a device has been verified. This ought to follow the
session key and the device information of the same AuthManager. But ReceiveCloseAck
reports it whatever the status, so a closing acknowledgement of the peer is enough; and
AuthHandlePeerSyncDeviceInfo looks the session key up under the low half of the authId, so
a key of another AuthManager serves as well.

In the runs of `VerifyGuarded` neither happens and every verification is justified.
-/
namespace DSoftBus.Auth
open Effect Execution RecordHeap List

/-- Before a verification a session key was stored for the same AuthManager and its peer's
device information reported. -/
def Authenticated (trace : List Event) : Prop :=
  Justified (fun before event => ∀ h authId, event = .onDeviceVerifyPass h authId →
    KeyStored h before ∧ RecvSynced h before) trace

variable (s : AuthState)

def DistinctSeqs : Prop :=
  ∀ c ∈ s.auths.cells, ∀ d ∈ s.auths.cells, seqOf c.2.authId = seqOf d.2.authId → c.1 = d.1
deriving Decidable

def Input.closeAck : Input → Option (BitVec 32)
  | .dataReceived connectionId moduleId _ data _ _ =>
    if moduleId = ConnModule.deviceAuth.code ∧
        (analysisData data).bind (fun info => AuthDataType.ofCode info.type) = some .closeAck
    then some connectionId else none
  | _ => none

/-- The AuthManager for which a closing acknowledgement in the input is taken. -/
def closeAckAuth (input : Input) : Option AuthManager :=
  (input.closeAck.bind (closeAckTarget s)).bind s.auths.get?

def Input.hichainCalls : Input → List HichainCall
  | .hichain call => [call]
  | .dataReceived _ _ _ _ _ env => env.hichain.calls
  | .socketData _ _ _ _ env => env.hichain.calls
  | _ => []

/-- The ids of the AuthManagers are told apart by their low halves, a closing
acknowledgement is taken only for an AuthManager that has passed, and no key is
returned for the id 0, which the sockets use for "not assigned yet". -/
def VerifyGuarded (input : Input) : Prop :=
  DistinctSeqs s ∧ (∀ auth ∈ closeAckAuth s input, auth.status = .authPassed) ∧
    ∀ call ∈ input.hichainCalls, call.KeyAllowed (· ≠ 0)

/-- Every key belongs to an AuthManager whose id it carries, and every AuthManager that
has passed has its own key and its peer's information. -/
structure Authentic (s : AuthState) (past : List Event) : Prop where
  owned : ∀ key ∈ s.keys, ∃ h auth, s.auths.get? h = some auth ∧ auth.authId ≠ 0 ∧
    seqOf auth.authId = key.seq ∧ KeyStored h past
  passed : ∀ h auth, s.auths.get? h = some auth → auth.status = .authPassed →
    KeyStored h past ∧ RecvSynced h past
  trace : Authenticated past

def Guarded (past : List Event) : Prop := DistinctSeqs s ∧ Authentic s past

lemma KeyStored.append {h past} (stored : KeyStored h past)
    (more) : KeyStored h (past ++ more) := by
  obtain ⟨key, mem⟩ := stored
  exact ⟨key, mem_append_left more mem⟩

lemma RecvSynced.append {h past} (synced : RecvSynced h past)
    (more) : RecvSynced h (past ++ more) := by
  obtain ⟨authId, side, peerUuid, data, mem⟩ := synced
  exact ⟨authId, side, peerUuid, data, mem_append_left more mem⟩

lemma distinctSeqs_iff {s} : DistinctSeqs s ↔
    ∀ h g auth other, s.auths.get? h = some auth → s.auths.get? g = some other →
      seqOf auth.authId = seqOf other.authId → h = g := by
  constructor
  · intro distinct h g auth other hGet hNe same
    exact distinct (h, auth) (mem_of_get? hGet) (g, other)
      (mem_of_get? hNe) same
  · intro distinct c hc d hd same
    exact distinct c.1 d.1 c.2 d.2 (get?_of_mem hc) (get?_of_mem hd) same

section
variable {s : AuthState} {past : List Event} {h : Nat} {f : AuthManager → AuthManager}

lemma Authentic.emit (hInv : Authentic s past) {event}
    (justified : ∀ h authId, event = .onDeviceVerifyPass h authId →
      KeyStored h past ∧ RecvSynced h past) : Authentic s (past ++ [event]) where
  owned key mem := by
    obtain ⟨h, auth, hGet, hId, hSeq, hStored⟩ := hInv.owned key mem
    exact ⟨h, auth, hGet, hId, hSeq, hStored.append _⟩
  passed h auth hGet hStatus := by
    obtain ⟨hStored, hRecv⟩ := hInv.passed h auth hGet hStatus
    exact ⟨hStored.append _, hRecv.append _⟩
  trace := justified_concat.mpr ⟨hInv.trace, justified⟩

/-- A record may change in any way that keeps a nonzero id, as long as a status that
becomes AUTH_PASSED is justified. -/
lemma Authentic.update (hInv : Authentic s past)
    (sameId : ∀ auth, s.auths.get? h = some auth → auth.authId ≠ 0 → (f auth).authId = auth.authId)
    (justified : ∀ auth, s.auths.get? h = some auth → (f auth).status = .authPassed →
      KeyStored h past ∧ RecvSynced h past) : Authentic (s.update h f) past where
  owned key mem := by
    obtain ⟨g, auth, hGet, hId, hSeq, hStored⟩ := hInv.owned key mem
    refine ⟨g, _, get?_modify_of_get? hGet, ?_, ?_, hStored⟩
    all_goals
      split
      next same =>
        rw [sameId auth (same ▸ hGet) hId]
        assumption
      · assumption
  passed g auth hGet hStatus := by
    rcases get?_modify_eq_some hGet with ⟨_, hOld⟩ | ⟨rfl, old, hOld, rfl⟩
    · exact hInv.passed g auth hOld hStatus
    · exact justified old hOld hStatus
  trace := hInv.trace

lemma DistinctSeqs.update (distinct : DistinctSeqs s)
    (sameId : ∀ auth, s.auths.get? h = some auth → (f auth).authId = auth.authId) :
    DistinctSeqs (s.update h f) := by
  have before : ∀ g auth, (s.update h f).auths.get? g = some auth →
      ∃ old, s.auths.get? g = some old ∧ old.authId = auth.authId := by
    intro g auth hGet
    rcases get?_modify_eq_some hGet with ⟨_, hOld⟩ | ⟨rfl, old, hOld, rfl⟩
    · exact ⟨auth, hOld, rfl⟩
    · exact ⟨old, hOld, (sameId old hOld).symm⟩
  rw [distinctSeqs_iff] at distinct ⊢
  intro g k auth other hGet hNe same
  obtain ⟨old, hOld, hId⟩ := before g auth hGet
  obtain ⟨old', hOld', hId'⟩ := before k other hNe
  exact distinct g k old old' hOld hOld' (by rw [hId, hId', same])

end

lemma Authentic.integer {s past} (hInv : Authentic s past)
    (n) : Authentic { s with integer := n } past :=
  ⟨hInv.owned, hInv.passed, hInv.trace⟩

lemma Authentic.update_harmless {s past} (hInv : Authentic s past) (h) {f} (harmless : Harmless f) :
    Authentic (s.update h f) past :=
  hInv.update (fun auth _ _ => (harmless auth).1)
    fun auth hGet passed => hInv.passed h auth hGet ((harmless auth).2.2.2 passed)

lemma authentic_managed : Managed (fun _ _ _ => True) Authentic where
  emit event neutral hInv := by
    refine hInv.emit fun h authId same => ?_
    subst same
    exact neutral.elim
  update h _ harmless hInv := hInv.update_harmless h harmless
  integer n hInv := hInv.integer n
  create auth _ fresh hInv := by
    refine ⟨fun key mem => ?_, fun h other hGet hStatus => ?_, hInv.trace⟩
    · obtain ⟨h, owner, hGet, rest⟩ := hInv.owned key mem
      exact ⟨h, owner, (get?_alloc_of_lt (lt_next hGet)).trans hGet, rest⟩
    · rcases get?_alloc_eq_some hGet with ⟨_, rfl⟩ | hOld
      · exact absurd hStatus fresh
      · exact hInv.passed h other hOld hStatus
  leave {s past h auth} hGet hInv := by
    refine ⟨fun key mem => ?_, fun g other hNe hStatus => ?_, hInv.trace⟩
    · obtain ⟨mem, hSeq⟩ := mem_filter.mp mem
      obtain ⟨g, owner, hOwner, hId, hOwned, hStored⟩ := hInv.owned key mem
      have other : g ≠ h := by
        rintro rfl
        rw [hGet] at hOwner
        cases hOwner
        exact of_decide_eq_true hSeq hOwned.symm
      exact ⟨g, owner, (get?_free_of_ne other).trans hOwner, hId, hOwned, hStored⟩
    · exact hInv.passed g other (get?_of_free hNe) hStatus
  assign {s past h auth} authId hGet zero _ hInv := by
    refine hInv.update (fun other hNe hId => ?_) fun other hNe passed => ?_
    · rw [hGet] at hNe
      cases hNe
      exact absurd zero hId
    · exact hInv.passed h other hNe passed

lemma guarded_closed : Closed (· ≠ 0) Guarded where
  emit event neutral hInv := ⟨hInv.1, authentic_managed.emit event neutral hInv.2⟩
  update h _ harmless hInv :=
    ⟨hInv.1.update fun auth _ => (harmless auth).1, hInv.2.update_harmless h harmless⟩
  integer n hInv := ⟨hInv.1, hInv.2.integer n⟩
  pass {s past h auth} hGet hKey hRecv hInv := by
    refine ⟨hInv.1.update fun _ _ => rfl, hInv.2.update (fun _ _ _ => rfl) fun _ _ _ => ?_⟩
    -- The key that was found has an owner with the same low half, which is this auth.
    obtain ⟨key, mem, hSeq⟩ := any_eq_true.mp hKey
    obtain ⟨g, owner, hOwner, _, hOwned, hStored⟩ := hInv.2.owned key mem
    have same : g = h := distinctSeqs_iff.mp hInv.1 g h owner auth hOwner hGet
      (hOwned.trans (of_decide_eq_true hSeq))
    exact ⟨same ▸ hStored, hRecv⟩
  verified {s past h auth} hGet hStatus hInv := by
    refine ⟨hInv.1, hInv.2.emit fun g authId same => ?_⟩
    cases same
    exact hInv.2.passed h auth hGet hStatus
  store {s past h auth} key hGet ok hSeq hInv := by
    have told : Authentic s (past ++ [.sessionKeyStored h key]) := hInv.2.emit nofun
    refine ⟨hInv.1, fun other mem => ?_, told.passed, told.trace⟩
    cases mem_cons.mp mem with
    | inl new =>
      subst new
      exact ⟨h, auth, hGet, ok, hSeq.symm, other, mem_concat_self⟩
    | inr old => exact told.owned other (RecentList.mem_of_mem_evict old)
  evict hInv :=
    ⟨hInv.1, fun key mem => hInv.2.owned key (RecentList.mem_of_mem_evict mem), hInv.2.passed,
      hInv.2.trace⟩

section
variable {ctx : AuthContext} {env : Env} {h : Nat} {input : Input}

lemma spec_of_guarded {x : AuthM β} (kept : Keeps Guarded x) :
    Triple (fun s past => VerifyGuarded s input ∧ Authentic s past) x fun _ => Authentic :=
  kept.consequence (fun _ _ hP => ⟨hP.1.1, hP.2⟩) fun _ _ _ hInv => hInv.2

variable {auth : AuthManager}

lemma Authentic.unpacked {s past} (hInv : Authentic s past)
    (hGet : s.auths.get? h = some auth) (data) :
    Authentic (s.update h fun _ => (authUnpackDeviceInfo ctx auth data).1) past := by
  obtain ⟨uuid, udid, version, hUnpack⟩ := authUnpackDeviceInfo_fst ctx auth data
  rw [hUnpack]
  refine hInv.update (fun other hNe _ => ?_) fun _ _ passed => hInv.passed h auth hGet passed
  rw [hGet] at hNe
  cases hNe
  rfl

lemma DistinctSeqs.unpacked {s} (distinct : DistinctSeqs s)
    (hGet : s.auths.get? h = some auth) (data) :
    DistinctSeqs (s.update h fun _ => (authUnpackDeviceInfo ctx auth data).1) := by
  refine distinct.update fun other hNe => ?_
  rw [hGet] at hNe
  cases hNe
  exact authUnpackDeviceInfo_authId ctx auth data

/-- On the server side the ids need not be told apart: no session key is looked up. -/
lemma handleReceiveDeviceId_server (data) :
    Triple (fun s past => (∃ auth, s.auths.get? h = some auth ∧ auth.side = .server) ∧
        Authentic s past) (handleReceiveDeviceId ctx env h data) fun _ => Authentic := by
  refine authentic_managed.handleReceiveDeviceId_spec
    (fun s past auth hGet hP => hP.2.unpacked hGet data) (fun _ _ hInv => hInv)
    fun s past auth hGet hP other => ?_
  obtain ⟨⟨server, hServer, hSide⟩, _⟩ := hP
  rw [hGet] at hServer
  cases hServer
  exact absurd hSide other

lemma keeps_handleReceiveDeviceId (ok : ∀ call ∈ env.hichain.calls, call.KeyAllowed (· ≠ 0))
    (data) : Keeps Guarded (handleReceiveDeviceId ctx env h data) :=
  guarded_closed.handleReceiveDeviceId_spec
    (fun _ _ _ hGet hP => ⟨hP.1.unpacked hGet data, hP.2.unpacked hGet data⟩)
    (fun _ _ hInv => hInv) fun _ _ _ _ _ _ => guarded_closed.keeps_startAuth ok

lemma receiveCloseAck_spec {cid} :
    Triple (fun s past => (∀ auth ∈ (closeAckTarget s cid).bind s.auths.get?,
        auth.status = .authPassed) ∧ Authentic s past)
      (receiveCloseAck ctx env cid) fun _ => Authentic := by
  refine .bind (M := fun _ s past =>
    (∀ auth ∈ (closeAckTarget s cid).bind s.auths.get?, auth.status = .authPassed) ∧
      Authentic s past)
    (Triple.ite (fun _ => Triple.emit fun s past hP => ?_) fun _ => Triple.pure fun _ _ hP => hP)
    fun _ => Triple.get fun s => ?_
  · exact ⟨hP.1, authentic_managed.emit _ trivial hP.2⟩
  split
  · exact .pure fun _ _ hP => hP.2.2
  next h target =>
    refine triple_callback ?_
    rintro auth _ past hGet ⟨rfl, passed, hInv⟩
    refine hInv.emit fun g authId same => ?_
    cases same
    exact hInv.passed h auth hGet (passed auth (by rw [target]; exact hGet))

lemma authOnDataReceived_spec (cid mid seq data beyond) : Triple (fun s past =>
        VerifyGuarded s (.dataReceived cid mid seq data beyond env) ∧ Authentic s past)
      (authOnDataReceived ctx env cid mid seq data beyond) fun _ => Authentic := by
  have guarded : ∀ {x : AuthM PUnit}, ((∀ call ∈ env.hichain.calls,
      call.KeyAllowed (· ≠ 0)) → Keeps Guarded x) → Triple (fun s past =>
        VerifyGuarded s (.dataReceived cid mid seq data beyond env) ∧ Authentic s past)
        x fun _ => Authentic :=
    fun kept s past hP => spec_of_guarded (kept hP.1.2.2) s past hP
  refine authOnDataReceived_dispatch (fun _ _ hP => hP.2) (fun hModule hType => ?_)
    (fun h info _ _ _ => ?_) (fun h info _ _ => ?_) (fun h module => ?_) fun h info => ?_
  · refine receiveCloseAck_spec.weaken ?_
    rintro s past ⟨hGuard, hInv⟩
    have arrived : (Input.dataReceived cid mid seq data beyond env).closeAck =
        some cid := if_pos ⟨hModule, hType⟩
    refine ⟨fun auth mem => hGuard.2.1 auth ?_, hInv⟩
    rw [closeAckAuth, arrived]
    exact mem
  · exact (guarded fun ok => keeps_handleReceiveDeviceId ok _).weaken fun _ _ hP => hP.2
  · refine (handleReceiveDeviceId_server _).weaken ?_
    rintro _ past ⟨old, option, hP, rfl, rfl⟩
    exact ⟨⟨_, get?_alloc_next, rfl⟩, authentic_managed.create _ trivial nofun hP.2.2⟩
  · exact guarded fun ok => guarded_closed.keeps_handleReceiveAuthData ok module
  · exact guarded fun _ => guarded_closed.keeps_syncDeviceInfo env.replies _ _ _

/-- An id is adopted only on the server side, where no session key is looked up. -/
lemma trustEngine_spec (ok : ∀ call ∈ env.hichain.calls, call.KeyAllowed (· ≠ 0)) (head data) :
    Triple (fun s past => s.auths.get? h = some auth ∧ Guarded s past)
      (do adoptAuthId h auth head; handleReceiveDeviceId ctx env h data) fun _ => Authentic := by
  by_cases side : auth.side = .server
  · refine .bind (Triple.ite (fun adopted => triple_updateAuth ?_) fun _ => Triple.pure ?_)
      fun _ => handleReceiveDeviceId_server data
    · rintro s past ⟨hGet, hInv⟩
      refine ⟨⟨_, get?_modify_of_get? hGet, ?_⟩, ?_⟩
      · rw [if_pos rfl]
        exact side
      · exact authentic_managed.assign _ hGet adopted.2.2 trivial hInv.2
    · exact fun s past hP => ⟨⟨auth, hP.1, side⟩, hP.2.2⟩
  · have skipped : adoptAuthId h auth head = pure ⟨⟩ := if_neg fun adopted => side adopted.1
    rw [skipped]
    refine .bind (M := fun _ => Guarded) (Triple.pure fun _ _ hP => hP.2) fun _ => ?_
    exact (keeps_handleReceiveDeviceId ok data).consequence (fun _ _ hInv => hInv)
      fun _ _ _ hInv => hInv.2

lemma authIpOnDataReceived_spec (ok : ∀ call ∈ env.hichain.calls, call.KeyAllowed (· ≠ 0))
    (fd head data) :
    Triple Guarded (authIpOnDataReceived ctx env fd head data) fun _ => Authentic := by
  have guarded : ∀ {x : AuthM PUnit}, Keeps Guarded x → Triple Guarded x fun _ => Authentic :=
    fun kept => kept.consequence (fun _ _ hP => hP) fun _ _ _ hInv => hInv.2
  refine authIpOnDataReceived_dispatch (fun _ _ hP => hP.2) (fun h auth _ _ => ?_)
    (fun h module => ?_) (fun h => ?_) (fun h => ?_) fun h auth _ => ?_
  · exact (trustEngine_spec ok head data).weaken fun _ _ hP => hP.2
  · exact guarded (guarded_closed.keeps_handleReceiveAuthData ok module)
  · exact guarded (guarded_closed.keeps_syncDeviceInfo env.replies _ _ _)
  · exact guarded (guarded_closed.keeps_authHandleTransInfo head data)
  · exact .bind (authentic_managed.assignAuthId_spec.weaken fun _ _ hP =>
      ⟨fun _ => trivial, hP.2.1, hP.2.2.2⟩) fun _ =>
      authentic_managed.keeps_authHandleTransInfo head data

lemma handleInput_spec (input) :
    Triple (fun s past => VerifyGuarded s input ∧ Authentic s past) (handleInput ctx input)
      fun _ => Authentic := by
  refine authentic_managed.handleInput_dispatch input (fun hP => ⟨hP.2, fun _ _ => trivial⟩) id
    ?_ ?_ ?_ ?_
  · rintro cid mid seq data beyond env rfl
    exact authOnDataReceived_spec cid mid seq data beyond
  · rintro fd head reads stale env data rfl - s past hP
    exact authIpOnDataReceived_spec hP.1.2.2 fd head data s past ⟨hP.1.1, hP.2⟩
  · rintro call rfl s past hP
    exact spec_of_guarded (guarded_closed.keeps_hichainCall
      (hP.1.2.2 call (mem_singleton.mpr rfl))) s past hP
  · rintro post replies rfl
    exact spec_of_guarded (guarded_closed.keeps_authPostData replies post)

end

lemma authentic_init : Authentic .init [] where
  owned _ mem := absurd mem not_mem_nil
  passed h auth hGet := by
    simp [AuthState.init, get?_empty] at hGet
  trace := justified_nil _

/-- Whatever the peers send, a verification follows the session key and the device information
of the same AuthManager, as long as every step is guarded. -/
theorem run_authenticated (ctx : AuthContext) {inputs : List Input} {t : AuthState}
    {outs : List Event} (guarded : AllSteps (authStep ctx) VerifyGuarded .init inputs)
    (hRun : run (authStep ctx) .init inputs = some (t, outs)) : Authenticated outs := by
  have preserve : ∀ s past input t out, Authentic s past → VerifyGuarded s input →
      authStep ctx s input = some (t, out) → Authentic t (past ++ out) :=
    fun s past input t out hInv hGuard hStep =>
      (handleInput_spec input).step past ⟨hGuard, hInv⟩ hStep
  have final : Authentic t ([] ++ outs) := run_invariant preserve authentic_init guarded hRun
  exact final.trace

instance {Allowed : BitVec 64 → Prop} [DecidablePred Allowed] (call : HichainCall) :
    Decidable (call.KeyAllowed Allowed) := by
  cases call <;> unfold HichainCall.KeyAllowed <;> infer_instance

instance (s : AuthState) (input : Input) : Decidable (VerifyGuarded s input) := by
  unfold VerifyGuarded
  infer_instance

/-- The device information a peer sends, as cJSON prints it. -/
def deviceInfoText (uuid udid : String) : Bytes :=
  cString ("\x7b\"TECmd\":\"retAuthInfo\",\"TEData\":\"" ++ uuid ++ "\",\"TEDeviceId\":\"" ++
    udid ++
    "\",\"DataBufSize\":65536,\"softbusVersion\":100\x7d") ++ [0]

def deviceInfo (uuid udid : String) : JsonObject :=
  [("TECmd", .string (cString "retAuthInfo")), ("TEData", .string (cString uuid)),
    ("TEDeviceId", .string (cString udid)), ("DataBufSize", .number packetSize),
    ("softbusVersion", .number softBusNewV1)]

/-- A device that takes part in the network builder, with two peers it may meet. -/
def sampleContext : AuthContext where
  cJSONParse data :=
    if data = deviceInfoText "A" "a" then some (deviceInfo "A" "a")
    else if data = deviceInfoText "B" "b" then some (deviceInfo "B" "b") else none
  cJSONPrintUnformatted _ := cString "info"
  localUuid := cString "L"
  localUdid := cString "l"
  uniqueId := 1
  authIsSupportServerSide := true
  verifyCallbacks := [.lnn]
  transUdpDataRecv := []
  authChannelClose := []

def brOption : ConnectOption := ⟨.br, cString "00:11:22:33:44:55", 0⟩

def sampleEnv : Env := ⟨true, true, true, true, true, true, true, some brOption, ⟨[], true⟩, []⟩

def packet (type : AuthDataType) (authId : BitVec 64) (data : Bytes) : Bytes :=
  AuthDataInfo.bytes ⟨type.code, 0, authId, 0, BitVec.ofNat 32 data.length⟩ ++ data

/-- A client verifies a device over Bluetooth, up to the closing acknowledgement. -/
def handshake : List Input :=
  [.verifyDevice .lnn brOption 7 none true sampleEnv, .connectSuccessful 7 1 sampleEnv,
    .dataReceived 1 14 1 (packet .deviceId 0x1000002 (deviceInfoText "A" "a")) [] sampleEnv,
    .hichain (.onSessionKeyReturned 0x1000002 (some [1]) true []),
    .postData ⟨⟨some .sync, 4, 0x1000002, 0, 0⟩, [3], true, true⟩ [],
    .dataReceived 1 14 1 (packet .sync 0x1000002 [9]) [] sampleEnv,
    .dataReceived 1 14 0 (packet .closeAck 0 (cString "close ack")) [] sampleEnv]

theorem run_authenticated_handshake :
    ∃ t outs, run (authStep sampleContext) .init handshake = some (t, outs) ∧
      Event.onDeviceVerifyPass 0 0x1000002 ∈ outs ∧ Authenticated outs := by
  have result : ∃ r ∈ run (authStep sampleContext) .init handshake,
      Event.onDeviceVerifyPass 0 0x1000002 ∈ r.2 := by decide +kernel
  obtain ⟨⟨t, outs⟩, hRun, verified⟩ := result
  exact ⟨t, outs, hRun, verified, run_authenticated sampleContext (by decide +kernel) hRun⟩

/-- The peer answers the connection with a closing acknowledgement and nothing else. -/
def closeAckRun : List Input :=
  [.verifyDevice .lnn brOption 7 none true sampleEnv, .connectSuccessful 7 1 sampleEnv,
    .dataReceived 1 14 0 (packet .closeAck 0 (cString "close ack")) [] sampleEnv]

/-- A peer authenticates over Bluetooth under the id 5. A second peer, whose socket got
the number 5, then only sends device information. -/
def foreignKeyRun : List Input :=
  [.dataReceived 1 14 0 (packet .deviceId 5 (deviceInfoText "A" "a")) [] sampleEnv,
    .hichain (.onSessionKeyReturned 5 (some [1]) true []),
    .socketConnect 5 (cString "10.0.0.2") 6000 sampleEnv,
    .socketData 5 (.full ⟨ConnModule.authConnection.code, 5, 0, 1⟩) [[9]] 0 sampleEnv]

lemma not_authenticated {ctx inputs} (h authId) (result : ∃ r ∈ run (authStep ctx) .init inputs,
      Event.onDeviceVerifyPass h authId ∈ r.2 ∧ ∀ event ∈ r.2, event.storedFor h = none) :
    ∃ t outs, run (authStep ctx) .init inputs = some (t, outs) ∧ ¬ Authenticated outs := by
  obtain ⟨⟨t, outs⟩, hRun, verified, keyless⟩ := result
  refine ⟨t, outs, hRun, fun authenticated => ?_⟩
  obtain ⟨before, after, rfl⟩ := append_of_mem verified
  obtain ⟨key, stored⟩ := (authenticated before _ after rfl h authId rfl).1
  have none := keyless _ (mem_append_left _ stored)
  simp [Event.storedFor] at none

/-- Either missing check lets a peer without a session key be verified. -/
theorem run_not_authenticated :
    (∃ t outs, run (authStep sampleContext) .init closeAckRun = some (t, outs) ∧
      ¬ Authenticated outs) ∧ (∀ input ∈ foreignKeyRun, input.closeAck = none) ∧
    ∃ t outs, run (authStep sampleContext) .init foreignKeyRun = some (t, outs) ∧
      ¬ Authenticated outs := by
  refine ⟨?_, by decide +kernel, ?_⟩
  · exact not_authenticated 0 0x1000002 (by decide +kernel)
  · exact not_authenticated 1 5 (by decide +kernel)

end DSoftBus.Auth
