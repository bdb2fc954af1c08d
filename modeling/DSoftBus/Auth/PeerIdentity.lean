import DSoftBus.Auth.VerifyPass

/-!
The identity of the peer of an authenticated connection. HandleReceiveDeviceId writes the
peer's ids for any connection at any time, whether or not the session key has been
returned.

The ids stay what they were when the key came exactly if every later packet with device
ids that reaches the AuthManager repeats the ids it has, or is refused before they are
written.
-/
namespace DSoftBus.Auth
open Effect Execution RecordHeap Option AuthState

def AuthManager.peerIds (auth : AuthManager) : Bytes × Bytes :=
  (auth.peerUuid, auth.peerUdid)

def AuthState.peerIds (s : AuthState) (h : Nat) : Option (Bytes × Bytes) :=
  (s.auths.get? h).map AuthManager.peerIds

variable (ctx : AuthContext)

/-- Once a session key has been returned for an AuthManager, its ids stay the same until it is
deleted. -/
def IdentityBound (inputs : List Input) : Prop :=
  ∀ front middle back, inputs = front ++ (middle ++ back) → ∀ s before t after,
    run (authStep ctx) .init front = some (s, before) →
    run (authStep ctx) s middle = some (t, after) →
    ∀ h, Event.sessionKeyReturned h ∈ before → ∀ ids ids', s.peerIds h = some ids →
      t.peerIds h = some ids' → ids' = ids

/-- The AuthManager that a packet with device ids reaches, and the text it carries. -/
def deviceIdPacket (s : AuthState) : Input → Option (Nat × Bytes)
  | .dataReceived _ moduleId seq data beyond _ =>
    match analysisData data with
    | none => none
    | some info =>
      if moduleId = ConnModule.deviceAuth.code ∧ AuthDataType.ofCode info.type = some .deviceId then
        (authGetManagerByAuthId s info.authId (authGetSideByRemoteSeq seq)).map
          fun h => (h, (data ++ beyond).drop authDataInfoSize)
      else none
  | .socketData fd (.full head) reads _ env =>
    match recvPacket env.alloc head reads, authGetManagerByFd s fd with
    | some data, some h =>
      if (s.auths.get? h).any (refusesSeq · head) = false ∧
          ConnModule.ofCode head.module = some .trustEngine then some (h, data)
      else none
    | _, _ => none
  | _ => none

/-- The message repeats the ids. An id that is missing or too long is not written, and
without a uuid the udid is not read. -/
def RepeatsIds (msg : JsonObject) (ids : Bytes × Bytes) : Prop :=
  ∀ uuid, getJsonObjectStringItem msg "TEData" uuidBufLen = some uuid → uuid = ids.1 ∧
    ∀ udid, getJsonObjectStringItem msg "TEDeviceId" udidBufLen = some udid → udid = ids.2

instance (msg ids) : Decidable (RepeatsIds msg ids) := by
  unfold RepeatsIds
  infer_instance

def ConfirmsIds (s : AuthState) (h : Nat) (input : Input) : Prop :=
  ∀ data, deviceIdPacket s input = some (h, data) → ∀ auth, s.auths.get? h = some auth →
    ∀ msg, checkDeviceInfo ctx auth data = some msg → RepeatsIds msg auth.peerIds

/-- Every packet with device ids that reaches an AuthManager after its session key
confirms the ids. -/
def ConfirmedAfterKey (inputs : List Input) : Prop :=
  ∀ front input back, inputs = front ++ input :: back → ∀ s before,
    run (authStep ctx) .init front = some (s, before) →
    ∀ h, Event.sessionKeyReturned h ∈ before → ConfirmsIds ctx s h input

/-- The ids after a message that passed the checks, or was refused by them. -/
def idsAfter (msg : Option JsonObject) (ids : Bytes × Bytes) : Bytes × Bytes :=
  match msg with
  | none => ids
  | some msg =>
    match getJsonObjectStringItem msg "TEData" uuidBufLen with
    | none => ids
    | some uuid => (uuid, (getJsonObjectStringItem msg "TEDeviceId" udidBufLen).getD ids.2)

lemma peerIds_unpacked (auth data) : (authUnpackDeviceInfo ctx auth data).1.peerIds =
      idsAfter (checkDeviceInfo ctx auth data) auth.peerIds := by
  have ids : ∀ msg, (unpackDeviceId msg auth).1.peerIds = idsAfter (some msg) auth.peerIds := by
    intro msg
    dsimp only [unpackDeviceId, idsAfter]
    cases getJsonObjectStringItem msg "TEData" uuidBufLen with
    | none => rfl
    | some uuid => cases getJsonObjectStringItem msg "TEDeviceId" udidBufLen <;> rfl
  unfold authUnpackDeviceInfo
  cases checkDeviceInfo ctx auth data with
  | none => rfl
  | some msg =>
    rw [← ids msg]
    dsimp only
    obtain ⟨unpacked, complete⟩ := unpackDeviceId msg auth
    cases complete with
    | false => rfl
    | true => cases getJsonObjectNumberItem msg "DataBufSize" <;> rfl

lemma idsAfter_eq_iff {msg ids} : idsAfter (some msg) ids = ids ↔ RepeatsIds msg ids := by
  obtain ⟨uuid, udid⟩ := ids
  dsimp only [idsAfter, RepeatsIds]
  cases getJsonObjectStringItem msg "TEData" uuidBufLen with
  | none => simp
  | some newUuid =>
    cases getJsonObjectStringItem msg "TEDeviceId" udidBufLen <;> simp

section
variable {s : AuthState} {h g : Nat} {f : AuthManager → AuthManager}

lemma peerIds_update (same : ∀ auth, s.auths.get? h = some auth → g = h →
    (f auth).peerIds = auth.peerIds) : (s.update g f).peerIds h = s.peerIds h := by
  by_cases here : g = h
  · subst here
    rw [peerIds, peerIds, update, get?_modify_self, Option.map_map]
    cases found : s.auths.get? g with
    | none => rfl
    | some auth => exact congrArg some (same auth found rfl)
  · have other : h ≠ g := fun eq => here eq.symm
    rw [peerIds, update, get?_modify_of_ne other, peerIds]

lemma peerIds_harmless (harmless : Harmless f) : (s.update g f).peerIds h = s.peerIds h :=
  peerIds_update fun auth _ _ => Prod.ext (harmless auth).2.1 (harmless auth).2.2.1

lemma peerIds_closed (h found) : Closed (fun _ => True) fun s _ => s.peerIds h = found where
  emit _ _ hIds := hIds
  update _ _ harmless hIds := (peerIds_harmless harmless).trans hIds
  integer _ hIds := hIds
  pass _ _ _ hIds := by
    refine (peerIds_update ?_).trans hIds
    exact fun _ _ _ => rfl
  verified _ _ hIds := hIds
  store _ _ _ _ hIds := hIds
  evict hIds := hIds

end

def Pinned (h : Nat) (ids : Bytes × Bytes) (s : AuthState) : Prop :=
  h < s.auths.next ∧ ∀ found, s.peerIds h = some found → found = ids

section
variable {h : Nat} {ids : Bytes × Bytes} {ctx : AuthContext} {env : Env}

lemma Pinned.of_peerIds {s t} (pin : Pinned h ids s)
    (next : t.auths.next = s.auths.next) (same : t.peerIds h = s.peerIds h) : Pinned h ids t :=
  ⟨next ▸ pin.1, fun found hFound => pin.2 found (same ▸ hFound)⟩

lemma Pinned.alloc {s} (pin : Pinned h ids s) (auth) :
    Pinned h ids { s with auths := s.auths.alloc auth } := by
  refine ⟨Nat.lt_succ_of_lt pin.1, fun found hFound => pin.2 found ?_⟩
  rwa [peerIds, get?_alloc_of_lt pin.1] at hFound

lemma pinned_closed (h ids) : Closed (fun _ => True) fun s _ => Pinned h ids s where
  emit _ _ pin := pin
  update _ _ harmless pin := pin.of_peerIds rfl (peerIds_harmless harmless)
  integer _ pin := pin
  pass _ _ _ pin := by
    refine pin.of_peerIds rfl (peerIds_update ?_)
    exact fun _ _ _ => rfl
  verified _ _ pin := pin
  store _ _ _ _ pin := pin
  evict pin := pin

lemma pinned_managed (h ids) : Managed (fun _ _ _ => True) fun s _ => Pinned h ids s where
  toQuiet := (pinned_closed h ids).toQuiet
  create auth _ _ pin := pin.alloc auth
  leave _ pin := by
    refine ⟨pin.1, fun found hFound => pin.2 found ?_⟩
    obtain ⟨auth, hGet, rfl⟩ := map_eq_some_iff.mp hFound
    exact map_eq_some_iff.mpr ⟨auth, get?_of_free hGet, rfl⟩
  assign _ _ _ _ pin := by
    refine pin.of_peerIds rfl (peerIds_update ?_)
    exact fun _ _ _ => rfl

variable {data : Bytes} {auth : AuthManager}

lemma ConfirmsIds.idsAfter_eq {s input}
    (confirms : ConfirmsIds ctx s h input) (packet : deviceIdPacket s input = some (h, data))
    (hGet : s.auths.get? h = some auth) :
    idsAfter (checkDeviceInfo ctx auth data) auth.peerIds = auth.peerIds := by
  cases hCheck : checkDeviceInfo ctx auth data with
  | none => rfl
  | some msg => exact idsAfter_eq_iff.mpr (confirms data packet auth hGet msg hCheck)

lemma handleReceiveDeviceId_pinned {g} :
    Triple (fun s _ => (g = h → ∀ auth, s.auths.get? h = some auth →
        idsAfter (checkDeviceInfo ctx auth data) auth.peerIds = auth.peerIds) ∧ Pinned h ids s)
      (handleReceiveDeviceId ctx env g data) fun _ s _ => Pinned h ids s := by
  refine (pinned_closed h ids).handleReceiveDeviceId_spec (fun s past auth hGet hP => ?_)
    (fun _ _ pin => pin) fun _ _ _ _ _ _ =>
    (pinned_closed h ids).keeps_startAuth fun call _ => call.keyAllowed_true
  refine hP.2.of_peerIds rfl (peerIds_update fun other hOther here => ?_)
  subst here
  rw [hGet] at hOther
  cases hOther
  rw [peerIds_unpacked, hP.1 rfl auth hGet]

/-- What a packet with device ids makes of the ids of the AuthManager it reaches. -/
lemma handleReceiveDeviceId_peerIds (auth) :
    Triple (fun s _ => s.auths.get? h = some auth) (handleReceiveDeviceId ctx env h data)
      fun _ s _ => s.peerIds h = some (idsAfter (checkDeviceInfo ctx auth data) auth.peerIds) := by
  refine (peerIds_closed h _).handleReceiveDeviceId_spec (fun s past other hOther hGet => ?_)
    (fun _ _ hIds => hIds) fun _ _ _ _ _ _ =>
    (peerIds_closed h _).keeps_startAuth fun call _ => call.keyAllowed_true
  rw [hGet] at hOther
  cases hOther
  rw [peerIds, update, get?_modify_self, hGet, map_some,
    map_some, peerIds_unpacked]

lemma pinned_of_keeps {x : AuthM β} {p : AuthState → Prop}
    (keeps : Keeps (fun s _ => Pinned h ids s) x) :
    Triple (fun s _ => p s ∧ Pinned h ids s) x fun _ s _ => Pinned h ids s :=
  keeps.weaken fun _ _ hP => hP.2

lemma authOnDataReceived_pinned (cid mid seq data beyond) : Triple (fun s _ =>
        ConfirmsIds ctx s h (.dataReceived cid mid seq data beyond env) ∧ Pinned h ids s)
      (authOnDataReceived ctx env cid mid seq data beyond)
      fun _ s _ => Pinned h ids s := by
  refine authOnDataReceived_dispatch (fun _ _ hP => hP.2) (fun _ _ => ?_)
    (fun g info hModule hInfo hType => ?_) (fun g info _ _ => ?_) (fun g module => ?_)
    fun g info => ?_
  · refine pinned_of_keeps (Keeps.bind ?_ fun _ => Keeps.get fun s => ?_)
    · exact .ite (fun _ => Triple.emit fun _ _ hP => hP) fun _ => Keeps.pure _
    · split
      · exact .pure _
      · exact triple_callback fun _ _ _ _ hP => hP
  · refine handleReceiveDeviceId_pinned.weaken ?_
    rintro s past ⟨found, confirms, pin⟩
    refine ⟨fun here auth hGet => confirms.idsAfter_eq ?_ hGet, pin⟩
    subst here
    simp [deviceIdPacket, hInfo, hModule, hType, found]
  · refine handleReceiveDeviceId_pinned.weaken ?_
    rintro _ past ⟨old, option, ⟨_, _, pin⟩, rfl, rfl⟩
    exact ⟨fun here => absurd here (Nat.ne_of_gt pin.1), pin.alloc _⟩
  · exact pinned_of_keeps ((pinned_closed h ids).keeps_handleReceiveAuthData
      (fun call _ => call.keyAllowed_true) module)
  · exact pinned_of_keeps ((pinned_closed h ids).keeps_syncDeviceInfo env.replies _ _ _)

variable {head : ConnPktHead}

lemma adoptAuthId_spec {P : AuthState → Prop} {g}
    (kept : ∀ s authId, P s → P (s.update g fun auth => { auth with authId := authId })) :
    Triple (fun s _ => s.auths.get? g = some auth ∧ P s) (adoptAuthId g auth head)
      fun _ s _ => ∃ authId, s.auths.get? g = some { auth with authId := authId } ∧ P s := by
  refine .ite (fun _ => triple_updateAuth fun s past hP => ?_) fun _ =>
    Triple.pure fun s past hP => ⟨auth.authId, hP⟩
  refine ⟨head.seq, ?_, kept s head.seq hP.2⟩
  rw [update, get?_modify_self, hP.1, map_some]

lemma authIpOnDataReceived_pinned {fd reads stale}
    (received : recvPacket env.alloc head reads = some data) :
    Triple (fun s _ => ConfirmsIds ctx s h (.socketData fd (.full head) reads stale env) ∧
        Pinned h ids s)
      (authIpOnDataReceived ctx env fd head data) fun _ s _ => Pinned h ids s := by
  refine authIpOnDataReceived_dispatch (fun _ _ hP => hP.2) (fun g auth hModule accepted => ?_)
    (fun g module => ?_) (fun g => ?_) (fun g => ?_) fun g auth _ => ?_
  · refine .bind ((adoptAuthId_spec (P := fun t => (g = h →
      idsAfter (checkDeviceInfo ctx auth data) auth.peerIds = auth.peerIds) ∧ Pinned h ids t)
      fun t authId hP => ⟨hP.1, hP.2.of_peerIds rfl (peerIds_update ?_)⟩).weaken ?_)
      fun _ => handleReceiveDeviceId_pinned.weaken ?_
    · exact fun _ _ _ => rfl
    · rintro s past ⟨found, hGet, confirms, pin⟩
      refine ⟨hGet, fun here => confirms.idsAfter_eq ?_ (here ▸ hGet), pin⟩
      subst here
      simp [deviceIdPacket, received, found, hGet, accepted, hModule]
    · rintro t past ⟨authId, hGet, same, pin⟩
      refine ⟨fun here other hOther => ?_, pin⟩
      subst here
      rw [hGet] at hOther
      cases hOther
      exact same rfl
  · exact pinned_of_keeps ((pinned_closed h ids).keeps_handleReceiveAuthData
      (fun call _ => call.keyAllowed_true) module)
  · exact pinned_of_keeps ((pinned_closed h ids).keeps_syncDeviceInfo env.replies _ _ _)
  · exact pinned_of_keeps ((pinned_closed h ids).keeps_authHandleTransInfo head data)
  · exact .bind ((pinned_managed h ids).assignAuthId_spec.weaken fun _ _ hP =>
      ⟨fun _ => trivial, hP.2.1, hP.2.2.2⟩) fun _ =>
      (pinned_managed h ids).keeps_authHandleTransInfo head data

lemma handleInput_pinned (input) :
    Triple (fun s _ => ConfirmsIds ctx s h input ∧ Pinned h ids s) (handleInput ctx input)
      fun _ s _ => Pinned h ids s := by
  refine (pinned_managed h ids).handleInput_dispatch input
    (fun hP => ⟨hP.2, fun _ _ => trivial⟩) id ?_ ?_ ?_ ?_
  · rintro cid mid seq data beyond env rfl
    exact authOnDataReceived_pinned cid mid seq data beyond
  · rintro fd head reads stale env data rfl whole
    exact authIpOnDataReceived_pinned whole
  · rintro call rfl
    exact pinned_of_keeps ((pinned_closed h ids).keeps_hichainCall call.keyAllowed_true)
  · rintro post replies rfl
    exact pinned_of_keeps ((pinned_closed h ids).keeps_authPostData replies post)

lemma authIpOnDataReceived_peerIds {s fd}
    (found : authGetManagerByFd s fd = some h) (hGet : s.auths.get? h = some auth)
    (accepted : refusesSeq auth head = false)
    (hModule : ConnModule.ofCode head.module = some .trustEngine) :
    Triple (fun t _ => t = s) (authIpOnDataReceived ctx env fd head data)
      fun _ t _ => t.peerIds h = some (idsAfter (checkDeviceInfo ctx auth data) auth.peerIds) := by
  refine .get_of_eq ?_
  rw [found]
  refine triple_deref_of_eq hGet ?_
  rw [accepted, hModule]
  refine .bind ((adoptAuthId_spec (P := fun _ => True) fun _ _ _ => trivial).weaken
    fun t _ same => ⟨same ▸ hGet, trivial⟩) fun _ => ?_
  rintro u last ⟨authId, hAdopted, _⟩
  exact handleReceiveDeviceId_peerIds { auth with authId := authId } u last hAdopted

lemma handleInput_peerIds {s input}
    (packet : deviceIdPacket s input = some (h, data)) (hGet : s.auths.get? h = some auth) :
    Triple (fun t _ => t = s) (handleInput ctx input)
      fun _ t _ => t.peerIds h = some (idsAfter (checkDeviceInfo ctx auth data) auth.peerIds) := by
  cases input with
  | dataReceived cid mid seq bytes beyond env =>
    change Triple _ (authOnDataReceived ctx env cid mid seq bytes beyond) _
    dsimp only [deviceIdPacket] at packet
    split at packet
    · cases packet
    rename_i info hInfo
    split at packet
    next here =>
      obtain ⟨g, found, same⟩ := map_eq_some_iff.mp packet
      cases same
      refine .ite (fun _ => ?_) fun other => absurd here.1 other
      rw [hInfo]
      refine .get_of_eq ?_
      rw [here.2, found]
      exact (handleReceiveDeviceId_peerIds auth).weaken fun t _ same => same ▸ hGet
    · cases packet
  | socketData fd recvHead reads stale env =>
    cases recvHead with
    | failed | short => cases packet
    | full head =>
      dsimp only [deviceIdPacket] at packet
      split at packet
      next bytes g received found =>
        split at packet
        next here =>
          cases packet
          have accepted : refusesSeq auth head = false := by
            rw [← here.1, hGet, any_some]
          have event : handleInput ctx (.socketData fd (.full head) reads stale env) =
              authIpOnDataReceived ctx env fd head data := by
            simp only [handleInput, authOnDataEvent, received]
          rw [event]
          exact authIpOnDataReceived_peerIds found hGet accepted here.2
        · cases packet
      · cases packet
  | verifyDevice _ _ _ _ _ _ | openChannel _ _ _ | connectSuccessful _ _ _ | connectFailed _
  | socketConnect _ _ _ _ | hichain _ | postData _ _ | timeout _ | leaveLNN _ | ipChanged
  | deviceNotTrusted _ => cases packet

end

/-- The ids of a run are bound exactly when every packet with device ids that comes
after the session key confirms them. -/
theorem identityBound_iff {ctx : AuthContext} {inputs : List Input} {t : AuthState}
    {outs : List Event} (hRun : run (authStep ctx) .init inputs = some (t, outs)) :
    IdentityBound ctx inputs ↔ ConfirmedAfterKey ctx inputs := by
  constructor
  · intro bound front input back hSplit s before hFront h hKey data packet auth hGet msg hCheck
    -- The step on the packet is defined because the whole run is.
    rw [hSplit] at hRun
    obtain ⟨s', _, _, hFront', hRest, _⟩ := run_append_eq_some.mp hRun
    obtain ⟨rfl, _⟩ := run_unique hFront hFront'
    obtain ⟨u, out, _, hStep, _, _⟩ := run_cons_eq_some.mp hRest
    have written := (handleInput_peerIds packet hGet).step [] rfl hStep
    have same := bound front [input] back hSplit s before u out hFront
      (run_singleton.trans hStep) h hKey auth.peerIds _
      (map_eq_some_iff.mpr ⟨auth, hGet, rfl⟩) written
    rw [hCheck] at same
    exact idsAfter_eq_iff.mp same
  · intro confirmed front middle back hSplit s before u after hFront hMiddle h hKey ids ids'
      hIds hIds'
    obtain ⟨auth, hGet, _⟩ := map_eq_some_iff.mp hIds
    have start : Pinned h ids s := by
      refine ⟨lt_next hGet, fun found hFound => ?_⟩
      rw [hIds] at hFound
      exact (some.inj hFound).symm
    have steps : AllSteps (authStep ctx) (fun s input => ConfirmsIds ctx s h input) s middle := by
      intro pre input post hPre v out hRunPre
      refine confirmed (front ++ pre) input (post ++ back) (by simp [hSplit, hPre]) v
        (before ++ out) (run_append_eq_some.mpr ⟨s, before, out, hFront, hRunPre, rfl⟩) h
        (List.mem_append_left _ hKey)
    have preserve : ∀ s input t out, Pinned h ids s → ConfirmsIds ctx s h input →
        authStep ctx s input = some (t, out) → Pinned h ids t :=
      fun s input t out pinned confirms hStep =>
        (handleInput_pinned input).step [] ⟨confirms, pinned⟩ hStep
    have final : Pinned h ids u := run_state_invariant preserve start steps hMiddle
    exact final.2 ids' hIds'

/-- A peer authenticates as A and then sends ids again on the same connection. -/
def sendsAgain (uuid udid : String) : List Input :=
  [.dataReceived 1 14 0 (packet .deviceId 5 (deviceInfoText "A" "a")) [] sampleEnv,
    .hichain (.onSessionKeyReturned 5 (some [1]) true []),
    .dataReceived 1 14 0 (packet .deviceId 5 (deviceInfoText uuid udid)) [] sampleEnv]

theorem identityBound_sameIds : ∃ t outs,
    run (authStep sampleContext) .init (sendsAgain "A" "a") = some (t, outs) ∧
      .sessionKeyReturned 0 ∈ outs ∧ IdentityBound sampleContext (sendsAgain "A" "a") := by
  have result : ∃ r ∈ run (authStep sampleContext) .init (sendsAgain "A" "a"),
      .sessionKeyReturned 0 ∈ r.2 := by
    decide +kernel
  obtain ⟨⟨t, outs⟩, hRun, keyed⟩ := result
  have confirmed : AllSteps (authStep sampleContext) (fun s input =>
      ∀ reached ∈ deviceIdPacket s input, ∀ auth ∈ s.auths.get? reached.1,
        ∀ msg ∈ checkDeviceInfo sampleContext auth reached.2, RepeatsIds msg auth.peerIds)
      .init (sendsAgain "A" "a") := by
    decide +kernel
  refine ⟨t, outs, hRun, keyed, (identityBound_iff hRun).mpr ?_⟩
  intro front input back split s before ran h _ data packet
  exact confirmed front input back split s before ran (h, data) packet

theorem otherIds_not_identityBound : ¬ IdentityBound sampleContext (sendsAgain "B" "b") := by
  intro bound
  have result : ∃ r ∈ run (authStep sampleContext) .init ((sendsAgain "B" "b").take 2),
      Event.sessionKeyReturned 0 ∈ r.2 ∧ r.1.peerIds 0 = some (cString "A", cString "a") ∧
        ∃ r' ∈ run (authStep sampleContext) r.1 ((sendsAgain "B" "b").drop 2),
          r'.1.peerIds 0 = some (cString "B", cString "b") := by
    decide +kernel
  obtain ⟨⟨s, before⟩, hFront, keyed, old, ⟨t, after⟩, hRest, new⟩ := result
  have same := bound ((sendsAgain "B" "b").take 2) ((sendsAgain "B" "b").drop 2) [] (by simp) s
    before t after hFront hRest 0 keyed _ _ old new
  exact absurd same (by decide +kernel)

end DSoftBus.Auth
