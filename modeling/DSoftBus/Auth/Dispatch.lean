import DSoftBus.Auth.Frame

/-!
How a packet finds its handler. The two entry points for packets look at what the packet
carries and at its AuthManager. Each is given once, for any pre- and postcondition, so
that a property of the manager only has to be proved of the handlers. The other inputs
follow from the steps of `Managed`.
-/
namespace DSoftBus.Auth
open Effect ConnModule

section
variable {P Q : AuthState → List Event → Prop} {ctx : AuthContext} {env : Env}

lemma authOnDataReceived_dispatch {cid mid seq data beyond} (idle : ∀ s past, P s past → Q s past)
    (closeAck : mid = deviceAuth.code →
      (analysisData data).bind (fun info => AuthDataType.ofCode info.type) = some .closeAck →
      Triple P (receiveCloseAck ctx env cid) fun _ => Q)
    (deviceId : ∀ h info, mid = deviceAuth.code → analysisData data = some info →
      AuthDataType.ofCode info.type = some .deviceId →
      Triple (fun s past => authGetManagerByAuthId s info.authId (authGetSideByRemoteSeq seq) =
          some h ∧ P s past)
        (handleReceiveDeviceId ctx env h ((data ++ beyond).drop authDataInfoSize)) fun _ => Q)
    (created : ∀ h info, analysisData data = some info →
      AuthDataType.ofCode info.type = some .deviceId → Triple (fun s past => ∃ old option,
          (authGetManagerByAuthId old info.authId (authGetSideByRemoteSeq seq) = none ∧
            P old past) ∧ h = old.auths.next ∧ s = { old with
            auths := old.auths.alloc (serverAuth info.authId cid 0 option) })
        (handleReceiveDeviceId ctx env h ((data ++ beyond).drop authDataInfoSize)) fun _ => Q)
    (authData : ∀ h module, Triple P (handleReceiveAuthData ctx env h module) fun _ => Q)
    (sync : ∀ h (info : AuthDataInfo), Triple P (authHandlePeerSyncDeviceInfo ctx
      (onKeyGenerated ctx env.replies) env.saved h ((data ++ beyond).drop authDataInfoSize)
        info.dataLen.toNat) fun _ => Q) :
    Triple P (authOnDataReceived ctx env cid mid seq data beyond) fun _ => Q := by
  refine .ite (fun hModule => ?_) fun _ => Triple.pure idle
  split
  · exact .pure idle
  rename_i info hInfo
  have known : ∀ {x : AuthM PUnit} {s : AuthState}, Triple P x (fun _ => Q) →
      Triple (fun t past => t = s ∧ P t past) x fun _ => Q :=
    fun kept => kept.weaken fun _ _ hP => hP.2
  refine .get fun s => ?_
  split
  next hType => exact known (closeAck hModule (by rw [hInfo]; exact hType))
  next h hType found =>
    refine (deviceId h info hModule hInfo hType).weaken ?_
    rintro _ past ⟨rfl, hP⟩
    exact ⟨found, hP⟩
  next hType absent =>
    refine .ite (fun _ => ?_) fun _ => known (Triple.pure idle)
    refine .bind createServerAuth_spec fun result => ?_
    cases result with
    | none => exact known (Triple.pure idle)
    | some h =>
      refine (created h info hInfo hType).weaken ?_
      rintro _ past ⟨old, option, ⟨rfl, hP⟩, hNext, hAlloc⟩
      exact ⟨old, option, ⟨absent, hP⟩, hNext, hAlloc⟩
  · exact known (authData _ _)
  · exact known (sync _ info)
  · exact known (Triple.pure idle)

lemma authIpOnDataReceived_dispatch {fd head data} (idle : ∀ s past, P s past → Q s past)
    (trustEngine : ∀ h auth, ofCode head.module = some .trustEngine →
      refusesSeq auth head = false →
      Triple (fun s past => authGetManagerByFd s fd = some h ∧ s.auths.get? h = some auth ∧
          P s past)
        (do adoptAuthId h auth head; handleReceiveDeviceId ctx env h data) fun _ => Q)
    (authData : ∀ h module, Triple P (handleReceiveAuthData ctx env h module) fun _ => Q)
    (sync : ∀ h, Triple P (authHandlePeerSyncDeviceInfo ctx (onKeyGenerated ctx env.replies)
      env.saved h data head.len.toNat) fun _ => Q)
    (transInfo : ∀ h, Triple P (authHandleTransInfo ctx h head data) fun _ => Q)
    (assign : ∀ h auth, ofCode head.module ≠ some .trustEngine →
      Triple (fun s past => authGetManagerByFd s fd = some h ∧ s.auths.get? h = some auth ∧
          P s past)
        (do assignAuthId ctx h auth; authHandleTransInfo ctx h head data) fun _ => Q) :
    Triple P (authIpOnDataReceived ctx env fd head data) fun _ => Q := by
  refine .get fun s => ?_
  split
  · exact .pure fun t past hP => idle t past hP.2
  rename_i h found
  refine triple_deref fun auth => ?_
  have known : ∀ {x : AuthM PUnit}, Triple P x (fun _ => Q) →
      Triple (fun t past => t.auths.get? h = some auth ∧ t = s ∧ P t past) x fun _ => Q :=
    fun kept => kept.weaken fun _ _ hP => hP.2.2
  have located : ∀ {x : AuthM PUnit}, Triple (fun t past => authGetManagerByFd t fd = some h ∧
      t.auths.get? h = some auth ∧ P t past) x (fun _ => Q) →
      Triple (fun t past => t.auths.get? h = some auth ∧ t = s ∧ P t past) x fun _ => Q :=
    fun kept => kept.weaken fun _ _ hP => ⟨hP.2.1 ▸ found, hP.1, hP.2.2⟩
  refine .ite (fun _ => known (Triple.pure idle)) fun accepted => ?_
  split
  next hModule => exact located (trustEngine h auth hModule (Bool.eq_false_of_not_eq_true accepted))
  · exact known (authData _ _)
  · exact known (sync _)
  · exact known (transInfo _)
  next hModule => exact located (assign h auth (by rw [hModule]; nofun))
  next hModule => exact located (assign h auth (by rw [hModule]; nofun))
  next hModule => exact located (assign h auth (by rw [hModule]; nofun))
  · exact known (Triple.pure idle)

/-- The ids that the input gives, with the AuthManagers that get them. -/
def newIds (ctx : AuthContext) (s : AuthState) : Input → List (Nat × BitVec 64)
  | .verifyDevice _ _ _ _ _ _ | .openChannel _ _ _ => [(s.auths.next, nextSeq ctx s)]
  | .socketConnect cfd _ _ _ => [(s.auths.next, cfd.signExtend 64)]
  | .dataReceived _ _ seq data _ _ =>
    match analysisData data with
    | none => []
    | some info =>
      if AuthDataType.ofCode info.type = some .deviceId ∧
          authGetManagerByAuthId s info.authId (authGetSideByRemoteSeq seq) = none then
        [(s.auths.next, info.authId)]
      else []
  | .socketData fd (.full head) _ _ _ =>
    match authGetManagerByFd s fd with
    | none => []
    | some h =>
      if (s.auths.get? h).any (fun auth => auth.authId = 0) then
        [(h, if ofCode head.module = some .trustEngine then head.seq
          else nextSeq ctx s)]
      else []
  | _ => []

lemma Managed.handleInput_dispatch {NewId Inv} (managed : Managed NewId Inv) (input)
    (before : ∀ {s past}, P s past →
      Inv s past ∧ ∀ new ∈ newIds ctx s input, NewId s.auths new.1 new.2)
    (after : ∀ {s past}, Inv s past → Q s past) (packet : ∀ cid mid seq data beyond env,
      input = .dataReceived cid mid seq data beyond env →
      Triple P (authOnDataReceived ctx env cid mid seq data beyond) fun _ => Q)
    (received : ∀ fd head reads stale env data,
      input = .socketData fd (.full head) reads stale env →
      recvPacket env.alloc head reads = some data →
      Triple P (authIpOnDataReceived ctx env fd head data) fun _ => Q)
    (called : ∀ call, input = .hichain call → Triple P (hichainCall ctx call) fun _ => Q)
    (posted : ∀ post replies, input = .postData post replies →
      Triple P (authPostData ctx replies post) fun _ => Q) :
    Triple P (handleInput ctx input) fun _ => Q := by
  have kept : ∀ {x : AuthM PUnit}, Keeps Inv x → Triple P x fun _ => Q :=
    fun keeps => keeps.consequence (fun _ _ hP => (before hP).1) fun _ _ _ => after
  have creates : ∀ {x : AuthM PUnit} {h : AuthState → Nat} {authId : AuthState → BitVec 64},
      (∀ s, newIds ctx s input = [(h s, authId s)]) →
      Triple (fun s past => NewId s.auths (h s) (authId s) ∧ Inv s past) x (fun _ => Inv) →
      Triple P x fun _ => Q :=
    fun given spec => spec.consequence (fun s _ hP =>
      ⟨(before hP).2 _ (given s ▸ List.mem_singleton.mpr rfl), (before hP).1⟩) fun _ _ _ => after
  cases input with
  | verifyDevice mid option requestId fd connected env =>
    exact creates (fun _ => rfl)
      (managed.authVerifyDevice_spec env mid option requestId fd connected)
  | openChannel option fd env =>
    exact creates (fun _ => rfl) (managed.authOpenChannel_spec env option fd)
  | connectSuccessful requestId cid env =>
    exact kept (managed.keeps_authOnConnectSuccessful env requestId cid)
  | connectFailed requestId => exact kept (managed.keeps_authOnConnectFailed requestId)
  | dataReceived cid mid seq data beyond env =>
    exact packet cid mid seq data beyond env rfl
  | socketConnect cfd ip port env =>
    exact creates (fun _ => rfl) (managed.createServerIpAuth_spec env cfd ip port)
  | socketData fd recvHead reads stale env =>
    change Triple _ (authOnDataEvent ctx env fd recvHead reads stale) _
    unfold authOnDataEvent
    split
    · exact kept (managed.keeps_authNotifyDisconn fd stale)
    · exact kept (Keeps.pure _)
    · split
      · exact kept (Keeps.pure _)
      next whole => exact received fd _ reads stale env _ rfl whole
  | hichain call => exact called call rfl
  | postData post replies =>
    exact .bind (posted post replies rfl) fun _ => Triple.pure fun _ _ hP => hP
  | timeout authId => exact kept (managed.keeps_authOnError authId)
  | leaveLNN authId => exact kept (managed.keeps_authHandleLeaveLNN authId)
  | ipChanged => exact kept managed.keeps_authIpChanged
  | deviceNotTrusted peerUdid => exact kept (managed.keeps_authOnDeviceNotTrusted peerUdid)

end

end DSoftBus.Auth
