import DSoftBus.Auth.Connection

/-!
The entry points of the authentication manager (auth_manager.c, auth_socket.c) and the
machine they form. An input is one call from below, from hichain or from the upper layer,
with the outcomes of the system calls it makes and the calls that hichain makes before
`processData` or `authDevice` returns. Callbacks with an empty body have no input.

The source locks the lists but not what a handler does with an AuthManager it has found
there; a step here is a whole handler.
-/
namespace DSoftBus.Auth
open Effect ByteString ConnModule

inductive HichainCall where
  | onTransmit (authId : BitVec 64) (data : Bytes) (sent : Bool)
  | onSessionKeyReturned (authId : BitVec 64) (sessionKey : Option Bytes) (alloc : Bool)
      (replies : List Post)
  | onError (authId : BitVec 64)
  | onRequest (authReqId : BitVec 64)

structure HichainReply where
  calls : List HichainCall
  ok : Bool

structure Env where
  alloc : Bool
  looper : Bool
  packed : Bool
  sent : Bool
  params : Bool
  saved : Bool
  acked : Bool
  connInfo : Option ConnectOption
  hichain : HichainReply
  replies : List Post

def storeSessionKey (alloc : Bool) (h : Nat) (auth : AuthManager) (deviceKey : Bytes × Nat)
    (sessionKey : Bytes) : AuthM PUnit := do
  let s ← get
  let devInfo : NecessaryDevInfo :=
    ⟨auth.option.type, deviceKey.1, deviceKey.2, auth.side, seqOf auth.authId⟩
  let result := authSetLocalSessionKey alloc devInfo auth.peerUdid sessionKey s.keys
  when result.2 (emit (.sessionKeyStored h ⟨devInfo, sessionKey, auth.peerUdid⟩))
  modify fun s => { s with keys := result.1 }

variable (ctx : AuthContext)

/-- On the server side of a socket onKeyGenerated waits for the client's information. -/
def notifyKeyGenerated (replies : List Post) (h : Nat) (auth : AuthManager) : AuthM PUnit :=
  if auth.option.type = .tcp ∧ auth.side = .server then
    match auth.encryptInfoStatus with
    | .initialState =>
      updateAuth h fun auth => { auth with encryptInfoStatus := .keyGeneratedState }
    | .recvEncryptDataState => onKeyGenerated ctx replies h
    | .keyGeneratedState => pure ⟨⟩
  else onKeyGenerated ctx replies h

variable (authId : BitVec 64)

def authOnSessionKeyReturned
    (sessionKey : Option Bytes) (alloc : Bool) (replies : List Post) : AuthM PUnit := do
  let s ← get
  match sessionKey, authFindManager s authId with
  | some sessionKey, some h =>
    emit (.sessionKeyReturned h)
    let auth ← deref h
    match authGetDeviceKey auth.option with
    | none => pure ⟨⟩
    | some deviceKey =>
      storeSessionKey alloc h auth deviceKey sessionKey
      updateAuth h fun auth => { auth with status := .inSyncProgress }
      notifyKeyGenerated ctx replies h auth
  | _, _ => pure ⟨⟩

def authOnError : AuthM PUnit := do
  let s ← get
  match authFindManager s authId with
  | none => pure ⟨⟩
  | some h => handleAuthFail ctx h

def authOnRequest (authReqId : BitVec 64) : AuthM PUnit := do
  let s ← get
  match (authGetManagerByAuthId s authReqId .server).or
      (authGetManagerByAuthId s authReqId .client) with
  | none => pure ⟨⟩
  | some h =>
    let auth ← deref h
    emit (.requestAccepted h auth.peerUdid)

def hichainCall : HichainCall → AuthM PUnit
  | .onTransmit authId data sent => authOnTransmit ctx authId data sent
  | .onSessionKeyReturned authId sessionKey alloc replies =>
    authOnSessionKeyReturned ctx authId sessionKey alloc replies
  | .onError authId => authOnError ctx authId
  | .onRequest authReqId => authOnRequest authReqId

/-- `processData` or `authDevice`, and what follows when it fails. -/
def callHichain (reply : HichainReply) (h : Nat) : AuthM PUnit := do
  each (hichainCall ctx) reply.calls
  when (reply.ok = false) (handleAuthFail ctx h)

variable (env : Env)

variable (h : Nat)

def handleReceiveAuthData (module : BitVec 32) : AuthM PUnit :=
  if module = authSdk.code then callHichain ctx env.hichain h else pure ⟨⟩

/-- VerifyDeviceDevLvl: the session level is never used. -/
def startAuth : AuthM PUnit :=
  if env.params then callHichain ctx env.hichain h else pure ⟨⟩

def answerDeviceId : AuthM PUnit :=
  if env.looper then do
    let synced ← authSyncDeviceUuid ctx env.packed env.sent h
    when (synced = false) (handleAuthFail ctx h)
  else handleAuthFail ctx h

variable (data : Bytes)

def handleReceiveDeviceId : AuthM PUnit := do
  let auth ← deref h
  let result := authUnpackDeviceInfo ctx auth data
  updateAuth h fun _ => result.1
  if result.2 then
    if auth.side = .server then answerDeviceId ctx env h else startAuth ctx env h
  else handleAuthFail ctx h

/-- The AuthManager a closing acknowledgement is taken for. Its status is not read. -/
def closeAckTarget (s : AuthState) (connectionId : BitVec 32) : Option Nat :=
  s.auths.find? fun auth =>
    auth.side = .client ∧ auth.connectionId = connectionId ∧ auth.option.type ≠ .tcp

variable (connectionId : BitVec 32)

def receiveCloseAck : AuthM PUnit := do
  authSendCloseAck connectionId env.acked
  let s ← get
  match closeAckTarget s connectionId with
  | none => pure ⟨⟩
  | some h => callback ctx h fun auth => .onDeviceVerifyPass h auth.authId

def authConvertConnInfo (connInfo : ConnectOption) : Option ConnectOption :=
  match connInfo.type with
  | .br | .tcp => some connInfo
  | .ble => none

def serverAuth (connectionId fd : BitVec 32) (option : ConnectOption) : AuthManager where
  requestId := 0
  connectionId := connectionId
  authId := authId
  side := .server
  status := .waitConnectionEstablished
  fd := fd
  option := option
  encryptInfoStatus := .initialState
  cb := some .lnn
  peerUdid := []
  peerUuid := []
  peerVersion := 0
  encryptDevData := none

def createServerAuth (authId : BitVec 64) : AuthM (Option Nat) :=
  match env.alloc, env.connInfo.bind authConvertConnInfo with
  | true, some option => do
      let h ← createAuth (serverAuth authId connectionId 0 option)
      pure (some h)
  | _, _ => pure none

variable (info : AuthDataInfo)

def handleReceiveData (side : AuthSideFlag) (recvData : Bytes) : AuthM PUnit := do
  let s ← get
  match AuthDataType.ofCode info.type, authGetManagerByAuthId s info.authId side with
  | some .closeAck, _ => receiveCloseAck ctx env connectionId
  | some .deviceId, some h => handleReceiveDeviceId ctx env h recvData
  | some .deviceId, none =>
    if side = .server ∧ ctx.authIsSupportServerSide then
      let created ← createServerAuth env connectionId info.authId
      match created with
      | none => pure ⟨⟩
      | some h => handleReceiveDeviceId ctx env h recvData
  | some .auth, some h => handleReceiveAuthData ctx env h info.module
  | some .sync, some h =>
    authHandlePeerSyncDeviceInfo ctx (onKeyGenerated ctx env.replies) env.saved h recvData
      info.dataLen.toNat
  | _, _ => pure ⟨⟩

def authDataInfoSize : Nat := 24

def analysisData : Option AuthDataInfo :=
  if data.length < authDataInfoSize then none
  else some
    ⟨getWord 32 4 data, getWord 32 4 (data.drop 4), getWord 64 8 (data.drop 8),
      getWord 32 4 (data.drop 16), getWord 32 4 (data.drop 20)⟩

/-- What SetBufData writes before the data. -/
def AuthDataInfo.bytes : Bytes :=
  putWord 4 info.type ++ putWord 4 info.module ++ putWord 8 info.authId ++ putWord 4 info.flag ++
    putWord 4 info.dataLen

lemma analysisData_bytes_append : analysisData (info.bytes ++ data) = some info := by
  have long : ¬ (info.bytes ++ data).length < authDataInfoSize := by
    simp only [AuthDataInfo.bytes, List.length_append, length_putWord, authDataInfoSize]
    omega
  rw [analysisData, if_neg long]
  simp only [AuthDataInfo.bytes, List.append_assoc]
  simp [getWord_putWord_append]

/-- The data length in the packet is not compared with the packet's own: `beyond` is
the memory that follows the received bytes. -/
def authOnDataReceived (connectionId moduleId : BitVec 32)
    (seq : BitVec 64) (data beyond : Bytes) : AuthM PUnit :=
  if moduleId = deviceAuth.code then
    match analysisData data with
    | none => pure ⟨⟩
    | some info =>
      handleReceiveData ctx env connectionId info (authGetSideByRemoteSeq seq)
        ((data ++ beyond).drop authDataInfoSize)
  else pure ⟨⟩

def clientAuth (moduleId : Option AuthModuleId) (status : AuthStatus) (authId : BitVec 64)
    (requestId fd : BitVec 32) (option : ConnectOption) : AuthManager where
  requestId := requestId
  connectionId := 0
  authId := authId
  side := .client
  status := status
  fd := fd
  option := option
  encryptInfoStatus := .initialState
  cb := moduleId
  peerUdid := []
  peerUuid := []
  peerVersion := 0
  encryptDevData := none

def handleIpVerifyDevice (fd : Option (BitVec 32)) (h : Nat) : AuthM Bool :=
  match fd with
  | none => pure false
  | some fd => do
      updateAuth h fun auth => { auth with fd := fd }
      authSyncDeviceUuid ctx env.packed env.sent h

def startConnection (type : ConnectType)
    (fd : Option (BitVec 32)) (connected : Bool) (h : Nat) : AuthM Bool :=
  match type with
  | .tcp => handleIpVerifyDevice ctx env fd h
  | .br => pure connected
  | .ble => pure false

/-- `fd` is the result of OpenTcpChannel, `connected` that of ConnConnectDevice. -/
def authVerifyDevice (moduleId : AuthModuleId) (option : ConnectOption) (requestId : BitVec 32)
    (fd : Option (BitVec 32)) (connected : Bool) : AuthM PUnit :=
  if env.alloc then do
    let authId ← getSeq ctx
    let h ← createAuth
      (clientAuth (some moduleId) .waitConnectionEstablished authId requestId 0 option)
    let started ← startConnection ctx env option.type fd connected h
    when (started = false ∨ env.looper = false) (authHandleLeaveLNN authId)
  else pure ⟨⟩

def authOpenChannel (option : ConnectOption) (fd : BitVec 32) : AuthM PUnit :=
  if env.alloc then do
    let authId ← getSeq ctx
    let _ ← createAuth (clientAuth none .initState authId 0 fd option)
  else pure ⟨⟩

def authOnConnectSuccessful (requestId connectionId : BitVec 32) : AuthM PUnit := do
  let s ← get
  match authGetManagerByRequestId s requestId with
  | none => pure ⟨⟩
  | some h =>
    updateAuth h fun auth => { auth with connectionId := connectionId }
    let synced ← authSyncDeviceUuid ctx env.packed env.sent h
    when (synced = false) (handleAuthFail ctx h)

def authOnConnectFailed (requestId : BitVec 32) : AuthM PUnit := do
  let s ← get
  match authGetManagerByRequestId s requestId with
  | none => pure ⟨⟩
  | some h => handleAuthFail ctx h

/-- AuthTimeout, which like HandleAuthFail only reports the failure. -/
def authTimeout : AuthM PUnit := authOnError ctx authId

def createServerIpAuth (cfd : BitVec 32) (ip : Bytes) (port : BitVec 32) : AuthM PUnit :=
  if env.alloc = false ∨ ipLen ≤ ip.length then emit (.closeTcpFd cfd)
  else do
    let _ ← createAuth (serverAuth (cfd.signExtend 64) 0 cfd ⟨.tcp, ip, port⟩)

def authHandleTransInfo (head : ConnPktHead) (data : Bytes) : AuthM PUnit := do
  let auth ← deref h
  each (fun moduleId => emit (.onTransUdpDataRecv moduleId auth.authId auth.option head data))
    ctx.transUdpDataRecv

def authNotifyTransDisconn : AuthM PUnit :=
  each (fun moduleId => emit (.onAuthChannelClose moduleId authId)) ctx.authChannelClose

variable (auth : AuthManager)

/-- The packets of a socket that its AuthManager refuses because of their number. -/
def refusesSeq (head : ConnPktHead) : Bool :=
  head.module ≠ udpInfo.code ∧ head.module ≠ authChannel.code ∧
    head.module ≠ authMsg.code ∧ auth.authId ≠ head.seq ∧ auth.authId ≠ 0 ∧
    (head.seq ≠ 0 ∨ head.module ≠ authConnection.code)

def adoptAuthId (head : ConnPktHead) : AuthM PUnit :=
  if auth.side = .server ∧ head.flag = 0 ∧ auth.authId = 0 then
    updateAuth h fun auth => { auth with authId := head.seq }
  else pure ⟨⟩

def assignAuthId : AuthM PUnit :=
  if auth.authId = 0 then do
    let authId ← getSeq ctx
    updateAuth h fun auth => { auth with authId := authId }
  else pure ⟨⟩

def authIpOnDataReceived (fd : BitVec 32) (head : ConnPktHead) (data : Bytes) : AuthM PUnit := do
  let s ← get
  match authGetManagerByFd s fd with
  | none => pure ⟨⟩
  | some h =>
    let auth ← deref h
    if refusesSeq auth head then pure ⟨⟩
    else match ofCode head.module with
      | some .trustEngine =>
        adoptAuthId h auth head
        handleReceiveDeviceId ctx env h data
      | some .authSdk => handleReceiveAuthData ctx env h head.module
      | some .authConnection =>
        authHandlePeerSyncDeviceInfo ctx (onKeyGenerated ctx env.replies) env.saved h data
          head.len.toNat
      | some .udpInfo => authHandleTransInfo ctx h head data
      | some .timeSync | some .authChannel | some .authMsg =>
        assignAuthId ctx h auth
        authHandleTransInfo ctx h head data
      | _ => pure ⟨⟩

inductive RecvHead where
  | failed
  | short
  | full (head : ConnPktHead)

/-- The loop of AuthIpDataProcess: reads until `remainLen` bytes have come or a read
brings none. -/
def recvBody : Nat → List Bytes → Option Bytes
  | _, [] => none
  | remainLen, chunk :: reads =>
    if remainLen = 0 ∨ chunk.length = 0 then none
    else if chunk.length < remainLen then
      (recvBody (remainLen - chunk.length) reads).map (chunk ++ ·)
    else some (chunk.take remainLen)

/-- The packet that AuthOnDataEvent hands on. A negative length passes the first test
and fails in the allocation. -/
def recvPacket (alloc : Bool) (head : ConnPktHead) (reads : List Bytes) : Option Bytes :=
  if authMaxDataLen < head.len.toInt ∨ alloc = false ∨ maxMallocSize < head.len.toNat then none
  else recvBody head.len.toNat reads

def authNotifyLnnDisconn : AuthM PUnit :=
  if auth.side = .server ∧ auth.status.code < AuthStatus.inSyncProgress.code then
    authHandleLeaveLNN auth.authId
  else when auth.cb.isSome
    (callback ctx h fun auth => .onDisconnect h auth.authId)

/-- The id is read after the AuthManager may have been freed; then it is `stale`. -/
def authNotifyDisconn (fd : BitVec 32) (stale : BitVec 64) : AuthM PUnit := do
  let s ← get
  match authGetManagerByFd s fd with
  | none => pure ⟨⟩
  | some h =>
    let auth ← deref h
    authNotifyLnnDisconn ctx h auth
    let t ← get
    authNotifyTransDisconn ctx (((t.auths.get? h).map AuthManager.authId).getD stale)

def authOnDataEvent (fd : BitVec 32) (recvHead : RecvHead)
    (reads : List Bytes) (stale : BitVec 64) : AuthM PUnit :=
  match recvHead with
  | .failed => authNotifyDisconn ctx fd stale
  | .short => pure ⟨⟩
  | .full head =>
    match recvPacket env.alloc head reads with
    | none => pure ⟨⟩
    | some data => authIpOnDataReceived ctx env fd head data

/-- LIST_FOR_EACH_SAFE: the item after the current one is chosen before the body runs,
and must still be there afterwards. -/
def listForEachSafe (body : Nat → AuthM PUnit) : List Nat → AuthM PUnit
  | [] => pure ⟨⟩
  | item :: rest => do
      let s ← get
      if (s.auths.get? item).isNone then listForEachSafe body rest
      else do
        body item
        let t ← get
        match rest.find? fun next => (s.auths.get? next).isSome with
        | none => pure ⟨⟩
        | some tmp =>
          if (t.auths.get? tmp).isNone then fault else listForEachSafe body rest

def ipChangedClient : AuthM PUnit := do
  let auth ← deref h
  when (auth.option.type = .tcp) (callback ctx h fun auth => .onDisconnect h auth.authId)

def ipChangedServer : AuthM PUnit := do
  let auth ← deref h
  when (auth.option.type = .tcp)
    (if auth.status.code < AuthStatus.inSyncProgress.code then authHandleLeaveLNN auth.authId
      else callback ctx h fun auth => .onDisconnect h auth.authId)

def handlesOf (s : AuthState) (side : AuthSideFlag) : List Nat :=
  (s.auths.cells.filter fun cell => cell.2.side = side).map Prod.fst

def authIpChanged : AuthM PUnit := do
  let s ← get
  listForEachSafe (ipChangedClient ctx) (handlesOf s .client)
  let t ← get
  listForEachSafe (ipChangedServer ctx) (handlesOf t .server)

def authOnDeviceNotTrusted (peerUdid : Bytes) : AuthM PUnit := do
  let s ← get
  match getAuthByPeerUdid s peerUdid with
  | none => pure ⟨⟩
  | some h => callback ctx h fun _ => .onDeviceNotTrusted h peerUdid

inductive Input where
  | verifyDevice (moduleId : AuthModuleId) (option : ConnectOption) (requestId : BitVec 32)
      (fd : Option (BitVec 32)) (connected : Bool) (env : Env)
  | openChannel (option : ConnectOption) (fd : BitVec 32) (env : Env)
  | connectSuccessful (requestId connectionId : BitVec 32) (env : Env)
  | connectFailed (requestId : BitVec 32)
  | dataReceived (connectionId moduleId : BitVec 32) (seq : BitVec 64)
      (data beyond : Bytes) (env : Env)
  | socketConnect (cfd : BitVec 32) (ip : Bytes) (port : BitVec 32) (env : Env)
  | socketData (fd : BitVec 32) (recvHead : RecvHead) (reads : List Bytes)
      (stale : BitVec 64) (env : Env)
  | hichain (call : HichainCall)
  | postData (post : Post) (replies : List Post)
  | timeout (authId : BitVec 64)
  | leaveLNN (authId : BitVec 64)
  | ipChanged
  | deviceNotTrusted (peerUdid : Bytes)

def handleInput : Input → AuthM PUnit
  | .verifyDevice moduleId option requestId fd connected env =>
    authVerifyDevice ctx env moduleId option requestId fd connected
  | .openChannel option fd env => authOpenChannel ctx env option fd
  | .connectSuccessful requestId connectionId env =>
    authOnConnectSuccessful ctx env requestId connectionId
  | .connectFailed requestId => authOnConnectFailed ctx requestId
  | .dataReceived connectionId moduleId seq data beyond env =>
    authOnDataReceived ctx env connectionId moduleId seq data beyond
  | .socketConnect cfd ip port env => createServerIpAuth env cfd ip port
  | .socketData fd recvHead reads stale env => authOnDataEvent ctx env fd recvHead reads stale
  | .hichain call => hichainCall ctx call
  | .postData post replies => do
      let _ ← authPostData ctx replies post
  | .timeout authId => authTimeout ctx authId
  | .leaveLNN authId => authHandleLeaveLNN authId
  | .ipChanged => authIpChanged ctx
  | .deviceNotTrusted peerUdid => authOnDeviceNotTrusted ctx peerUdid

def authStep (s : AuthState) (input : Input) :
    Option (AuthState × List Event) := (handleInput ctx input).step s

end DSoftBus.Auth
