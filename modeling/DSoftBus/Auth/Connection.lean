import DSoftBus.Auth.Manager

/-!
Sending through an AuthManager and the exchange of device information (auth_connection.c
and the handlers it shares with auth_manager.c).

AuthPostData may be called from inside the callback onKeyGenerated, so what the callback
posts is an input: the first call of a handler posts the first of the given posts, a call
that this one causes the second, and so on.
-/
namespace DSoftBus.Auth
open Effect ConnModule

structure AuthDataHead where
  dataType : Option AuthDataType
  module : BitVec 32
  authId : BitVec 64
  flag : BitVec 32
  seq : BitVec 64

/-- A call of AuthPostData: whether the bytes are sent, and whether data to be kept back finds
memory. -/
structure Post where
  head : AuthDataHead
  data : Bytes
  sent : Bool
  saved : Bool

def authMaxDataLen : Nat := 64 * 1024
def packetSize : Int := 64 * 1024
def cmdTagLen : Nat := 30
def softBusOldV2 : BitVec 32 := 2
def softBusNewV1 : Int := 100

variable (auth : AuthManager)

def ethHead (head : AuthDataHead) (len : Nat) : ConnPktHead :=
  if head.module = udpInfo.code ∨ head.module = authChannel.code ∨
      head.module = authMsg.code then
    ⟨head.module, head.seq, head.flag, BitVec.ofNat 32 len⟩
  else if head.module = authConnection.code ∧ auth.side = .server then
    ⟨head.module, 0, auth.side.code, BitVec.ofNat 32 len⟩
  else ⟨head.module, auth.authId, auth.side.code, BitVec.ofNat 32 len⟩

def authSocketSendData (post : Post) : AuthM Bool :=
  if post.sent then do
    emit (.sendTcpData auth.fd (ethHead auth post.head post.data.length) post.data)
    pure true
  else pure false

variable (ctx : AuthContext) (auth : AuthManager)

/-- The sequence number is used up even when the packet is not sent. -/
def postDataByConn (post : Post) : AuthM Bool := do
  let seq ← getSeq ctx
  let type := (post.head.dataType.map AuthDataType.code).getD 0
  if post.sent then
    emit (.connPostBytes auth.connectionId seq auth.side
      ⟨type, post.head.module, post.head.authId, post.head.flag,
        BitVec.ofNat 32 post.data.length⟩ post.data)
    pure true
  else pure false

def sendBytes (post : Post) : AuthM Bool :=
  if auth.option.type = .tcp then authSocketSendData auth post else postDataByConn ctx auth post

def saveEncryptDevData (ctx : AuthContext) (saved : Bool) (h : Nat) (data : Bytes) : AuthM PUnit :=
  if saved then updateAuth h fun auth => { auth with encryptDevData := some data }
  else do
    updateAuth h fun auth => { auth with encryptDevData := none }
    handleAuthFail ctx h

/-- The part of AuthHandlePeerSyncDeviceInfo that accepts the peer's information. -/
def acceptSyncDeviceInfo (ctx : AuthContext) (h : Nat) (auth : AuthManager) (data : Bytes) :
    AuthM PUnit := do
  callback ctx h fun auth =>
    .onRecvSyncDeviceInfo h auth.authId auth.side auth.peerUuid data
  updateAuth h fun auth => { auth with status := .authPassed }
  when (auth.option.type = .tcp)
    (callback ctx h fun auth => .onDeviceVerifyPass h auth.authId)

/-- AuthHandlePeerSyncDeviceInfo up to its test, with the record it read and whether the
information comes too early. -/
def testPeerSyncDeviceInfo (onKey : Nat → AuthM PUnit) (h : Nat) : AuthM (AuthManager × Bool) := do
  let auth ← deref h
  when (auth.option.type = .tcp ∧ auth.side = .server ∧
    auth.encryptInfoStatus = .keyGeneratedState) (onKey h)
  updateAuth h fun auth => { auth with encryptInfoStatus := .recvEncryptDataState }
  let s ← get
  let auth ← deref h
  pure (auth, authIsSeqInKeyList (seqOf auth.authId) s.keys = false ∨ auth.status = .inSyncProgress)

def takePeerSyncDeviceInfo (ctx : AuthContext) (saved : Bool) (h : Nat) (data : Bytes)
    (tested : AuthManager × Bool) : AuthM PUnit :=
  if tested.2 then saveEncryptDevData ctx saved h data
  else acceptSyncDeviceInfo ctx h tested.1 data

/-- `data` is the memory the caller's pointer leads to, of which `len` bytes are used. -/
def authHandlePeerSyncDeviceInfo (ctx : AuthContext) (onKey : Nat → AuthM PUnit) (saved : Bool)
    (h : Nat) (data : Bytes) (len : Nat) : AuthM PUnit :=
  if len = 0 ∨ authMaxDataLen < len then pure ⟨⟩
  else if data.length < len then fault
  else testPeerSyncDeviceInfo onKey h >>= takePeerSyncDeviceInfo ctx saved h (data.take len)

/-- Data that is kept back again is copied from the freed block; the caller then drops the
copy. -/
def handlePeerSyncDeviceInfo (ctx : AuthContext) (onKey : Nat → AuthM PUnit) (h : Nat)
    (post : Post) : AuthM PUnit :=
  if post.head.dataType = some .sync then do
    updateAuth h fun auth => { auth with status := .syncFinish }
    let auth ← deref h
    match auth.encryptDevData with
    | none => pure ⟨⟩
    | some data =>
      authHandlePeerSyncDeviceInfo ctx onKey post.saved h data data.length
      updateAuth h fun auth => { auth with encryptDevData := none }
  else pure ⟨⟩

def authPostDataWith (ctx : AuthContext) (onKey : Nat → AuthM PUnit) (post : Post) :
    AuthM Bool := do
  let s ← get
  match authFindManager s post.head.authId with
  | none => pure false
  | some h =>
    let auth ← deref h
    let sent ← sendBytes ctx auth post
    if sent then
      handlePeerSyncDeviceInfo ctx onKey h post
      pure true
    else pure false

def onKeyGenerated (ctx : AuthContext) : List Post → Nat → AuthM PUnit
  | [], h =>
    callback ctx h fun auth => .onKeyGenerated h auth.authId auth.option auth.peerVersion
  | post :: rest, h => do
      callback ctx h fun auth => .onKeyGenerated h auth.authId auth.option auth.peerVersion
      let _ ← authPostDataWith ctx (onKeyGenerated ctx rest) post

/-- AuthPostData, when the callbacks it causes post `replies`. -/
def authPostData (ctx : AuthContext) (replies : List Post) (post : Post) : AuthM Bool :=
  authPostDataWith ctx (onKeyGenerated ctx replies) post

def authPackDeviceInfo : JsonObject :=
  [("TECmd", .string (if auth.option.type = .tcp ∧ auth.side = .client then cString "getAuthInfo"
      else cString "retAuthInfo")),
    ("TEData", .string ctx.localUuid), ("TEDeviceId", .string ctx.localUdid),
    ("DataBufSize", .number packetSize), ("softbusVersion", .number softBusNewV1)]

/-- A TCP packet of this kind is told by its module: its data type stays 0. -/
def deviceIdHead : AuthDataHead :=
  if auth.option.type = .tcp then
    ⟨none, trustEngine.code, auth.authId, auth.side.code, 0⟩
  else ⟨some .deviceId, 0, auth.authId, auth.side.code, 0⟩

def authSyncDeviceUuid (ctx : AuthContext) (packed sent : Bool) (h : Nat) : AuthM Bool :=
  if packed then do
    let auth ← deref h
    let msgStr := ctx.cJSONPrintUnformatted (authPackDeviceInfo ctx auth)
    updateAuth h fun auth => { auth with status := .inAuthProgress }
    authPostData ctx [] ⟨deviceIdHead auth, msgStr ++ [0], sent, true⟩
  else pure false

def expectedCmd : Bytes :=
  if auth.option.type = .tcp ∧ auth.side = .server then cString "getAuthInfo"
  else cString "retAuthInfo"

/-- The checks of AuthUnpackDeviceInfo before it touches the AuthManager. -/
def checkDeviceInfo (data : Bytes) : Option JsonObject :=
  match ctx.cJSONParse data with
  | none => none
  | some msg =>
    match getJsonObjectStringItem msg "TECmd" cmdTagLen with
    | none => none
    | some cmd =>
      if cmd.take (expectedCmd auth).length = expectedCmd auth then some msg else none

/-- The result carries what was written, also when a later item is missing. -/
def unpackDeviceId (msg : JsonObject) (auth : AuthManager) : AuthManager × Bool :=
  match getJsonObjectStringItem msg "TEData" uuidBufLen with
  | none => (auth, false)
  | some uuid =>
    match getJsonObjectStringItem msg "TEDeviceId" udidBufLen with
    | none => ({ auth with peerUuid := uuid }, false)
    | some udid => ({ auth with peerUuid := uuid, peerUdid := udid }, true)

def authUnpackDeviceInfo (data : Bytes) : AuthManager × Bool :=
  match checkDeviceInfo ctx auth data with
  | none => (auth, false)
  | some msg =>
    match unpackDeviceId msg auth with
    | (unpacked, false) => (unpacked, false)
    | (unpacked, true) =>
      match getJsonObjectNumberItem msg "DataBufSize" with
      | none => (unpacked, false)
      | some _ =>
        ({ unpacked with
            peerVersion := (getJsonObjectNumberItem msg "softbusVersion").getD softBusOldV2 }, true)

def authSendCloseAck (connectionId : BitVec 32) (sent : Bool) : AuthM PUnit :=
  if sent then
    emit (.connPostBytes connectionId 0 .client
      ⟨AuthDataType.closeAck.code, 0, 0, 0, 10⟩ (cString "close ack" ++ [0]))
  else pure ⟨⟩

def authOnTransmit (ctx : AuthContext) (authId : BitVec 64) (data : Bytes) (sent : Bool) :
    AuthM PUnit := do
  let s ← get
  match authFindManager s authId with
  | none => pure ⟨⟩
  | some h =>
    let auth ← deref h
    let head : AuthDataHead := ⟨some .auth, authSdk.code, auth.authId, auth.side.code, 0⟩
    let _ ← authPostData ctx [] ⟨head, data, sent, true⟩

end DSoftBus.Auth
