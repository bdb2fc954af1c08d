import DSoftBus.Adapter
import DSoftBus.Lib.Effect
import DSoftBus.Lib.RecordHeap

/-!
The records of the authentication manager (auth_manager.h, auth_common.c,
auth_sessionkey.c): the AuthManagers of both list heads, the session keys and the sequence
counter, with the searches and callbacks that the handlers share.

An AuthManager is reached through the handle of its memory block. The callbacks name the
block, since several blocks may have the same authId. An access to a freed block and a
callback through a null pointer or of a module that registered none have no result. Locks
are always obtained; a timeout may arrive at any time for any id.
-/
namespace DSoftBus.Auth
open Effect

inductive AuthSideFlag where
  | client
  | server
deriving DecidableEq

def AuthSideFlag.code : AuthSideFlag → BitVec 32
  | .client => 0
  | .server => 1

inductive AuthModuleId where
  | lnn
  | transUdpData
  | transAuthChannel
  | transTimeSyncChannel
deriving DecidableEq

inductive AuthStatus where
  | initState
  | waitConnectionEstablished
  | inAuthProgress
  | inSyncProgress
  | syncFinish
  | authPassed
deriving DecidableEq

def AuthStatus.code : AuthStatus → Nat
  | .initState => 0
  | .waitConnectionEstablished => 1
  | .inAuthProgress => 2
  | .inSyncProgress => 3
  | .syncFinish => 4
  | .authPassed => 5

inductive EncryptInfoStatus where
  | initialState
  | recvEncryptDataState
  | keyGeneratedState
deriving DecidableEq

inductive ConnectType where
  | tcp
  | br
  | ble
deriving DecidableEq

/-- The `ip`, `brMac` and `bleMac` of the option's union all start at its first byte:
`address` is the text there. -/
structure ConnectOption where
  type : ConnectType
  address : Bytes
  port : BitVec 32
deriving DecidableEq

structure AuthManager where
  requestId : BitVec 32
  connectionId : BitVec 32
  authId : BitVec 64
  side : AuthSideFlag
  status : AuthStatus
  fd : BitVec 32
  option : ConnectOption
  encryptInfoStatus : EncryptInfoStatus
  cb : Option AuthModuleId
  peerUdid : Bytes
  peerUuid : Bytes
  peerVersion : BitVec 32
  encryptDevData : Option Bytes

/-- `(int32_t)authId`, the number under which the key list knows an auth. -/
def seqOf (authId : BitVec 64) : BitVec 32 := authId.setWidth 32

structure NecessaryDevInfo where
  type : ConnectType
  deviceKey : Bytes
  deviceKeyLen : Nat
  side : AuthSideFlag
  seq : BitVec 32
deriving DecidableEq

structure SessionKeyList where
  devInfo : NecessaryDevInfo
  sessionKey : Bytes
  peerUdid : Bytes
deriving DecidableEq

def SessionKeyList.seq (key : SessionKeyList) : BitVec 32 := key.devInfo.seq

def maxKeyListSize : Nat := 20
def maxDeviceKeyLen : Nat := 64
def sessionKeyLength : Nat := 32
def uuidBufLen : Nat := 65
def btMacLen : Nat := 18
def ipLen : Nat := 46

/-- The second result tells whether the key was stored, which the source does not
report. The oldest key of a full list is dropped before the allocation. -/
def authSetLocalSessionKey (alloc : Bool) (devInfo : NecessaryDevInfo)
    (peerUdid sessionKey : Bytes) (keys : List SessionKeyList) : List SessionKeyList × Bool :=
  let kept := if keys.length = maxKeyListSize then keys.dropLast else keys
  if alloc = false ∨ udidBufLen < peerUdid.length ∨ maxDeviceKeyLen < devInfo.deviceKeyLen ∨
      sessionKeyLength < sessionKey.length then (kept, false)
  else (⟨devInfo, sessionKey, peerUdid⟩ :: kept, true)

def authIsSeqInKeyList (seq : BitVec 32) (keys : List SessionKeyList) : Bool :=
  keys.any fun key => key.seq = seq

def authClearSessionKeyBySeq (seq : BitVec 32) (keys : List SessionKeyList) : List SessionKeyList :=
  keys.filter fun key => key.seq ≠ seq

def authGetDeviceKey (option : ConnectOption) : Option (Bytes × Nat) :=
  match option.type with
  | .br => some (option.address.take btMacLen, btMacLen)
  | .tcp => some (option.address.take ipLen, ipLen)
  | .ble => none

inductive AuthDataType where
  | auth
  | sync
  | deviceId
  | connection
  | closeAck
deriving DecidableEq

def AuthDataType.code : AuthDataType → BitVec 32
  | .auth => 0xFFFF0001
  | .sync => 0xFFFF0002
  | .deviceId => 0xFFFF0003
  | .connection => 0xFFFF0004
  | .closeAck => 0xFFFF0005

def AuthDataType.ofCode (code : BitVec 32) : Option AuthDataType :=
  [AuthDataType.auth, .sync, .deviceId, .connection, .closeAck].find? fun t => t.code = code

inductive ConnModule where
  | trustEngine
  | authSdk
  | authConnection
  | authChannel
  | authMsg
  | deviceAuth
  | udpInfo
  | timeSync
deriving DecidableEq

def ConnModule.code : ConnModule → BitVec 32
  | .trustEngine => 1
  | .authSdk => 3
  | .authConnection => 5
  | .authChannel => 8
  | .authMsg => 9
  | .deviceAuth => 14
  | .udpInfo => 17
  | .timeSync => 18

def ConnModule.ofCode (code : BitVec 32) : Option ConnModule :=
  [ConnModule.trustEngine, .authSdk, .authConnection, .authChannel, .authMsg, .deviceAuth,
    .udpInfo, .timeSync].find? fun m => m.code = code

structure ConnPktHead where
  module : BitVec 32
  seq : BitVec 64
  flag : BitVec 32
  len : BitVec 32
deriving DecidableEq

structure AuthDataInfo where
  type : BitVec 32
  module : BitVec 32
  authId : BitVec 64
  flag : BitVec 32
  dataLen : BitVec 32
deriving DecidableEq

/-- What others can see. The first argument of a callback is the handle of the AuthManager
whose `cb` is called. The two session key outputs are not in the source:
AuthOnSessionKeyReturned found the AuthManager, and its key entered the list. -/
inductive Event where
  | sessionKeyReturned (auth : Nat)
  | sessionKeyStored (auth : Nat) (key : SessionKeyList)
  | onKeyGenerated (auth : Nat) (authId : BitVec 64) (option : ConnectOption)
      (peerVersion : BitVec 32)
  | onDeviceVerifyFail (auth : Nat) (authId : BitVec 64)
  | onRecvSyncDeviceInfo (auth : Nat) (authId : BitVec 64) (side : AuthSideFlag)
      (peerUuid data : Bytes)
  | onDeviceVerifyPass (auth : Nat) (authId : BitVec 64)
  | onDeviceNotTrusted (auth : Nat) (peerUdid : Bytes)
  | onDisconnect (auth : Nat) (authId : BitVec 64)
  | onTransUdpDataRecv (moduleId : AuthModuleId) (authId : BitVec 64) (option : ConnectOption)
      (head : ConnPktHead) (data : Bytes)
  | onAuthChannelClose (moduleId : AuthModuleId) (authId : BitVec 64)
  | requestAccepted (auth : Nat) (peerUdid : Bytes)
  | sendTcpData (fd : BitVec 32) (head : ConnPktHead) (data : Bytes)
  | connPostBytes (connectionId : BitVec 32) (seq : BitVec 64) (side : AuthSideFlag)
      (info : AuthDataInfo) (data : Bytes)
  | closeTcpFd (fd : BitVec 32)
deriving DecidableEq

structure AuthContext where
  cJSONParse : Bytes → Option JsonObject
  cJSONPrintUnformatted : JsonObject → Bytes
  localUuid : Bytes
  localUdid : Bytes
  uniqueId : BitVec 64
  authIsSupportServerSide : Bool
  verifyCallbacks : List AuthModuleId
  transUdpDataRecv : List AuthModuleId
  authChannelClose : List AuthModuleId

/-- `g_authClientHead` holds the records on the client side and `g_authServerHead` those on the
server side, in the order of this heap. -/
structure AuthState where
  auths : RecordHeap AuthManager
  keys : List SessionKeyList
  integer : BitVec 64

def AuthState.init : AuthState := ⟨RecordHeap.empty, [], 0⟩

abbrev AuthM := Act AuthState Event

variable (s : AuthState)

def authGetManagerByAuthId (authId : BitVec 64) (side : AuthSideFlag) :
    Option Nat := s.auths.find? fun auth => auth.side = side ∧ auth.authId = authId

def authFindManager (authId : BitVec 64) : Option Nat :=
  (authGetManagerByAuthId s authId .client).or (authGetManagerByAuthId s authId .server)

def authGetManagerByFd (fd : BitVec 32) : Option Nat :=
  (s.auths.find? fun auth => auth.side = .client ∧ auth.fd = fd).or
    (s.auths.find? fun auth => auth.side = .server ∧ auth.fd = fd)

def authGetManagerByRequestId (requestId : BitVec 32) : Option Nat :=
  s.auths.find? fun auth => auth.side = .client ∧ auth.requestId = requestId

/-- `strncmp(auth->peerUdid, peerUdid, strlen(peerUdid)) == 0`. -/
def getAuthByPeerUdid (peerUdid : Bytes) : Option Nat :=
  (s.auths.find? fun auth => auth.side = .client ∧ auth.peerUdid.take peerUdid.length = peerUdid).or
    (s.auths.find? fun auth =>
      auth.side = .server ∧ auth.peerUdid.take peerUdid.length = peerUdid)

def deref (h : Nat) : AuthM AuthManager := do
  let s ← get
  match s.auths.get? h with
  | none => fault
  | some auth => pure auth

def updateAuth (h : Nat) (f : AuthManager → AuthManager) : AuthM PUnit :=
  modify fun s => { s with auths := s.auths.modify h f }

def createAuth (auth : AuthManager) : AuthM Nat := do
  let s ← get
  modify fun s => { s with auths := s.auths.alloc auth }
  pure s.auths.next

def deleteAuth (h : Nat) : AuthM PUnit := modify fun s => { s with auths := s.auths.free h }

def intMaxValue : BitVec 64 := 0xFFFFFE
def low24Bits : BitVec 64 := 0xFFFFFF

variable (ctx : AuthContext)

/-- GetSeq ignores the side it is given. -/
def getSeq : AuthM (BitVec 64) := do
  let s ← get
  let integer := (if s.integer = intMaxValue then 0 else s.integer) + 2
  modify fun s => { s with integer := integer }
  pure ((ctx.uniqueId <<< 24) ||| (integer &&& low24Bits))

def authGetSideByRemoteSeq (seq : BitVec 64) : AuthSideFlag :=
  if seq.toInt.tmod 2 = 0 then .server else .client

def callback (h : Nat) (event : AuthManager → Event) : AuthM PUnit := do
  let auth ← deref h
  match auth.cb with
  | none => fault
  | some moduleId => if moduleId ∈ ctx.verifyCallbacks then emit (event auth) else fault

def handleAuthFail (h : Nat) : AuthM PUnit :=
  callback ctx h fun auth => .onDeviceVerifyFail h auth.authId

/-- AuthHandleLeaveLNN, and AuthCloseChannel, which only calls it. -/
def authHandleLeaveLNN (authId : BitVec 64) : AuthM PUnit := do
  let s ← get
  match authFindManager s authId with
  | none => pure ⟨⟩
  | some h =>
    modify fun s => { s with keys := authClearSessionKeyBySeq (seqOf authId) s.keys }
    let auth ← deref h
    when (auth.option.type = .tcp) (emit (.closeTcpFd auth.fd))
    deleteAuth h

end DSoftBus.Auth
