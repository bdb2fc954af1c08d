import DSoftBus.Trans.ProxyConnections

/-!
The proxy channel manager: softbus_proxychannel_manager.c, and the part of
softbus_proxychannel_transceiver.c that opens and closes connections and handles the
messages of the loop.

One step is a whole call by an application, the connection manager, the timer or the loop.
The lists are locked only for single operations, so calls can overlap in the source: between
the search for a number and its insertion, between the look for a connection and what is done
about it, and between the changes that one event makes to the two lists. Such overlaps are
left out. What other modules answer is its `Env`. Memory is never short.

A channel is known by the handle of its record, since its numbers are used again. The
events name the handle and also tell what no other module sees: that a channel was added
or removed, and why.
-/
namespace DSoftBus.Proxy
open ByteString Effect

inductive AppType where
  | notCare
  | normal
  | auth
  | inner
  | unknown (code : BitVec 32)
deriving DecidableEq

def AppType.ofCode (code : BitVec 32) : AppType :=
  if code = 0 then .notCare
  else if code = 1 then .normal
  else if code = 2 then .auth
  else if code = 3 then .inner
  else .unknown code

structure AppInfoData where
  deviceId : Bytes
  pkgName : Bytes
  sessionName : Bytes
  uid : BitVec 32
  pid : BitVec 32
deriving DecidableEq

def AppInfoData.zero : AppInfoData := ⟨[], [], [], 0, 0⟩

structure AppInfo where
  appType : AppType
  myData : AppInfoData
  peerData : AppInfoData
deriving DecidableEq

/-- The whole record of a channel. `requested` is what the channel was opened for, of which the
source keeps no more than the type. -/
structure ProxyChannel extends ProxyChannelInfo where
  reqId : BitVec 32
  identity : Bytes
  appInfo : AppInfo
  requested : Option ConnectOption

open ProxyChannel

inductive LoopMsg where
  | handshake (chanId : BitVec 32)
  | disconnect (connId : BitVec 32)
  | openFail (h : Nat) (chan : ProxyChannel)
  | openClose (h : Nat) (chan : ProxyChannel)
  | keepAlive (chan : ProxyChannel)
  | resetPeer (chan : ProxyChannel)

inductive Notice where
  | opened
  | openFailed
  | closed
deriving DecidableEq

inductive RemovalCause where
  | timeout
  | reset
  | connectionLost
  | connectFailed
  | handshakeFailed
  | closedLocally
  | applicationDied
  | connectRefused
deriving DecidableEq

inductive ProxyEvent where
  | notice (h : Nat) (notice : Notice) (channelId : BitVec 32) (appInfo : AppInfo)
  | msgReceived (channelId : BitVec 32) (data : Bytes)
  | sent (connId : BitVec 32) (type : MsgType) (myId peerId : BitVec 16)
  | connectDevice (reqId : BitVec 32) (connInfo : ConnectOption)
  | closeConnChannel (connId : BitVec 32)
  | disconnectDevice (connId : BitVec 32)
  | added (h : Nat) (newId : Option (BitVec 16))
  | removed (h : Nat) (cause : RemovalCause)
deriving DecidableEq

/-- `cnt` is the count kept with the list of channels; `myId` and `reqId` are the static
variables of TransProxyGetNewMyId and ConnGetNewRequestId. -/
structure ProxyManager where
  channels : RecordHeap ProxyChannel
  cnt : BitVec 32
  connections : List ProxyConnInfo
  myId : BitVec 16
  reqId : BitVec 32
  loop : List LoopMsg

def ProxyManager.init : ProxyManager := ⟨.empty, 0, [], 0, 1, []⟩

/-- `lnnGetNetworkIdByUuid` tells which peers have a network id, `onChannelOpened` is the answer
of the application or of the networking module, and `sends` tells whether a message can be packed
and posted. -/
structure Env where
  cJSONParse : Bytes → Option JsonObject
  softBusBase64Decode : Bytes → Option Bytes
  getPkgNameBySessionName : Bytes → Option Bytes
  localUdid : Option Bytes
  lnnGetNetworkIdByUuid : Bytes → Bool
  onChannelOpened : Bool
  sends : Bool
  connGetConnectionInfo : BitVec 32 → Option ConnectionInfo
  connConnectDevice : Bool
  generateRandomStr : Option Bytes
  generateRandomKey : Option Bytes

/-- Every module answers, and every message is from one peer. -/
def Env.good : Env where
  cJSONParse _ := some [("TYPE", .number 3), ("IDENTITY", .string [1]), ("DEVICE_ID", .string [2]),
    ("SRC_BUS_NAME", .string [3]), ("DST_BUS_NAME", .string [3]), ("SESSION_KEY", .string [4])]
  softBusBase64Decode _ := some (List.replicate 32 0)
  getPkgNameBySessionName _ := some []
  localUdid := some [5]
  lnnGetNetworkIdByUuid _ := true
  onChannelOpened := true
  sends := true
  connGetConnectionInfo _ := some ⟨1, 1, connectBr, [0x41, 0]⟩
  connConnectDevice := true
  generateRandomStr := some [1]
  generateRandomKey := some []

abbrev Managing := Act ProxyManager ProxyEvent

def ProxyManager.post (s : ProxyManager) (msgs : List LoopMsg) : ProxyManager :=
  { s with loop := s.loop ++ msgs }

def postToLoop (msg : LoopMsg) : Managing PUnit := modify fun s => s.post [msg]

def modifyConnections (f : List ProxyConnInfo → List ProxyConnInfo) : Managing PUnit :=
  modify fun s => { s with connections := f s.connections }

def proxyChannelControlTimeout : BitVec 16 := 19
def proxyChannelBtIdleTimeout : BitVec 16 := 240
def invalidChannelId : BitVec 16 := -1

section

def onProxyChannelOpenFailed (h : Nat) (chan : ProxyChannel) : Managing PUnit :=
  emit (.notice h .openFailed chan.channelId chan.appInfo)

def onProxyChannelClosed (h : Nat) (chan : ProxyChannel) : Managing PUnit :=
  emit (.notice h .closed chan.channelId chan.appInfo)

/-- NotifyNormalChannelOpened first asks for the network id of the peer. -/
def Env.tells (env : Env) (appInfo : AppInfo) : Bool :=
  appInfo.appType ≠ .normal || env.lnnGetNetworkIdByUuid appInfo.peerData.deviceId

/-- Only applications and the networking module listen. -/
def onProxyChannelOpened (env : Env) (h : Nat) (channelId : BitVec 32) (appInfo : AppInfo) :
    Managing Bool :=
  if env.tells appInfo then do
    emit (.notice h .opened channelId appInfo)
    match appInfo.appType with
    | .normal | .inner => pure env.onChannelOpened
    | .auth | .notCare | .unknown _ => pure false
  else pure false

def onProxyChannelMsgReceived (chan : ProxyChannel) (data : Bytes) : Managing PUnit :=
  when (data ≠ [])
    (match chan.appInfo.appType with
      | .normal | .inner => emit (.msgReceived chan.channelId data)
      | .auth | .notCare | .unknown _ => pure ⟨⟩)

end

section

def endianSwap16 (num : BitVec 16) : BitVec 16 :=
  ((num &&& 0xFF00) >>> 8) ||| ((num &&& 0x00FF) <<< 8)

def myIdMaxNum : Nat := 100

/-- The number that a value of the counter stands for, on a little-endian device. -/
def idOfCounter (myId : BitVec 16) : BitVec 16 := endianSwap16 (myId.srem 100 + 1)

def ProxyManager.ids (s : ProxyManager) : List (BitVec 16) := s.channels.cells.map (·.2.myId)

def myIdIsValid (ids : List (BitVec 16)) (myId : BitVec 16) : Bool := !ids.contains myId

/-- The counter after the search, and the number if one was free. -/
def findNewMyId (ids : List (BitVec 16)) : Nat → BitVec 16 → BitVec 16 × Option (BitVec 16)
  | 0, myId => (myId, none)
  | cnt + 1, myId =>
    if myIdIsValid ids (idOfCounter (myId + 1)) then (myId + 1, some (idOfCounter (myId + 1)))
    else findNewMyId ids cnt (myId + 1)

/-- `none` stands for INVALID_CHANNEL_ID. -/
def transProxyGetNewMyId : Managing (Option (BitVec 16)) := do
  let s ← get
  let found := findNewMyId s.ids myIdMaxNum s.myId
  modify fun s => { s with myId := found.1 }
  pure found.2

/-- No caller looks whether a number was found. -/
def chanNewId (newId : Option (BitVec 16)) : BitVec 16 := newId.getD invalidChannelId

def connGetNewRequestId : Managing (BitVec 32) := do
  modify fun s => { s with reqId := (s.reqId + 1) % 1000000 + 1 }
  let s ← get
  pure s.reqId

end

section

variable (s : ProxyManager)

def ProxyManager.addChan (chan : ProxyChannel) : ProxyManager :=
  { s with channels := s.channels.alloc chan, cnt := s.cnt + 1 }

def ProxyManager.delChan (h : Nat) : ProxyManager :=
  { s with channels := s.channels.free h, cnt := s.cnt - 1 }

def ProxyManager.delChans (p : ProxyChannel → Bool) : ProxyManager :=
  { s with
    channels := s.channels.freeAll p
    cnt := s.cnt - BitVec.ofNat 32 (s.channels.all p).length }

def ProxyManager.putChan (h : Nat) (chan : ProxyChannel) : ProxyManager :=
  { s with channels := s.channels.modify h fun _ => chan }

def transProxyAddChanItem (newId : Option (BitVec 16)) (chan : ProxyChannel) : Managing PUnit := do
  let s ← get
  emit (.added s.channels.next newId)
  modify fun s => s.addChan chan

def removeChan (h : Nat) (cause : RemovalCause) : Managing PUnit := do
  emit (.removed h cause)
  modify fun s => s.delChan h

def ProxyManager.chanByChanId (chanId : BitVec 32) : Option (Nat × ProxyChannel) :=
  s.channels.first? fun item => item.channelId = chanId

def transProxyDelChanByChanId (chanId : BitVec 32) (cause : RemovalCause) : Managing PUnit := do
  let s ← get
  match s.chanByChanId chanId with
  | none => pure ⟨⟩
  | some (h, _) => removeChan h cause

def ProxyChannel.waitsFor (reqId : BitVec 32) (chan : ProxyChannel) : Bool :=
  chan.reqId = reqId && chan.status = .pyhConnecting

def transProxyDelChanByReqId (reqId : BitVec 32) : Managing PUnit := do
  let s ← get
  let items := s.channels.all (waitsFor reqId)
  each (fun item => emit (.removed item.1 .connectFailed)) items
  modify fun s => (s.delChans (waitsFor reqId)).post
    (items.map fun item => .openFail item.1 item.2)

variable (reqId connId : BitVec 32)

def ProxyChannel.connect (chan : ProxyChannel) : ProxyChannel :=
  if chan.waitsFor reqId then { chan with status := .handshakeing, connId := connId } else chan

/-- One reference is taken for each channel. -/
def ProxyManager.connectAll : ProxyManager :=
  let items := s.channels.all (waitsFor reqId)
  { s with
    channels := s.channels.map (connect reqId connId)
    connections := items.foldl (fun connections _ => transAddConnRefByConnId connId connections)
      s.connections
    loop := s.loop ++ items.map fun item => .handshake item.2.channelId }

def transProxyChanProcessByReqId : Managing PUnit := modify fun s => s.connectAll reqId connId

/-- The handshake has not been answered yet. -/
def ProxyChannelStatus.opening : ProxyChannelStatus → Bool
  | .handshakeing | .pyhConnecting => true
  | _ => false

def transProxyDelByConnId (connId : BitVec 32) : Managing PUnit := do
  let s ← get
  each (fun item => do
      if item.2.status.opening then onProxyChannelOpenFailed item.1 item.2
      else onProxyChannelClosed item.1 item.2
      emit (.removed item.1 .connectionLost))
    (s.channels.all fun item => item.connId = connId)
  modify fun s => s.delChans fun item => item.connId = connId

/-- The connection is given up when no reference is left. -/
def transProxyCloseConnChannel (connectionId : BitVec 32) : Managing PUnit := do
  emit (.closeConnChannel connectionId)
  let s ← get
  let dec := transDecConnRefByConnId connectionId s.connections
  modify fun s => { s with connections := dec.1 }
  when dec.2 (emit (.disconnectDevice connectionId))

end

section
variable (env : Env) (msg : ProxyMessage)

def identityLen : Nat := 32
def deviceIdSizeMax : Nat := 65
def pkgNameSizeMax : Nat := 65
def sessionNameSizeMax : Nat := 256
def base64Key : Nat := 45
def sessionKeyLength : Nat := 32

def emitSent (chan : ProxyChannel) (type : MsgType) : Managing PUnit :=
  when env.sends (emit (.sent chan.connId type chan.myId chan.peerId))

variable (root : JsonObject)

/-- The identity and the data of the peer, whose other fields are cleared. -/
def transProxyUnpackHandshakeAckMsg : Option (Bytes × AppInfoData) := do
  let identity ← getJsonObjectStringItem root "IDENTITY" (identityLen + 1)
  let deviceId ← getJsonObjectStringItem root "DEVICE_ID" deviceIdSizeMax
  let pkgName := (getJsonObjectStringItem root "PKG_NAME" pkgNameSizeMax).getD []
  some (identity, { AppInfoData.zero with deviceId := deviceId, pkgName := pkgName })

def decodeSessionKey : Option Bytes := do
  let sessionKey ← getJsonObjectStringItem root "SESSION_KEY" base64Key
  let key ← env.softBusBase64Decode sessionKey
  if key.length = sessionKeyLength then some key else none

structure HandshakeMsg where
  identity : Bytes
  appInfo : AppInfo
  sessionKey : Bytes

def transProxyUnpackHandshakeMsg : Option HandshakeMsg := do
  let appType ← getJsonObjectNumberItem root "TYPE"
  let identity ← getJsonObjectStringItem root "IDENTITY" (identityLen + 1)
  let deviceId ← getJsonObjectStringItem root "DEVICE_ID" deviceIdSizeMax
  let srcBusName ← getJsonObjectStringItem root "SRC_BUS_NAME" sessionNameSizeMax
  let dstBusName ← getJsonObjectStringItem root "DST_BUS_NAME" sessionNameSizeMax
  let peerData := { AppInfoData.zero with deviceId := deviceId, sessionName := srcBusName }
  let myData := { AppInfoData.zero with sessionName := dstBusName }
  match AppType.ofCode appType with
  | .normal => do
      let uid ← getJsonObjectNumberItem root "UID"
      let pid ← getJsonObjectNumberItem root "PID"
      let pkgName ← getJsonObjectStringItem root "PKG_NAME" pkgNameSizeMax
      let sessionKey ← decodeSessionKey env root
      some ⟨identity,
        ⟨.normal, myData, { peerData with uid := uid, pid := pid, pkgName := pkgName }⟩, sessionKey⟩
  | .auth => do
      let pkgName ← getJsonObjectStringItem root "PKG_NAME" pkgNameSizeMax
      some ⟨identity, ⟨.auth, myData, { peerData with pkgName := pkgName }⟩,
        List.replicate sessionKeyLength 0⟩
  | other => do
      let sessionKey ← decodeSessionKey env root
      some ⟨identity, ⟨other, myData, peerData⟩, sessionKey⟩

def transProxyUnpackIdentity : Option Bytes :=
  getJsonObjectStringItem root "IDENTITY" (identityLen + 1)

/-- An ack names a channel by its number and identity, in whatever state it is. -/
def ProxyManager.chanForAck (s : ProxyManager) (myId : BitVec 16) (identity : Bytes) :
    Option (Nat × ProxyChannel) :=
  s.channels.first? fun item => item.myId = myId && item.identity = identity

def ProxyChannel.acked (peerId : BitVec 16) (peerData : AppInfoData) (item : ProxyChannel) :
    ProxyChannel :=
  { item with
    peerId := peerId
    status := .completed
    timeout := 0
    appInfo := { item.appInfo with peerData := peerData } }

def transProxyProcessHandshakeAckMsg : Managing PUnit := do
  match (env.cJSONParse msg.data).bind transProxyUnpackHandshakeAckMsg with
  | none => pure ⟨⟩
  | some (identity, peerData) =>
    let s ← get
    match s.chanForAck msg.myId identity with
    | none => pure ⟨⟩
    | some (h, item) =>
      let info := item.acked msg.peerId peerData
      modify fun s => s.putChan h info
      let _ ← onProxyChannelOpened env h info.channelId info.appInfo
      pure ⟨⟩

def transProxyGetLocalInfo (appInfo : AppInfo) : Option AppInfo := do
  let pkgName ← if appInfo.appType = .inner then some appInfo.myData.pkgName
    else env.getPkgNameBySessionName appInfo.myData.sessionName
  let deviceId ← env.localUdid
  some { appInfo with myData := { appInfo.myData with pkgName := pkgName, deviceId := deviceId } }

def serverChan (newId : BitVec 16) (info : HandshakeMsg) (appInfo : AppInfo) : ProxyChannel where
  channelId := newId.signExtend 32
  status := .completed
  timeout := 0
  myId := newId
  peerId := msg.peerId
  connId := msg.connId
  seq := 0
  sessionKey := info.sessionKey
  reqId := 0
  identity := info.identity
  appInfo := appInfo
  requested := none

/-- The application is told before the channel exists. -/
def transProxyProcessHandshakeMsg : Managing PUnit := do
  match (env.cJSONParse msg.data).bind (transProxyUnpackHandshakeMsg env) with
  | none => pure ⟨⟩
  | some info =>
    match transProxyGetLocalInfo env info.appInfo with
    | none => pure ⟨⟩
    | some appInfo =>
      let newId ← transProxyGetNewMyId
      let s ← get
      let h := s.channels.next
      let chan := serverChan msg (chanNewId newId) info appInfo
      let ret ← onProxyChannelOpened env h chan.channelId appInfo
      if ret then
        transProxyAddChanItem newId chan
        if env.sends then
          emit (.sent msg.connId .handshakeAck chan.myId chan.peerId)
          modifyConnections fun items =>
            transCreateConnByConnId msg.connId items (env.connGetConnectionInfo msg.connId)
        else
          onProxyChannelClosed h chan
          transProxyDelChanByChanId chan.channelId .handshakeFailed
      else modify fun s => { s with channels := s.channels.reserve }

/-- The comparison of ResetChanIsEqual: a peer whose handshake was not answered does not know
the other number. -/
def ProxyChannel.isReset (myId peerId : BitVec 16) (identity : Bytes) (item : ProxyChannel) :
    Bool :=
  item.myId = myId && item.identity = identity &&
    (item.status = .handshakeing || item.peerId = peerId)

/-- The reference is dropped on the connection the message came on. -/
def transProxyProcessResetMsg : Managing PUnit := do
  match (env.cJSONParse msg.data).bind transProxyUnpackIdentity with
  | none => pure ⟨⟩
  | some identity =>
    let s ← get
    match s.channels.first? (isReset msg.myId msg.peerId identity) with
    | none => pure ⟨⟩
    | some (h, info) =>
      removeChan h .reset
      if info.status = .handshakeing then onProxyChannelOpenFailed h info
      else onProxyChannelClosed h info
      transProxyCloseConnChannel msg.connId

def ProxyChannel.keepAlive (item : ProxyChannel) : ProxyChannel :=
  if item.status = .keepliveing ∨ item.status = .completed then
    { item with timeout := 0, status := .completed }
  else item

def transProxyKeepAlvieChan (identity : Bytes) : Managing (Option ProxyChannel) := do
  let s ← get
  match s.channels.first? (fun item =>
      item.myId = msg.myId && item.peerId = msg.peerId && item.identity = identity) with
  | none => pure none
  | some (h, item) =>
    modify fun s => s.putChan h item.keepAlive
    pure (some item.keepAlive)

def transProxyProcessKeepAlive : Managing PUnit := do
  match (env.cJSONParse msg.data).bind transProxyUnpackIdentity with
  | none => pure ⟨⟩
  | some identity =>
    match ← transProxyKeepAlvieChan msg identity with
    | none => pure ⟨⟩
    | some info => emitSent env info .keepaliveAck

def transProxyProcessKeepAliveAck : Managing PUnit := do
  match (env.cJSONParse msg.data).bind transProxyUnpackIdentity with
  | none => pure ⟨⟩
  | some identity =>
    let _ ← transProxyKeepAlvieChan msg identity
    pure ⟨⟩

def ProxyChannel.touch (item : ProxyChannel) : ProxyChannel :=
  if item.status = .completed then { item with timeout := 0 } else item

/-- The receiver of data: one of the two numbers is enough, in whatever state it is. -/
def ProxyManager.recvMsgChan (s : ProxyManager) (myId peerId : BitVec 16) :
    Option (Nat × ProxyChannel) :=
  s.channels.first? fun item => item.myId = myId || item.peerId = peerId

def transProxyProcessDataRecv : Managing PUnit := do
  let s ← get
  match s.recvMsgChan msg.myId msg.peerId with
  | none => pure ⟨⟩
  | some (h, item) =>
    modify fun s => s.putChan h item.touch
    onProxyChannelMsgReceived item.touch msg.data

def transProxyonMessageReceived : Managing PUnit :=
  match msg.type with
  | .handshake => transProxyProcessHandshakeMsg env msg
  | .handshakeAck => transProxyProcessHandshakeAckMsg env msg
  | .reset => transProxyProcessResetMsg env msg
  | .keepalive => transProxyProcessKeepAlive env msg
  | .keepaliveAck => transProxyProcessKeepAliveAck env msg
  | .normal => transProxyProcessDataRecv msg

end

section
variable (env : Env) (appInfo : AppInfo) (connInfo : ConnectOption)

/-- The record of a channel that is opened here, with a new identity and session key. -/
def clientChan (newId : BitVec 16) (identity sessionKey : Bytes) (status : ProxyChannelStatus)
    (reqId connId : BitVec 32) : ProxyChannel where
  channelId := newId.signExtend 32
  status := status
  timeout := 0
  myId := newId
  peerId := 0
  connId := connId
  seq := 0
  sessionKey := sessionKey
  reqId := reqId
  identity := identity
  appInfo := appInfo
  requested := some connInfo

/-- Fails when there are no random numbers. -/
def transProxyCreateChanInfo (newId : Option (BitVec 16)) (status : ProxyChannelStatus)
    (reqId connId : BitVec 32) : Managing Bool :=
  match env.generateRandomStr, env.generateRandomKey with
  | some identity, some sessionKey => do
      transProxyAddChanItem newId
        (clientChan appInfo connInfo (chanNewId newId) identity sessionKey status reqId connId)
      pure true
  | _, _ => pure false

/-- A channel on a connection that exists, or is being made, for the same address. -/
def transProxyConnExistProc (conn : ProxyConnInfo) (newId : Option (BitVec 16)) : Managing Bool :=
  if conn.state = .pyhConnecting then
    transProxyCreateChanInfo env appInfo connInfo newId .pyhConnecting conn.requestId 0
  else do
    let ret ← transProxyCreateChanInfo env appInfo connInfo newId .handshakeing 0 conn.connId
    when ret do
      modifyConnections (transAddConnRefByConnId conn.connId)
      postToLoop (.handshake ((chanNewId newId).signExtend 32))
    pure ret

/-- An item whose address reads the same stops a new one, of whatever type it is. Channels that
wait for the request are connected if that item is. -/
def transAddConnItem (reqId : BitVec 32) : Managing Bool := do
  let s ← get
  match s.connections.find? (ProxyConnInfo.repeats connInfo) with
  | some item =>
    when (item.state = .pyhConnected) (transProxyChanProcessByReqId reqId item.connId)
    pure false
  | none =>
    modifyConnections fun items => ⟨reqId, connInfo, 0, 0, .pyhConnecting⟩ :: items
    pure true

/-- Returns the channel number if the channel is open or waits. -/
def transProxyOpenConnChannel : Managing (Option (BitVec 32)) := do
  let reqId ← connGetNewRequestId
  let newId ← transProxyGetNewMyId
  let channelId := (chanNewId newId).signExtend 32
  let s ← get
  match s.connections.find? (ProxyConnInfo.isFor connInfo) with
  | some conn =>
    let ret ← transProxyConnExistProc env appInfo connInfo conn newId
    pure (if ret then some channelId else none)
  | none =>
    let created ← transProxyCreateChanInfo env appInfo connInfo newId .pyhConnecting reqId 0
    if created then
      let added ← transAddConnItem connInfo reqId
      if added then
        emit (.connectDevice reqId connInfo)
        if env.connConnectDevice then pure (some channelId)
        else
          modifyConnections (transDelConnByReqId reqId)
          transProxyDelChanByChanId channelId .connectRefused
          pure none
      else pure (some channelId)
    else pure none

end

section
variable (env : Env)

/-- The peer and the connection are told later. -/
def transProxyCloseProxyChannel (channelId : BitVec 32) : Managing PUnit := do
  let s ← get
  match s.chanByChanId channelId with
  | none => pure ⟨⟩
  | some (h, info) =>
    removeChan h .closedLocally
    postToLoop (.resetPeer info)
    postToLoop (.disconnect info.connId)

def transProxyDeathCallback (pkgName : Bytes) : Managing PUnit := do
  let s ← get
  each (fun item => do
      emitSent env item.2 .reset
      transProxyCloseConnChannel item.2.connId
      removeChan item.1 .applicationDied)
    (s.channels.all fun item => item.appInfo.myData.pkgName = pkgName)

def ProxyChannel.timesOut (item : ProxyChannel) : Bool :=
  match item.status with
  | .handshakeing | .pyhConnecting | .keepliveing => proxyChannelControlTimeout ≤ item.timeout + 1
  | .completed => proxyChannelBtIdleTimeout ≤ item.timeout + 1
  | .pyhConnected | .timeout | .handshakeTimeout => false

def ProxyChannel.tick (item : ProxyChannel) : ProxyChannel :=
  { item with
    timeout := item.timeout + 1
    status :=
      if item.timesOut then
        if item.status.opening then .handshakeTimeout else .timeout
      else item.status }

def transProxyTimerItemProc (h : Nat) (item : ProxyChannel) : Managing PUnit :=
  match item.status with
  | .timeout => do
      postToLoop (.resetPeer item)
      postToLoop (.openClose h item)
      postToLoop (.disconnect item.connId)
  | .handshakeTimeout => do
      postToLoop (.openFail h item)
      postToLoop (.disconnect item.connId)
  | .keepliveing => postToLoop (.keepAlive item)
  | .pyhConnected | .pyhConnecting | .handshakeing | .completed => pure ⟨⟩

/-- The items that time out are collected, the last one in front; the others stay. -/
def transProxyTimerProc : Managing PUnit := do
  let s ← get
  when (s.cnt ≠ 0) do
    each (fun item => do
        removeChan item.1 .timeout
        transProxyTimerItemProc item.1 item.2.tick)
      (s.channels.all timesOut).reverse
    modify fun s => { s with channels := s.channels.map tick }

/-- A channel that is gone is taken for one on connection 0, which is what the cleared record
says. -/
def transProxyOpenProxyChannelSuccess (chanId : BitVec 32) : Managing PUnit := do
  let s ← get
  match s.chanByChanId chanId with
  | none => transProxyCloseConnChannel 0
  | some (h, chan) =>
    if env.sends then emit (.sent chan.connId .handshake chan.myId invalidChannelId)
    else
      transProxyCloseConnChannel chan.connId
      onProxyChannelOpenFailed h chan
      transProxyDelChanByChanId chanId .handshakeFailed

def transProxyLoopMsgHandler : LoopMsg → Managing PUnit
  | .handshake chanId => transProxyOpenProxyChannelSuccess env chanId
  | .disconnect connId => transProxyCloseConnChannel connId
  | .openFail h chan => onProxyChannelOpenFailed h chan
  | .openClose h chan => onProxyChannelClosed h chan
  | .keepAlive chan => emitSent env chan .keepalive
  | .resetPeer chan => emitSent env chan .reset

end

inductive ManagerInput where
  | openChannel (appInfo : AppInfo) (connInfo : ConnectOption)
  | closeChannel (channelId : BitVec 32)
  | message (msg : ProxyMessage)
  | connectSuccessed (requestId connectionId : BitVec 32)
  | connectFailed (requestId : BitVec 32)
  | disconnected (connId : BitVec 32)
  | timer
  | loop
  | applicationDied (pkgName : Bytes)
  | otherRequest

/-- `otherRequest` is another module that takes a request number. -/
def handleInput (env : Env) : ManagerInput → Managing PUnit
  | .openChannel appInfo connInfo => do
      let _ ← transProxyOpenConnChannel env appInfo connInfo
      pure ⟨⟩
  | .closeChannel channelId => transProxyCloseProxyChannel channelId
  | .message msg => transProxyonMessageReceived env msg
  | .connectSuccessed requestId connectionId => do
      modifyConnections (transSetConnStateByReqId connectionId requestId)
      transProxyChanProcessByReqId requestId connectionId
  | .connectFailed requestId => do
      modifyConnections (transDelConnByReqId requestId)
      transProxyDelChanByReqId requestId
  | .disconnected connId => do
      transProxyDelByConnId connId
      modifyConnections (transDelConnByConnId connId)
  | .timer => transProxyTimerProc
  | .loop => do
      let s ← get
      match s.loop with
      | [] => pure ⟨⟩
      | msg :: rest =>
        modify fun s => { s with loop := rest }
        transProxyLoopMsgHandler env msg
  | .applicationDied pkgName => transProxyDeathCallback env pkgName
  | .otherRequest => do
      let _ ← connGetNewRequestId
      pure ⟨⟩

def managerStep (s : ProxyManager) (input : Env × ManagerInput) :
    Option (ProxyManager × List ProxyEvent) := (handleInput input.1 input.2).step s

section

def plainMessage (type : MsgType) (myId peerId : BitVec 16) (connId : BitVec 32) : ProxyMessage :=
  ⟨type, 0, myId, peerId, [0], connId, 0⟩

def networking : AppInfo := ⟨.inner, .zero, .zero⟩

/-- A channel is opened for the address B. Its number is 2 with its bytes swapped, and the request
is 3: so the two counters begin. -/
def openedChannel : List (Env × ManagerInput) :=
  [(.good, .openChannel networking (.br [0x42])), (.good, .connectSuccessed 3 7), (.good, .loop),
    (.good, .message (plainMessage .handshakeAck 0x200 0x500 7))]

end

end DSoftBus.Proxy
