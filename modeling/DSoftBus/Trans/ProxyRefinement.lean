import DSoftBus.Trans.ProxyLedger

/-!
The proxy channel manager refines the machine on ledgers: every step that is permitted is a
sequence of moves, and tells the same.
-/
namespace DSoftBus.Proxy
open List hiding all_map map_map modify_id
open Effect Execution RecordHeap ProxyChannel ProxyConnInfo

def LoopMsg.note? : LoopMsg → Option (Nat × Notice)
  | .openFail h _ => some (h, .openFailed)
  | .openClose h _ => some (h, .closed)
  | .handshake _ | .disconnect _ | .keepAlive _ | .resetPeer _ => none

def LoopMsg.release? : LoopMsg → Option (BitVec 32)
  | .disconnect connId => some connId
  | .handshake _ | .openFail _ _ | .openClose _ _ | .keepAlive _ | .resetPeer _ => none

def ProxyManager.ledger (s : ProxyManager) : Ledger where
  channels := s.channels.map role
  cnt := s.cnt
  connections := s.connections
  notes := s.loop.filterMap LoopMsg.note?
  releases := s.loop.filterMap LoopMsg.release?
  counter := s.myId

def ProxyEvent.told : ProxyEvent → Told
  | .notice h kind _ _ => { notes := [(h, kind)] }
  | .msgReceived _ _ | .sent _ _ _ _ => {}
  | .connectDevice reqId connInfo => { requests := [(reqId, connInfo)] }
  | .closeConnChannel connId => { calls := [(connId, false)] }
  | .disconnectDevice connId => { calls := [(connId, true)] }
  | .added h newId => { additions := [(h, newId)] }
  | .removed h cause => { removals := [(h, cause)] }

def toldBy : List ProxyEvent → Told
  | [] => {}
  | event :: rest => event.told ++ toldBy rest

lemma toldBy_append (front back) : toldBy (front ++ back) = toldBy front ++ toldBy back := by
  induction front with
  | nil => rw [nil_append, toldBy, Told.nil_append]
  | cons event rest ih => rw [cons_append, toldBy, toldBy, ih, Told.append_assoc]

def guarded (permits : Permits) (s : ProxyManager) (input : Env × ManagerInput) : Bool :=
  match input.2 with
  | .openChannel _ connInfo => permits.adds s.ledger && permits.requests s.connections connInfo
  | .closeChannel channelId =>
    (s.chanByChanId channelId).all fun item => permits.givesUp item.2.role
  | .message msg =>
    match msg.type with
    | .handshake => permits.adds s.ledger
    | .handshakeAck =>
      ((input.1.cJSONParse msg.data).bind transProxyUnpackHandshakeAckMsg).all fun info =>
        (s.chanForAck msg.myId info.1).all fun item =>
          permits.acks item.2.role (input.1.tells (item.2.acked msg.peerId info.2).appInfo)
    | .reset =>
      ((input.1.cJSONParse msg.data).bind transProxyUnpackIdentity).all fun identity =>
        (s.channels.first? (isReset msg.myId msg.peerId identity)).all
          fun item => permits.resets item.2.role msg.connId
    | .keepalive | .keepaliveAck | .normal => true
  | .timer => (s.channels.all timesOut).all fun item => permits.givesUp item.2.role
  | .loop =>
    match s.loop with
    | .handshake chanId :: _ => permits.shakes ((s.chanByChanId chanId).map (·.2.role))
    | _ => true
  | .applicationDied pkgName =>
    (s.channels.all fun item => item.appInfo.myData.pkgName = pkgName).all
      fun item => permits.givesUp item.2.role
  | .connectSuccessed _ _ | .connectFailed _ | .disconnected _ | .otherRequest => true

section
variable {s : ProxyManager} {h : Nat} {chan : ProxyChannel}

lemma ids_ledger : s.ledger.ids = s.ids := by
  change (s.channels.cells.map (onRecord role)).map (·.2.myId) = _
  rw [List.map_map]
  rfl

lemma get?_ledger (here : s.channels.get? h = some chan) :
    s.ledger.channels.get? h = some chan.role := by
  change (s.channels.map role).get? h = _
  rw [get?_map, here]
  rfl

lemma ledger_putChan {chan' f}
    (here : s.channels.get? h = some chan) (same : chan'.role = f chan.role) :
    (s.putChan h chan').ledger = { s.ledger with channels := s.ledger.channels.modify h f } := by
  have channels : (s.channels.modify h fun _ => chan').map role =
      (s.channels.map role).modify h f := by
    refine map_modify fun other found => ?_
    rw [here] at found
    cases found
    exact same
  rw [ProxyManager.ledger, ProxyManager.putChan]
  simp only [channels]
  rfl

lemma ledger_putChan_same {chan'} (here : s.channels.get? h = some chan)
    (same : chan'.role = chan.role) : (s.putChan h chan').ledger = s.ledger := by
  rw [ledger_putChan (f := id) here same, modify_id]

lemma ledger_delChan : (s.delChan h).ledger = s.ledger.drop h := by
  rw [ProxyManager.ledger, ProxyManager.delChan]
  simp only [map_free]
  rfl

lemma length_all_ledger {q} :
    (s.ledger.channels.all q).length = (s.channels.all fun chan => q chan.role).length := by
  change ((s.channels.map role).all q).length = _
  rw [all_map, length_map]

lemma ledger_delChans (q : Role → Bool) :
    (s.delChans fun chan => q chan.role).ledger = s.ledger.dropAll q := by
  rw [ProxyManager.ledger, ProxyManager.delChans]
  simp only [map_freeAll, ← length_all_ledger]
  rfl

lemma waitsFor_role (reqId : BitVec 32) (chan : ProxyChannel) :
    chan.role.waitsFor reqId = chan.waitsFor reqId := by
  have stage : (chan.status.stage = .connecting) = (chan.status = .pyhConnecting) := by
    cases chan.status <;> simp [ProxyChannelStatus.stage]
  rw [Role.waitsFor, waitsFor, role]
  simp only [stage]

lemma role_connect (reqId connId : BitVec 32) (chan : ProxyChannel) :
    (chan.connect reqId connId).role = chan.role.connect reqId connId := by
  rw [connect, Role.connect, waitsFor_role]
  split <;> rfl

lemma waitsFor_ledger (reqId : BitVec 32) : (s.channels.all (waitsFor reqId)).map (onRecord role) =
      s.ledger.channels.all (Role.waitsFor reqId) := by
  change _ = (s.channels.map role).all _
  rw [all_map]
  simp only [waitsFor_role]

lemma filterMap_eq_nil {α β γ : Type} {f : β → Option γ} {g : α → β} (none : ∀ a, f (g a) = none)
    (items : List α) : (items.map g).filterMap f = [] := by
  rw [filterMap_map, filterMap_eq_nil_iff]
  exact fun a _ => none a

lemma ledger_connectAll (reqId connId : BitVec 32) :
    (s.connectAll reqId connId).ledger = s.ledger.connectAll reqId connId := by
  have channels : (s.channels.map (connect reqId connId)).map role =
      (s.channels.map role).map (Role.connect reqId connId) := by
    rw [map_map, map_map]
    exact congrArg s.channels.map (funext fun chan => role_connect reqId connId chan)
  rw [ProxyManager.ledger, ProxyManager.connectAll, Ledger.connectAll]
  simp only [channels, filterMap_append, ← waitsFor_ledger, foldl_map]
  rw [filterMap_eq_nil (fun _ => rfl), filterMap_eq_nil (fun _ => rfl), append_nil, append_nil]
  rfl

end

/-- The ledger has moved from `l`, as the outputs tell. -/
def Makes (permits : Permits) (l : Ledger) {α : Type} (_ : α) (t : ProxyManager)
    (out : List ProxyEvent) : Prop := Moves permits l (toldBy out) t.ledger

section
variable {may : Permits} {s : ProxyManager}

variable {out past : List ProxyEvent} {Q : PUnit → ProxyManager → List ProxyEvent → Prop}
  {connId : BitVec 32} {env : Env} {appInfo : AppInfo} {msg : ProxyMessage}
  {newId : Option (BitVec 16)} {addr : ConnectOption}

variable {l : Ledger} {t : ProxyManager} {channelId reqId requestId : BitVec 32}

lemma Makes.one {α : Type} {a : α} {told l'} (move : Move may l told l')
    (outs : toldBy out = told) (ledger : t.ledger = l') : Makes may l a t out := by
  rw [Makes, outs, ledger]
  exact move.moves

lemma Makes.none {α : Type} {a : α} (outs : toldBy out = {}) (ledger : t.ledger = l) :
    Makes may l a t out := by
  rw [Makes, outs, ledger]
  exact Moves.refl

def closeEvents (connId : BitVec 32) (connections : List ProxyConnInfo) : List ProxyEvent :=
  .closeConnChannel connId ::
    if (transDecConnRefByConnId connId connections).2 then [.disconnectDevice connId] else []

lemma toldBy_closeEvents (connId connections) :
    toldBy (closeEvents connId connections) = { calls := closeCalls connId connections } := by
  unfold closeEvents closeCalls
  split <;> rfl

lemma closeConnChannel_ends
    (h : Q ⟨⟩ { s with connections := (transDecConnRefByConnId connId s.connections).1 }
      (past ++ closeEvents connId s.connections)) :
    Ends Q (transProxyCloseConnChannel connId) s past := by
  unfold closeEvents at h
  refine .bind (.emit (.get (.bind (.modify (.when (fun last => ?_) fun left => ?_)))))
  · rw [if_pos last] at h
    exact .emit (by rwa [append_assoc])
  · rw [if_neg left] at h
    exact h

lemma emitSent_ends {chan type} (h : ∀ out, toldBy out = {} → Q ⟨⟩ s (past ++ out)) :
    Ends Q (emitSent env chan type) s past := by
  refine .when (fun _ => .emit (h _ rfl)) fun _ => ?_
  have same := h [] rfl
  rwa [append_nil] at same

lemma onProxyChannelOpened_ends {Q} {h : Nat}
    (told : env.tells appInfo → ∀ ret, Q ret s (past ++ [.notice h .opened channelId appInfo]))
    (silent : env.tells appInfo = false → Q false s past) :
    Ends Q (onProxyChannelOpened env h channelId appInfo) s past := by
  unfold onProxyChannelOpened
  split
  next tells =>
    refine .bind (.emit ?_)
    split <;> exact .pure (told tells _)
  next quiet => exact .pure (silent (Bool.eq_false_of_not_eq_true quiet))

lemma processHandshakeAckMsg_makes (type : msg.type = .handshakeAck)
    (ok : guarded may s (env, .message msg)) :
    Ends (Makes may s.ledger) (transProxyProcessHandshakeAckMsg env msg) s [] := by
  simp only [guarded, type] at ok
  unfold transProxyProcessHandshakeAckMsg
  split
  · exact .pure (.none rfl rfl)
  rename_i identity peerData unpacked
  rw [unpacked] at ok
  refine .get ?_
  split
  · exact .pure (.none rfl rfl)
  next h item found =>
    let info := item.acked msg.peerId peerData
    have acks : may.acks item.role (env.tells info.appInfo) := by simpa [found] using ok
    have here := (get?_of_first? found).1
    have moved (told) (is : env.tells info.appInfo = told) {out}
        (same : toldBy out = { notes := if told then [(h, .opened)] else [] }) :
        Makes may s.ledger PUnit.unit (s.putChan h info) out :=
      .one (.acked (get?_ledger here) (is ▸ acks)) same (ledger_putChan here rfl)
    exact .bind (.modify (.bind (onProxyChannelOpened_ends
      (fun told _ => .pure (moved true told rfl)) fun quiet => .pure (moved false quiet rfl))))

lemma getNewMyId_ends {Q} (h : ∀ newId myId, newId = (findNewMyId s.ids myIdMaxNum s.myId).2 →
      Q newId { s with myId := myId } past) : Ends Q transProxyGetNewMyId s past :=
  .get (.bind (.modify (.pure (h _ _ rfl))))

lemma addChanItem_ends {chan} (h : Q ⟨⟩ (s.addChan chan) (past ++ [.added s.channels.next newId])) :
    Ends Q (transProxyAddChanItem newId chan) s past := .get (.bind (.emit (.modify h)))

variable (chan : ProxyChannel)

lemma chanByChanId_addChan :
    (s.addChan chan).chanByChanId chan.channelId = some (s.channels.next, chan) := by
  simp [ProxyManager.chanByChanId, first?, ProxyManager.addChan, alloc]

lemma delChan_addChan :
    (s.addChan chan).delChan s.channels.next = { s with channels := s.channels.reserve } := by
  rw [ProxyManager.delChan, ProxyManager.addChan]
  simp only [free_alloc, BitVec.add_sub_cancel]

lemma delChanByChanId_ends {chanId cause} {h : Nat}
    {chan} (found : s.chanByChanId chanId = some (h, chan))
    (next : Q ⟨⟩ (s.delChan h) (past ++ [.removed h cause])) :
    Ends Q (transProxyDelChanByChanId chanId cause) s past := by
  refine .get ?_
  rw [found]
  exact .bind (.emit (.modify next))

lemma processHandshakeMsg_makes (type : msg.type = .handshake)
    (ok : guarded may s (env, .message msg)) :
    Ends (Makes may s.ledger) (transProxyProcessHandshakeMsg env msg) s [] := by
  simp only [guarded, type] at ok
  unfold transProxyProcessHandshakeMsg
  split
  · exact .pure (.none rfl rfl)
  rename_i info unpacked
  split
  · exact .pure (.none rfl rfl)
  rename_i appInfo hasInfo
  refine .bind (getNewMyId_ends fun newId myId found => .get (.bind ?_))
  have new : NewRole may s.ledger newId (serverChan msg (chanNewId newId) info appInfo).role :=
    ⟨ok, by rw [ids_ledger]; exact found, rfl⟩
  refine onProxyChannelOpened_ends (fun _ ret => ?_) fun _ =>
    .modify (.one (.refused myId false) rfl rfl)
  split
  · refine .bind (addChanItem_ends ?_)
    split
    · exact .bind (.emit (.modify (.one (.admitted myId new rfl) rfl rfl)))
    · refine .bind (.emit (delChanByChanId_ends (chanByChanId_addChan _) ?_))
      exact .one (.turnedAway myId new) rfl (congrArg ProxyManager.ledger (delChan_addChan _))
  · exact .modify (.one (.refused myId true) rfl rfl)

lemma shaking_iff : chan.role.stage = .shaking ↔ chan.status = .handshakeing := by
  rw [role]
  cases chan.status <;> simp [ProxyChannelStatus.stage]

lemma processResetMsg_makes (type : msg.type = .reset) (ok : guarded may s (env, .message msg)) :
    Ends (Makes may s.ledger) (transProxyProcessResetMsg env msg) s [] := by
  simp only [guarded, type] at ok
  unfold transProxyProcessResetMsg
  split
  · exact .pure (.none rfl rfl)
  rename_i identity unpacked
  rw [unpacked] at ok
  refine .get ?_
  split
  · exact .pure (.none rfl rfl)
  rename_i h info found
  have resets : may.resets info.role msg.connId := by simpa [found] using ok
  have here := get?_ledger (get?_of_first? found).1
  have moved (notice) (same : info.role.resetNotice = notice) : Makes may s.ledger PUnit.unit
        { s.delChan h with
          connections := (transDecConnRefByConnId msg.connId s.connections).1 }
        ([] ++ [.removed h .reset] ++ [.notice h notice info.channelId info.appInfo] ++
          closeEvents msg.connId s.connections) := by
    refine .one (.released here (.reset resets)) ?_ ?_
    · rw [toldBy_append, toldBy_closeEvents, same]
      rfl
    · rw [← ledger_delChan]
      rfl
  refine .bind (.bind (.emit (.modify ?_)))
  split
  next shaking =>
    refine .bind (.emit (closeConnChannel_ends (moved .openFailed ?_)))
    exact if_pos ((shaking_iff info).mpr shaking)
  next other =>
    refine .bind (.emit (closeConnChannel_ends (moved .closed ?_)))
    exact if_neg fun shaking => other ((shaking_iff info).mp shaking)

lemma role_keepAlive : chan.keepAlive.role = chan.role := by
  unfold keepAlive
  split
  next alive =>
    rcases alive with alive | alive <;> rw [role, role, alive]
    rfl
  · rfl

lemma role_touch : chan.touch.role = chan.role := by
  unfold touch
  split <;> rfl

lemma keepAlvieChan_ends {Q} {identity} (h : ∀ info t, t.ledger = s.ledger → Q info t past) :
    Ends Q (transProxyKeepAlvieChan msg identity) s past := by
  refine .get ?_
  split
  · exact .pure (h _ s rfl)
  next found =>
    refine .bind (.modify (.pure (h _ _ ?_)))
    exact ledger_putChan_same (get?_of_first? found).1 (role_keepAlive _)

lemma processKeepAlive_makes :
    Ends (Makes may s.ledger) (transProxyProcessKeepAlive env msg) s [] := by
  unfold transProxyProcessKeepAlive
  split
  · exact .pure (.none rfl rfl)
  · refine .bind (keepAlvieChan_ends fun info t same => ?_)
    split
    · exact .pure (.none rfl same)
    · exact emitSent_ends fun out silent => .none silent same

lemma processKeepAliveAck_makes :
    Ends (Makes may s.ledger) (transProxyProcessKeepAliveAck env msg) s [] := by
  unfold transProxyProcessKeepAliveAck
  split
  · exact .pure (.none rfl rfl)
  · exact .bind (keepAlvieChan_ends fun info t same => .pure (.none rfl same))

lemma processDataRecv_makes : Ends (Makes may s.ledger) (transProxyProcessDataRecv msg) s [] := by
  refine .get ?_
  split
  · exact .pure (.none rfl rfl)
  rename_i h item found
  have same := ledger_putChan_same (get?_of_first? found).1 (role_touch item)
  refine .bind (.modify (.when (fun _ => ?_) fun _ => .none rfl same))
  split
  · exact .emit (.none rfl same)
  · exact .emit (.none rfl same)
  · exact .pure (.none rfl same)
  · exact .pure (.none rfl same)
  · exact .pure (.none rfl same)

lemma onMessageReceived_makes (ok : guarded may s (env, .message msg)) :
    Ends (Makes may s.ledger) (transProxyonMessageReceived env msg) s [] := by
  unfold transProxyonMessageReceived
  split
  next type => exact processHandshakeMsg_makes type ok
  next type => exact processHandshakeAckMsg_makes type ok
  next type => exact processResetMsg_makes type ok
  · exact processKeepAlive_makes
  · exact processKeepAliveAck_makes
  · exact processDataRecv_makes

lemma createChanInfo_ends {Q} {status} (created : ∀ identity sessionKey,
      Q true (s.addChan (clientChan appInfo addr (chanNewId newId) identity sessionKey status
        reqId connId)) (past ++ [.added s.channels.next newId])) (failed : Q false s past) :
    Ends Q (transProxyCreateChanInfo env appInfo addr newId status reqId connId) s past := by
  unfold transProxyCreateChanInfo
  split
  · exact .bind (addChanItem_ends (.pure (created _ _)))
  · exact .pure failed

lemma getNewRequestId_ends {Q}
    (h : ∀ reqId, Q reqId { s with reqId := reqId } past) : Ends Q connGetNewRequestId s past :=
  .bind (.modify (.get (.pure (h _))))

lemma ledger_post (msgs) : (s.post msgs).ledger = { s.ledger with
        notes := s.ledger.notes ++ msgs.filterMap LoopMsg.note?
        releases := s.ledger.releases ++ msgs.filterMap LoopMsg.release? } := by
  rw [ProxyManager.ledger, ProxyManager.post, filterMap_append, filterMap_append]
  rfl

lemma post_post (msgs more) : (s.post msgs).post more = s.post (msgs ++ more) := by
  rw [ProxyManager.post, ProxyManager.post, ProxyManager.post, append_assoc]

lemma ledger_post_handshake (chanId) : (s.post [.handshake chanId]).ledger = s.ledger := by
  rw [ledger_post]
  exact congrArg₂ (Ledger.mk _ _ _ · · _) (append_nil _) (append_nil _)

lemma connExistProc_makes {conn myId}
    (new : ∀ role : Role, role.myId = chanNewId newId → NewRole may s.ledger newId role)
    (found : s.connections.find? (isFor addr) = some conn) :
    Ends (Makes may s.ledger) (transProxyConnExistProc env appInfo addr conn newId)
      { s with reqId := reqId, myId := myId } [] := by
  have known : conn ∈ s.ledger.connections := mem_of_find?_eq_some found
  have target := sameTarget_of_isFor (find?_some found)
  have idle : Makes may s.ledger false { s with reqId := reqId, myId := myId } [] :=
    .one (.quiet myId) rfl rfl
  unfold transProxyConnExistProc
  split
  next connecting =>
    refine createChanInfo_ends (fun identity sessionKey => ?_) idle
    exact .one (.waits myId (new _ rfl) rfl rfl known connecting rfl rfl target) rfl rfl
  next connected =>
    refine .bind (createChanInfo_ends (fun identity sessionKey => ?_) ?_)
    · refine .bind (.when (fun _ => .bind (.modify (.modify (.pure ?_)))) fun no => absurd rfl no)
      let role := (clientChan appInfo addr (chanNewId newId) identity sessionKey .handshakeing 0
        conn.connId).role
      have move : Move may s.ledger _ _ := .attached myId (new role rfl) rfl known connected rfl
      exact .one move rfl (ledger_post_handshake _)
    · refine .bind (.when (fun yes => ?_) fun _ => .pure idle)
      cases yes

lemma addConnItem_ends {Q} (connected : ∀ item, s.connections.find? (repeats addr) = some item →
      item.state = .pyhConnected → Q false (s.connectAll reqId item.connId) past)
    (other : ∀ item, s.connections.find? (repeats addr) = some item → Q false s past)
    (added : Q true
      { s with connections := ⟨reqId, addr, 0, 0, .pyhConnecting⟩ :: s.connections } past) :
    Ends Q (transAddConnItem addr reqId) s past := by
  refine .get ?_
  split
  next item found =>
    refine .bind (.when (fun yes => .modify (.pure ?_)) fun _ => .pure ?_)
    · exact connected item found yes
    · exact other item found
  · exact .bind (.modify (.pure added))

lemma transDelConnByReqId_cons (reqId addr items) :
    transDelConnByReqId reqId (⟨reqId, addr, 0, 0, .pyhConnecting⟩ :: items) = items := by
  simp [transDelConnByReqId, KeyedList.remove, request]

lemma openConnChannel_makes (ok : guarded may s (env, .openChannel appInfo addr)) :
    Ends (Makes may s.ledger) (transProxyOpenConnChannel env appInfo addr) s [] := by
  simp only [guarded, Bool.and_eq_true] at ok
  refine .bind (getNewRequestId_ends fun reqId => .bind (getNewMyId_ends ?_))
  intro newId myId found
  have new (role) (same : role.myId = chanNewId newId) :
      NewRole may s.ledger newId role := ⟨ok.1, by rw [ids_ledger]; exact found, same⟩
  refine .get ?_
  split
  next conn isFor => exact .bind ((connExistProc_makes new isFor).imp fun _ _ _ made => .pure made)
  rename_i unknown
  refine .bind (createChanInfo_ends (fun identity sessionKey => ?_)
    (.pure (.one (.quiet myId) rfl rfl)))
  let chan := clientChan appInfo addr (chanNewId newId) identity sessionKey .pyhConnecting
    reqId 0
  have stranded {item} (repeats : s.connections.find? (repeats addr) = some item) :
      Move may s.ledger { additions := [(s.channels.next, newId)] }
        { s.ledger.add chan.role with counter := myId } :=
    .stranded myId (new _ rfl) rfl rfl ok.2 unknown repeats
  refine .bind (addConnItem_ends (fun item repeats connected => ?_) (fun item repeats => ?_) ?_)
  · have known : item ∈ s.connections := mem_of_find?_eq_some repeats
    refine .pure ?_
    rw [Makes, ledger_connectAll]
    exact (stranded repeats).moves.step (.woken reqId ok.2 known connected)
  · exact .pure (.one (stranded repeats) rfl rfl)
  · refine .bind (.emit ?_)
    split
    · exact .pure (.one (.requested myId (new chan.role rfl) rfl rfl rfl) rfl rfl)
    refine .bind (.modify (.bind (delChanByChanId_ends (chanByChanId_addChan chan) (.pure ?_))))
    let back : ProxyManager := { s with
      reqId := reqId
      myId := myId
      connections := transDelConnByReqId reqId
        (⟨reqId, addr, 0, 0, .pyhConnecting⟩ :: s.connections) }
    have ledger : ((back.addChan chan).delChan s.channels.next).ledger =
        { s.ledger.pass with counter := myId } := by
      refine (congrArg ProxyManager.ledger (delChan_addChan (s := back) chan)).trans ?_
      exact congrArg (fun items => { s.ledger.pass with counter := myId, connections := items })
        (transDelConnByReqId_cons reqId addr s.connections)
    exact .one (.connectRefused myId (new chan.role rfl)) rfl ledger

lemma closeProxyChannel_makes (ok : guarded may s (env, .closeChannel channelId)) :
    Ends (Makes may s.ledger) (transProxyCloseProxyChannel channelId) s [] := by
  simp only [guarded] at ok
  refine .get ?_
  split
  · exact .pure (.none rfl rfl)
  next h info found =>
    have givesUp : may.givesUp info.role := by simpa [found] using ok
    have here := get?_ledger (get?_of_first? found).1
    refine .bind (.bind (.emit (.modify (.bind (.modify (.modify ?_))))))
    refine .one (.closed here givesUp) rfl ?_
    rw [← ledger_delChan, post_post, ledger_post]
    exact congrArg (Ledger.mk _ _ _ · _ _) (append_nil _)

structure Left (permits : Permits) (l : Ledger) (items : List (Nat × ProxyChannel))
    (t : ProxyManager) (out : List ProxyEvent) : Prop where
  moved : Moves permits l (toldBy out) t.ledger
  there : ∀ item ∈ items, t.channels.get? item.1 = some item.2
  distinct : (items.map Prod.fst).Nodup
  givesUp : ∀ item ∈ items, permits.givesUp item.2.role

lemma left_all {p} (givesUp : ∀ item ∈ s.channels.all p, may.givesUp item.2.role) :
    Left may s.ledger (s.channels.all p) s [] :=
  ⟨.refl, fun _ mem => (mem_all.mp mem).1, (filter_sublist.map _).nodup s.channels.distinct,
    givesUp⟩

lemma Left.next {item rest t' outs} (left : Left may l (item :: rest) t out) {told l'}
    (move : Move may t.ledger told l') (tells : toldBy outs = told)
    (ledger : t'.ledger = l') (channels : t'.channels = t.channels.free item.1) :
    Left may l rest t' (out ++ outs) := by
  obtain ⟨notIn, distinct⟩ := nodup_cons.mp left.distinct
  refine ⟨?_, fun other mem => ?_, distinct,
    fun other mem => left.givesUp other (mem_cons_of_mem _ mem)⟩
  · rw [toldBy_append, tells, ledger]
    exact left.moved.step move
  · have ne : other.1 ≠ item.1 := fun same => notIn (same ▸ mem_map_of_mem mem)
    rw [channels, get?_free_of_ne ne]
    exact left.there other (mem_cons_of_mem _ mem)

lemma deathCallback_makes {pkgName} (ok : guarded may s (env, .applicationDied pkgName)) :
    Ends (Makes may s.ledger) (transProxyDeathCallback env pkgName) s [] := by
  simp only [guarded, all_eq_true] at ok
  refine .get ((Ends.each (fun item rest t out left => ?_) (left_all ok)).imp
    fun _ _ _ left => left.moved)
  have here := get?_ledger (left.there item mem_cons_self)
  have move := Move.released here (.died (left.givesUp item mem_cons_self))
  refine .bind (emitSent_ends fun sent silent => .bind (closeConnChannel_ends ?_))
  refine .bind (.emit (.modify ?_))
  rw [append_assoc, append_assoc]
  refine left.next move ?_ ?_ rfl
  · rw [toldBy_append, silent, toldBy_append, toldBy_closeEvents]
    exact Told.ext rfl rfl rfl (append_nil _) rfl
  · rw [← ledger_delChan]
    rfl

lemma openProxyChannelSuccess_makes {chanId}
    (ok : may.shakes ((s.chanByChanId chanId).map (·.2.role))) (same : s.ledger = l) :
    Ends (Makes may l) (transProxyOpenProxyChannelSuccess env chanId) s [] := by
  subst same
  refine .get ?_
  split
  next gone =>
    rw [gone] at ok
    exact closeConnChannel_ends (.one (.orphan ok) (toldBy_closeEvents _ _) rfl)
  next h chan found =>
    rw [found] at ok
    have here := get?_ledger (get?_of_first? found).1
    split
    · exact .emit (.none rfl rfl)
    · refine .bind (closeConnChannel_ends (.bind (.emit (delChanByChanId_ends found ?_))))
      refine .one (.released here (.handshakeFailed ok)) ?_ ?_
      · rw [nil_append, append_assoc, toldBy_append, toldBy_closeEvents]
        exact Told.ext rfl rfl rfl (append_nil _) rfl
      · rw [← ledger_delChan]
        rfl

lemma endNotice_role :
    chan.role.endNotice = if chan.status.opening then .openFailed else .closed := by
  rw [Role.endNotice, role]
  cases chan.status <;> rfl

lemma role_tick {chan : ProxyChannel} (stays : chan.timesOut = false) :
    chan.tick.role = chan.role := by
  rw [role, role, tick, stays]
  rfl

lemma ledger_tick (stay : ∀ h chan, s.channels.get? h = some chan → chan.timesOut = false) :
    { s with channels := s.channels.map tick }.ledger = s.ledger := by
  have channels : (s.channels.map tick).map role = s.channels.map role := by
    refine eq_of_cells ?_ rfl
    change (s.channels.cells.map (onRecord tick)).map _ = s.channels.cells.map _
    rw [List.map_map]
    refine map_congr_left fun cell mem => congrArg (Prod.mk cell.1) (role_tick ?_)
    exact stay cell.1 cell.2 (get?_of_mem mem)
  rw [ProxyManager.ledger, ProxyManager.ledger]
  simp only [channels]

lemma timerItemProc_ends {h : Nat} {item : ProxyChannel} (timesOut : item.timesOut)
    (next : ∀ t, t.channels = s.channels → t.ledger = { s.ledger with
        notes := s.ledger.notes ++ [(h, item.role.endNotice)]
        releases := s.ledger.releases ++ [item.connId] } → Q ⟨⟩ t past) :
    Ends Q (transProxyTimerItemProc h item.tick) s past := by
  rw [endNotice_role] at next
  unfold transProxyTimerItemProc
  rw [tick, timesOut]
  simp only [if_true]
  split at next
  next opening =>
    rw [if_pos opening]
    refine .bind (.modify (.modify (next _ rfl ?_)))
    rw [post_post, ledger_post]
    rfl
  next opened =>
    rw [if_neg opened]
    refine .bind (.modify (.bind (.modify (.modify (next _ rfl ?_)))))
    rw [post_post, post_post, ledger_post]
    rfl

structure Expiring (permits : Permits) (l : Ledger) (items : List (Nat × ProxyChannel))
    (t : ProxyManager) (out : List ProxyEvent) : Prop extends Left permits l items t out where
  timesOut : ∀ item ∈ items, item.2.timesOut
  late : ∀ h chan, t.channels.get? h = some chan → chan.timesOut → (h, chan) ∈ items

lemma expiring_all (givesUp : ∀ item ∈ s.channels.all timesOut, may.givesUp item.2.role) :
    Expiring may s.ledger (s.channels.all timesOut).reverse s [] := by
  have left := left_all givesUp
  refine ⟨⟨left.moved, fun item mem => left.there item (mem_reverse.mp mem), ?_,
    fun item mem => left.givesUp item (mem_reverse.mp mem)⟩,
    fun item mem => (mem_all.mp (mem_reverse.mp mem)).2,
    fun h chan here late => mem_reverse.mpr (mem_all.mpr ⟨here, late⟩)⟩
  rw [map_reverse, nodup_reverse]
  exact left.distinct

lemma timerProc_makes (ok : guarded may s (env, .timer)) :
    Ends (Makes may s.ledger) transProxyTimerProc s [] := by
  simp only [guarded, all_eq_true] at ok
  refine .get (.when (fun _ => .bind ?_) fun _ => .none rfl rfl)
  refine (Ends.each (fun item rest t out left => ?_) (expiring_all ok)).imp
    fun _ t out done => .modify ?_
  · have here := left.there item mem_cons_self
    have move := Move.timedOut (get?_ledger here) (left.givesUp item mem_cons_self)
    have timesOut := left.timesOut item mem_cons_self
    refine .bind (.bind (.emit (.modify
      (timerItemProc_ends timesOut fun t' channels ledger => ?_))))
    refine ⟨left.next move rfl ?_ channels,
      fun other mem => left.timesOut other (mem_cons_of_mem _ mem), fun h chan found late => ?_⟩
    · rw [ledger, ledger_delChan]
      rfl
    · rw [channels] at found
      have mem := left.late h chan (get?_of_free found) late
      refine (mem_cons.mp mem).resolve_left fun same => ?_
      exact ne_of_get?_free found (congrArg Prod.fst same)
  · have stay (h chan) (here : t.channels.get? h = some chan) : chan.timesOut = false := by
      rw [← Bool.not_eq_true]
      intro late
      cases done.late h chan here late
    rw [Makes, ledger_tick stay]
    exact done.moved

lemma toldBy_flatMap {α : Type} {out} (notes : α → List (Nat × Notice))
    (removal : α → Nat × RemovalCause)
    (one : ∀ a, toldBy (out a) = { notes := notes a, removals := [removal a] }) (items : List α) :
    toldBy (items.flatMap out) =
      { notes := items.flatMap notes, removals := items.map removal } := by
  induction items with
  | nil => rfl
  | cons a rest ih =>
    rw [flatMap_cons, toldBy_append, one, ih]
    rfl

lemma ledger_delWaiting (reqId : BitVec 32) :
    (s.delChans (waitsFor reqId)).ledger = s.ledger.dropAll (Role.waitsFor reqId) := by
  have same : waitsFor reqId = fun chan => chan.role.waitsFor reqId :=
    funext fun chan => (waitsFor_role reqId chan).symm
  rw [same, ledger_delChans]

lemma connectFailed_makes :
    Ends (Makes may s.ledger) (handleInput env (.connectFailed requestId)) s [] := by
  refine .bind (.modify (.get (.bind (.each_emit (fun _ => rfl) (.modify ?_)))))
  refine .one (.failed requestId) ?_ ?_
  · rw [List.nil_append, ← waitsFor_ledger, List.map_map,
      toldBy_flatMap (fun _ => []) (fun item => (item.1, .connectFailed)) fun _ => rfl,
      flatMap_eq_nil_iff.mpr fun _ _ => rfl]
    rfl
  · have notes (items : List (Nat × ProxyChannel)) :
        (items.map fun item => LoopMsg.openFail item.1 item.2).filterMap LoopMsg.note? =
          (items.map (onRecord role)).map fun item => (item.1, .openFailed) := by
      rw [List.filterMap_map, List.map_map, ← List.filterMap_eq_map]
      rfl
    rw [ledger_post, ledger_delWaiting, notes, filterMap_eq_nil fun _ => rfl, append_nil,
      waitsFor_ledger]
    rfl

lemma connectSuccessed_makes {connectionId} : Ends (Makes may s.ledger)
      (handleInput env (.connectSuccessed requestId connectionId)) s [] :=
  .bind (.modify (.modify (.one (.connected ..) rfl (ledger_connectAll _ _))))

lemma disconnected_makes :
    Ends (Makes may s.ledger) (handleInput env (.disconnected connId)) s [] := by
  let lost (item : Nat × ProxyChannel) : List ProxyEvent :=
    [.notice item.1 item.2.role.endNotice item.2.channelId item.2.appInfo,
      .removed item.1 .connectionLost]
  have one (item) : Returns (do
      if item.2.status.opening then onProxyChannelOpenFailed item.1 item.2
        else onProxyChannelClosed item.1 item.2
      emit (.removed item.1 .connectionLost)) s ⟨⟩ s (lost item) := by
    simp only [lost, endNotice_role]
    split <;> rfl
  refine .bind (.get (.bind (.each_emit one (.modify (.modify ?_)))))
  have items : s.ledger.channels.all (·.connId = connId) =
      (s.channels.all fun item => item.connId = connId).map (onRecord role) := all_map
  refine .one (.lost connId) ?_ ?_
  · rw [List.nil_append, items, List.map_map, List.map_map,
      toldBy_flatMap (fun item => [(item.1, item.2.role.endNotice)])
        (fun item => (item.1, .connectionLost)) fun _ => rfl, ← map_eq_flatMap]
    rfl
  · rw [← ledger_delChans]
    rfl

lemma loop_makes (ok : guarded may s (env, .loop)) :
    Ends (Makes may s.ledger) (handleInput env .loop) s [] := by
  simp only [guarded] at ok
  refine .get ?_
  split
  · exact .pure (.none rfl rfl)
  rename_i msg rest here
  rw [here] at ok
  have ledger : s.ledger = { s.ledger with
      notes := (msg :: rest).filterMap LoopMsg.note?
      releases := (msg :: rest).filterMap LoopMsg.release? } := by
    rw [← here]
    rfl
  refine .bind (.modify ?_)
  cases msg with
  | handshake chanId => exact openProxyChannelSuccess_makes ok ledger.symm
  | disconnect connId =>
    have first : s.ledger.releases = connId :: rest.filterMap LoopMsg.release? := by
      rw [ledger]
      rfl
    refine closeConnChannel_ends (.one (.releasedLater first) (toldBy_closeEvents _ _) ?_)
    rw [ledger]
    rfl
  | openFail h chan =>
    have first : s.ledger.notes = (h, .openFailed) :: rest.filterMap LoopMsg.note? := by
      rw [ledger]
      rfl
    refine .emit (.one (.noticed first) rfl ?_)
    rw [ledger]
    rfl
  | openClose h chan =>
    have first : s.ledger.notes = (h, .closed) :: rest.filterMap LoopMsg.note? := by
      rw [ledger]
      rfl
    refine .emit (.one (.noticed first) rfl ?_)
    rw [ledger]
    rfl
  | keepAlive chan | resetPeer chan =>
    exact emitSent_ends fun out silent => .none silent ledger.symm

lemma handleInput_makes {input} (ok : guarded may s (env, input)) :
    Ends (Makes may s.ledger) (handleInput env input) s [] := by
  cases input with
  | openChannel appInfo addr =>
    exact .bind ((openConnChannel_makes ok).imp fun _ _ _ made => .pure made)
  | closeChannel channelId => exact closeProxyChannel_makes ok
  | message msg => exact onMessageReceived_makes ok
  | connectSuccessed requestId connectionId => exact connectSuccessed_makes
  | connectFailed requestId => exact connectFailed_makes
  | disconnected connId => exact disconnected_makes
  | timer => exact timerProc_makes ok
  | loop => exact loop_makes ok
  | applicationDied pkgName => exact deathCallback_makes ok
  | otherRequest => exact .bind (getNewRequestId_ends fun _ => .pure (.none rfl rfl))

end

lemma managerStep_moves {may s t input} {out} (ok : guarded may s input)
    (result : managerStep s input = some (t, out)) : Moves may s.ledger (toldBy out) t.ledger :=
  (handleInput_makes ok).step result

/-- In a run whose inputs are all permitted the ledger moves, and tells what the run does. -/
lemma run_moves {may s t inputs} {out}
    (ok : AllSteps managerStep (fun s input => guarded may s input) s inputs)
    (result : run managerStep s inputs = some (t, out)) :
    Moves may s.ledger (toldBy out) t.ledger := by
  have preserve (u past input) (w : ProxyManager) (outs : List ProxyEvent)
      (moved : Moves may s.ledger (toldBy past) u.ledger)
      (permitted : guarded may u input)
      (step : managerStep u input = some (w, outs)) :
      Moves may s.ledger (toldBy (past ++ outs)) w.ledger := by
    rw [toldBy_append]
    exact moved.trans (managerStep_moves permitted step)
  have init : Moves may s.ledger (toldBy []) s.ledger := .refl
  exact run_invariant preserve init ok result

lemma guarded_everything (s : ProxyManager) (input) : guarded .everything s input := by
  obtain ⟨env, input⟩ := input
  cases input with
  | message msg => cases type : msg.type <;> simp [guarded, type, Permits.everything]
  | loop =>
    simp only [guarded, Permits.everything]
    split <;> rfl
  | _ => simp [guarded, Permits.everything]

/-- Whatever peers, applications and timers do, a run of the manager is one of the ledger machine
that tells the same. -/
theorem run_refines_ledger {inputs : List (Env × ManagerInput)} {t : ProxyManager}
    {out : List ProxyEvent} (result : run managerStep .init inputs = some (t, out)) :
    Moves .everything ProxyManager.init.ledger (toldBy out) t.ledger :=
  run_moves (fun _ _ _ _ s _ _ => guarded_everything s _) result

theorem run_refines_ledger_openedChannel : ∃ r ∈ run managerStep .init openedChannel,
    Moves .everything ProxyManager.init.ledger (toldBy r.2) r.1.ledger := by
  have runs : (run managerStep .init openedChannel).isSome := by decide +kernel
  obtain ⟨r, result⟩ := Option.isSome_iff_exists.mp runs
  exact ⟨r, result, run_refines_ledger result⟩

end DSoftBus.Proxy
