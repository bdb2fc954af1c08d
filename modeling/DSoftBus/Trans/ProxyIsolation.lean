import DSoftBus.Trans.ProxyRefinement

/-!
To whom the manager delivers data. TransProxyGetRecvMsgChanInfo takes the first channel that has
one of the two numbers of the message's head, in whatever state it is. Data reaches the right
channel as long as no live channel has just one of the two.
-/
namespace DSoftBus.Proxy
open Effect Execution RecordHeap

/-- The states in which TransProxySendMsg sends. -/
def ProxyChannelStatus.dataCapable : ProxyChannelStatus → Bool
  | .completed | .keepliveing => true
  | _ => false

def ProxyChannel.isMeant (msg : ProxyMessage) (chan : ProxyChannel) : Bool :=
  chan.myId = msg.myId && chan.peerId = msg.peerId && chan.status.dataCapable

/-- Data that a NORMAL message carries only reaches the channel it is meant for. -/
def DeliversRight (s : ProxyManager) (input : Env × ManagerInput) (_ : ProxyManager)
    (out : List ProxyEvent) : Prop :=
  ∀ msg, input.2 = .message msg → msg.type = .normal →
    ∀ channelId data, .msgReceived channelId data ∈ out →
      ∃ h chan, s.channels.get? h = some chan ∧ chan.channelId = channelId ∧ chan.isMeant msg

/-- A channel that has one of the two numbers is the one that is meant. -/
def unmistakable (s : ProxyManager) (input : Env × ManagerInput) : Bool :=
  match input.2 with
  | .message msg =>
    msg.type ≠ .normal || s.channels.cells.all fun cell =>
      (cell.2.myId ≠ msg.myId && cell.2.peerId ≠ msg.peerId) || cell.2.isMeant msg
  | _ => true

lemma delivered {s t msg out channelId data}
    (result : (transProxyProcessDataRecv msg).step s = some (t, out))
    (received : .msgReceived channelId data ∈ out) :
    ∃ h chan, s.recvMsgChan msg.myId msg.peerId = some (h, chan) ∧ chan.channelId = channelId := by
  have ends : Ends (fun _ _ out => .msgReceived channelId data ∈ out →
      ∃ h chan, s.recvMsgChan msg.myId msg.peerId = some (h, chan) ∧ chan.channelId = channelId)
      (transProxyProcessDataRecv msg) s [] := by
    refine .get ?_
    split
    · exact .pure nofun
    rename_i h item found
    have touched : item.touch.channelId = item.channelId := by
      unfold ProxyChannel.touch
      split <;> rfl
    have told : ProxyEvent.msgReceived channelId data ∈
        [] ++ [.msgReceived item.touch.channelId msg.data] →
        ∃ h chan, s.recvMsgChan msg.myId msg.peerId = some (h, chan) ∧
          chan.channelId = channelId := by
      intro mem
      cases List.mem_singleton.mp mem
      exact ⟨h, item, found, touched.symm⟩
    refine .bind (.modify (.when (fun _ => ?_) fun _ => nofun))
    split
    · exact .emit told
    · exact .emit told
    · exact .pure nofun
    · exact .pure nofun
    · exact .pure nofun
  exact ends.step result received

theorem run_deliversRight (inputs : List (Env × ManagerInput))
    (guarded : AllSteps managerStep (fun s input => unmistakable s input) .init inputs) :
    AllResults managerStep DeliversRight .init inputs := by
  refine guarded.results ?_
  rintro s ⟨env, _⟩ t out allowed result msg rfl type channelId data received
  have normal : handleInput env (.message msg) = transProxyProcessDataRecv msg := by
    rw [handleInput, transProxyonMessageReceived, type]
  rw [managerStep, normal] at result
  obtain ⟨h, chan, found, rfl⟩ := delivered result received
  obtain ⟨here, shares⟩ := get?_of_first? found
  refine ⟨h, chan, here, rfl, ?_⟩
  simp only [unmistakable, type, ne_eq, not_true, decide_false, Bool.false_or] at allowed
  have meant := List.all_eq_true.mp allowed (h, chan) (mem_of_get? here)
  simp only [Bool.or_eq_true, decide_eq_true_eq] at shares
  simp only [Bool.or_eq_true, Bool.and_eq_true, decide_eq_true_eq] at meant
  rcases meant with other | meant
  · exact absurd shares (not_or.mpr other)
  · exact meant

def peerSends : Env × ManagerInput := (.good, .message (plainMessage .normal 0x200 0x500 7))

theorem run_deliversRight_openedChannel :
    AllSteps managerStep (fun s input => unmistakable s input) .init
        (openedChannel ++ [peerSends]) ∧
      (∃ r ∈ run managerStep .init (openedChannel ++ [peerSends]), .msgReceived 0x200 [0] ∈ r.2) ∧
      AllResults managerStep DeliversRight .init (openedChannel ++ [peerSends]) := by
  have guarded : AllSteps managerStep (fun s input => unmistakable s input) .init
      (openedChannel ++ [peerSends]) := by
    decide +kernel
  refine ⟨guarded, ?_, run_deliversRight _ guarded⟩
  decide +kernel

/-- Another peer, on another connection, only knows the number that the peer has given. -/
def strangerSends : Env × ManagerInput := (.good, .message (plainMessage .normal 0x7777 0x500 9))

/-- The data of the stranger reaches the channel. -/
theorem strangerSends_not_deliversRight :
    ¬ AllResults managerStep DeliversRight .init (openedChannel ++ [strangerSends]) := by
  intro right
  have reached : ∃ r ∈ run managerStep .init openedChannel, ∃ q ∈ managerStep r.1 strangerSends,
      .msgReceived 0x200 [0] ∈ q.2 ∧
        ∀ cell ∈ r.1.channels.cells,
          cell.2.isMeant (plainMessage .normal 0x7777 0x500 9) = false := by
    decide +kernel
  obtain ⟨⟨s, outs⟩, before, ⟨t, out⟩, step, received, nobody⟩ := reached
  obtain ⟨h, chan, here, _, meant⟩ :=
    right openedChannel strangerSends [] rfl s outs before t out step _ rfl rfl _ _ received
  have other := nobody (h, chan) (mem_of_get? here)
  rw [meant] at other
  cases other

end DSoftBus.Proxy
