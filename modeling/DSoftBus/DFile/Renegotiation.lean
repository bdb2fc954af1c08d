import DSoftBus.DFile.SessionRules

/-!
Renegotiation of the settings by a client. An RST frame without settings is meant to pause
the transfers: their mtu becomes 0, which DFileTransProcess and HandleDFileFrame test,
until a SETTING frame sets it again.

DFileTransSetMtu does not take the mtu 0, so a transfer that runs goes on. What holds is
that transfers without an mtu get none before the SETTING frame.
-/
namespace DSoftBus.DFile
open Effect Execution DFileTrans RecordHeap List

/-- After an RST frame a transfer runs only if a SETTING frame of the peer has come since. -/
def Pauses (past : List SessionEvent) : SessionEvent → Prop
  | .trans _ out => out.runs →
      ∀ before addr since, past = before ++ .rstHandled addr :: since → .settingHandled addr ∈ since
  | _ => True

def Quiet (s : Session) : Prop :=
  (∀ h t, s.trans.get? h = some t → t.mtu = 0) ∧ ∀ peer ∈ s.peers, mtuUsable peer.mtuInuse = false

instance decidableQuiet (s : Session) : Decidable (Quiet s) :=
  decidable_of_iff ((∀ cell ∈ s.trans.cells, cell.2.mtu = 0) ∧
      ∀ peer ∈ s.peers, mtuUsable peer.mtuInuse = false)
    (and_congr_left fun _ => ⟨fun idle h t here => idle (h, t) (mem_of_get? here),
      fun idle cell mem => idle cell.1 cell.2 (get?_of_mem mem)⟩)

/-- The one peer that a client has sent the RST frame, and either its settings are there
again or nothing runs. -/
def Renegotiated (addr : Nat) (quiet : Prop) : SessionEvent → List SessionEvent → Prop
  | .rstHandled other, since => other = addr ∧ (.settingHandled addr ∈ since ∨ quiet)
  | _, _ => True

structure Paused (addr : Nat) (s : Session) (past : List SessionEvent) : Prop where
  client : s.isClient
  onePeer : ∀ peer ∈ s.peers, peer.addr = addr
  sender : ∀ h t, s.trans.get? h = some t → t.isSender
  renegotiated : Followed (Renegotiated addr (Quiet s)) past
  justified : Justified Pauses past

section
variable {addr : Nat} {s s' : Session} {past : List SessionEvent} {event : SessionEvent}

lemma Renegotiated.mono {quiet quiet' : Prop} {since since'} (implies : quiet → quiet')
    (longer : since ⊆ since') (renegotiated : Renegotiated addr quiet event since) :
    Renegotiated addr quiet' event since' := by
  cases event with
  | rstHandled other => exact ⟨renegotiated.1, renegotiated.2.imp (@longer _) implies⟩
  | trans _ _ | transCreated _ | transDestroyed _ _ | settingHandled _ => trivial

lemma Paused.congr (paused : Paused addr s past) (isClient : s'.isClient = s.isClient)
    (peers : s'.peers = s.peers) (sender : ∀ h t, s'.trans.get? h = some t → t.isSender)
    (quiet : Quiet s → Quiet s') : Paused addr s' past :=
  ⟨isClient.trans paused.client, peers ▸ paused.onePeer, sender,
    fun before o since split => (paused.renegotiated before o since split).mono quiet (.refl _),
    paused.justified⟩

lemma Paused.concat (paused : Paused addr s past) (noRst : ∀ other, event ≠ .rstHandled other)
    (justified : Pauses past event) : Paused addr s (past ++ [event]) := by
  refine { paused with
    renegotiated := followed_concat paused.renegotiated (fun _ _ => .mono id (by simp)) ?_
    justified := justified_concat.mpr ⟨paused.justified, justified⟩ }
  cases event with
  | rstHandled other => exact absurd rfl (noRst other)
  | trans _ _ | transCreated _ | transDestroyed _ _ | settingHandled _ => trivial

lemma Paused.runs {h t} (paused : Paused addr s past)
    (here : s.trans.get? h = some t) (may : MayRun t) :
    ∀ before other since, past = before ++ .rstHandled other :: since →
      .settingHandled other ∈ since := by
  intro before other since split
  obtain ⟨rfl, setting | quiet⟩ := paused.renegotiated before _ since split
  · exact setting
  · exact absurd (quiet.1 h t here) (may (paused.sender h t here))

lemma setMtu_of_unusable {mtu} (t : DFileTrans) (unusable : mtuUsable mtu = false) :
    t.setMtu mtu = t := by
  rw [setMtu, unusable, if_neg (by simp)]

end

lemma kept_paused (addr : Nat) : Kept Quiet (Paused addr) where
  todo paused _ := paused.congr rfl rfl paused.sender id
  put {s past h t t'} paused here same := by
    have old {g u} (found : (s.putTrans h t').trans.get? g = some u) :
        ∃ w, s.trans.get? g = some w ∧ u.isSender = w.isSender ∧ u.mtu = w.mtu := by
      rcases get?_modify_eq_some found with ⟨_, other⟩ | ⟨rfl, _, _, rfl⟩
      · exact ⟨u, other, rfl, rfl⟩
      · exact ⟨t, here, same.isSender, same.mtu⟩
    refine paused.congr rfl rfl (fun g u found => ?_) fun quiet => ⟨fun g u found => ?_, quiet.2⟩
    · obtain ⟨w, before, isSender, _⟩ := old found
      exact isSender.trans (paused.sender g w before)
    · obtain ⟨w, before, _, mtu⟩ := old found
      exact mtu.trans (quiet.1 g w before)
  emit paused here may := paused.concat nofun fun runs => paused.runs here (may runs)
  destroy {s past h t} paused here := by
    have left : Paused addr (s.destroyTrans h t) past := by
      refine paused.congr rfl rfl (fun g u found => ?_) fun quiet => ⟨fun g u found => ?_, quiet.2⟩
      · exact paused.sender g u (get?_of_free found)
      · exact quiet.1 g u (get?_of_free found)
    exact left.concat nofun trivial
  create paused _ notDone := by
    simp [paused.client, TransStateList.isTransIdDone, Bool.true_or] at notDone
  start {s past transId fileNum peer} paused _ known := by
    refine paused.congr rfl rfl (fun g u found => ?_) fun quiet => ⟨fun g u found => ?_, quiet.2⟩
    · rcases get?_alloc_eq_some found with ⟨_, rfl⟩ | old
      · exact isSender_setMtu _
      · exact paused.sender g u old
    · rcases get?_alloc_eq_some found with ⟨_, rfl⟩ | old
      · rw [setMtu_of_unusable _ (quiet.2 peer known)]
        rfl
      · exact quiet.1 g u old
  clientSetting {s past peer mtu} paused _ known := by
    have here : peer.addr = addr := paused.onePeer peer (mem_of_find?_eq_some known)
    rw [here]
    refine ⟨paused.client, fun other mem => ?_, fun g u found => ?_, ?_,
      justified_concat.mpr ⟨paused.justified, trivial⟩⟩
    · obtain ⟨old, was, rfl⟩ := mem_map.mp mem
      split
      · rfl
      · exact paused.onePeer old was
    · obtain ⟨t, old, rfl⟩ := Option.map_eq_some_iff.mp (get?_map.symm.trans found)
      exact (isSender_setMtu mtu).trans (paused.sender g t old)
    · refine followed_concat paused.renegotiated (fun p since renegotiated => ?_) trivial
      cases p with
      | rstHandled other =>
        exact ⟨renegotiated.1, .inl mem_concat_self⟩
      | trans _ _ | transCreated _ | transDestroyed _ _ | settingHandled _ => trivial
  serverSetting paused server := by
    simp [paused.client] at server
  rst {s past peer} paused known quiet := by
    have here : peer.addr = addr := paused.onePeer peer known
    have same {t : DFileTrans} : t.setMtu 0 = t := setMtu_of_unusable t rfl
    have old {g u} (found : (s.setMtu 0).trans.get? g = some u) : s.trans.get? g = some u := by
      obtain ⟨t, was, rfl⟩ := Option.map_eq_some_iff.mp (get?_map.symm.trans found)
      rwa [same]
    have still : Quiet (s.setMtu 0) := ⟨fun g u found => quiet.1 g u (old found), quiet.2⟩
    refine ⟨paused.client, paused.onePeer, fun g u found => paused.sender g u (old found), ?_,
      justified_concat.mpr ⟨paused.justified, trivial⟩⟩
    refine followed_concat paused.renegotiated (fun p since renegotiated => ?_) ⟨here, .inr still⟩
    exact renegotiated.mono (fun _ => still) (by simp)

lemma paused_create (capsTcp config peer) :
    Paused peer.addr (Session.create true capsTcp config [peer]) [] := by
  refine ⟨rfl, fun other mem => ?_, fun h t found => ?_, followed_nil _, justified_nil _⟩
  · rw [mem_singleton.mp mem]
  · have none : (Session.create true capsTcp config [peer]).trans.get? h = none := rfl
    simp [none] at found

/-- RST frames are handled when no transfer has an mtu and none would get one. -/
theorem run_pauses (capsTcp : Bool) (config : DFileTransConfig) (peer : Peer)
    (inputs : List SessionInput) (s : Session) (out : List SessionEvent)
    (guarded : AllSteps sessionStep (Guarded Quiet) (Session.create true capsTcp config [peer])
      inputs)
    (result : run sessionStep (Session.create true capsTcp config [peer]) inputs =
      some (s, out)) : Justified Pauses out :=
  (run_kept (kept_paused peer.addr) (fun _ _ quiet => quiet) (paused_create capsTcp config peer) rfl
    guarded result).justified

/-- A transfer waits for the settings, which come after an RST frame. -/
def rstBeforeSettings : List SessionInput :=
  [.post (.startTrans 1), .post (.frame 1 .rstWithoutSetting), .post .tick,
    .post (.frame 1 (.setting 1000)), .post .tick] ++ replicate 12 (.work .good)

theorem run_pauses_rstBeforeSettings :
    AllSteps sessionStep (Guarded Quiet) (Session.create true true defaultConfig [⟨1, 0, 0⟩])
        rstBeforeSettings ∧
      ∃ s out, run sessionStep (Session.create true true defaultConfig [⟨1, 0, 0⟩])
        rstBeforeSettings = some (s, out) ∧ .trans 0 .frame ∈ out ∧ Justified Pauses out := by
  have guarded : AllSteps sessionStep (Guarded Quiet)
      (Session.create true true defaultConfig [⟨1, 0, 0⟩]) rstBeforeSettings := by
    decide +kernel
  have finished : ∃ r ∈ run sessionStep (Session.create true true defaultConfig [⟨1, 0, 0⟩])
      rstBeforeSettings, .trans 0 .frame ∈ r.2 := by
    decide +kernel
  obtain ⟨⟨s, out⟩, result, sent⟩ := finished
  exact ⟨guarded, s, out, result, sent, run_pauses _ _ _ _ s out guarded result⟩

/-- The settings have been negotiated when the RST frame comes. -/
def rstAfterSettings : List SessionInput :=
  [.post (.startTrans 1), .post (.frame 1 .rstWithoutSetting), .post .tick] ++
    replicate 6 (.work .good)

/-- The transfer runs right after the RST frame. -/
theorem rstAfterSettings_not_pauses :
    ∃ s out, run sessionStep (Session.create true true defaultConfig [⟨1, 1000, 0⟩])
      rstAfterSettings = some (s, out) ∧ ¬ Justified Pauses out := by
  have runs : ∃ r ∈ run sessionStep (Session.create true true defaultConfig [⟨1, 1000, 0⟩])
      rstAfterSettings, r.2 = [.rstHandled 1] ++ .trans 0 .fsm :: r.2.drop 2 := by
    decide +kernel
  obtain ⟨⟨s, out⟩, result, split⟩ := runs
  refine ⟨s, out, result, fun justified => ?_⟩
  have setting := justified _ _ _ split rfl [] 1 [] rfl
  cases setting

end DSoftBus.DFile
