import DSoftBus.Lnn.LedgerCodes

/-!
The node of one device in the ledger against its live connections over WiFi, BR and BLE.
The node should be online exactly while a connection is live, with the types of those that
are, and the reports should alternate.

Three things break this: BR and BLE connections take each other's place; a node goes
offline although another connection is live; and a refused call leaves the type of the
connection that ended. The types of an offline node are never cleared, so they are read
while it is online; the second half of the result reads them always.
-/
namespace DSoftBus.Lnn

open Execution List DistributedLedger Option

inductive Medium where
  | wifi
  | ble
  | br
deriving DecidableEq

open Medium

def Medium.type : Medium → DiscoveryType
  | .wifi => .wifi
  | .ble => .ble
  | .br => .br

def Medium.bit (m : Medium) : Nat := m.type.number

lemma Medium.bit_injective : Function.Injective bit := by
  intro a b same
  cases a <;> cases b <;> first | rfl | cases same

structure Connection where
  medium : Medium
  authId : BitVec 32
deriving DecidableEq

structure DeviceState where
  ledger : DistributedLedger
  live : List Connection
  reports : List ReportCategory

def DeviceState.init : DeviceState := ⟨.init, [], []⟩

inductive DeviceEvent where
  /-- A connection comes online with a description of the peer. -/
  | connect (medium : Medium) (info : NodeInfo)
  | disconnect (connection : Connection)

/-- The description that is added: of this device, with the type of the one connection. -/
def describe (udid : CString) (medium : Medium) (info : NodeInfo) : NodeInfo :=
  { info with deviceUdid := udid, discoveryType := medium.type.bit }

/-- Only a live connection can end. -/
def deviceStep (udid : CString) (state : DeviceState) :
    DeviceEvent → Option (DeviceState × List ReportCategory)
  | .connect medium info =>
    let result := state.ledger.lnnAddOnlineNode (describe udid medium info)
    some (⟨result.1, ⟨medium, info.authChannelId⟩ :: state.live, state.reports ++ [result.2]⟩,
      [result.2])
  | .disconnect connection =>
    if connection ∈ state.live then
      let result := state.ledger.lnnSetNodeOffline udid connection.authId
      some (⟨result.1, state.live.erase connection, state.reports ++ [result.2]⟩, [result.2])
    else none

def SameTypes (info : NodeInfo) (live : List Connection) : Prop :=
  ∀ k, info.discoveryType.getLsbD k ↔ ∃ c ∈ live, c.medium.bit = k

variable (reports : List ReportCategory)

def significant : List ReportCategory :=
  reports.filter fun report => report = .online || report = .offline

def Alternating : Prop :=
  ∀ k report, (significant reports)[k]? = some report →
    report = if k % 2 = 0 then .online else .offline

namespace DeviceState

structure Tracks (udid : CString) (state : DeviceState) : Prop where
  online : (state.ledger.onlineNode udid).isSome ↔ state.live ≠ []
  types : ∀ info, state.ledger.onlineNode udid = some info → SameTypes info state.live
  alternating : Alternating state.reports

structure TracksAlways (udid : CString) (state : DeviceState) : Prop extends
    Tracks udid state where
  always : ∀ info, state.ledger.udidMap udid = some info → SameTypes info state.live

def WifiLive (state : DeviceState) : Prop := ∃ c ∈ state.live, c.medium = .wifi
deriving Decidable

variable (udid : CString) (state : DeviceState)

def isSuperseded (c : Connection) : Bool :=
  (state.ledger.udidMap udid).any fun info => info.authChannelId ≠ c.authId

def Mergeable (state : DeviceState) (medium : Medium) : Prop :=
  medium = .wifi ∨ state.WifiLive ∨ ∀ c ∈ state.live, c.medium = medium
deriving Decidable

/-- The call for the connection that ends is refused and another one of its type is live. -/
def Replaced (c : Connection) : Prop :=
  (state.WifiLive ∧ state.isSuperseded udid c) ∧ ∃ d ∈ state.live.erase c, d.medium = c.medium
deriving Decidable

def Alone (c : Connection) : Prop :=
  ¬(state.WifiLive ∧ state.isSuperseded udid c) ∧ state.live.erase c = []
deriving Decidable

def Orderly : DeviceEvent → Prop
  | .connect medium _ => state.Mergeable medium
  | .disconnect c => state.Replaced udid c ∨ state.Alone udid c

instance (udid : CString) (state : DeviceState) (event : DeviceEvent) :
    Decidable (state.Orderly udid event) := by
  cases event <;> simp only [Orderly] <;> infer_instance

/-- The condition when the types of a node that is offline are read as well: it must not go
offline. -/
def OrderlyAlways : DeviceEvent → Prop
  | .connect medium _ => state.Mergeable medium
  | .disconnect c => state.Replaced udid c

end DeviceState

lemma getLsbD_bit (m : Medium) (k : Nat) : m.type.bit.getLsbD k ↔ m.bit = k := by
  have mask : m.type.bit = BitVec.twoPow 32 m.bit := by cases m <;> rfl
  have bound : m.bit < 32 := by cases m <;> decide
  simp [mask, bound]

lemma SameTypes.has {info live} (same : SameTypes info live)
    (m) : lnnHasDiscoveryType info m.type ↔ ∃ c ∈ live, c.medium = m := by
  rw [lnnHasDiscoveryType_eq, same m.type.number]
  refine exists_congr fun c => and_congr_right fun _ => ?_
  exact ⟨fun eq => bit_injective eq, fun eq => congrArg bit eq⟩

lemma significant_append (report) : significant (reports ++ [report]) = significant reports ++
      if report = .online ∨ report = .offline then [report] else [] := by
  cases report <;> simp [significant]

lemma alternating_append {reports report} (alternating : Alternating reports)
    (fits : report = .online ∨ report = .offline →
      report = if (significant reports).length % 2 = 0 then .online else .offline) :
    Alternating (reports ++ [report]) := by
  intro k r here
  rw [significant_append, getElem?_append] at here
  split at here
  · exact alternating k r here
  rename_i last
  split at here
  next counts =>
    rw [getElem?_singleton] at here
    split at here
    next first =>
      cases here
      have length : k = (significant reports).length := by omega
      rw [length]
      exact fits counts
    · cases here
  · cases here

section
variable {udid : CString} {s : DeviceState} {medium : Medium} {info node : NodeInfo}
  {c : Connection} {live : List Connection}

lemma onlineNode_added (ledger : DistributedLedger) (info : NodeInfo) :
    (ledger.lnnAddOnlineNode info).1.onlineNode info.deviceUdid =
      some (ledger.mergedNode info) := by
  refine onlineNode_eq_some.mpr ⟨Function.update_self .., ?_⟩
  simp only [mergedNode]
  split <;> rfl

lemma sameTypes_mergeOnline_iff (same : SameTypes node s.live) (authId : BitVec 32) :
    SameTypes { mergeOnline node (describe udid medium info) with status := .online }
        (⟨medium, authId⟩ :: s.live) ↔ s.Mergeable medium := by
  have own (k) : (describe udid medium info).discoveryType.getLsbD k ↔
      medium.bit = k := getLsbD_bit medium k
  have has (m) : lnnHasDiscoveryType (describe udid medium info) m.type ↔ medium = m := by
    rw [lnnHasDiscoveryType_eq]
    exact (own m.bit).trans bit_injective.eq_iff
  have bits : SameTypes { mergeOnline node (describe udid medium info) with status := .online }
      (⟨medium, authId⟩ :: s.live) ↔
        ∀ d ∈ s.live, d.medium = medium ∨ merges node (describe udid medium info) := by
    simp only [SameTypes, getLsbD_mergeOnline, Bool.or_eq_true, Bool.and_eq_true, own, same _,
      exists_mem_cons_iff]
    constructor
    · intro equal d mem
      exact ((equal d.medium.bit).mpr (.inr ⟨d, mem, rfl⟩)).imp
        (fun eq => (bit_injective eq).symm) And.left
    · intro kept k
      refine ⟨Or.imp_right And.right, fun found => found.elim .inl fun other => ?_⟩
      obtain ⟨d, mem, rfl⟩ := other
      exact (kept d mem).imp (fun eq => congrArg bit eq.symm) fun both => ⟨both, d, mem, rfl⟩
  have merged : merges node (describe udid medium info) ↔
      ((∃ c ∈ s.live, c.medium = .ble) ∨ ∃ c ∈ s.live, c.medium = .br) ∧ medium = .wifi ∨
        s.WifiLive ∧ (medium = .ble ∨ medium = .br) := by
    simp only [merges, Bool.or_eq_true, Bool.and_eq_true]
    exact or_congr (and_congr (or_congr (same.has .ble) (same.has .br)) (has .wifi))
      (and_congr (same.has .wifi) (or_congr (has .ble) (has .br)))
  rw [bits, merged, DeviceState.Mergeable]
  cases medium with
  | wifi =>
    refine iff_of_true (fun d mem => ?_) (.inl rfl)
    cases type : d.medium with
    | wifi => exact .inl rfl
    | ble => exact .inr (.inl ⟨.inl ⟨d, mem, type⟩, rfl⟩)
    | br => exact .inr (.inl ⟨.inr ⟨d, mem, type⟩, rfl⟩)
  | ble => by_cases wifi : s.WifiLive <;> simp [wifi]
  | br => by_cases wifi : s.WifiLive <;> simp [wifi]

lemma sameTypes_erase_iff (same : SameTypes node live) (mem : c ∈ live) :
    SameTypes node (live.erase c) ↔ ∃ d ∈ live.erase c, d.medium = c.medium := by
  constructor
  · intro after
    obtain ⟨d, stays, type⟩ := (after c.medium.bit).mp ((same _).mpr ⟨c, mem, rfl⟩)
    exact ⟨d, stays, bit_injective type⟩
  · intro other k
    refine (same k).trans ⟨fun found => ?_, fun found => ?_⟩
    · obtain ⟨x, there, rfl⟩ := found
      by_cases eq : x = c
      · obtain ⟨d, stays, type⟩ := other
        exact ⟨d, stays, by rw [eq, type]⟩
      · exact ⟨x, (mem_erase_of_ne eq).mpr there, rfl⟩
    · obtain ⟨x, there, type⟩ := found
      exact ⟨x, mem_of_mem_erase there, type⟩

/-- The node that is stored for a connection that came has the right types. -/
lemma sameTypes_mergedNode_iff (tracks : s.Tracks udid) (authId : BitVec 32) :
    SameTypes (s.ledger.mergedNode (describe udid medium info))
        (⟨medium, authId⟩ :: s.live) ↔ s.Mergeable medium := by
  have id : (describe udid medium info).deviceUdid = udid := rfl
  rw [mergedNode, id]
  cases found : s.ledger.onlineNode udid with
  | none =>
    have nobody : s.live = [] := by
      by_contra live
      simpa [found] using tracks.online.mpr live
    refine iff_of_true (fun k => (getLsbD_bit medium k).trans ?_) (.inr (.inr ?_))
    · simp [nobody]
    · simp [nobody]
  | some old => exact sameTypes_mergeOnline_iff (tracks.types old found) authId

lemma report_lnnAddOnlineNode (ledger : DistributedLedger) (info : NodeInfo) :
    (ledger.lnnAddOnlineNode info).2 ≠ .offline ∧ ((ledger.lnnAddOnlineNode info).2 = .online ↔
        ledger.onlineNode info.deviceUdid = none) := by
  simp only [lnnAddOnlineNode]
  cases ledger.onlineNode info.deviceUdid with
  | none => simp
  | some old =>
    simp only
    split <;> simp

lemma lnnSetNodeOffline_live (c : Connection) (same : SameTypes node s.live)
    (here : s.ledger.udidMap udid = some node) : if s.WifiLive ∧ s.isSuperseded udid c then
      (s.ledger.lnnSetNodeOffline udid c.authId).1.udidMap = s.ledger.udidMap ∧
        (s.ledger.lnnSetNodeOffline udid c.authId).2 = .none else
      (s.ledger.lnnSetNodeOffline udid c.authId).1.udidMap udid =
          some { node with status := .offline } ∧
        (s.ledger.lnnSetNodeOffline udid c.authId).2 = .offline := by
  have refused : s.WifiLive ∧ s.isSuperseded udid c ↔
      (lnnHasDiscoveryType node .wifi && node.authChannelId ≠ c.authId) := by
    rw [Bool.and_eq_true]
    exact and_congr (same.has .wifi).symm (by simp [DeviceState.isSuperseded, here])
  simp only [lnnSetNodeOffline, here]
  split
  next h =>
    rw [if_pos (refused.mp h)]
    refine ⟨?_, rfl⟩
    simp only
    split
    · exact udidMap_removeCnnCode ..
    · rfl
  next h =>
    rw [if_neg fun done => h (refused.mpr done)]
    exact ⟨Function.update_self .., rfl⟩

def DeviceState.Counted (state : DeviceState) : Prop :=
  (significant state.reports).length % 2 = 1 ↔ state.live ≠ []

lemma connect_tracks_iff {state' out} (tracks : s.Tracks udid) (counted : s.Counted)
    (done : deviceStep udid s (.connect medium info) = some (state', out)) :
    ((state'.Tracks udid ↔ s.Mergeable medium) ∧
      (state'.TracksAlways udid ↔ s.Mergeable medium)) ∧ state'.Counted := by
  cases done
  obtain ⟨notOffline, isOnline⟩ := report_lnnAddOnlineNode s.ledger (describe udid medium info)
  have online : (s.ledger.lnnAddOnlineNode (describe udid medium info)).2 = .online ↔ s.live = [] :=
    isOnline.trans (not_isSome_iff_eq_none.symm.trans ((not_congr tracks.online).trans
      not_not))
  have merged := @sameTypes_mergedNode_iff udid s medium info tracks info.authChannelId
  have stored := onlineNode_added s.ledger (describe udid medium info)
  have here := (onlineNode_eq_some.mp stored).1
  have after (ok : s.Mergeable medium) : DeviceState.Tracks udid
      ⟨(s.ledger.lnnAddOnlineNode (describe udid medium info)).1,
        ⟨medium, info.authChannelId⟩ :: s.live,
        s.reports ++ [(s.ledger.lnnAddOnlineNode (describe udid medium info)).2]⟩ := by
    refine ⟨iff_of_true (isSome_iff_exists.mpr ⟨_, stored⟩) (cons_ne_nil _ _),
      fun node found => ?_, alternating_append tracks.alternating fun counts => ?_⟩
    · cases stored.symm.trans found
      exact merged.mpr ok
    · have first := counts.resolve_right notOffline
      have even : ¬(significant s.reports).length % 2 = 1 :=
        fun odd => counted.mp odd (online.mp first)
      rw [first, if_pos (Nat.mod_two_ne_one.mp even)]
  refine ⟨⟨⟨fun now => merged.mp (now.types _ stored), after⟩,
    fun now => merged.mp (now.types _ stored), fun ok => ⟨after ok, fun node found => ?_⟩⟩, ?_⟩
  · cases here.symm.trans found
    exact merged.mpr ok
  · refine iff_of_true ?_ (cons_ne_nil _ _)
    rw [significant_append, length_append]
    split
    next counts =>
      have nobody := online.mp (counts.resolve_right notOffline)
      have even := (not_congr counted).mpr (not_not.mpr nobody)
      rw [length_singleton]
      omega
    next later => exact counted.mpr fun nobody => later (.inl (online.mpr nobody))

lemma disconnect_tracks_iff {state' out} (tracks : s.Tracks udid) (counted : s.Counted)
    (done : deviceStep udid s (.disconnect c) = some (state', out)) :
    ((state'.Tracks udid ↔ s.Replaced udid c ∨ s.Alone udid c) ∧
      (state'.TracksAlways udid ↔ s.Replaced udid c)) ∧
        (s.Replaced udid c ∨ s.Alone udid c → state'.Counted) := by
  simp only [deviceStep] at done
  split at done
  next mem =>
    cases done
    obtain ⟨node, found⟩ := isSome_iff_exists.mp
      (tracks.online.mpr (ne_nil_of_mem mem))
    obtain ⟨here, isOnline⟩ := onlineNode_eq_some.mp found
    have same := tracks.types node found
    have odd := counted.mpr (ne_nil_of_mem mem)
    have result := lnnSetNodeOffline_live c same here
    simp only [DeviceState.Replaced, DeviceState.Alone]
    split at result
    next refused =>
      obtain ⟨nodes, report⟩ := result
      have stays :
          (s.ledger.lnnSetNodeOffline udid c.authId).1.onlineNode udid = some node := by
        rw [onlineNode, nodes]
        exact found
      simp only [refused, not_true, false_and, or_false, true_and]
      have after (other : ∃ d ∈ s.live.erase c, d.medium = c.medium) :
          DeviceState.TracksAlways udid ⟨(s.ledger.lnnSetNodeOffline udid c.authId).1,
            s.live.erase c,
            s.reports ++ [(s.ledger.lnnSetNodeOffline udid c.authId).2]⟩ := by
        have types := (sameTypes_erase_iff same mem).mpr other
        obtain ⟨d, there, -⟩ := other
        refine ⟨⟨iff_of_true (isSome_iff_exists.mpr ⟨node, stays⟩)
          (ne_nil_of_mem there), fun node' found' => ?_,
          alternating_append tracks.alternating fun counts => by simp [report] at counts⟩,
          fun node' here' => ?_⟩
        · cases stays.symm.trans found'
          exact types
        · rw [nodes] at here'
          cases here.symm.trans here'
          exact types
      have before := (sameTypes_erase_iff same mem).mp
      refine ⟨⟨⟨fun now => before (now.types node stays), fun other => (after other).toTracks⟩,
        fun now => before (now.types node stays), after⟩, fun other => ?_⟩
      obtain ⟨d, there, -⟩ := other
      refine iff_of_true ?_ (ne_nil_of_mem there)
      simpa [report, significant_append] using odd
    next fits =>
      obtain ⟨nodes, report⟩ := result
      have gone : (s.ledger.lnnSetNodeOffline udid c.authId).1.onlineNode udid = none := by
        rw [onlineNode, nodes]
        rfl
      simp only [fits, not_false_eq_true, false_and, false_or, true_and]
      refine ⟨⟨⟨fun now => ?_, fun alone => ?_⟩, iff_of_false (fun now => ?_) not_false⟩,
        fun alone => ?_⟩
      · by_contra live
        exact absurd (now.online.mpr live) (by simp [gone])
      · refine ⟨iff_of_false (by simp [gone]) (not_not.mpr alone), fun node' found' => ?_,
          alternating_append tracks.alternating fun _ => ?_⟩
        · exact absurd (gone.symm.trans found') (some_ne_none node').symm
        · rw [report, if_neg]
          omega
      · -- the types of the node stay
        have nobody : s.live.erase c = [] := by
          by_contra live
          exact absurd (now.online.mpr live) (by simp [gone])
        have bit := (now.always _ nodes c.medium.bit).mp ((same _).mpr ⟨c, mem, rfl⟩)
        simp [nobody] at bit
      · refine iff_of_false ?_ (not_not.mpr alone)
        rw [significant_append, if_pos (.inr report), length_append, length_singleton]
        omega
  · cases done

end

lemma DeviceState.tracksAlways_init (udid) :
    DeviceState.init.TracksAlways udid ∧ DeviceState.init.Counted := by
  refine ⟨⟨⟨?_, ?_, ?_⟩, ?_⟩, ?_⟩ <;>
    simp [DeviceState.init, DistributedLedger.init, DistributedLedger.onlineNode, Alternating,
      significant, DeviceState.Counted]

/-- The node is online exactly while a connection is live, the types of an online node are
those of the live connections and the reports alternate, if and only if every call meets the
condition. When the types of an offline node are read as well, no call may take it offline. -/
theorem connections_tracked_iff {udid : CString} {events : List DeviceEvent} {state : DeviceState}
    {outs : List ReportCategory} (hRun : run (deviceStep udid) .init events = some (state, outs)) :
    (AllResults (deviceStep udid) (fun _ _ state' _ => state'.Tracks udid) .init events ↔
      AllSteps (deviceStep udid) (DeviceState.Orderly udid) .init events) ∧
    (AllResults (deviceStep udid) (fun _ _ state' _ => state'.TracksAlways udid) .init events ↔
      AllSteps (deviceStep udid) (DeviceState.OrderlyAlways udid) .init events) := by
  obtain ⟨start, counted⟩ := DeviceState.tracksAlways_init udid
  have one (t event t' out)
      (inv : t.Tracks udid ∧ t.Counted) (done : deviceStep udid t event = some (t', out)) :
      ((t'.Tracks udid ↔ t.Orderly udid event) ∧
        (t'.TracksAlways udid ↔ t.OrderlyAlways udid event)) ∧
          (t.Orderly udid event → t'.Counted) := by
    cases event with
    | connect medium info =>
      obtain ⟨tracks, counted⟩ := connect_tracks_iff inv.1 inv.2 done
      exact ⟨tracks, fun _ => counted⟩
    | disconnect c => exact disconnect_tracks_iff inv.1 inv.2 done
  constructor
  · refine allResults_iff_allSteps_of_inv (fun t event t' out inv done =>
      (one t event t' out inv done).1.1) (fun t event t' out inv ok done => ?_)
      ⟨start.toTracks, counted⟩ hRun
    obtain ⟨⟨tracks, -⟩, counted⟩ := one t event t' out inv done
    exact ⟨tracks.mpr ok, counted ok⟩
  · refine allResults_iff_allSteps_of_inv (fun t event t' out inv done =>
      (one t event t' out inv done).1.2) (fun t event t' out inv ok done => ?_)
      ⟨start.toTracks, counted⟩ hRun
    obtain ⟨⟨tracks, always⟩, counted⟩ := one t event t' out inv done
    have now := (always.mpr ok).toTracks
    exact ⟨now, counted (tracks.mp now)⟩

/-- Two WiFi connections, of which the older one ends first. -/
theorem connections_tracked_iff_wifi : let udid := (ledgerNode .wifi 1).deviceUdid
    let events : List DeviceEvent := [.connect .wifi (ledgerNode .wifi 1),
      .connect .wifi (ledgerNode .wifi 2), .disconnect ⟨.wifi, 1⟩, .disconnect ⟨.wifi, 2⟩]
    (∃ state outs, run (deviceStep udid) .init events = some (state, outs)) ∧
      AllResults (deviceStep udid) (fun _ _ state' _ => state'.Tracks udid) .init events := by
  intro udid events
  have runs : (run (deviceStep udid) .init events).isSome := by decide +kernel
  obtain ⟨⟨state, outs⟩, hRun⟩ := isSome_iff_exists.mp runs
  have orderly : AllSteps (deviceStep udid) (DeviceState.Orderly udid) .init events := by
    decide +kernel
  exact ⟨⟨state, outs, hRun⟩, (connections_tracked_iff hRun).1.mpr orderly⟩

/-- The BR connection ends and the node goes offline, while the WiFi connection is live. -/
theorem offline_while_wifi_live : let udid := (ledgerNode .wifi 1).deviceUdid
    ((run (deviceStep udid) .init [.connect .wifi (ledgerNode .wifi 1),
        .connect .br (ledgerNode .br 2), .disconnect ⟨.br, 2⟩]).map fun result =>
          ((result.1.ledger.onlineNode udid).isSome, result.1.live, result.2)) =
      some (false, [⟨.wifi, 1⟩], [.online, .none, .offline]) := by
  decide +kernel

end DSoftBus.Lnn
