import DSoftBus.Lnn.NetBuilderBooks

/-!
When a cleaned machine's physical connection is closed. It should be when no remaining
machine uses the same address. The source compares the MAC of a remaining BR or BLE
machine with itself, so any machine of the same type keeps the connection, and so does a
longer IP that starts with the cleaned one.
-/
namespace DSoftBus.Lnn

open Execution NetBuilder

def SameAddr (a b : ConnectionAddr) : Prop := a.type = b.type ∧ a.text = b.text
deriving Decidable

namespace NetBuilder

variable (nb : NetBuilder)

def cleanedBy : NetEvent → Option Linked
  | .cleanConnFsm requester _ => nb.findConnectionFsmByConnFsmId (.ofNat 16 requester)
  | _ => none

def remaining (cleaned : Linked) : List Linked := (nb.unlink cleaned.serial).fsmList

def Shared (cleaned : Linked) : Prop :=
  ∃ item ∈ nb.remaining cleaned, SameAddr cleaned.addr item.addr

/-- The address does not look like the cleaned one: for BR and BLE its type differs, for an IP
its type differs or its IP does not start with the cleaned one. -/
def Unlike (cleaned other : ConnectionAddr) : Prop :=
  match cleaned.type with
  | .br | .ble => other.type ≠ cleaned.type
  | .wlan | .eth => ¬(other.type = cleaned.type ∧ cleaned.text.bytes <+: other.text.bytes)
  | .mix | .max => True

instance (cleaned other : ConnectionAddr) : Decidable (Unlike cleaned other) := by
  simp only [Unlike]
  split <;> infer_instance

/-- A remaining machine has exactly the same address, or the address can be converted and no
remaining one looks like it. -/
def AddrTold (event : NetEvent) : Prop :=
  ∀ cleaned ∈ nb.cleanedBy event, nb.Shared cleaned ∨ (lnnConvertAddrToOption cleaned.addr).isSome ∧
      ∀ item ∈ nb.remaining cleaned, Unlike cleaned.addr item.addr

instance (nb : NetBuilder) (event : NetEvent) : Decidable (nb.AddrTold event) := by
  simp only [AddrTold, Shared]
  infer_instance

def DisconnectsLast (event : NetEvent) (out : List NetAction) : Prop :=
  ∀ cleaned ∈ nb.cleanedBy event,
    ((∃ option ∈ lnnConvertAddrToOption cleaned.addr, .disconnectDeviceAllConn option ∈ out) ↔
      ¬nb.Shared cleaned)

lemma keepsConnection_iff {gone item} : keepsConnection gone item ↔ ¬Unlike gone item.addr := by
  have flip : gone.type = item.addr.type ↔ item.addr.type = gone.type := eq_comm
  simp only [keepsConnection, Unlike, Bool.and_eq_true, decide_eq_true_eq, flip]
  cases gone.type with
  | br | ble => simp [CString.sameUpTo]
  | wlan | eth => simp [sameUpTo_strlen_iff]
  | mix | max => simp

variable {gone : Linked} {nb : NetBuilder} {out : List NetAction}

variable {nb' : NetBuilder}

lemma tryInitiateNewNetworkOnline_actions {posted}
    (done : nb.tryInitiateNewNetworkOnline gone posted = some (nb', out)) (action)
    (mem : action ∈ out) : ∃ serial, action = .newNetworkOnline serial := by
  simp only [tryInitiateNewNetworkOnline] at done
  split at done
  · cases done
    cases mem
  split at done
  · cases done
    cases mem
  split at done
  · split at done
    · cases done
      cases mem
    · cases done
  · cases done
    obtain ⟨item, -, rfl⟩ := List.mem_map.mp mem
    exact ⟨item.serial, rfl⟩

lemma disconnect_mem_iff {id posted option} (found : nb.findConnectionFsmByConnFsmId id = some gone)
    (done : nb.processCleanConnectionFsm id posted = some (nb', out)) :
    .disconnectDeviceAllConn option ∈ out ↔ lnnConvertAddrToOption gone.addr = some option ∧
        ∀ item ∈ nb.remaining gone, Unlike gone.addr item.addr := by
  rw [processCleanConnectionFsm, found] at done
  obtain ⟨result, hInitiate, same⟩ := Option.map_eq_some_iff.mp done
  cases same
  have online : .disconnectDeviceAllConn option ∉ result.2 := fun mem => by
    obtain ⟨serial, other⟩ := tryInitiateNewNetworkOnline_actions hInitiate _ mem
    cases other
  have offline : .disconnectDeviceAllConn option ∉
      (nb.unlink gone.serial).tryNotifyAllTypeOffline gone := by
    simp only [tryNotifyAllTypeOffline]
    split <;> simp
  have kept : (nb.remaining gone).any (keepsConnection gone.addr) ↔
      ¬∀ item ∈ nb.remaining gone, Unlike gone.addr item.addr := by
    simp [keepsConnection_iff]
  rw [List.mem_append, List.mem_append, or_iff_left offline, or_iff_right online,
    tryDisconnectAllConnection]
  change _ ∈ (if (nb.remaining gone).any (keepsConnection gone.addr) then _ else _) ↔ _
  by_cases unlike : ∀ item ∈ nb.remaining gone, Unlike gone.addr item.addr
  · rw [if_neg (fun keeps => kept.mp keeps unlike), and_iff_left unlike]
    cases converted : lnnConvertAddrToOption gone.addr with
    | none => simp
    | some other => simpa using eq_comm
  · rw [if_pos (kept.mpr unlike)]
    simp [unlike]

lemma Shared.not_unlike (shared : nb.Shared gone)
    (converts : (lnnConvertAddrToOption gone.addr).isSome) :
    ¬∀ item ∈ nb.remaining gone, Unlike gone.addr item.addr := by
  obtain ⟨item, mem, type, text⟩ := shared
  intro unlike
  have own := unlike item mem
  simp only [Unlike, ← type, ← text] at own
  simp only [lnnConvertAddrToOption] at converts
  cases kind : gone.addr.type <;> simp [kind] at own converts

lemma disconnectsLast_iff {event} (done : netBuilderProcess nb event = some (nb', out)) :
    nb.DisconnectsLast event out ↔ nb.AddrTold event := by
  refine forall₂_congr fun gone found => ?_
  cases event with
  | cleanConnFsm requester posted =>
    have called : (∃ option ∈ lnnConvertAddrToOption gone.addr,
        .disconnectDeviceAllConn option ∈ out) ↔
        (lnnConvertAddrToOption gone.addr).isSome ∧
          ∀ item ∈ nb.remaining gone, Unlike gone.addr item.addr := by
      simp only [disconnect_mem_iff found done, Option.isSome_iff_exists, Option.mem_def]
      exact ⟨fun ⟨option, here, _, unlike⟩ => ⟨⟨option, here⟩, unlike⟩,
        fun ⟨⟨option, here⟩, unlike⟩ => ⟨option, here, here, unlike⟩⟩
    have apart (shared : nb.Shared gone) : ¬((lnnConvertAddrToOption gone.addr).isSome ∧
          ∀ item ∈ nb.remaining gone, Unlike gone.addr item.addr) :=
      fun alone => shared.not_unlike alone.1 alone.2
    rw [called]
    tauto
  | _ => cases found

end NetBuilder

/-- A clean request closes the connection exactly when no remaining machine has its address, if
and only if every clean request of the run meets the condition. -/
theorem disconnect_on_last_use_iff (maxConnCount : Nat) {events : List NetEvent}
    {nb : NetBuilder} {outs : List NetAction}
    (hRun : run netBuilderStep (netBuilderInit maxConnCount) events = some (nb, outs)) :
    AllResults netBuilderStep (fun nb event _ out => nb.DisconnectsLast event out)
        (netBuilderInit maxConnCount) events ↔
      AllSteps netBuilderStep NetBuilder.AddrTold (netBuilderInit maxConnCount) events :=
  allResults_iff_allSteps hRun fun _ _ _ _ done => disconnectsLast_iff (netBuilderStep_eq_some done)

def brAddr2 : ConnectionAddr := ⟨.br, ⟨[66], by decide⟩, 0⟩

def ipAddr (last : Bytes) (noNul : 0 ∉ last) : ConnectionAddr := ⟨.wlan, ⟨last, noNul⟩, 80⟩

theorem disconnect_on_last_use_iff_alone :
    AllSteps netBuilderStep NetBuilder.AddrTold (netBuilderInit 10)
        [.joinLNNRequest brAddr {}, .cleanConnFsm 1 fun _ => true] ∧
      AllResults netBuilderStep (fun nb event _ out => nb.DisconnectsLast event out)
        (netBuilderInit 10) [.joinLNNRequest brAddr {}, .cleanConnFsm 1 fun _ => true] := by
  have defined : (run netBuilderStep (netBuilderInit 10)
      [.joinLNNRequest brAddr {}, .cleanConnFsm 1 fun _ => true]).isSome := by
    decide +kernel
  have told : AllSteps netBuilderStep NetBuilder.AddrTold (netBuilderInit 10)
      [.joinLNNRequest brAddr {}, .cleanConnFsm 1 fun _ => true] := by
    decide +kernel
  obtain ⟨⟨nb, outs⟩, hRun⟩ := Option.isSome_iff_exists.mp defined
  exact ⟨told, (disconnect_on_last_use_iff 10 hRun).mpr told⟩

/-- A BR machine with another MAC remains, or a machine whose IP starts with the cleaned one:
the connection is not closed. -/
theorem last_use_not_disconnected : (run netBuilderStep (netBuilderInit 10)
      [.joinLNNRequest brAddr {}, .joinLNNRequest brAddr2 {}, .cleanConnFsm 1 fun _ => true]).map
        (fun result => (result.1.fsmList.map Linked.addr, result.2)) = some ([brAddr2], []) ∧
    (run netBuilderStep (netBuilderInit 10) [.joinLNNRequest (ipAddr [49] (by decide)) {},
        .joinLNNRequest (ipAddr [49, 50] (by decide)) {}, .cleanConnFsm 1 fun _ => true]).map
        (fun result => (result.1.fsmList.map Linked.addr, result.2)) =
      some ([ipAddr [49, 50] (by decide)], []) := by
  constructor <;> decide +kernel

end DSoftBus.Lnn
