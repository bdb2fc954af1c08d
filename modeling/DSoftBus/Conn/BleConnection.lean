import DSoftBus.Lib.IdCounter
import DSoftBus.Lib.KeyedList

/-!
The connections of softbus_ble_connection.c and the ids they are given, with the search of
br_connection.c: a hit moves the counter on, and the first candidate is returned all the
same. Only the GATT server connects. An event of a HAL connection that is listed already
asks for no id.
-/
namespace DSoftBus.Ble
open Execution List

def connectBle : BitVec 32 := 3

structure BleConnectionInfo where
  connId : BitVec 32
  halConnId : BitVec 32

structure BleTable where
  nextConnectionId : BitVec 16
  conectionList : List BleConnectionInfo

namespace BleTable

def init : BleTable := ⟨0, []⟩

variable (table : BleTable)

def connIds : List (BitVec 32) := table.conectionList.map (·.connId)

/-- The id and the counter; `continue` belongs to the scan of the list. -/
def allocBleConnectionIdLocked : BitVec 32 × BitVec 16 :=
  let next := table.nextConnectionId + 1
  let tempId := (connectBle <<< 16) + next.signExtend 32
  (tempId, IdCounter.scan tempId next table.connIds)

def bleConnectServerCallback (connId : BitVec 32) : BleTable × List (BitVec 32) :=
  if table.conectionList.any (·.halConnId = connId) then (table, [])
  else
    let allocated := table.allocBleConnectionIdLocked
    (⟨allocated.2, table.conectionList ++ [⟨allocated.1, connId⟩]⟩, [allocated.1])

def bleDisconnectServerCallback (connId : BitVec 32) : BleTable :=
  { table with conectionList := KeyedList.remove (·.halConnId) connId table.conectionList }

end BleTable

open BleTable

inductive GattEvent where
  | connect (connId : BitVec 32)
  | disconnect (connId : BitVec 32)

def gattStep (table : BleTable) : GattEvent → Option (BleTable × List (BitVec 32))
  | .connect connId => some (table.bleConnectServerCallback connId)
  | .disconnect connId => some (table.bleDisconnectServerCallback connId, [])

lemma gattStep_allocates {table event t out} (done : gattStep table event = some (t, out)) :
    IdCounter.Allocates connectBle nextConnectionId connIds table t out := by
  cases event with
  | disconnect connId =>
    cases done
    exact .none rfl (map_subset _ fun _ => KeyedList.mem_of_mem_remove)
  | connect connId =>
    rw [gattStep, bleConnectServerCallback] at done
    split at done
    · cases done
      exact .none rfl (Subset.refl _)
    · cases done
      refine .one _ rfl rfl ?_
      simp [connIds]

lemma run_gattStep (table : BleTable) (events : List GattEvent) :
    ∃ t out, run gattStep table events = some (t, out) := by
  have defined (table : BleTable) (event : GattEvent) (_ : True) (_ : True) :
      ∃ t out, gattStep table event = some (t, out) ∧ True := by
    cases event <;> exact ⟨_, _, rfl, trivial⟩
  obtain ⟨t, out, ran, -⟩ := run_defined defined trivial fun _ _ _ _ _ _ _ => trivial
  exact ⟨t, out, ran⟩

lemma fresh_iff_outputs {events t out} (ran : run gattStep .init events = some (t, out)) :
    AllResults gattStep (IdCounter.Fresh connectBle connIds) .init events ↔
      out.length < 2 ^ 15 := by
  have counted : IdCounter.Counted connectBle nextConnectionId connIds 0 .init :=
    ⟨rfl, by simp [init, connIds]⟩
  have iff := counted.fresh_iff (P := fun _ _ => True) (by decide)
    (fun _ _ _ _ _ => gattStep_allocates) (by decide) (fun _ _ _ _ _ _ _ => trivial) ran
  rwa [zero_add] at iff

/-- The ids given out in a run are fresh and of type `CONNECT_BLE` exactly if they are fewer
than `2 ^ 15`. -/
theorem allocBleConnectionId_fresh_iff (events : List GattEvent) :
    ∃ t out, run gattStep .init events = some (t, out) ∧
      (AllResults gattStep (fun table _ _ out => ∀ id ∈ out,
        id ∉ table.conectionList.map (·.connId) ∧ id >>> 16 = connectBle) .init events ↔
        out.length < 2 ^ 15) := by
  obtain ⟨t, out, ran⟩ := run_gattStep .init events
  exact ⟨t, out, ran, fresh_iff_outputs ran⟩

lemma run_reconnects (n : Nat) (next : BitVec 16) : ∃ next' out,
    run gattStep ⟨next, []⟩ (replicate n [.connect 1, .disconnect 1]).flatten =
      some (⟨next', []⟩, out) ∧ out.length = n := by
  induction n generalizing next with
  | zero => exact ⟨_, _, rfl, rfl⟩
  | succ n ih =>
    obtain ⟨next', out, ran, length⟩ := ih (next + 1)
    rw [replicate_succ, flatten_cons]
    refine ⟨next', _, run_append_eq_some.mpr ⟨_, _, _, rfl, ran, rfl⟩, ?_⟩
    simp [length]

/-- One connection at a time, opened and closed `2 ^ 15` times. -/
theorem gatt_reconnects_not_fresh : ¬ AllResults gattStep (fun table _ _ out => ∀ id ∈ out,
      id ∉ table.conectionList.map (·.connId) ∧ id >>> 16 = connectBle) .init
    (replicate (2 ^ 15) [.connect 1, .disconnect 1]).flatten := by
  obtain ⟨next, out, ran, length⟩ := run_reconnects (2 ^ 15) 0
  exact fun fresh => absurd ((fresh_iff_outputs ran).mp fresh) (by omega)

end DSoftBus.Ble
