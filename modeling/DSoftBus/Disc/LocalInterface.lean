import DSoftBus.Lib.Execution

/-!
The local interfaces of nstackx_device.c and the deferred offline timer. The entries of
p2p and usb are never written and stay zero, so the local address is that of eth, or else
that of wlan. The timer is not periodic; when it expires, `LocalDeviceOffline` runs.
-/
namespace DSoftBus.Nstackx
open Execution

structure NetworkInterfaceInfo where
  name : List Char
  ip : BitVec 32

inductive Interface where
  | wlan
  | eth

structure LocalDevice where
  wlan : BitVec 32
  eth : BitVec 32
  networkType : List Char
  offlineDeferred : Bool

/-- `LocalDeviceOffline` is reported with what `IsWifiApConnected` returns at that moment. -/
inductive DeviceEvent where
  | updated (ret : Bool)
  | coapServerInit (ip : BitVec 32)
  | localDeviceOffline (connected : Bool)
deriving DecidableEq

inductive DeviceInput where
  | update (interfaceInfo : NetworkInterfaceInfo)
  | timeout

def deviceModuleInit : LocalDevice := ⟨0, 0, [], false⟩

variable (device : LocalDevice)

def getLocalIp : BitVec 32 := if device.eth ≠ 0 then device.eth else device.wlan

def isWifiApConnected : Bool := getLocalIp device ≠ 0

def interfaceOf (name : List Char) : Option Interface :=
  if "wlan".toList.isPrefixOf name then some .wlan
  else if "eth".toList.isPrefixOf name then some .eth
  else none

def LocalDevice.write (ip : BitVec 32) : Interface → LocalDevice
  | .wlan => { device with wlan := ip }
  | .eth => { device with eth := ip }

/-- `updated` tells whether the result is `NSTACKX_EOK`. -/
def updateLocalNetworkInterface (info : NetworkInterfaceInfo) : LocalDevice × List DeviceEvent :=
  match interfaceOf info.name with
  | none => (device, [.updated false])
  | some i =>
    let next := device.write info.ip i
    if getLocalIp next = getLocalIp device then (next, [.updated true])
    else if info.ip = 0 then
      if device.networkType ≠ info.name ∧ device.networkType ≠ [] then (next, [.updated true])
      else ({ next with offlineDeferred := true }, [.updated true])
    else
      ({ next with offlineDeferred := false, networkType := info.name },
        [.coapServerInit info.ip, .updated true])

def deviceStep : DeviceInput → Option (LocalDevice × List DeviceEvent)
  | .update info => some (updateLocalNetworkInterface device info)
  | .timeout =>
    if device.offlineDeferred then
      some ({ device with offlineDeferred := false },
        [.localDeviceOffline (isWifiApConnected device)])
    else some (device, [])

/-- If the timer expired now, `LocalDeviceOffline` would not run while connected. -/
def Quiet : Prop :=
  ∀ next out, deviceStep device .timeout = some (next, out) → .localDeviceOffline true ∉ out

/-- Eth goes down while wlan has another address, and eth is the interface that came up
last, or none did. -/
def FallsBack (info : NetworkInterfaceInfo) : Prop :=
  interfaceOf info.name = some .eth ∧ info.ip = 0 ∧
    (device.networkType = info.name ∨ device.networkType = []) ∧
    device.eth ≠ 0 ∧ device.wlan ≠ 0 ∧ device.eth ≠ device.wlan

def KeepsQuiet : DeviceInput → Prop
  | .update info => ¬ FallsBack device info
  | .timeout => True

variable {device}

lemma quiet_iff : Quiet device ↔ (device.offlineDeferred → getLocalIp device = 0) := by
  rw [Quiet, deviceStep]
  split <;> simp_all [isWifiApConnected]

lemma deviceStep_quiet_iff {input next out} (quiet : Quiet device)
    (step : deviceStep device input = some (next, out)) : Quiet next ↔ KeepsQuiet device input := by
  rw [quiet_iff] at quiet ⊢
  cases input with
  | timeout =>
    rw [deviceStep] at step
    split at step <;> cases step <;> simp_all [KeepsQuiet]
  | update info =>
    rw [deviceStep, updateLocalNetworkInterface] at step
    rw [KeepsQuiet, FallsBack]
    cases atName : interfaceOf info.name with
    | none =>
      rw [atName] at step
      cases step
      simpa using quiet
    | some i =>
      rw [atName] at step
      cases i <;> simp only [LocalDevice.write, getLocalIp] at quiet step ⊢ <;> grind

/-- The timer never expires while connected exactly if eth, having come up last, never goes
down while wlan has an address. -/
theorem allStates_quiet_iff (inputs : List DeviceInput) :
    AllStates deviceStep Quiet deviceModuleInit inputs ↔
      AllSteps deviceStep KeepsQuiet deviceModuleInit inputs := by
  constructor
  · intro quiet pre input post split device outs ran
    obtain ⟨next, out, step⟩ : ∃ next out, deviceStep device input = some (next, out) := by
      unfold deviceStep
      split <;> [skip; split] <;> exact ⟨_, _, rfl⟩
    refine (deviceStep_quiet_iff (quiet pre _ split device outs ran) step).mp ?_
    exact quiet (pre ++ [input]) post (by simp [split]) next (outs ++ out)
      (run_concat_eq_some.mpr ⟨device, outs, out, ran, step, rfl⟩)
  · intro keeps pre post split device outs ran
    refine run_state_invariant (fun _ _ _ _ quiet keep step => ?_)
      (quiet_iff.mpr fun _ => rfl) (split ▸ keeps).front ran
    exact (deviceStep_quiet_iff quiet step).mpr keep

theorem offline_while_wlan_up :
    (run deviceStep deviceModuleInit [.update ⟨"eth0".toList, 1⟩, .update ⟨"wlan0".toList, 2⟩,
      .update ⟨"eth0".toList, 0⟩, .timeout]).map Prod.snd =
        some [.coapServerInit 1, .updated true, .updated true, .updated true,
          .localDeviceOffline true] := by
  decide

end DSoftBus.Nstackx
