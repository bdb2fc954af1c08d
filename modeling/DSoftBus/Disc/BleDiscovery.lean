import DSoftBus.Lib.ByteString
import Mathlib.Data.List.Basic

/-!
BLE discovery (disc_ble.c, disc_ble_utils.c) from the registration of capabilities on two
devices to the call of OnDeviceFound. The registration converts three of the bits to those
of other capabilities, and they are not converted back. The test for a common capability
compares the received bitmap with zero before combining it with the subscribed one, so it
does not fail for any broadcast of a publisher.

A packet marked for connecting only makes its receiver reply. Custom data is left out. Where
the stack hands on a scan response, it stands directly behind the advertising data.
-/
namespace DSoftBus.Disc
open List Function BitVec

inductive Capability where
  | hicall | profile | homevisionPic | castPlus | aaCapability | dvKit | ddmpCapability
  | osdCapability
deriving DecidableEq

namespace Capability

def bitmap : Capability → Fin 8
  | hicall => 0
  | profile => 1
  | homevisionPic => 2
  | castPlus => 3
  | aaCapability => 4
  | dvKit => 5
  | ddmpCapability => 6
  | osdCapability => 7

def mask (c : Capability) : BitVec 32 := 1#32 <<< c.bitmap.val

/-- The capability that the bit of `c` means after its conversion. -/
def converted : Capability → Capability
  | osdCapability => aaCapability
  | castPlus => profile
  | dvKit => homevisionPic
  | c => c

end Capability

def convertCapBitMap (oldCap : BitVec 32) : BitVec 32 :=
  if oldCap = 0x80 then 0x10
  else if oldCap = 0x8 then 0x2
  else if oldCap = 0x20 then 0x4
  else oldCap

structure DiscBleInfo where
  capBitMap : BitVec 32
  capCount : Fin 8 → BitVec 16

namespace DiscBleInfo

def init : DiscBleInfo := ⟨0, fun _ => 0⟩

variable (info : DiscBleInfo)

def addPos (pos : Fin 8) : DiscBleInfo :=
  ⟨info.capBitMap ||| 1#32 <<< pos.val, update info.capCount pos (info.capCount pos + 1)⟩

def removePos (pos : Fin 8) : DiscBleInfo :=
  let count := info.capCount pos - 1
  ⟨if count = 0 then info.capBitMap &&& (0xffffffff#32 ^^^ 1#32 <<< pos.val) else info.capBitMap,
    update info.capCount pos count⟩

def registerCapability (optionCapBitMap : BitVec 32) : DiscBleInfo :=
  (finRange 8).foldl (fun info (pos : Fin 8) =>
    if (convertCapBitMap optionCapBitMap).getLsbD pos then info.addPos pos else info) info

def unregisterCapability (optionCapBitMap : BitVec 32) : DiscBleInfo :=
  (finRange 8).foldl (fun info (pos : Fin 8) =>
    if (convertCapBitMap optionCapBitMap).getLsbD pos && info.capBitMap.getLsbD pos then
      info.removePos pos
    else info) info

lemma registerCapability_mask (c : Capability) :
    info.registerCapability c.mask = info.addPos c.converted.bitmap := by
  cases c <;> rfl

lemma unregisterCapability_mask (c : Capability) : info.unregisterCapability c.mask =
      if info.capBitMap.getLsbD c.converted.bitmap then info.removePos c.converted.bitmap
      else info := by
  cases c <;> rfl

/-- What calls with single capabilities lead to: `counted` are the registrations that have not
been taken back. Their counters are of type `int16_t`. -/
inductive Reached : DiscBleInfo → List Capability → Prop
  | init : Reached init []
  | register {info counted} (c : Capability) : Reached info counted →
      counted.length < 2 ^ 16 - 1 → Reached (info.registerCapability c.mask) (c :: counted)
  | unregister {info counted} (c : Capability) : Reached info counted → c ∈ counted →
      Reached (info.unregisterCapability c.mask) (counted.erase c)

end DiscBleInfo

def bitmapOf (caps : List Capability) : BitVec 32 := caps.foldr (fun c bits => c.mask ||| bits) 0

lemma bitmap_injective : Injective Capability.bitmap := by
  intro c d
  cases c <;> cases d <;> decide

lemma getLsbD_mask (pos : Fin 8) (i : Nat) :
    (1#32 <<< pos.val).getLsbD i = decide (pos.val = i) := by
  rw [← twoPow_eq, getLsbD_twoPow]
  simp [show pos.val < 32 by omega]

lemma getLsbD_unset (bits : BitVec 32) (pos : Fin 8) (i : Nat) :
    (bits &&& (0xffffffff#32 ^^^ 1#32 <<< pos.val)).getLsbD i =
      (bits.getLsbD i && !decide (pos.val = i)) := by
  have ones : 0xffffffff#32 = allOnes 32 := rfl
  rw [ones, getLsbD_and, getLsbD_xor, getLsbD_allOnes, getLsbD_mask]
  by_cases inside : i < 32
  · simp [inside]
  · simp [getLsbD_of_ge bits i (not_lt.mp inside)]

/-- A bit is set while one of the capabilities converted to it is counted. -/
structure DiscBleInfo.Counts (info : DiscBleInfo) (counted : List Capability) : Prop where
  few : counted.length < 2 ^ 16
  bits : ∀ i, info.capBitMap.getLsbD i ↔ ∃ c ∈ counted, c.converted.bitmap.val = i
  counts : ∀ pos, info.capCount pos =
    BitVec.ofNat 16 (counted.countP fun c => c.converted.bitmap = pos)

namespace DiscBleInfo
variable {info : DiscBleInfo} {counted rest : List Capability}

lemma Counts.perm (counts : Counts info counted) (same : counted.Perm rest) : Counts info rest := by
  refine ⟨same.length_eq ▸ counts.few, fun i => ?_, fun pos => ?_⟩
  · simp only [counts.bits, same.mem_iff]
  · rw [counts.counts, same.countP_eq]

lemma Counts.register (counts : Counts info counted) (few : counted.length < 2 ^ 16 - 1)
    (c : Capability) : Counts (info.registerCapability c.mask) (c :: counted) := by
  rw [registerCapability_mask]
  refine ⟨by rw [length_cons]; omega, fun i => ?_, fun pos => ?_⟩
  · simp only [addPos, getLsbD_or, getLsbD_mask, Bool.or_eq_true, counts.bits,
      decide_eq_true_eq, exists_mem_cons_iff]
    exact or_comm
  · by_cases here : c.converted.bitmap = pos
    · simp [addPos, here, counts.counts, ofNat_add]
    · simp [addPos, here, counts.counts, update_of_ne (Ne.symm here)]

lemma Counts.unregister {c} (counts : Counts info (c :: rest)) :
    Counts (info.unregisterCapability c.mask) rest := by
  obtain ⟨few, bits, counted⟩ := counts
  rw [unregisterCapability_mask, if_pos ((bits _).mpr ⟨c, mem_cons_self, rfl⟩)]
  rw [length_cons] at few
  simp only [exists_mem_cons_iff] at bits
  simp only [countP_cons] at counted
  generalize c.converted.bitmap = here at bits counted
  have left : info.capCount here - 1 =
      BitVec.ofNat 16 (rest.countP fun d => d.converted.bitmap = here) := by
    simp only [counted, decide_true, if_true, ofNat_add]
    exact add_sub_cancel ..
  have none : info.capCount here - 1 = 0 ↔ ¬ ∃ d ∈ rest, d.converted.bitmap.val = here.val := by
    have short := @countP_le_length _ (fun d : Capability => d.converted.bitmap = here) rest
    rw [left, ← toNat_inj, toNat_ofNat, Nat.mod_eq_of_lt (by omega)]
    simp [countP_eq_zero, Fin.val_inj]
  refine ⟨by omega, fun i => ?_, fun pos => ?_⟩
  · simp only [removePos, none]
    split
    next last =>
      simp only [getLsbD_unset, Bool.and_eq_true, bits, Bool.not_eq_true', decide_eq_false_iff_not]
      exact ⟨fun ⟨either, other⟩ => either.resolve_left other,
        fun kept => ⟨.inr kept, fun same => last (same ▸ kept)⟩⟩
    next more =>
      rw [bits]
      exact or_iff_right_of_imp fun same => same ▸ not_not.mp more
  · by_cases same : pos = here
    · simp only [removePos, same, update_self, left]
    · simp only [removePos, update_of_ne same, counted, Ne.symm same, decide_false, if_neg,
        Nat.add_zero, Bool.false_eq_true, not_false_eq_true]

lemma Reached.counts (reached : Reached info counted) : Counts info counted := by
  induction reached with
  | init => exact ⟨by decide, by simp [DiscBleInfo.init], fun _ => rfl⟩
  | register c _ few ih => exact ih.register few c
  | unregister c _ mem ih => exact (ih.perm (perm_cons_erase mem)).unregister

end DiscBleInfo

lemma getLsbD_bitmapOf (caps : List Capability) (i : Nat) :
    (bitmapOf caps).getLsbD i ↔ ∃ c ∈ caps, c.bitmap.val = i := by
  induction caps with
  | nil => simp [bitmapOf]
  | cons c rest ih =>
    have split : bitmapOf (c :: rest) = c.mask ||| bitmapOf rest := rfl
    rw [split, getLsbD_or, Capability.mask, getLsbD_mask]
    simp [ih]

structure Registered where
  info : DiscBleInfo
  counted : List Capability
  reached : info.Reached counted

structure Advertiser where
  (publishActive publishPassive : Registered)
  recvMessages : List (BitVec 32)
  userIdHash : Fin 2 → UInt8
  deviceIdHash : Fin 8 → UInt8
  devType : UInt8
  brMac : Option (Fin 6 → UInt8)

/-- Every message replaces the match of the one before. -/
def matchRecvMessage (publishInfoMap : BitVec 32) (messages : List (BitVec 32)) : BitVec 32 :=
  messages.foldl (fun _ capBitMap => capBitMap &&& publishInfoMap) 0

def boardcastMaxLen : Nat := 49
def advDataMaxLen : Nat := 23

/-- The type is the upper half of the first byte and the length the lower one. -/
def assembleTLV (data : Bytes) (dataType : Nat) (value : Bytes) : Bytes :=
  if value = [] ∨ boardcastMaxLen ≤ data.length then data
  else
    let len := value.length % 16
    data ++ UInt8.ofNat (dataType * 16 + len) ::
      value.take (min len (boardcastMaxLen - (data.length + 1)))

def buildBleConfigAdvData (data : Bytes) : Bytes × Bytes :=
  let adv := data.take advDataMaxLen
  let rsp := data.drop advDataMaxLen
  ([2, 1, 2, UInt8.ofNat (adv.length + 3), 0x16, 0xEE, 0xFD] ++ adv,
    [UInt8.ofNat (rsp.length + 3), 0xFF, 0x7D, 0x02] ++ rsp)

namespace Advertiser
variable (b : Advertiser)

def getNonDeviceInfo : Option (BitVec 32) :=
  let capabilityBitmap := b.publishActive.info.capBitMap |||
    matchRecvMessage b.publishPassive.info.capBitMap b.recvMessages
  if capabilityBitmap = 0 then none else some capabilityBitmap

def getBroadcastData (capabilityBitmap : BitVec 32) : Bytes :=
  let head := [4, 5, 0x10] ++ ofFn b.userIdHash ++ [⟨capabilityBitmap.setWidth 8⟩, 0]
  let data := assembleTLV (assembleTLV head 1 (ofFn b.deviceIdHash)) 2 [b.devType]
  match b.brMac with
  | none => data
  | some addr => assembleTLV data 5 (ofFn addr)

def startAdvertiser : Option (Bytes × Bytes) :=
  b.getNonDeviceInfo.map fun bits => buildBleConfigAdvData (b.getBroadcastData bits)

/-- Those that are published actively, and of the others those that the last message asks for. -/
def broadcasts : List Capability :=
  b.publishActive.counted ++ b.publishPassive.counted.filter fun c =>
    (b.recvMessages.getLast?.getD 0).getLsbD c.converted.bitmap

end Advertiser

structure DeviceInfo where
  capabilityBitmap : BitVec 32
  (hwAccountHash devId devType bleMac custData devName : Bytes)

/-- The returned length and the value, whose length is not compared with that of the data:
the copy goes on into the memory `behind`. `none` stands for an error. -/
def parseRecvAdvData (data behind : Bytes) (type index : Nat) : Option (Nat × Bytes) :=
  match data[index]? with
  | none => some (0, [])
  | some tl =>
    let len := tl.toNat % 16
    if type ≠ tl.toNat / 16 then some (0, [])
    else if data.length ≤ index + 1 then none
    else if len = 0 then some (0, [])
    else some (len + 1, ((data ++ behind).drop (index + 1)).take len)

/-- The length of the BR address is not counted, and its error is not looked at. -/
def getDeviceInfoFromDisAdvData (data behind : Bytes) : Option DeviceInfo := do
  let (idLen, devId) ← parseRecvAdvData data behind 1 14
  let (typeLen, devType) ← parseRecvAdvData data behind 2 (14 + idLen)
  let curLen := 14 + idLen + typeLen
  let bleMac := ((parseRecvAdvData data behind 5 curLen).map Prod.snd).getD []
  let (custLen, custData) ← parseRecvAdvData data behind 4 curLen
  let (_, devName) ← parseRecvAdvData data behind 3 (curLen + custLen)
  return ⟨(data.getD 12 0).toBitVec.setWidth 32, (data.drop 10).take 2, devId, devType, bleMac,
    custData, devName⟩

structure Scanner where
  (subscribeActive subscribePassive publishPassive : Registered)

namespace Scanner
variable (a : Scanner)

def subscribeCap : BitVec 32 :=
  a.subscribeActive.info.capBitMap ||| a.subscribePassive.info.capBitMap

def checkScanner : Bool := a.subscribeCap ||| a.publishPassive.info.capBitMap ≠ 0

def scanFilter (advData : Bytes) (complete : Bool) : Bool :=
  complete && 14 ≤ advData.length && advData.getD 5 0 = 0xEE && advData.getD 6 0 = 0xFD &&
    advData.getD 7 0 = 4 && a.checkScanner

/-- A comparison binds stronger than `&`: the bits are combined with 0 or 1. -/
def processDisNonPacket (advData behind : Bytes) : Option DeviceInfo := do
  let foundInfo ← getDeviceInfoFromDisAdvData advData behind
  if a.subscribeCap &&& (if foundInfo.capabilityBitmap = 0 then 1 else 0) ≠ 0 then none
  else some { foundInfo with capabilityBitmap := a.subscribeCap &&& foundInfo.capabilityBitmap }

/-- What OnDeviceFound is called with, if it is called. -/
def bleScanResultCallback (advData behind : Bytes) (complete : Bool) : Option DeviceInfo :=
  let extension := advData.getD 9 0
  if a.scanFilter advData complete && advData.getD 8 0 &&& 5 = 5 && extension &&& 0x20 = 0 &&
    extension &&& 0x80 = 0 then a.processDisNonPacket advData behind
  else none

def counted : List Capability := a.subscribeActive.counted ++ a.subscribePassive.counted

end Scanner

/-- What is received is the broadcast, with or without the scan response behind it. -/
def received (sent : Bytes × Bytes) (rsp : Bool) : Bytes :=
  if rsp then sent.1 ++ sent.2 else sent.1

lemma getDeviceInfo_received (b : Advertiser) (bits : BitVec 32) (rsp : Bool) (behind : Bytes) :
    let data := received (buildBleConfigAdvData (b.getBroadcastData bits)) rsp
    data[8]?.getD 0 = 5 ∧ data[9]?.getD 0 = 0x10 ∧
      ∃ info, getDeviceInfoFromDisAdvData data behind = some info ∧
        info.capabilityBitmap = (bits.setWidth 8).setWidth 32 := by
  obtain ⟨_, _, _, _, _, _, brMac⟩ := b
  cases brMac <;> cases rsp <;>
    simp [received, buildBleConfigAdvData, Advertiser.getBroadcastData, assembleTLV,
      boardcastMaxLen, advDataMaxLen, getDeviceInfoFromDisAdvData, parseRecvAdvData, ofFn_succ]

lemma matchRecvMessage_eq (publishInfoMap messages) :
    matchRecvMessage publishInfoMap messages = messages.getLast?.getD 0 &&& publishInfoMap := by
  cases messages.eq_nil_or_concat with
  | inl none => simp [none, matchRecvMessage]
  | inr some =>
    obtain ⟨front, last, rfl⟩ := some
    simp [matchRecvMessage]

lemma Advertiser.getLsbD_nonDeviceInfo {b : Advertiser} {bits : BitVec 32}
    (found : b.getNonDeviceInfo = some bits) (i : Nat) :
    bits ≠ 0#32 ∧ (bits.getLsbD i ↔ ∃ c ∈ b.broadcasts, c.converted.bitmap.val = i) := by
  simp only [getNonDeviceInfo] at found
  split at found
  · cases found
  rename_i nonzero
  cases found
  refine ⟨nonzero, ?_⟩
  rw [matchRecvMessage_eq, getLsbD_or, getLsbD_and, Bool.or_eq_true, Bool.and_eq_true,
    b.publishActive.reached.counts.bits, b.publishPassive.reached.counts.bits]
  simp only [broadcasts, mem_append, mem_filter, or_and_right, exists_or]
  refine or_congr_right ⟨fun ⟨asked, c, mem, same⟩ => ?_, fun ⟨c, ⟨mem, asked⟩, same⟩ => ?_⟩
  · exact ⟨c, ⟨mem, same ▸ asked⟩, same⟩
  · exact ⟨same ▸ asked, c, mem, same⟩

lemma bleScanResultCallback_received {a : Scanner} {b : Advertiser}
    {sent : Bytes × Bytes} {rsp complete : Bool} (starts : b.startAdvertiser = some sent)
    (passed : a.scanFilter (received sent rsp) complete) (behind : Bytes) :
    ∃ info, a.bleScanResultCallback (received sent rsp) behind complete = some info ∧
      ∀ i, info.capabilityBitmap.getLsbD i ↔ (∃ c ∈ a.counted, c.converted.bitmap.val = i) ∧
          ∃ d ∈ b.broadcasts, d.converted.bitmap.val = i := by
  obtain ⟨bits, found, rfl⟩ := Option.map_eq_some_iff.mp starts
  obtain ⟨business, extension, info, parsed, cap⟩ := getDeviceInfo_received b bits rsp behind
  have nonzero := (b.getLsbD_nonDeviceInfo found 0).1
  have broadcast (i) := (b.getLsbD_nonDeviceInfo found i).2
  -- the broadcast has room for the eight bits of the table only
  have whole : (bits.setWidth 8).setWidth 32 = bits := by
    apply eq_of_getLsbD_eq
    intro i inside
    have low : bits.getLsbD i → i < 8 := fun up => by
      obtain ⟨c, _, rfl⟩ := (broadcast i).mp up
      exact c.converted.bitmap.isLt
    cases up : bits.getLsbD i with
    | false => simp [up]
    | true => simp [up, inside, low up]
  refine ⟨{ info with capabilityBitmap := a.subscribeCap &&& bits }, ?_, fun i => ?_⟩
  · simp [Scanner.bleScanResultCallback, passed, business, extension, Scanner.processDisNonPacket,
      parsed, cap, whole, nonzero]
    decide
  · simp only [getLsbD_and, Scanner.subscribeCap, getLsbD_or, Bool.and_eq_true,
      Bool.or_eq_true, broadcast, a.subscribeActive.reached.counts.bits,
      a.subscribePassive.reached.counts.bits, Scanner.counted, mem_append, or_and_right, exists_or]

/-- The devices share a capability, and the shared ones are those that have a common bit. -/
structure Told (subscribed counted broadcast : List Capability) : Prop where
  shared : ∃ c ∈ subscribed, c ∈ broadcast
  plain : ∀ c ∈ subscribed, c ∈ broadcast → c.converted = c
  alone : ∀ c ∈ counted, ∀ d ∈ broadcast, c.converted = d.converted →
    c.converted ∈ subscribed ∧ c.converted ∈ broadcast

theorem deviceFound_exact_iff {a : Scanner} {b : Advertiser} {subscribed : List Capability}
    {sent : List UInt8 × List UInt8} {rsp complete : Bool} (live : subscribed ⊆ a.counted)
    (starts : b.startAdvertiser = some sent)
    (passed : a.scanFilter (received sent rsp) complete) (behind : List UInt8) :
    let shared := subscribed.filter (· ∈ b.broadcasts)
    (a.bleScanResultCallback (received sent rsp) behind complete).map (·.capabilityBitmap) =
        (if shared = [] then none else some (bitmapOf shared)) ↔
      Told subscribed a.counted b.broadcasts := by
  intro shared
  obtain ⟨info, called, bits⟩ := bleScanResultCallback_received starts passed behind
  have memShared (c) : c ∈ shared ↔ c ∈ subscribed ∧ c ∈ b.broadcasts := by
    simp [shared]
  rw [called, Option.map_some]
  split
  next empty =>
    refine iff_of_false (by simp) fun told => ?_
    obtain ⟨c, mine, theirs⟩ := told.shared
    exact not_mem_nil (empty ▸ (memShared c).mpr ⟨mine, theirs⟩)
  rename_i some
  obtain ⟨first, mem⟩ := exists_mem_of_ne_nil _ some
  rw [Option.some_inj]
  constructor
  · intro same
    have set (c) : c ∈ shared ↔ (∃ e ∈ a.counted, e.converted = c) ∧
        ∃ d ∈ b.broadcasts, d.converted = c := by
      have both := bits c.bitmap
      rw [same, getLsbD_bitmapOf] at both
      simpa only [Fin.val_inj, bitmap_injective.eq_iff, exists_eq_right] using both
    refine ⟨⟨first, (memShared first).mp mem⟩, fun c mine theirs => ?_,
      fun c mine d theirs eq => ?_⟩
    · obtain ⟨⟨e, _, rfl⟩, _⟩ := (set c).mp ((memShared c).mpr ⟨mine, theirs⟩)
      cases e <;> rfl
    · exact (memShared _).mp ((set _).mpr ⟨⟨c, mine, rfl⟩, d, theirs, eq.symm⟩)
  · intro told
    apply eq_of_getLsbD_eq
    intro i _
    rw [Bool.eq_iff_iff, bits, getLsbD_bitmapOf]
    constructor
    · intro ⟨⟨c, mine, at_⟩, d, theirs, same⟩
      have eq : c.converted = d.converted := bitmap_injective (Fin.ext (at_.trans same.symm))
      exact ⟨c.converted, (memShared _).mpr (told.alone c mine d theirs eq), at_⟩
    · intro ⟨c, both, at_⟩
      obtain ⟨mine, theirs⟩ := (memShared c).mp both
      have plain := told.plain c mine theirs
      exact ⟨⟨c, live mine, plain.symm ▸ at_⟩, c, theirs, plain.symm ▸ at_⟩

def noCapability : Registered := ⟨_, [], .init⟩

def Registered.add (registered : Registered) (c : Capability)
    (few : registered.counted.length < 2 ^ 16 - 1) : Registered :=
  ⟨_, c :: registered.counted, .register c registered.reached few⟩

def onlyCapability (c : Capability) : Registered := noCapability.add c (by decide)

def publisher (c : Capability) : Advertiser :=
  ⟨onlyCapability c, noCapability, [], fun _ => 0, fun _ => 0, 0, none⟩

def subscriber (c : Capability) : Scanner := ⟨onlyCapability c, noCapability, noCapability⟩

/-- Of what is published passively, the last message asks for ddmpCapability only. -/
def askedPublisher : Advertiser where
  publishActive := (onlyCapability .hicall).add .aaCapability (by decide)
  publishPassive := (onlyCapability .profile).add .ddmpCapability (by decide)
  recvMessages := [Capability.profile.mask, Capability.ddmpCapability.mask]
  userIdHash _ := 1
  deviceIdHash _ := 2
  devType := 3
  brMac := some fun _ => 4

def askingSubscriber : Scanner where
  subscribeActive := (onlyCapability .hicall).add .ddmpCapability (by decide)
  subscribePassive := onlyCapability .profile
  publishPassive := noCapability

theorem deviceFound_exact_asked : ∃ sent, askedPublisher.startAdvertiser = some sent ∧
    (askingSubscriber.bleScanResultCallback (received sent true) [] true).map
      (·.capabilityBitmap) = some (bitmapOf [.ddmpCapability, .hicall]) := by
  refine ⟨_, rfl, ?_⟩
  have told : Told [.ddmpCapability, .hicall, .profile] askingSubscriber.counted
      askedPublisher.broadcasts :=
    ⟨⟨.hicall, by decide, by decide⟩, by decide, by decide⟩
  exact (deviceFound_exact_iff (by decide) rfl (by decide +kernel) []).mpr told

/-- A device that is found for castPlus is reported for profile, and one without a common
capability is reported for none. -/
theorem castPlus_found_as_profile : (∃ sent ∈ (publisher .castPlus).startAdvertiser,
      ((subscriber .castPlus).bleScanResultCallback (received sent false) [] true).map
        (·.capabilityBitmap) = some (bitmapOf [.profile])) ∧
    ∃ sent ∈ (publisher .hicall).startAdvertiser,
      ((subscriber .ddmpCapability).bleScanResultCallback (received sent false) [] true).map
        (·.capabilityBitmap) = some 0 := by
  exact ⟨⟨_, rfl, by decide +kernel⟩, _, rfl, by decide +kernel⟩

/-! ### The bytes that the parser touches -/

inductive TlvType where
  | deviceIdHash | deviceType | deviceName | cust | brMac

namespace TlvType

def code : TlvType → Nat
  | deviceIdHash => 1
  | deviceType => 2
  | deviceName => 3
  | cust => 4
  | brMac => 5

/-- The size of the target. -/
def room : TlvType → Nat
  | deviceIdHash => 96
  | deviceType => 1
  | deviceName => 65
  | cust => 219
  | brMac => 18

end TlvType

/-- A read of `len` bytes from `index` on, to a target that holds `room` of them. -/
structure Access where
  (index len room : Nat)

def Access.InBounds (data : Bytes) (x : Access) : Prop :=
  x.index + x.len ≤ data.length ∧ x.len ≤ x.room
deriving Decidable

/-- The calls of ParseRecvAdvData, each with its index, for which only the returned lengths
matter. -/
def parses (data : Bytes) : List (TlvType × Nat) :=
  (.deviceIdHash, 14) :: match parseRecvAdvData data [] 1 14 with
  | none => []
  | some (idLen, _) =>
    (.deviceType, 14 + idLen) :: match parseRecvAdvData data [] 2 (14 + idLen) with
    | none => []
    | some (typeLen, _) =>
      let curLen := 14 + idLen + typeLen
      (.brMac, curLen) :: (.cust, curLen) :: match parseRecvAdvData data [] 4 curLen with
      | none => []
      | some (custLen, _) => [(.deviceName, curLen + custLen)]

/-- The byte with the type and the length, and the value, whose length is not checked. -/
def parseAccesses (data : Bytes) (tlv : TlvType × Nat) : List Access :=
  (if tlv.2 < data.length then [⟨tlv.2, 1, 1⟩] else []) ++
    match parseRecvAdvData data [] tlv.1.code tlv.2 with
    | some (len + 1, _) => [⟨tlv.2 + 1, len, tlv.1.room⟩]
    | _ => []

/-- The account hash and the capability are read at fixed indexes. -/
def accesses (data : Bytes) : List Access :=
  ⟨10, 2, 96⟩ :: ⟨12, 1, 4⟩ :: (parses data).flatMap (parseAccesses data)

/-- A value behind a matching type ends in the data, and a device type has one byte. -/
def TlvFits (data : Bytes) (tlv : TlvType × Nat) : Prop :=
  ∀ tl ∈ data[tlv.2]?, tl.toNat / 16 = tlv.1.code → tlv.2 + 1 < data.length →
    tlv.2 + 1 + tl.toNat % 16 ≤ data.length ∧ (tlv.1.code = 2 → tl.toNat % 16 ≤ 1)

lemma TlvType.le_room_iff {len : Nat} (type : TlvType) (short : len < 16) :
    len ≤ type.room ↔ (type.code = 2 → len ≤ 1) := by
  cases type <;> simp [room, code] <;> omega

lemma parseAccesses_inBounds_iff (data tlv) :
    (∀ x ∈ parseAccesses data tlv, x.InBounds data) ↔ TlvFits data tlv := by
  obtain ⟨type, index⟩ := tlv
  by_cases outside : data.length ≤ index
  · simp [parseAccesses, TlvFits, parseRecvAdvData, outside]
  have inside : index < data.length := by omega
  have head : Access.InBounds data ⟨index, 1, 1⟩ := ⟨inside, le_rfl⟩
  simp only [parseAccesses, TlvFits, parseRecvAdvData, List.getElem?_eq_getElem inside, inside,
    if_true, Option.mem_some_iff, forall_eq', singleton_append, forall_mem_cons, head, true_and]
  split_ifs with other last empty
  · simp [other.symm]
  · simp [not_lt.mpr last]
  · simp [empty, Nat.succ_le_of_lt inside]
  · have room := type.le_room_iff (Nat.mod_lt data[index].toNat (by decide : 0 < 16))
    simp [Access.InBounds, room, Decidable.not_not.mp other, not_le.mp last]

theorem accesses_inBounds_iff {a : Scanner} {data : List UInt8} {complete : Bool}
    (passed : a.scanFilter data complete) :
    (∀ x ∈ accesses data, x.InBounds data) ↔ ∀ tlv ∈ parses data, TlvFits data tlv := by
  have long : 14 ≤ data.length := by
    simp only [Scanner.scanFilter, Bool.and_eq_true, decide_eq_true_eq] at passed
    exact passed.1.1.1.1.2
  have hash : Access.InBounds data ⟨10, 2, 96⟩ := ⟨le_trans (by decide) long, by decide⟩
  have capability : Access.InBounds data ⟨12, 1, 4⟩ := ⟨le_trans (by decide) long, by decide⟩
  simp only [accesses, forall_mem_cons, hash, capability, true_and, forall_mem_flatMap,
    parseAccesses_inBounds_iff]

/-- An advertisement of the capability `hicall` with `tlvs` behind the fixed part. -/
def advertised (tlvs : Bytes) : Bytes := [2, 1, 2, 27, 22, 0xEE, 0xFD, 4, 5, 16, 0, 0, 1, 0] ++ tlvs

theorem accesses_inBounds_deviceType : (subscriber .hicall).scanFilter (advertised [0x21, 9]) true ∧
    ∀ x ∈ accesses (advertised [0x21, 9]), x.InBounds (advertised [0x21, 9]) := by
  have passed : (subscriber .hicall).scanFilter (advertised [0x21, 9]) true := by
    decide +kernel
  refine ⟨passed, (accesses_inBounds_iff passed).mpr ?_⟩
  simp [parses, advertised, parseRecvAdvData, TlvFits, TlvType.code]

/-- Fifteen bytes are copied where one is left, or two into the byte for the device type. -/
theorem accesses_not_inBounds :
    ((subscriber .hicall).scanFilter (advertised [0x1F, 0]) true ∧
      ¬ ∀ x ∈ accesses (advertised [0x1F, 0]), x.InBounds (advertised [0x1F, 0])) ∧
    (subscriber .hicall).scanFilter (advertised [0x22, 0, 0]) true ∧
      ¬ ∀ x ∈ accesses (advertised [0x22, 0, 0]), x.InBounds (advertised [0x22, 0, 0]) := by
  decide +kernel

/-- Of a broadcast that comes without its scan response, a BR address is read beyond the end. -/
theorem broadcast_inBounds_iff (b : Advertiser) (bits : BitVec 32) (rsp : Bool) :
    let data := received (buildBleConfigAdvData (b.getBroadcastData bits)) rsp
    (∀ x ∈ accesses data, x.InBounds data) ↔ b.brMac = none ∨ rsp := by
  obtain ⟨_, _, _, _, _, _, brMac⟩ := b
  cases brMac <;> cases rsp <;>
    simp [received, buildBleConfigAdvData, Advertiser.getBroadcastData, assembleTLV,
      boardcastMaxLen, advDataMaxLen, accesses, parses, parseAccesses, parseRecvAdvData, ofFn_succ,
      TlvType.code, TlvType.room, Access.InBounds]

/-- The last two bytes of a BR address are taken from behind the advertising data, where the
scan response has a head of its own. -/
theorem brMac_found_iff (b : Advertiser) (addr : Fin 6 → UInt8) (bits : BitVec 32) (rsp : Bool)
    (behind : List UInt8) :
    some (ofFn addr) = (getDeviceInfoFromDisAdvData (received (buildBleConfigAdvData
        ({ b with brMac := some addr }.getBroadcastData bits)) rsp) behind).map (·.bleMac) ↔
      [addr 4, addr 5] = if rsp then [5, 0xFF] else behind.take 2 := by
  cases rsp <;>
    simp [received, buildBleConfigAdvData, Advertiser.getBroadcastData, assembleTLV,
      boardcastMaxLen, advDataMaxLen, getDeviceInfoFromDisAdvData, parseRecvAdvData, ofFn_succ]

end DSoftBus.Disc
