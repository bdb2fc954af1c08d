import DSoftBus.Auth.Manager
import DSoftBus.Lib.RecentList

/-!
Encryption with the session keys (auth_sessionkey.c). A message starts with the number of
its key. The sender takes the newest key it has for the peer's address; the receiver looks
for the number together with the address. Two devices that have stored the same keys for
each other in the same order understand each other, whatever else they have stored, as
long as the receiver has not dropped the key.

Buffers are addressable, so the sum of a length and the overhead does not wrap.
-/
namespace DSoftBus.Auth
open ByteString RecentList List Option

def messageIndexLen : Nat := 4
def encryptOverHeadLen : Nat := overheadLen + messageIndexLen

/-- `strncmp(a, b, len) == 0` for two texts. -/
def strncmpEq (a b : Bytes) (len : Nat) : Bool := a.take len = b.take len

def SessionKeyList.ofDevice (key : SessionKeyList) (devInfo : NecessaryDevInfo) : Bool :=
  decide (key.devInfo.type = devInfo.type) &&
    strncmpEq key.devInfo.deviceKey devInfo.deviceKey devInfo.deviceKeyLen

def authGetLastSessionKey (devInfo : NecessaryDevInfo) (keys : List SessionKeyList) :
    Option SessionKeyList := keys.find? fun key => key.ofDevice devInfo

def getSessionKeyByDevinfo (devInfo : NecessaryDevInfo) (keys : List SessionKeyList) :
    Option SessionKeyList :=
  keys.find? fun key => decide (key.seq = devInfo.seq) && key.ofDevice devInfo

def authGetSessionKeyBySeq (seq : BitVec 32) (keys : List SessionKeyList) : Option SessionKeyList :=
  keys.find? fun key => key.seq = seq

variable (gcm : AesGcm) (iv : GcmIv)

/-- What AuthEncrypt and AuthEncryptBySeq do with the key they have found. The vector
`iv` is the random one. -/
def encryptWithKey (key : SessionKeyList) (data : Bytes) :
    Except SoftBusErrNo (AuthSideFlag × Bytes) :=
  if sessionKeyLength < key.sessionKey.length then .error .encryptErr
  else
    match softBusEncryptDataWithSeq gcm key.sessionKey iv data key.seq with
    | .error _ => .error .encryptErr
    | .ok encrypted => .ok (key.devInfo.side, putWord messageIndexLen key.seq ++ encrypted)

def authEncryptBySeq (seq : BitVec 32) (data : Bytes)
    (bufLen : Nat) (keys : List SessionKeyList) : Except SoftBusErrNo (AuthSideFlag × Bytes) :=
  if bufLen < data.length + encryptOverHeadLen then .error .invalidParam
  else
    match authGetSessionKeyBySeq seq keys with
    | none => .error .encryptErr
    | some key => encryptWithKey gcm iv key data

variable (option : ConnectOption)

/-- The `devInfo` of an option, as AuthEncrypt and AuthDecrypt fill it. -/
def devInfoOf (side : AuthSideFlag) (seq : BitVec 32) : Option NecessaryDevInfo :=
  (authGetDeviceKey option).map fun deviceKey =>
    ⟨option.type, deviceKey.1, deviceKey.2, side, seq⟩

def authEncrypt (data : Bytes)
    (bufLen : Nat) (keys : List SessionKeyList) : Except SoftBusErrNo (AuthSideFlag × Bytes) :=
  if bufLen < data.length + encryptOverHeadLen then .error .invalidParam
  else
    match devInfoOf option .client 0 with
    | none => .error .encryptErr
    | some devInfo =>
      match authGetLastSessionKey devInfo keys with
      | none => .error .encryptErr
      | some key => encryptWithKey gcm iv key data

/-- The length wraps when the message is shorter than the overhead; no buffer is as long as
that. -/
def authDecrypt (gcm : AesGcm) (option : ConnectOption) (side : AuthSideFlag)
    (data : Bytes) (bufLen : Nat) (keys : List SessionKeyList) :
    Except SoftBusErrNo Bytes :=
  if data.length < encryptOverHeadLen ∨ bufLen < data.length - encryptOverHeadLen then
    .error .invalidParam
  else
    match devInfoOf option side (getWord 32 4 data) with
    | none => .error .encryptErr
    | some devInfo =>
      match getSessionKeyByDevinfo devInfo keys with
      | none => .error .encryptErr
      | some key =>
        if sessionKeyLength < key.sessionKey.length then .error .encryptErr
        else
          match softBusDecryptData gcm key.sessionKey (data.drop messageIndexLen) with
          | .error _ => .error .encryptErr
          | .ok plain => .ok plain

/-- A session key as it is stored: for a peer with an address, and no longer than the
buffers it is copied into. -/
structure StoredKey where
  option : ConnectOption
  side : AuthSideFlag
  seq : BitVec 32
  peerUdid : Bytes
  sessionKey : Bytes
  addressed : option.type ≠ .ble
  udid_fits : peerUdid.length ≤ udidBufLen
  key_fits : sessionKey.length ≤ sessionKeyLength

namespace StoredKey

variable (stored : StoredKey)

def devInfo : NecessaryDevInfo :=
  let len := if stored.option.type = .br then btMacLen else ipLen
  ⟨stored.option.type, stored.option.address.take len, len, stored.side, stored.seq⟩

def key : SessionKeyList := ⟨stored.devInfo, stored.sessionKey, stored.peerUdid⟩

lemma sessionKey_key : stored.key.sessionKey = stored.sessionKey := rfl

def isFor (option : ConnectOption) (stored : StoredKey) : Bool :=
  stored.option.type = option.type ∧ authGetDeviceKey stored.option = authGetDeviceKey option

def pair : BitVec 32 × Bytes := (stored.seq, stored.sessionKey)

lemma devInfoOf_eq : devInfoOf stored.option stored.side stored.seq = some stored.devInfo := by
  obtain ⟨⟨type, address, port⟩, side, seq, udid, key, addressed, _, _⟩ := stored
  cases type with
  | tcp | br => rfl
  | ble => exact absurd rfl addressed

lemma deviceKeyLen_le : stored.devInfo.deviceKeyLen ≤ maxDeviceKeyLen := by
  unfold devInfo
  dsimp only
  split <;> decide

lemma key_ofDevice {option side seq devInfo} (hInfo : devInfoOf option side seq = some devInfo) :
    stored.key.ofDevice devInfo = stored.isFor option := by
  obtain ⟨⟨type, address, port⟩, _, _, _, _, addressed, _, _⟩ := stored
  obtain ⟨type', address', port'⟩ := option
  obtain ⟨deviceKey, hKey, rfl⟩ := map_eq_some_iff.mp hInfo
  rw [Bool.eq_iff_iff, SessionKeyList.ofDevice, isFor, Bool.and_eq_true, decide_eq_true_eq,
    decide_eq_true_eq]
  refine and_congr_right fun same => ?_
  change type = type' at same
  subst same
  rw [hKey]
  cases type with
  | ble => exact absurd rfl addressed
  | tcp | br =>
    cases hKey
    simp [strncmpEq, authGetDeviceKey, StoredKey.key, StoredKey.devInfo, take_take]

end StoredKey

open StoredKey

variable (history : List StoredKey)

/-- The key list of a device that has stored these keys, the oldest first. -/
def keysAfter : List SessionKeyList :=
  history.foldl (fun keys stored =>
    (authSetLocalSessionKey true stored.devInfo stored.peerUdid stored.sessionKey keys).1) []

def pairsFor : List (BitVec 32 × Bytes) :=
  (history.filter (isFor option)).map pair

lemma authSetLocalSessionKey_stored (stored : StoredKey) (keys : List SessionKeyList) :
    authSetLocalSessionKey true stored.devInfo stored.peerUdid stored.sessionKey keys =
      (push maxKeyListSize stored.key keys, true) := by
  refine if_neg ?_
  have device := stored.deviceKeyLen_le
  have udid := stored.udid_fits
  have key := stored.key_fits
  simp only [Bool.true_eq_false, false_or]
  omega

lemma keysAfter_eq :
    keysAfter history = (history.reverse.take maxKeyListSize).map key := by
  have collected : keysAfter history = collect maxKeyListSize (history.map key) := by
    simp only [keysAfter, collect, foldl_map, authSetLocalSessionKey_stored]
  rw [collected, collect_eq_take (by decide), ← map_reverse, ← map_take]

lemma find?_isFor_pair : (history.reverse.find? (isFor option)).map pair =
      (pairsFor option history).getLast? := by
  rw [pairsFor, getLast?_map, getLast?_eq_head?_reverse, ← filter_reverse, head?_filter]

section
variable {gcm : AesGcm} {iv : GcmIv} {history : List StoredKey} {option : ConnectOption}
  {data message : Bytes} {side : AuthSideFlag} {bufLen : Nat}

lemma authEncrypt_eq_ok
    (enc : authEncrypt gcm iv option data bufLen (keysAfter history) = .ok (side, message)) :
    ∃ stored body, history.reverse.find? (isFor option) = some stored ∧
      softBusEncryptDataWithSeq gcm stored.sessionKey iv data stored.seq = .ok body ∧
      message = putWord messageIndexLen stored.seq ++ body := by
  unfold authEncrypt at enc
  split at enc
  · cases enc
  split at enc
  · cases enc
  rename_i devInfo hInfo
  split at enc
  · cases enc
  rename_i key found
  rw [authGetLastSessionKey, keysAfter_eq, find?_map] at found
  obtain ⟨stored, hStored, rfl⟩ := map_eq_some_iff.mp found
  simp only [Function.comp_def, key_ofDevice _ hInfo] at hStored
  unfold encryptWithKey at enc
  split at enc
  · cases enc
  split at enc
  · cases enc
  rename_i body hBody
  cases enc
  exact ⟨stored, body, find?_of_find?_take hStored, hBody, rfl⟩

/-- A message whose number and key are those of the newest key for the address is
understood, if that key is still in the list. -/
lemma authDecrypt_eq_ok {stored body}
    (newest : history.reverse.find? (isFor option) = some stored)
    (recent : history.reverse.findIdx (isFor option) < maxKeyListSize)
    (hBody : softBusEncryptDataWithSeq gcm stored.sessionKey iv data stored.seq = .ok body)
    (room : data.length ≤ bufLen) (side) :
    authDecrypt gcm option side (putWord messageIndexLen stored.seq ++ body) bufLen
      (keysAfter history) = .ok data := by
  have len : (putWord messageIndexLen stored.seq ++ body).length =
      data.length + encryptOverHeadLen := by
    rw [length_append, length_putWord, length_softBusEncryptData hBody]
    simp only [encryptOverHeadLen]
    omega
  have isFor : stored.isFor option := find?_some newest
  have hInfo : ∃ devInfo, devInfoOf option side stored.seq = some devInfo := by
    have same := (of_decide_eq_true isFor).2
    have own := stored.devInfoOf_eq
    rw [devInfoOf, same] at own
    obtain ⟨deviceKey, hKey, _⟩ := map_eq_some_iff.mp own
    exact ⟨_, map_eq_some_iff.mpr ⟨deviceKey, hKey, rfl⟩⟩
  obtain ⟨devInfo, hInfo⟩ := hInfo
  have seq : devInfo.seq = stored.seq := by
    obtain ⟨_, _, rfl⟩ := map_eq_some_iff.mp hInfo
    rfl
  have found : getSessionKeyByDevinfo devInfo (keysAfter history) = some stored.key := by
    rw [getSessionKeyByDevinfo, keysAfter_eq, find?_map, map_eq_some_iff]
    refine ⟨stored, ?_, rfl⟩
    have same : (fun s : StoredKey => decide (s.key.seq = devInfo.seq) && s.key.ofDevice devInfo) =
        fun s => decide (s.seq = devInfo.seq) && s.isFor option := by
      funext s
      rw [s.key_ofDevice hInfo]
      rfl
    have kept := (find?_take_of_findIdx_lt recent).trans newest
    rw [Function.comp_def, same]
    exact find?_and_of_find? kept (decide_eq_true seq.symm)
  have number : getWord 32 4 (putWord messageIndexLen stored.seq ++ body) = stored.seq :=
    getWord_putWord_append (by decide) _ _
  rw [authDecrypt, len, if_neg (by omega), number, hInfo]
  dsimp only
  rw [found]
  dsimp only
  have plain : softBusDecryptData gcm stored.sessionKey body = .ok data :=
    softBusDecryptData_encrypted hBody
  rw [sessionKey_key, if_neg (not_lt.mpr stored.key_fits),
    drop_putWord_append le_rfl, Nat.sub_self, drop_zero, plain]

/-- A message was made with a key that the receiver also stored last for the sender. -/
lemma authEncrypt_shared {optionA optionB historyA historyB}
    (shared : pairsFor optionB historyA = pairsFor optionA historyB)
    (enc : authEncrypt gcm iv optionB data bufLen (keysAfter historyA) = .ok (side, message)) :
    ∃ stored body, historyB.reverse.find? (isFor optionA) = some stored ∧
      softBusEncryptDataWithSeq gcm stored.sessionKey iv data stored.seq = .ok body ∧
      message = putWord messageIndexLen stored.seq ++ body := by
  obtain ⟨own, body, hOwn, hBody, rfl⟩ := authEncrypt_eq_ok enc
  have same := find?_isFor_pair optionB historyA
  rw [shared, ← find?_isFor_pair, hOwn] at same
  obtain ⟨stored, hStored, hPair⟩ := map_eq_some_iff.mp same.symm
  obtain ⟨seq, key⟩ := Prod.mk.inj hPair
  rw [← seq, ← key] at hBody
  exact ⟨stored, body, hStored, hBody, by rw [seq]⟩

/-- Two devices with the same numbers and keys for each other, in the same order, and anything
for others. -/
theorem authDecrypt_authEncrypt {optionA optionB : ConnectOption}
    {historyA historyB : List StoredKey}
    (shared : pairsFor optionB historyA = pairsFor optionA historyB)
    (recent : historyB.reverse.findIdx (isFor optionA) < maxKeyListSize)
    (encrypted : authEncrypt gcm iv optionB data bufLen (keysAfter historyA) = .ok (side, message))
    {outLen : Nat} (room : data.length ≤ outLen) (sideB : AuthSideFlag) :
    authDecrypt gcm optionA sideB message outLen (keysAfter historyB) = .ok data := by
  obtain ⟨stored, body, hStored, hBody, rfl⟩ := authEncrypt_shared shared encrypted
  exact authDecrypt_eq_ok hStored recent hBody room sideB

end

section

def macOption (mac : String) : ConnectOption := ⟨.br, cString mac, 0⟩

def sampleKey (mac : String) (seq : BitVec 32) (key : UInt8) (side : AuthSideFlag) : StoredKey :=
  ⟨macOption mac, side, seq, [], [key], nofun, Nat.zero_le _, show 1 ≤ 32 by decide⟩

/-- A device stores two keys for a peer, and one for another device in between. -/
def sampleHistoryA : List StoredKey :=
  [sampleKey "B" 5 1 .client, sampleKey "C" 9 8 .server, sampleKey "B" 6 2 .client]

def sampleHistoryB : List StoredKey :=
  [sampleKey "A" 5 1 .server, sampleKey "A" 6 2 .server, sampleKey "D" 4 3 .client]

theorem authDecrypt_authEncrypt_two_keys : ∃ side message,
      authEncrypt .identity ⟨replicate 12 7, rfl⟩ (macOption "B") [1, 2, 3] 40
        (keysAfter sampleHistoryA) = .ok (side, message) ∧
      authDecrypt .identity (macOption "A") .server message 3 (keysAfter sampleHistoryB) =
        .ok [1, 2, 3] := by
  have shared : pairsFor (macOption "B") sampleHistoryA =
      pairsFor (macOption "A") sampleHistoryB := by
    decide +kernel
  have recent : sampleHistoryB.reverse.findIdx (isFor (macOption "A")) <
      maxKeyListSize := by
    decide +kernel
  cases hMessage : authEncrypt .identity ⟨replicate 12 7, rfl⟩ (macOption "B") [1, 2, 3] 40
      (keysAfter sampleHistoryA) with
  | error e => cases hMessage
  | ok result =>
    exact ⟨_, _, rfl, authDecrypt_authEncrypt shared recent hMessage (by decide) _⟩

end

end DSoftBus.Auth
