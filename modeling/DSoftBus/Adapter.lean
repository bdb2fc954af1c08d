import DSoftBus.Lib.ByteString

/-!
The return codes, the allocation and copy functions with their size checks, the reading of
JSON objects (softbus_json_utils.c), the check of a string (softbus_utils.c) and the data
encryption of softbus_adapter_crypto.c.

An allocation that passes its size check succeeds. A buffer is the list of its bytes; a
copy that would leave it fails as `memcpy_s` does. Of AES-GCM only the lengths and that
decryption inverts encryption are assumed.
-/
namespace DSoftBus
open ByteString List

inductive SoftBusErrNo where
  | ok
  | err
  | invalidParam
  | memErr
  | mallocErr
  | lockErr
  | noInit
  | encryptErr
  | decryptErr
  | timout
  | dataNotEnough
  | sliceError
  | transInvalidDataLength
  | transProxySessEncryptErr
  | transProxyPackmsgErr
  | transProxySendmsgErr
  | transProxySendChannelidInvalid
  | transProxyChannleStatusInvalid
  | transProxyInvalidSliceHead
  | transProxyAssemblePackNoInvalid
  | transProxyAssemblePackExceedLength
  | transProxyAssemblePackDataNull
  | connectionErrSendqueueFull
  | brconnectionPostbytesError
deriving DecidableEq

def udidBufLen : Nat := 65

def isValidString (input : Bytes) (maxLen : Nat) : Bool :=
  input.length ≠ 0 && input.length < maxLen

def maxMallocSize : Nat := 512 * 1024 * 1024

/-- An empty request fails as well, in the `memset_s` that clears the memory. -/
def softBusCalloc (size : Nat) : Option Bytes :=
  if size = 0 ∨ maxMallocSize < size then none else some (replicate size 0)

/-- `memcpy_s(dest + off, dest.length - off, src, src.length)`. -/
def memcpyS (dest : Bytes) (off : Nat) (src : Bytes) : Option Bytes :=
  if dest.length - off = 0 ∨ dest.length - off < src.length then none
  else some (overwrite dest off src)

lemma softBusCalloc_eq_some {size} (positive : 0 < size) (small : size ≤ maxMallocSize) :
    softBusCalloc size = some (replicate size 0) :=
  if_neg (by omega)

lemma memcpyS_eq_some {dest src off} (inside : off < dest.length)
    (fits : off + src.length ≤ dest.length) :
    memcpyS dest off src = some (overwrite dest off src) :=
  if_neg (by omega)

/-- The bytes of a C string without its terminator. -/
def cString (text : String) : Bytes := text.toUTF8.data.toList

/-- A member of a parsed object. The numbers of the modelled messages are whole. -/
inductive JsonItem where
  | string (valuestring : Bytes)
  | number (value : Int)
  | other

abbrev JsonObject := List (String × JsonItem)

def getJsonObjectStringItem (json : JsonObject) (name : String) (targetLen : Nat) : Option Bytes :=
  match json.lookup name with
  | some (.string valuestring) =>
    if targetLen ≤ valuestring.length then none else some valuestring
  | _ => none

def getJsonObjectNumberItem (json : JsonObject) (name : String) : Option (BitVec 32) :=
  match json.lookup name with
  | some (.number value) => if value < 0 then none else some (BitVec.ofInt 32 value)
  | _ => none

def gcmIvLen : Nat := 12
def tagLen : Nat := 16
def overheadLen : Nat := gcmIvLen + tagLen

structure GcmIv where
  bytes : Bytes
  length_bytes : bytes.length = gcmIvLen

def GcmIv.zero : GcmIv := ⟨replicate gcmIvLen 0, rfl⟩

/-- AES-GCM as mbedtls computes it: encryption gives the cipher text and the tag. -/
structure AesGcm where
  cryptAndTag : (key iv plain : Bytes) → Bytes × Bytes
  authDecrypt : (key iv tag cipher : Bytes) → Option Bytes
  length_cipher : ∀ key iv plain, (cryptAndTag key iv plain).1.length = plain.length
  length_tag : ∀ key iv plain, (cryptAndTag key iv plain).2.length = tagLen
  length_plain : ∀ key iv tag cipher plain,
    authDecrypt key iv tag cipher = some plain → plain.length = cipher.length
  authDecrypt_cryptAndTag : ∀ key iv plain,
    authDecrypt key iv (cryptAndTag key iv plain).2 (cryptAndTag key iv plain).1 = some plain

/-- No encryption and an empty tag: the least that meets the assumptions. -/
def AesGcm.identity : AesGcm where
  cryptAndTag _ _ plain := (plain, replicate tagLen 0)
  authDecrypt _ _ _ cipher := some cipher
  length_cipher _ _ _ := rfl
  length_tag _ _ _ := length_replicate
  length_plain := by
    intro key iv tag cipher plain h
    cases h
    rfl
  authDecrypt_cryptAndTag _ _ _ := rfl

section
variable (gcm : AesGcm) (key : Bytes)

/-- `none` stands for a result that is not positive. -/
def mbedAesGcmEncrypt (iv : GcmIv) (plainText : Bytes) : Option Bytes :=
  if plainText.length = 0 then none
  else some (iv.bytes ++ (gcm.cryptAndTag key iv.bytes plainText).1 ++
    (gcm.cryptAndTag key iv.bytes plainText).2)

def mbedAesGcmDecrypt (iv cipherText : Bytes) : Option Bytes :=
  if cipherText.length ≤ overheadLen then none
  else
    let actualPlainLen := cipherText.length - overheadLen
    gcm.authDecrypt key iv ((cipherText.drop (actualPlainLen + gcmIvLen)).take tagLen)
      ((cipherText.drop gcmIvLen).take actualPlainLen)

def softBusEncryptData (iv : GcmIv) (input : Bytes) : Except SoftBusErrNo Bytes :=
  if input.length = 0 then .error .invalidParam
  else
    match mbedAesGcmEncrypt gcm key iv input with
    | none => .error .encryptErr
    | some encryptData => .ok encryptData

/-- The first four bytes of the random vector are replaced by the sequence number. -/
def GcmIv.withSeq (iv : GcmIv) (seqNum : BitVec 32) : GcmIv :=
  ⟨putWord 4 seqNum ++ iv.bytes.drop 4, by
    rw [length_append, length_putWord, length_drop, iv.length_bytes]; rfl⟩

def softBusEncryptDataWithSeq (iv : GcmIv) (input : Bytes) (seqNum : BitVec 32) :
    Except SoftBusErrNo Bytes := softBusEncryptData gcm key (iv.withSeq seqNum) input

def softBusDecryptData (input : Bytes) : Except SoftBusErrNo Bytes :=
  if input.length < gcmIvLen then .error .invalidParam
  else
    match mbedAesGcmDecrypt gcm key (input.take gcmIvLen) input with
    | none => .error .encryptErr
    | some decryptData => .ok decryptData

end

section
variable {gcm : AesGcm} {key : Bytes} {input encrypted : Bytes} {iv : GcmIv}

lemma softBusEncryptData_eq_ok (nonempty : 0 < input.length) :
    softBusEncryptData gcm key iv input = .ok (iv.bytes ++ (gcm.cryptAndTag key iv.bytes input).1 ++
        (gcm.cryptAndTag key iv.bytes input).2) := by
  simp [softBusEncryptData, mbedAesGcmEncrypt, Nat.ne_of_gt nonempty]

lemma length_softBusEncryptData (h : softBusEncryptData gcm key iv input = .ok encrypted) :
    encrypted.length = input.length + overheadLen := by
  by_cases nonempty : 0 < input.length
  · rw [softBusEncryptData_eq_ok nonempty] at h
    cases h
    simp only [length_append, iv.length_bytes, gcm.length_cipher, gcm.length_tag, overheadLen]
    omega
  · simp [softBusEncryptData, Nat.eq_zero_of_not_pos nonempty] at h

lemma softBusDecryptData_encrypted (h : softBusEncryptData gcm key iv input = .ok encrypted) :
    softBusDecryptData gcm key encrypted = .ok input := by
  have len := length_softBusEncryptData h
  by_cases nonempty : 0 < input.length
  · rw [softBusEncryptData_eq_ok nonempty] at h
    cases h
    have cipherLen := gcm.length_cipher key iv.bytes input
    have length := gcm.length_tag key iv.bytes input
    have opens := gcm.authDecrypt_cryptAndTag key iv.bytes input
    generalize gcm.cryptAndTag key iv.bytes input = out at *
    obtain ⟨cipher, tag⟩ := out
    have front : (iv.bytes ++ cipher ++ tag).take gcmIvLen = iv.bytes := by
      rw [append_assoc, take_left' iv.length_bytes]
    have body : ((iv.bytes ++ cipher ++ tag).drop gcmIvLen).take input.length = cipher := by
      rw [append_assoc, drop_left' iv.length_bytes, take_left' cipherLen]
    have back : ((iv.bytes ++ cipher ++ tag).drop (input.length + gcmIvLen)).take tagLen = tag := by
      have split : (iv.bytes ++ cipher).length = input.length + gcmIvLen := by
        rw [length_append, iv.length_bytes, cipherLen, add_comm]
      rw [drop_left' split, ← length, take_length]
    have notShort : ¬ input.length + overheadLen < gcmIvLen := by
      simp only [overheadLen]; omega
    have notEmpty : ¬ input.length + overheadLen ≤ overheadLen := by omega
    rw [softBusDecryptData, mbedAesGcmDecrypt, len, if_neg notShort, if_neg notEmpty,
      Nat.add_sub_cancel]
    simp only [front, body, back, opens]
  · simp [softBusEncryptData, Nat.eq_zero_of_not_pos nonempty] at h

end
end DSoftBus
