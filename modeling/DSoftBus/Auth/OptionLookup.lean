import DSoftBus.Auth.Session
import DSoftBus.Auth.SessionKey

/-!
The searches for a live auth by the address of its connection and by the udid of its peer.
An IP address is compared over the length of the auth's text, a udid over that of the
argument, and the type of the auth's own option is not looked at.

What an auth must not look like for exact answers is stated for all lists with auths from
a given set.
-/
namespace DSoftBus.Auth
open RecordHeap

/-- The test of AuthGetIdByOption and AuthGetUuidByOption. -/
def AuthManager.answers (option : ConnectOption) (auth : AuthManager) : Bool :=
  (option.type = .tcp && strncmpEq auth.option.address option.address auth.option.address.length) ||
    (option.type = .br && strncmpEq auth.option.address option.address btMacLen)

variable (s : AuthState) (option : ConnectOption)

def findByOption : Option (Nat × AuthManager) :=
  (s.auths.first? fun auth => auth.side = .client && auth.answers option).or
    (s.auths.first? fun auth => auth.side = .server && auth.answers option)

def authGetIdByOption : Option (BitVec 64) := (findByOption s option).map (·.2.authId)

/-- `strncpy_s` fails when the uuid and its terminator do not fit. -/
def authGetUuidByOption (bufLen : Nat) : Option Bytes :=
  match findByOption s option with
  | some (_, auth) => if auth.peerUuid.length < bufLen then some auth.peerUuid else none
  | none => none

def SameAddress (option : ConnectOption) (auth : AuthManager) : Prop :=
  auth.option.type = option.type ∧ auth.option.address = option.address

/-- Each search answers with a live auth that has the address or the udid asked for. -/
structure LookupsExact (s : AuthState) (option : ConnectOption) (peerUdid : Bytes) : Prop where
  id : ∀ authId, authGetIdByOption s option = some authId →
    ∃ h auth, s.auths.get? h = some auth ∧ auth.authId = authId ∧ SameAddress option auth
  uuid : ∀ bufLen uuid, authGetUuidByOption s option bufLen = some uuid →
    ∃ h auth, s.auths.get? h = some auth ∧ auth.peerUuid = uuid ∧ SameAddress option auth
  udid : ∀ h, getAuthByPeerUdid s peerUdid = some h →
    ∃ auth, s.auths.get? h = some auth ∧ auth.peerUdid = peerUdid

/-- An IP address that starts with the text of the auth is that text, and the auth a TCP
one; an auth with the text of a MAC address is a BR one; and the udid asked for is not a
shorter start of the auth's udid. -/
structure Distinguished (option : ConnectOption) (peerUdid : Bytes) (auth : AuthManager) :
    Prop where
  ip : option.type = .tcp → auth.option.address <+: option.address →
    auth.option.type = .tcp ∧ auth.option.address.length = option.address.length
  mac : option.type = .br → auth.option.address = option.address → auth.option.type = .br
  udid : peerUdid <+: auth.peerUdid → auth.peerUdid.length = peerUdid.length

section
variable {s : AuthState} {option : ConnectOption} {peerUdid : Bytes} {auth : AuthManager}
  {h : Nat}

lemma take_length_eq_iff {a b : Bytes} : b.take a.length = a ↔ a <+: b := by
  rw [List.prefix_iff_eq_take, eq_comm]

/-- The comparison with BT_MAC_LEN takes in the terminator of the text. -/
lemma take_btMacLen_eq_iff {a b : Bytes} (fits : b.length < btMacLen) :
    a.take btMacLen = b.take btMacLen ↔ a = b := by
  refine ⟨fun same => ?_, fun same => by rw [same]⟩
  rw [List.take_of_length_le fits.le] at same
  have lengths := congrArg List.length same
  rw [List.length_take] at lengths
  rwa [List.take_of_length_le (by omega)] at same

lemma answers_iff (fits : option.type = .br → option.address.length < btMacLen) :
    auth.answers option ↔ (option.type = .tcp ∧ auth.option.address <+: option.address) ∨
        (option.type = .br ∧ auth.option.address = option.address) := by
  cases type : option.type with
  | tcp => simp [AuthManager.answers, strncmpEq, type, ← take_length_eq_iff, eq_comm]
  | br => simp [AuthManager.answers, strncmpEq, type, take_btMacLen_eq_iff (fits type)]
  | ble => simp [AuthManager.answers, type]

lemma sameAddress_of_answers (fits : option.type = .br → option.address.length < btMacLen)
    (distinguished : Distinguished option peerUdid auth) (matched : auth.answers option) :
    SameAddress option auth := by
  cases (answers_iff fits).mp matched with
  | inl tcp =>
    have exact_ := distinguished.ip tcp.1 tcp.2
    exact ⟨exact_.1.trans tcp.1.symm, tcp.2.eq_of_length exact_.2⟩
  | inr br => exact ⟨(distinguished.mac br.1 br.2).trans br.1.symm, br.2⟩

lemma get?_of_findByOption (found : findByOption s option = some (h, auth)) :
    s.auths.get? h = some auth ∧ auth.answers option := by
  cases Option.or_eq_some_iff.mp found with
  | inl client =>
    have held := get?_of_first? client
    exact ⟨held.1, (Bool.and_eq_true_iff.mp held.2).2⟩
  | inr server =>
    have held := get?_of_first? server.2
    exact ⟨held.1, (Bool.and_eq_true_iff.mp held.2).2⟩

lemma get?_of_getAuthByPeerUdid (found : getAuthByPeerUdid s peerUdid = some h) :
    ∃ auth, s.auths.get? h = some auth ∧ peerUdid <+: auth.peerUdid := by
  cases Option.or_eq_some_iff.mp found with
  | inl client =>
    obtain ⟨auth, held, test⟩ := get?_of_find? client
    exact ⟨auth, held, take_length_eq_iff.mp (of_decide_eq_true test).2⟩
  | inr server =>
    obtain ⟨auth, held, test⟩ := get?_of_find? server.2
    exact ⟨auth, held, take_length_eq_iff.mp (of_decide_eq_true test).2⟩

lemma lookupsExact_of_distinguished (fits : option.type = .br → option.address.length < btMacLen)
    (distinguished : ∀ h auth, s.auths.get? h = some auth → Distinguished option peerUdid auth) :
    LookupsExact s option peerUdid where
  id authId found := by
    obtain ⟨⟨h, auth⟩, search, rfl⟩ := Option.map_eq_some_iff.mp found
    have held := get?_of_findByOption search
    exact ⟨h, auth, held.1, rfl, sameAddress_of_answers fits (distinguished h auth held.1) held.2⟩
  uuid bufLen uuid found := by
    rw [authGetUuidByOption] at found
    split at found
    next h auth search =>
      have held := get?_of_findByOption search
      split at found
      · cases found
        exact ⟨h, auth, held.1, rfl,
          sameAddress_of_answers fits (distinguished h auth held.1) held.2⟩
      · cases found
    · cases found
  udid h found := by
    obtain ⟨auth, held, start⟩ := get?_of_getAuthByPeerUdid found
    have lengths := (distinguished h auth held).udid start
    exact ⟨auth, held, (start.eq_of_length lengths.symm).symm⟩

end

def onlyAuth (auth : AuthManager) : AuthState := ⟨empty.alloc auth, [], 0⟩

section
variable {option : ConnectOption} {peerUdid : Bytes} {auth live : AuthManager} {h : Nat}

lemma get?_onlyAuth (found : (onlyAuth auth).auths.get? h = some live) : live = auth := by
  cases get?_alloc_eq_some found with
  | inl new => exact new.2
  | inr old => cases old

lemma findByOption_onlyAuth (matched : auth.answers option) :
    findByOption (onlyAuth auth) option = some (0, auth) := by
  cases side : auth.side <;>
    simp [findByOption, first?, onlyAuth, alloc, empty, side, matched]

lemma getAuthByPeerUdid_onlyAuth (start : peerUdid <+: auth.peerUdid) :
    getAuthByPeerUdid (onlyAuth auth) peerUdid = some 0 := by
  have matched := take_length_eq_iff.mpr start
  cases side : auth.side <;>
    simp [getAuthByPeerUdid, find?, onlyAuth, alloc, empty, side, matched]

lemma distinguished_of_lookupsExact (fits : option.type = .br → option.address.length < btMacLen)
    (lookups : LookupsExact (onlyAuth auth) option peerUdid) :
    Distinguished option peerUdid auth := by
  have same (matched : auth.answers option) : SameAddress option auth := by
    obtain ⟨h, live, held, _, same⟩ := lookups.id auth.authId
      (by rw [authGetIdByOption, findByOption_onlyAuth matched]; rfl)
    rwa [← get?_onlyAuth held]
  refine ⟨fun tcp start => ?_, fun br text => ?_, fun start => ?_⟩
  · have found := same ((answers_iff fits).mpr (.inl ⟨tcp, start⟩))
    exact ⟨found.1.trans tcp, congrArg List.length found.2⟩
  · exact (same ((answers_iff fits).mpr (.inr ⟨br, text⟩))).1.trans br
  · obtain ⟨live, held, udid⟩ := lookups.udid 0 (getAuthByPeerUdid_onlyAuth start)
    rw [← get?_onlyAuth held, udid]

end

theorem lookups_exact_iff (option : ConnectOption) (peerUdid : List UInt8)
    (fits : option.type = .br → option.address.length < btMacLen)
    (mayLive : AuthManager → Prop) :
    (∀ s : AuthState, (∀ h auth, s.auths.get? h = some auth → mayLive auth) →
        LookupsExact s option peerUdid) ↔
      ∀ auth, mayLive auth → Distinguished option peerUdid auth := by
  refine ⟨fun lookups auth live => ?_, fun distinguished s lives => ?_⟩
  · refine distinguished_of_lookupsExact fits (lookups (onlyAuth auth) fun h other held => ?_)
    rwa [get?_onlyAuth held]
  · exact lookupsExact_of_distinguished fits fun h auth held =>
      distinguished auth (lives h auth held)

def ipAuth (ip : String) : AuthManager :=
  clientAuth (some .lnn) .authPassed 1 1 1 ⟨.tcp, cString ip, 6000⟩

theorem lookups_exact_other_host :
    LookupsExact (onlyAuth (ipAuth "10.0.0.2")) ⟨.tcp, cString "10.0.0.10", 0⟩ (cString "A") := by
  refine (lookups_exact_iff _ _ (by decide) (· = ipAuth "10.0.0.2")).mpr ?_ _
    fun h auth held => get?_onlyAuth held
  intro auth same
  rw [same]
  exact ⟨by decide, by decide, by decide⟩

/-- The auth of 10.0.0.1 is taken for one of 10.0.0.10, and an empty udid finds it. -/
theorem lookup_of_longer_address :
    authGetIdByOption (onlyAuth (ipAuth "10.0.0.1")) ⟨.tcp, cString "10.0.0.10", 0⟩ = some 1 ∧
      getAuthByPeerUdid (onlyAuth { ipAuth "10.0.0.1" with peerUdid := cString "A" }) [] = some 0 ∧
      ¬ LookupsExact (onlyAuth (ipAuth "10.0.0.1")) ⟨.tcp, cString "10.0.0.10", 0⟩ [] := by
  refine ⟨by decide, by decide, fun lookups => ?_⟩
  have distinguished := distinguished_of_lookupsExact (by decide) lookups
  exact absurd (distinguished.ip rfl (by decide)).2 (by decide)

end DSoftBus.Auth
