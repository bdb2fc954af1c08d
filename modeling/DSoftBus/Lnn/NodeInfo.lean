import DSoftBus.Lnn.Map

/-!
What the ledger and the net builder know about a peer: the node record of lnn_node_info.h,
as far as it is used, the connection addresses of softbus_common.h and the helpers of
lnn_connection_addr_utils.c. The members of the address union all start with their string,
so an address keeps one string whatever its type.
-/
namespace DSoftBus.Lnn

/-- The test `strncmp(s, t, n) == 0`. -/
def CString.sameUpTo (n : Nat) (s t : CString) : Bool := decide (s.bytes.take n = t.bytes.take n)

/-- The order of `strcmp`, with its sign and the difference of the first bytes that differ. -/
def strcmpBytes : Bytes → Bytes → Int
  | [], [] => 0
  | [], b :: _ => -(b.toNat : Int)
  | a :: _, [] => a.toNat
  | a :: s, b :: t => if a = b then strcmpBytes s t else a.toNat - b.toNat

def strcmp (s t : CString) : Int := strcmpBytes s.bytes t.bytes

def emptyString : CString where
  bytes := []
  noNul := List.not_mem_nil

inductive ConnectionAddrType where
  | wlan
  | br
  | ble
  | eth
  | mix
  | max
deriving DecidableEq

structure ConnectionAddr where
  type : ConnectionAddrType
  /-- `brMac`, `bleMac` or `ip`. -/
  text : CString
  port : BitVec 16
deriving DecidableEq

inductive ConnectOption where
  | br (brMac : CString)
  | ble (bleMac : CString)
  | tcp (ip : CString) (port : BitVec 16)
deriving DecidableEq

def btMacLen : Nat := 18
def ipLen : Nat := 46

def lnnIsSameConnectionAddr (addr1 addr2 : ConnectionAddr) : Bool :=
  if addr1.type ≠ addr2.type then false
  else
    match addr1.type with
    | .br | .ble => CString.sameUpTo btMacLen addr1.text addr2.text
    | .wlan | .eth =>
      CString.sameUpTo addr1.text.strlen addr1.text addr2.text && addr1.port == addr2.port
    | .mix | .max => false

/-- `strncpy_s` of a whole string into a buffer of `destMax` bytes. -/
def strncpyS (destMax : Nat) (s : CString) : Option CString :=
  if s.strlen < destMax then some s else none

def lnnConvertAddrToOption (addr : ConnectionAddr) : Option ConnectOption :=
  match addr.type with
  | .br => (strncpyS btMacLen addr.text).map .br
  | .ble => (strncpyS btMacLen addr.text).map .ble
  | .eth | .wlan => (strncpyS ipLen addr.text).map fun ip => .tcp ip addr.port
  | .mix | .max => none

inductive ConnectStatus where
  | offline
  | online
deriving DecidableEq

inductive DiscoveryType where
  | unknown
  | wifi
  | ble
  | br
  | p2p
  | count

def DiscoveryType.bit : DiscoveryType → BitVec 32
  | .unknown => 1
  | .wifi => 2
  | .ble => 4
  | .br => 8
  | .p2p => 16
  | .count => 32

inductive ReportCategory where
  | none
  | online
  | change
  | offline
deriving DecidableEq

structure ConnectInfo where
  deviceIp : CString
  macAddr : CString
  authPort : Int
  proxyPort : Int
  sessionPort : Int
deriving DecidableEq

structure NodeInfo where
  deviceUdid : CString
  uuid : CString
  networkId : CString
  masterUdid : CString
  masterWeight : BitVec 32
  status : ConnectStatus
  discoveryType : BitVec 32
  connectInfo : ConnectInfo
  authSeqNum : BitVec 64
  authChannelId : BitVec 32
deriving DecidableEq

def lnnIsNodeOnline (info : NodeInfo) : Bool := decide (info.status = .online)

def lnnHasDiscoveryType (info : NodeInfo) (type : DiscoveryType) : Bool :=
  decide (info.discoveryType &&& type.bit ≠ 0)

lemma CString.ext_bytes {s t : CString} (h : s.bytes = t.bytes) : s = t := by
  cases s
  cases t
  cases h
  rfl

lemma sameUpTo_strlen_iff {s t} : CString.sameUpTo s.strlen s t ↔ s.bytes <+: t.bytes := by
  rw [CString.sameUpTo, CString.strlen, List.take_length, decide_eq_true_iff]
  exact List.prefix_iff_eq_take.symm

end DSoftBus.Lnn
