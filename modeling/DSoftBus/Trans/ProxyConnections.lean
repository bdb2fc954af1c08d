import DSoftBus.Trans.ProxyMessage

/-!
The physical connections that proxy channels share, from the list of
softbus_proxychannel_transceiver.c. An item is found by its connection id, by the request
that it waits for, or by the address it was opened for.

An address is the memory of a union whose members all begin with a string, and the source
compares it through whichever member it likes.
-/
namespace DSoftBus.Proxy
open ByteString KeyedList

def connectTcp : BitVec 32 := 1
def connectBr : BitVec 32 := 2

/-- The offset of the port behind the IP_LEN bytes of the address. -/
def portOffset : Nat := 48
def sizeofConnectOptionInfo : Nat := 52

/-- `info` is the memory of the union. -/
structure ConnectOption where
  type : BitVec 32
  info : Bytes
deriving DecidableEq

namespace ConnectOption

variable (option : ConnectOption)

/-- The string that brMac, bleMac and ip share. -/
def brMac : Bytes := option.info.takeWhile (· ≠ 0)
def ip : Bytes := option.info.takeWhile (· ≠ 0)
def port : BitVec 32 := getWord 32 4 (option.info.drop portOffset)

def tcp (ip : Bytes) (port : BitVec 32) : ConnectOption :=
  ⟨connectTcp, ip ++ List.replicate (portOffset - ip.length) 0 ++ putWord 4 port⟩

def br (brMac : Bytes) : ConnectOption :=
  ⟨connectBr, brMac ++ List.replicate (sizeofConnectOptionInfo - brMac.length) 0⟩

def SameTarget (a b : ConnectOption) : Prop :=
  a.type = b.type ∧ if a.type = connectTcp then a.ip = b.ip ∧ a.port = b.port
    else if a.type = connectBr then a.brMac = b.brMac
    else a.info = b.info

lemma SameTarget.refl (a) : SameTarget a a := by
  refine ⟨rfl, ?_⟩
  split
  · exact ⟨rfl, rfl⟩
  · split <;> rfl

end ConnectOption

structure ConnectionInfo where
  isAvailable : BitVec 32
  isServer : BitVec 32
  type : BitVec 32
  info : Bytes

/-- TransCreateConnByConnId copies the first bytes of the record, which has two more fields in
front, over a ConnectOption. -/
def ConnectionInfo.copied (info : ConnectionInfo) : ConnectOption :=
  let memory := putWord 4 info.isAvailable ++ (putWord 4 info.isServer ++
    (putWord 4 info.type ++ info.info))
  ⟨getWord 32 4 memory, (memory.drop 4).take sizeofConnectOptionInfo⟩

structure ProxyConnInfo where
  requestId : BitVec 32
  connInfo : ConnectOption
  connId : BitVec 32
  ref : Int
  state : ProxyChannelStatus

namespace ProxyConnInfo

variable (item : ProxyConnInfo)

def request : BitVec 32 × ProxyChannelStatus := (item.requestId, item.state)

def addRef : ProxyConnInfo := { item with ref := item.ref + 1 }
def decRef : ProxyConnInfo := { item with ref := item.ref - 1 }

def isFor (connInfo : ConnectOption) (item : ProxyConnInfo) : Bool :=
  item.connInfo.type = connInfo.type && if connInfo.type = connectTcp then
      connInfo.ip = item.connInfo.ip && connInfo.port = item.connInfo.port
    else connInfo.type = connectBr && connInfo.brMac = item.connInfo.brMac

def repeats (connInfo : ConnectOption) (item : ProxyConnInfo) : Bool :=
  item.connInfo.brMac = connInfo.brMac

lemma sameTarget_of_isFor {connInfo : ConnectOption} {item : ProxyConnInfo}
    (found : item.isFor connInfo) : connInfo.SameTarget item.connInfo := by
  rw [isFor, Bool.and_eq_true, decide_eq_true_eq] at found
  refine ⟨found.1.symm, ?_⟩
  have same := found.2
  split at same
  next tcp =>
    rw [Bool.and_eq_true, decide_eq_true_eq, decide_eq_true_eq] at same
    rw [if_pos tcp]
    exact same
  next other =>
    rw [Bool.and_eq_true, decide_eq_true_eq, decide_eq_true_eq] at same
    rw [if_neg other, if_pos same.1]
    exact same.2

end ProxyConnInfo

open ProxyConnInfo

section
variable (connId reqId : BitVec 32) (items : List ProxyConnInfo)

def transDelConnByReqId : List ProxyConnInfo := remove request (reqId, .pyhConnecting) items

def transDelConnByConnId : List ProxyConnInfo := remove ProxyConnInfo.connId connId items

/-- The second part tells whether no reference is left, or no item was found. -/
def transDecConnRefByConnId : List ProxyConnInfo × Bool :=
  match lookup ProxyConnInfo.connId connId items with
  | none => (items, true)
  | some item =>
    if item.ref - 1 ≤ 0 then (remove ProxyConnInfo.connId connId items, true)
    else (update ProxyConnInfo.connId connId decRef items, false)

def transAddConnRefByConnId : List ProxyConnInfo := update ProxyConnInfo.connId connId addRef items

def transSetConnStateByReqId : List ProxyConnInfo :=
  update request (reqId, .pyhConnecting)
    (fun item => { item with state := .pyhConnected, connId := connId, requestId := 0 }) items

/-- Nothing is created for a connection that the connection manager does not know. -/
def transCreateConnByConnId (info : Option ConnectionInfo) : List ProxyConnInfo :=
  match info, lookup ProxyConnInfo.connId connId items with
  | none, _ => items
  | some _, some _ => update ProxyConnInfo.connId connId addRef items
  | some info, none => ⟨0, info.copied, connId, 1, .pyhConnected⟩ :: items

end

end DSoftBus.Proxy
