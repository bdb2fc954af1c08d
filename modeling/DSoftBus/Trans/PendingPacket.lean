import DSoftBus.Adapter
import DSoftBus.Lib.KeyedList

/-!
The packets whose senders wait for an acknowledgement, from trans_pending_pkt.c.
There is one list for each type, and a new entry stands in front. Each function
here is what the source does under the lock of the list; where a call of
ProcPendingPacket leaves that lock, other calls can come in between.
-/
namespace DSoftBus.Pending
open KeyedList

inductive PendingType where
  | proxy
  | direct
deriving DecidableEq

structure PendingPktInfo where
  channelId : BitVec 32
  seq : BitVec 32
  finded : Bool
deriving DecidableEq

namespace PendingPktInfo

def key (item : PendingPktInfo) : BitVec 32 × BitVec 32 := (item.channelId, item.seq)

def find (item : PendingPktInfo) : PendingPktInfo := { item with finded := true }

end PendingPktInfo

open PendingPktInfo

variable (pendingList : List PendingPktInfo) (channelId seqNum : BitVec 32)

def addPendingPacket : Except SoftBusErrNo (List PendingPktInfo) :=
  match lookup key (channelId, seqNum) pendingList with
  | some _ => .error .err
  | none => .ok (⟨channelId, seqNum, false⟩ :: pendingList)

def PendingPktInfo.result (item : PendingPktInfo) : SoftBusErrNo :=
  if item.finded then .ok else .timout

def removePendingPacket :
    List PendingPktInfo := remove key (channelId, seqNum) pendingList

/-- The entry that is found is also signalled. -/
def setPendingPacket : List PendingPktInfo × SoftBusErrNo :=
  match lookup key (channelId, seqNum) pendingList with
  | some _ => (update key (channelId, seqNum) .find pendingList, .ok)
  | none => (pendingList, .err)

/-- The entry that is signalled: only the first one of the channel. -/
def delPendingPacket (pendingList : List PendingPktInfo) (channelId : BitVec 32) :
    Option PendingPktInfo := lookup PendingPktInfo.channelId channelId pendingList

lemma setPendingPacket_list : (setPendingPacket pendingList channelId seqNum).1 =
      update key (channelId, seqNum) .find pendingList := by
  rw [setPendingPacket]
  split
  · rfl
  next absent => exact (update_of_lookup_none absent).symm

end DSoftBus.Pending
