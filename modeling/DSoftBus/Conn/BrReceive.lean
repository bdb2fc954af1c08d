import DSoftBus.Conn.BrConnection
import DSoftBus.Conn.ConnPktHead
import DSoftBus.Lib.Framing

/-!
The receiving side of a BR connection in br_connection.c. What the Bluetooth stack
delivers is parked in the connection's buffer while a packet is incomplete; a complete
packet is copied into an item of the receive queue, which one thread empties.

One callback takes out one packet at most. If nothing is parked, bytes behind the packet
are not copied, but the buffer is moved down as if they had been, so old bytes take their
place. Items of MODULE_DEVICE_AUTH are put at the head of the queue.

A read outside of a buffer has no result. The result of `memcpy_s` is ignored where bytes
are parked: a copy that does not fit clears the rest of the buffer.
-/
namespace DSoftBus.Br
open ByteString Execution Conn List ConnPktHead

structure ReceiveItemStruct where
  connectionId : BitVec 32
  module : BitVec 32
  seqNum : BitVec 64
  flag : BitVec 32
  data : Bytes
deriving DecidableEq

def sizeT (x : BitVec 32) : Nat := (x.signExtend 64).toNat

def parkBytes (buf : Bytes) (conn : BrConnectionInfo) : BrConnectionInfo :=
  let recvBuf := match memcpyS conn.recvBuf conn.recvPos buf with
    | some copied => copied
    | none => conn.recvBuf.take conn.recvPos ++ replicate (conn.recvBuf.length - conn.recvPos) 0
  { conn with recvBuf := recvBuf, recvPos := conn.recvPos + buf.length }

variable (property : BrProperty)

/-- The bound is computed in `size_t`. -/
def receivedHeadCheck (head : ConnPktHead) : Bool :=
  head.magic = magicNumber &&
    sizeT head.len ≤ (BitVec.ofNat 64 property.brBuffSize - BitVec.ofNat 64 connPktHeadSize).toNat

def initRecvItem (connectionId : BitVec 32) (data : Bytes) : ReceiveItemStruct :=
  let head := read data
  ⟨connectionId, head.module, head.seq, head.flag, data⟩

/-- The `memmove_s` after a packet with more bytes behind it. It always works on `recvBuf`. -/
def moveDown (sendToManagerLen bufLen : Nat) (conn : BrConnectionInfo) : Option BrConnectionInfo :=
  let count := bufLen - sendToManagerLen
  if property.brBuffSize < count then
    some { conn with recvBuf := replicate property.brBuffSize 0 }
  else if conn.recvBuf.length < bufLen then none
  else some { conn with
    recvBuf := overwrite conn.recvBuf 0 ((conn.recvBuf.drop sendToManagerLen).take count)
    recvPos := count }

/-- The bytes from the head on. `parked` is the connection with all bytes in its buffer. -/
def processReceived (conn parked : BrConnectionInfo)
    (bufHead : Bytes) (bufLen : Nat) : Option (BrConnectionInfo × List ReceiveItemStruct) :=
  if bufLen < connPktHeadSize then some (parked, [])
  else if bufHead.length < connPktHeadSize then none
  else
    let head := read bufHead
    if !receivedHeadCheck property head then some ({ conn with recvPos := 0 }, [])
    else if bufLen - connPktHeadSize < sizeT head.len then some (parked, [])
    else
      let headtogether := sizeT head.len < bufLen - connPktHeadSize
      let sendToManagerLen := if headtogether then sizeT head.len + connPktHeadSize else bufLen
      if bufHead.length < sendToManagerLen then none
      else
        let item := initRecvItem conn.connectionId
          (bufHead.take (sizeT head.len + connPktHeadSize))
        if headtogether then
          (moveDown property sendToManagerLen bufLen conn).map fun moved => (moved, [item])
        else some ({ conn with recvPos := 0 }, [item])

def receiveOn (buf : Bytes) (conn : BrConnectionInfo) :
    Option (BrConnectionInfo × List ReceiveItemStruct) :=
  let parked := parkBytes buf conn
  if conn.recvPos ≠ 0 then processReceived property parked parked parked.recvBuf parked.recvPos
  else processReceived property conn parked buf buf.length

def insertRecvItem (item : ReceiveItemStruct) (recvList : List ReceiveItemStruct) :
    List ReceiveItemStruct :=
  if item.module = moduleDeviceAuth then item :: recvList else recvList ++ [item]

structure ReceiveState where
  conns : List BrConnectionInfo
  recvList : List ReceiveItemStruct

inductive ReceiveEvent where
  | clientOnDataReceived (socketFd : BitVec 32) (buf : Bytes)
  | recvHandlerLoop

inductive ReceiveOutput where
  | inserted (item : ReceiveItemStruct)
  | recvConnectedComd (item : ReceiveItemStruct)
  | onDataReceived (item : ReceiveItemStruct)

def receiveStep (s : ReceiveState) : ReceiveEvent → Option (ReceiveState × List ReceiveOutput)
  | .clientOnDataReceived socketFd buf =>
    match KeyedList.lookup (·.socketFd) socketFd s.conns with
    | none => some (s, [])
    | some conn => (receiveOn property buf conn).map fun result =>
      ({ conns := KeyedList.update (·.socketFd) socketFd (fun _ => result.1) s.conns
         recvList := result.2.foldl (fun queue item => insertRecvItem item queue) s.recvList },
        result.2.map .inserted)
  | .recvHandlerLoop =>
    match s.recvList with
    | [] => some (s, [])
    | item :: rest => some ({ s with recvList := rest },
        [if item.module = moduleConnection then .recvConnectedComd item
          else .onDataReceived item])

def BrConnectionInfo.held (conn : BrConnectionInfo) : Bytes := conn.recvBuf.take conn.recvPos

structure Sized (property : BrProperty) (conn : BrConnectionInfo) : Prop where
  size : conn.recvBuf.length = property.brBuffSize
  pos : conn.recvPos ≤ property.brBuffSize

inductive Reading where
  | incomplete
  | refused
  | packet (len : Nat)

def reading (stream : Bytes) : Reading :=
  if stream.length < connPktHeadSize then .incomplete
  else if !receivedHeadCheck property (.read stream) then .refused
  else if stream.length - connPktHeadSize < sizeT (read stream).len then .incomplete
  else .packet (sizeT (read stream).len + connPktHeadSize)

def Reading.items (connectionId : BitVec 32) (stream : Bytes) : Reading → List ReceiveItemStruct
  | .packet len => [initRecvItem connectionId (stream.take len)]
  | _ => []

def Reading.left (stream : Bytes) : Reading → Bytes
  | .incomplete => stream
  | .refused => []
  | .packet len => stream.drop len

def Alone (conn : BrConnectionInfo) (buf : Bytes) : Prop :=
  conn.recvPos = 0 → ∀ len, reading property buf = .packet len → len = buf.length

section
variable {prop : BrProperty} {conn : BrConnectionInfo} {buf : Bytes}

lemma held_of_empty (empty : conn.recvPos = 0) : conn.held = [] := by
  rw [BrConnectionInfo.held, empty, take_zero]

lemma Sized.length_held (sized : Sized prop conn) : conn.held.length = conn.recvPos := by
  rw [BrConnectionInfo.held, length_take, min_eq_left (sized.size ▸ sized.pos)]

lemma Sized.emptied (sized : Sized prop conn) : Sized prop { conn with recvPos := 0 } :=
  ⟨sized.size, Nat.zero_le _⟩

lemma Sized.park (sized : Sized prop conn) (fits : conn.recvPos + buf.length ≤ prop.brBuffSize) :
    Sized prop (parkBytes buf conn) ∧ (parkBytes buf conn).held = conn.held ++ buf := by
  have size := sized.size
  by_cases full : conn.recvPos = prop.brBuffSize
  · have empty : buf = [] := eq_nil_of_length_eq_zero (by omega)
    have same : parkBytes buf conn = conn := by
      have copy : memcpyS conn.recvBuf conn.recvPos buf = none := if_pos (by omega)
      have zero : conn.recvBuf.length - conn.recvPos = 0 := by omega
      rw [parkBytes, copy, empty]
      simp [zero, take_of_length_le (show conn.recvBuf.length ≤ conn.recvPos by omega)]
    rw [same, empty, append_nil]
    exact ⟨sized, rfl⟩
  · have pos := sized.pos
    have copy : memcpyS conn.recvBuf conn.recvPos buf =
        some (overwrite conn.recvBuf conn.recvPos buf) :=
      memcpyS_eq_some (by omega) (by omega)
    have parked : parkBytes buf conn = { conn with
        recvBuf := overwrite conn.recvBuf conn.recvPos buf
        recvPos := conn.recvPos + buf.length } := by
      rw [parkBytes, copy]
    rw [parked]
    refine ⟨⟨?_, fits⟩, take_overwrite (by omega)⟩
    rw [length_overwrite (by omega), size]

variable {bufLen : Nat} {parked : BrConnectionInfo}

lemma Sized.moveDown (sized : Sized prop conn) {sendLen}
    (inside : bufLen ≤ prop.brBuffSize) (part : sendLen ≤ bufLen) :
    ∃ moved, moveDown prop sendLen bufLen conn = some moved ∧ Sized prop moved ∧
      moved.connectionId = conn.connectionId ∧ moved.socketFd = conn.socketFd ∧
      moved.held = (conn.recvBuf.take bufLen).drop sendLen := by
  have size := sized.size
  have moved : Br.moveDown prop sendLen bufLen conn = some { conn with
      recvBuf := overwrite conn.recvBuf 0 ((conn.recvBuf.drop sendLen).take (bufLen - sendLen))
      recvPos := bufLen - sendLen } := by
    rw [Br.moveDown, if_neg (by omega), if_neg (by omega)]
  have length : ((conn.recvBuf.drop sendLen).take (bufLen - sendLen)).length =
      bufLen - sendLen := by
    rw [length_take, length_drop]
    omega
  refine ⟨_, moved, ⟨?_, by simp only; omega⟩, rfl, rfl, ?_⟩
  · rw [length_overwrite (by omega), size]
  · have taken := @take_overwrite conn.recvBuf
      ((conn.recvBuf.drop sendLen).take (bufLen - sendLen)) 0 (Nat.zero_le _)
    rw [length, Nat.zero_add, take_zero, nil_append] at taken
    rw [BrConnectionInfo.held, taken, drop_take]

lemma processReceived_reading {bufHead stream}
    (window : bufHead.take bufLen = stream) (inside : bufLen ≤ bufHead.length) :
    processReceived prop conn parked bufHead bufLen = match reading prop stream with
      | .incomplete => some (parked, [])
      | .refused => some ({ conn with recvPos := 0 }, [])
      | .packet len =>
        (if len < bufLen then moveDown prop len bufLen conn
          else some { conn with recvPos := 0 }).map fun next =>
            (next, [initRecvItem conn.connectionId (stream.take len)]) := by
  have length : stream.length = bufLen := by
    rw [← window, length_take, min_eq_left inside]
  unfold processReceived reading
  rw [length]
  by_cases short : bufLen < connPktHeadSize
  · rw [if_pos short, if_pos short]
  have same : read bufHead = .read stream := by
    rw [← window, read_take (not_lt.mp short)]
  rw [if_neg short, if_neg short, if_neg (by omega), same]
  dsimp only
  by_cases bad : (!receivedHeadCheck prop (.read stream))
  · rw [if_pos bad, if_pos bad]
  rw [if_neg bad, if_neg bad]
  by_cases more : bufLen - connPktHeadSize < sizeT (read stream).len
  · rw [if_pos more, if_pos more]
  rw [if_neg more, if_neg more]
  have front : bufHead.take (sizeT (read stream).len + connPktHeadSize) =
      stream.take (sizeT (read stream).len + connPktHeadSize) := by
    rw [← window, take_take, min_eq_left (by rw [window]; omega)]
  dsimp only
  rw [front]
  by_cases together : sizeT (read stream).len < bufLen - connPktHeadSize
  · have less : sizeT (read stream).len + connPktHeadSize < bufLen := by omega
    rw [if_pos together, if_pos together, if_neg (by omega), if_pos less]
  · have exact : ¬ sizeT (read stream).len + connPktHeadSize < bufLen := by omega
    rw [if_neg together, if_neg together, if_neg (by omega), if_neg exact, Option.map_some]

lemma Sized.process (sized : Sized prop conn) (parkedSized : Sized prop parked)
    (sameId : parked.connectionId = conn.connectionId) (sameFd : parked.socketFd = conn.socketFd)
    {bufHead stream} (held : parked.held = stream)
    (window : bufHead.take bufLen = stream) (inside : bufLen ≤ bufHead.length)
    (small : bufLen ≤ prop.brBuffSize) : ∃ next, processReceived prop conn parked bufHead bufLen =
        some (next, (reading prop stream).items conn.connectionId stream) ∧
      Sized prop next ∧ next.connectionId = conn.connectionId ∧ next.socketFd = conn.socketFd ∧
      ((∀ len, reading prop stream = .packet len → len < bufLen →
          conn.recvBuf.take bufLen = stream) → next.held = (reading prop stream).left stream) := by
  have length : stream.length = bufLen := by
    rw [← window, length_take, min_eq_left inside]
  rw [processReceived_reading window inside]
  cases what : reading prop stream with
  | incomplete => exact ⟨parked, rfl, parkedSized, sameId, sameFd, fun _ => held⟩
  | refused => exact ⟨_, rfl, sized.emptied, rfl, rfl, fun _ => take_zero⟩
  | packet len =>
    dsimp only
    by_cases less : len < bufLen
    · obtain ⟨moved, hMove, movedSized, id, fd, rest⟩ := sized.moveDown small (le_of_lt less)
      rw [if_pos less, hMove]
      refine ⟨moved, rfl, movedSized, id, fd, fun kept => ?_⟩
      rw [rest, kept len rfl less]
      rfl
    · rw [if_neg less]
      refine ⟨_, rfl, sized.emptied, rfl, rfl, fun _ => ?_⟩
      rw [Reading.left, drop_of_length_le (by omega)]
      exact take_zero

lemma receiveOn_spec (sized : Sized prop conn)
    (fits : conn.recvPos + buf.length ≤ prop.brBuffSize) :
    ∃ next, receiveOn prop buf conn = some (next,
        (reading prop (conn.held ++ buf)).items conn.connectionId (conn.held ++ buf)) ∧
      Sized prop next ∧ next.connectionId = conn.connectionId ∧ next.socketFd = conn.socketFd ∧
      (Alone prop conn buf →
        next.held = (reading prop (conn.held ++ buf)).left (conn.held ++ buf)) := by
  obtain ⟨parkedSized, held⟩ := sized.park fits
  have length := parkedSized.length_held
  by_cases empty : conn.recvPos = 0
  · rw [held_of_empty empty, nil_append] at held ⊢
    rw [receiveOn, if_neg (by simpa using empty)]
    obtain ⟨next, hNext, nextSized, id, fd, left⟩ := sized.process parkedSized rfl rfl held
      take_length le_rfl (by omega)
    refine ⟨next, hNext, nextSized, id, fd, fun alone => left fun len what less => ?_⟩
    have := alone empty len what
    omega
  · rw [receiveOn, if_pos empty]
    obtain ⟨next, hNext, nextSized, id, fd, left⟩ := parkedSized.process parkedSized rfl rfl held
      held (parkedSized.size ▸ parkedSized.pos) parkedSized.pos
    exact ⟨next, hNext, nextSized, id, fd, fun _ => left fun _ _ _ => held⟩

end

def Fitting (s : ReceiveState) : ReceiveEvent → Prop
  | .clientOnDataReceived socketFd buf =>
    ∀ conn, KeyedList.lookup (·.socketFd) socketFd s.conns = some conn →
      conn.recvPos + buf.length ≤ property.brBuffSize
  | .recvHandlerLoop => True

def ReceiveState.Sized (s : ReceiveState) : Prop := ∀ conn ∈ s.conns, Br.Sized property conn

lemma receiveStep_sized {prop s event} (sized : s.Sized prop) (fitting : Fitting prop s event) :
    ∃ t out, receiveStep prop s event = some (t, out) ∧ t.Sized prop := by
  cases event with
  | recvHandlerLoop =>
    rw [receiveStep]
    split
    · exact ⟨s, [], rfl, sized⟩
    · exact ⟨_, _, rfl, sized⟩
  | clientOnDataReceived socketFd buf =>
    rw [receiveStep]
    split
    · exact ⟨s, [], rfl, sized⟩
    rename_i conn found
    have mem := (KeyedList.mem_of_lookup found).1
    obtain ⟨next, hNext, nextSized, _⟩ := receiveOn_spec (sized conn mem) (fitting conn found)
    rw [hNext]
    refine ⟨_, _, rfl, fun other otherMem => ?_⟩
    rcases KeyedList.mem_update otherMem with old | ⟨_, _, rfl⟩
    · exact sized other old
    · exact nextSized

end DSoftBus.Br
