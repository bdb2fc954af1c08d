import DSoftBus.Adapter
import DSoftBus.Conn.ConnPktHead
import DSoftBus.Lib.Execution

/-!
The receiving side of softbus_tcp_connect_manager.c, from what ConnPostBytes writes to the
calls of ConnManagerRecvData. A data event reads the head of a packet with one receive
call and the payload in a loop. Nothing is kept between events, so the bytes of a head
that came in part are gone. A receive call that would block is a closed connection for the
head and an empty read for the payload.

An event comes with the outcomes of its receive calls; it has no result if they are too
few, too many or more than the stream holds. The payload's length is allocated with the
size of the head before its sign is looked at: a length between -23 and -1 gets a block
smaller than the head, of which the model keeps the part that fits.
-/
namespace DSoftBus.Tcp
open ByteString Execution Conn List ConnPktHead

/-- `data->len` is the length of the buffer and an `int32_t`. -/
structure ConnPostData where
  module : BitVec 32
  seq : BitVec 64
  flag : BitVec 32
  buf : Bytes
  sized : buf.length < 2 ^ 31

/-- What the buffer is to carry: its first bytes are the place of the head. -/
def ConnPostData.packet (data : ConnPostData) : Packet :=
  ⟨data.module, data.seq, data.flag, data.buf.drop connPktHeadSize⟩

/-- The bytes handed to the connection, unless SOFTBUS_CONN_MANAGER_PKT_LEN_INVALID is
returned. There is no check against the receiver's maximum. -/
def connPostBytes (data : ConnPostData) : Option Bytes :=
  if data.buf.length ≤ connPktHeadSize then none
  else
    let head : ConnPktHead :=
      { magic := magicNumber
        flag := data.flag
        module := data.module
        len := BitVec.ofNat 32 data.buf.length - BitVec.ofNat 32 connPktHeadSize
        seq := data.seq }
    some (overwrite data.buf 0 head.bytes)

/-- What `recv` comes back with: some bytes, EAGAIN, or an error or the end of the stream. -/
inductive RecvOutcome where
  | got (n : Nat)
  | again
  | failed
deriving DecidableEq

/-- The value returned, the bytes copied and those left. -/
def recvTcpData (outcome : RecvOutcome) (len : Nat) (stream : Bytes) :
    Option (Int × Bytes × Bytes) :=
  match outcome with
  | .got n =>
    if 0 < n ∧ n ≤ len ∧ n ≤ stream.length then some (n, stream.take n, stream.drop n)
    else none
  | .again => some (0, [], stream)
  | .failed => some (-1, [], stream)

def recvLoop : List RecvOutcome → Nat → Bytes → Bytes → Option (Option Bytes × Bytes)
  | [], len, data, stream => if data.length < len then none else some (some data, stream)
  | outcome :: later, len, data, stream =>
    if data.length < len then
      match recvTcpData outcome (len - data.length) stream with
      | none => none
      | some (n, bytes, rest) =>
        if n < 0 then (if later.isEmpty then some (none, rest) else none)
        else recvLoop later len (data ++ bytes) rest
    else none

/-- `head` is the memory of the head. The loop does not run for a negative length. -/
def recvData (tcpMaxLen : BitVec 32) (head : Bytes) (len : BitVec 32)
    (outcomes : List RecvOutcome) (stream : Bytes) :
    Option (Option Bytes × Bytes) :=
  if tcpMaxLen.toInt < len.toInt then (if outcomes.isEmpty then some (none, stream) else none)
  else match softBusCalloc (BitVec.ofNat 32 connPktHeadSize + len).toNat with
    | none => if outcomes.isEmpty then some (none, stream) else none
    | some block =>
      match recvLoop outcomes len.toInt.toNat [] stream with
      | none => none
      | some (none, rest) => some (none, rest)
      | some (some body, rest) => some (some ((head ++ body).take block.length), rest)

structure RecvCall where
  module : BitVec 32
  seq : BitVec 64
  data : Bytes
  len : BitVec 32
deriving DecidableEq

/-- What a registered listener is given: module, sequence number and payload. -/
def connManagerRecvData (call : RecvCall) : Option (BitVec 32 × BitVec 64 × Bytes) :=
  if call.len.toInt ≤ connPktHeadSize then none
  else some (call.module, call.seq, call.data.drop connPktHeadSize)

inductive TcpOutput where
  | recvData (call : RecvCall)
  | onDisconnected
deriving DecidableEq

/-- `stream` is what the peer sends and has not been read; `isOpen` says whether the
connection is listed and its trigger set. -/
structure TcpState where
  stream : Bytes
  isOpen : Bool
deriving DecidableEq

def tcpOnDataEvent (tcpMaxLen : BitVec 32) (s : TcpState) (outcomes : List RecvOutcome) :
    Option (TcpState × List TcpOutput) :=
  if s.isOpen = false then some (s, [])
  else match outcomes with
    | [] => none
    | outcome :: later =>
      match recvTcpData outcome connPktHeadSize s.stream with
      | none => none
      | some (bytes, got, rest) =>
        if bytes ≤ 0 then
          (if later.isEmpty then some (⟨rest, false⟩, [.onDisconnected]) else none)
        else if bytes ≠ connPktHeadSize then
          (if later.isEmpty then some (⟨rest, true⟩, []) else none)
        else
          let head := read got
          match recvData tcpMaxLen got head.len later rest with
          | none => none
          | some (none, rest) => some (⟨rest, false⟩, [])
          | some (some data, rest) =>
            some (⟨rest, true⟩, [.recvData ⟨head.module, head.seq, data,
              BitVec.ofNat 32 connPktHeadSize + head.len⟩])

def TcpOutput.call? : TcpOutput → Option RecvCall
  | .recvData call => some call
  | .onDisconnected => none

def calls (outs : List TcpOutput) : List RecvCall := outs.filterMap TcpOutput.call?

@[simp] lemma calls_nil : calls [] = [] := rfl

@[simp] lemma calls_append (front back) :
    calls (front ++ back) = calls front ++ calls back := filterMap_append

/-- The size passed to `SoftBusCalloc` wraps for a length below -24. -/
lemma toInt_blockSize (len) : ((BitVec.ofNat 32 connPktHeadSize + len).toNat : Int) =
      if len.toInt < -24 then 2 ^ 32 + 24 + len.toInt else 24 + len.toInt := by
  have bound := len.isLt
  rw [BitVec.toNat_add, BitVec.toNat_ofNat, BitVec.toInt_eq_toNat_cond, connPktHeadSize]
  split <;> split <;> omega

lemma softBusCalloc_blockSize (len) :
    (softBusCalloc (BitVec.ofNat 32 connPktHeadSize + len).toNat).isSome =
      decide (-24 < len.toInt ∧ 24 + len.toInt ≤ maxMallocSize) := by
  have size := toInt_blockSize len
  have above := len.le_toInt
  rw [softBusCalloc, maxMallocSize]
  split at size
  all_goals split
  all_goals simp only [Option.isSome_none, Option.isSome_some]
  all_goals symm
  all_goals first
    | exact decide_eq_false (by omega)
    | exact decide_eq_true (by omega)

variable {outcomes : List RecvOutcome}

lemma recvLoop_spec {len data stream result rest}
    (done : recvLoop outcomes len data stream = some (result, rest)) :
    (.failed ∈ outcomes ↔ result = none) ∧ rest.length ≤ stream.length ∧
      ∀ body, result = some body → len - data.length ≤ stream.length ∧
        body = data ++ stream.take (len - data.length) ∧
        rest = stream.drop (len - data.length) := by
  induction outcomes generalizing data stream with
  | nil =>
    rw [recvLoop] at done
    split at done
    · cases done
    next enough =>
      cases done
      simp [Nat.sub_eq_zero_of_le (not_lt.mp enough)]
  | cons outcome later ih =>
    rw [recvLoop] at done
    split at done
    swap
    · cases done
    rename_i missing
    cases outcome with
    | got n =>
      simp only [recvTcpData] at done
      by_cases possible : 0 < n ∧ n ≤ len - data.length ∧ n ≤ stream.length
      · rw [if_pos possible] at done
        simp only [if_neg (show ¬ (n : Int) < 0 by omega)] at done
        obtain ⟨sound, fewer, whole⟩ := ih done
        rw [length_drop] at fewer
        refine ⟨by simp [sound], by omega, fun body hBody => ?_⟩
        obtain ⟨enough, hData, hRest⟩ := whole body hBody
        rw [length_append, length_take_of_le possible.2.2] at enough hData hRest
        rw [length_drop] at enough
        have left : len - data.length = n + (len - (data.length + n)) := by omega
        refine ⟨by omega, ?_, ?_⟩
        · rw [hData, append_assoc, left, take_add]
        · rw [hRest, drop_drop, left]
      · simp [if_neg possible] at done
    | again =>
      simp only [recvTcpData, if_neg (show ¬ (0 : Int) < 0 by decide), append_nil] at done
      obtain ⟨sound, kept⟩ := ih done
      exact ⟨by simp [sound], kept⟩
    | failed =>
      simp only [recvTcpData, if_pos (show (-1 : Int) < 0 by decide)] at done
      split at done <;> cases done
      exact ⟨iff_of_true mem_cons_self rfl, le_rfl, nofun⟩

def Fits (tcpMaxLen len : BitVec 32) : Prop :=
  0 ≤ len.toInt ∧ len.toInt ≤ tcpMaxLen.toInt ∧ 24 + len.toInt ≤ maxMallocSize
deriving Decidable

def Overruns (tcpMaxLen len : BitVec 32) : Prop :=
  -24 < len.toInt ∧ len.toInt < 0 ∧ len.toInt ≤ tcpMaxLen.toInt
deriving Decidable

section
variable {tcpMaxLen len : BitVec 32} {head stream rest : Bytes} {later : List RecvOutcome}

lemma length_of_softBusCalloc {size block}
    (granted : softBusCalloc size = some block) : block.length = size := by
  rw [softBusCalloc] at granted
  split at granted
  · cases granted
  · cases granted
    exact length_replicate

lemma recvLoop_of_empty {data r} (done : recvLoop later 0 data stream = some (r, rest)) :
    later = [] ∧ r = some data ∧ rest = stream := by
  cases later with
  | nil =>
    rw [recvLoop, if_neg (Nat.not_lt_zero _)] at done
    cases done
    exact ⟨rfl, rfl, rfl⟩
  | cons outcome later =>
    simp [recvLoop] at done

lemma recvData_eq_none (refused : recvData tcpMaxLen head len later stream = some (none, rest)) :
    ¬ Overruns tcpMaxLen len ∧ (¬ Fits tcpMaxLen len ∨ .failed ∈ later) ∧
      rest.length ≤ stream.length := by
  rw [recvData] at refused
  split at refused
  next above =>
    split at refused <;> cases refused
    exact ⟨fun overruns => absurd overruns.2.2 (by omega),
      .inl fun fits => absurd fits.2.1 (by omega), le_rfl⟩
  · have size := softBusCalloc_blockSize len
    split at refused
    next denied =>
      split at refused <;> cases refused
      rw [denied, eq_comm, Option.isSome_none, decide_eq_false_iff_not, maxMallocSize] at size
      refine ⟨fun overruns => size ⟨overruns.1, ?_⟩, .inl fun fits => size ⟨?_, fits.2.2⟩, le_rfl⟩
      · have := overruns.2.1
        omega
      · have := fits.1
        omega
    · split at refused
      · cases refused
      next ended =>
        cases refused
        obtain ⟨failed, fewer, _⟩ := recvLoop_spec ended
        refine ⟨fun overruns => ?_, .inr (failed.mpr rfl), fewer⟩
        rw [Int.toNat_of_nonpos (le_of_lt overruns.2.1)] at ended
        cases (recvLoop_of_empty ended).2.1
      · cases refused

lemma recvData_eq_some {data} (whole : head.length = connPktHeadSize)
    (done : recvData tcpMaxLen head len later stream = some (some data, rest)) :
    (Fits tcpMaxLen len ∧ .failed ∉ later ∧ len.toNat ≤ stream.length ∧
        data = head ++ stream.take len.toNat ∧ rest = stream.drop len.toNat) ∨
      (Overruns tcpMaxLen len ∧ later = [] ∧ data = head.take (24 + len.toInt).toNat ∧
        rest = stream) := by
  rw [recvData] at done
  split at done
  · split at done <;> cases done
  rename_i below
  have granted := softBusCalloc_blockSize len
  have size := toInt_blockSize len
  split at done
  · split at done <;> cases done
  rename_i block hBlock
  rw [hBlock, Option.isSome_some, eq_comm, decide_eq_true_iff] at granted
  rw [if_neg (by omega)] at size
  have hLength := length_of_softBusCalloc hBlock
  split at done
  · cases done
  · cases done
  rename_i body left loop
  cases done
  rcases Int.lt_or_le len.toInt 0 with negative | nonneg
  · right
    rw [Int.toNat_of_nonpos (le_of_lt negative)] at loop
    obtain ⟨nothing, hBody, hRest⟩ := recvLoop_of_empty loop
    cases hBody
    refine ⟨⟨granted.1, negative, by omega⟩, nothing, ?_, hRest⟩
    rw [append_nil, hLength, ← size, Int.toNat_natCast]
  · left
    have number := toInt_eq_toNat_of_nonneg nonneg
    rw [number, Int.toNat_natCast] at loop
    obtain ⟨sound, _, found⟩ := recvLoop_spec loop
    obtain ⟨enough, hBody, hRest⟩ := found _ rfl
    simp only [length_nil, Nat.sub_zero, nil_append] at enough hBody hRest
    refine ⟨⟨nonneg, by omega, granted.2⟩, sound.not.mpr nofun, enough, ?_, hRest⟩
    rw [take_of_length_le, hBody]
    have headSize : head.length = 24 := whole
    rw [length_append, hBody, length_take_of_le enough]
    omega

end

inductive EventResult (tcpMaxLen : BitVec 32) (s : TcpState) :
    List RecvOutcome → TcpState → List TcpOutput → Prop
  | ignored {outcomes : List RecvOutcome} (closed : s.isOpen = false) :
      EventResult tcpMaxLen s outcomes s []
  | disconnected {outcome : RecvOutcome} (nothing : ∀ n, outcome ≠ .got n) :
      EventResult tcpMaxLen s [outcome] ⟨s.stream, false⟩ [.onDisconnected]
  | shortHead {n : Nat} (positive : 0 < n) (short : n < connPktHeadSize)
      (come : n ≤ s.stream.length) : EventResult tcpMaxLen s [.got n] ⟨s.stream.drop n, true⟩ []
  | refused {later : List RecvOutcome} {rest : Bytes}
      (fewer : rest.length + connPktHeadSize ≤ s.stream.length)
      (room : ¬ Overruns tcpMaxLen (read s.stream).len)
      (reason : ¬ Fits tcpMaxLen (read s.stream).len ∨ .failed ∈ later) :
      EventResult tcpMaxLen s (.got connPktHeadSize :: later) ⟨rest, false⟩ []
  | delivered {later : List RecvOutcome} {head : ConnPktHead}
      (isOpen : s.isOpen) (hHead : head = read s.stream)
      (fits : Fits tcpMaxLen head.len) (sound : .failed ∉ later)
      (come : connPktHeadSize + head.len.toNat ≤ s.stream.length) :
      EventResult tcpMaxLen s (.got connPktHeadSize :: later)
        ⟨s.stream.drop (connPktHeadSize + head.len.toNat), true⟩
        [.recvData ⟨head.module, head.seq, s.stream.take (connPktHeadSize + head.len.toNat),
          BitVec.ofNat 32 connPktHeadSize + head.len⟩]
  | overrun {head : ConnPktHead} (isOpen : s.isOpen)
      (hHead : head = read s.stream)
      (overruns : Overruns tcpMaxLen head.len) (come : connPktHeadSize ≤ s.stream.length) :
      EventResult tcpMaxLen s [.got connPktHeadSize] ⟨s.stream.drop connPktHeadSize, true⟩
        [.recvData ⟨head.module, head.seq,
          (s.stream.take connPktHeadSize).take (24 + head.len.toInt).toNat,
          BitVec.ofNat 32 connPktHeadSize + head.len⟩]

lemma tcpOnDataEvent_result {tcpMaxLen s t out}
    (hStep : tcpOnDataEvent tcpMaxLen s outcomes = some (t, out)) :
    EventResult tcpMaxLen s outcomes t out := by
  rw [tcpOnDataEvent.eq_def] at hStep
  split at hStep
  next closed =>
    cases hStep
    exact .ignored closed
  rename_i listed
  cases outcomes with
  | nil => cases hStep
  | cons outcome later =>
    cases outcome with
    | again =>
      simp only [recvTcpData, if_pos (show (0 : Int) ≤ 0 by decide)] at hStep
      split at hStep
      next last =>
        cases hStep
        rw [isEmpty_iff.mp last]
        exact .disconnected (by simp)
      · cases hStep
    | failed =>
      simp only [recvTcpData, if_pos (show (-1 : Int) ≤ 0 by decide)] at hStep
      split at hStep
      next last =>
        cases hStep
        rw [isEmpty_iff.mp last]
        exact .disconnected (by simp)
      · cases hStep
    | got n =>
      simp only [recvTcpData] at hStep
      by_cases possible : 0 < n ∧ n ≤ connPktHeadSize ∧ n ≤ s.stream.length
      swap
      · simp [if_neg possible] at hStep
      simp only [if_pos possible, if_neg (show ¬ (n : Int) ≤ 0 by omega)] at hStep
      obtain ⟨positive, below, come⟩ := possible
      rcases Nat.lt_or_eq_of_le below with short | rfl
      · rw [if_pos (by omega)] at hStep
        split at hStep
        next last =>
          cases hStep
          rw [isEmpty_iff.mp last]
          exact .shortHead positive short come
        · cases hStep
      · rw [if_neg (not_not_intro rfl), read_take le_rfl] at hStep
        split at hStep
        · cases hStep
        next refused =>
          cases hStep
          obtain ⟨room, reason, fewer⟩ := recvData_eq_none refused
          rw [length_drop] at fewer
          exact .refused (by omega) room reason
        next done =>
          cases hStep
          have isOpen := (Bool.eq_true_of_not_eq_false listed)
          have whole : (s.stream.take connPktHeadSize).length = connPktHeadSize :=
            length_take_of_le come
          rcases recvData_eq_some whole done with
            ⟨fits, sound, enough, rfl, rfl⟩ | ⟨overruns, rfl, rfl, rfl⟩
          · rw [length_drop] at enough
            rw [← take_add, drop_drop]
            exact .delivered isOpen rfl fits sound (by omega)
          · exact .overrun isOpen rfl overruns come

end DSoftBus.Tcp
