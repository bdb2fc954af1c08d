import DSoftBus.Conn.TcpConnect

/-!
Which runs of data events give ConnManagerRecvData the packets that were posted. An event
hands on at most the bytes it takes from the stream, so none may waste any: each has to
read a whole head at once and its payload without an error. For a stream of the peer's
own, the heads that are handed on with a length out of range are those with a length
between -23 and -1.
-/
namespace DSoftBus.Tcp
open ByteString Execution Conn List ConnPktHead

/-- The call that a packet is to lead to. The flag is in the head at the front of the data. -/
def delivery (packet : Packet) : RecvCall :=
  ⟨packet.module, packet.seq, packet.bytes, BitVec.ofNat 32 packet.bytes.length⟩

/-- The next head is read at once, no receive call fails, and the length is one whose payload
is read. -/
def ReadsWhole (tcpMaxLen : BitVec 32) (s : TcpState) (outcomes : List RecvOutcome) : Prop :=
  s.stream = [] ∨ (outcomes.head? = some (.got connPktHeadSize) ∧ .failed ∉ outcomes ∧
    Fits tcpMaxLen (read s.stream).len)
deriving Decidable

def ReadsOverrun (tcpMaxLen : BitVec 32) (s : TcpState) (outcomes : List RecvOutcome) : Prop :=
  s.isOpen ∧ outcomes.head? = some (.got connPktHeadSize) ∧ Overruns tcpMaxLen (read s.stream).len
deriving Decidable

lemma connPostBytes_eq_some {data wire} (posted : connPostBytes data = some wire) :
    wire = data.packet.bytes ∧ data.packet.bytes.length < 2 ^ 31 := by
  rw [connPostBytes] at posted
  split at posted
  · cases posted
  rename_i long
  cases posted
  have sized := data.sized
  have payload : data.packet.payload.length = data.buf.length - connPktHeadSize := length_drop
  constructor
  · have hLen : BitVec.ofNat 32 data.buf.length - BitVec.ofNat 32 connPktHeadSize =
        BitVec.ofNat 32 data.packet.payload.length := by
      apply BitVec.eq_of_toNat_eq
      rw [payload, BitVec.toNat_sub, BitVec.toNat_ofNat, BitVec.toNat_ofNat, BitVec.toNat_ofNat]
      simp only [connPktHeadSize] at long ⊢
      omega
    rw [overwrite, take_zero, nil_append, length_bytes, zero_add, hLen]
    rfl
  · rw [Packet.length_bytes, payload]
    omega

section
variable {maxLen : BitVec 32} {s t : TcpState} {outcomes : List RecvOutcome}
  {out outs : List TcpOutput} {events : List (List RecvOutcome)}

def handedOn (outs : List TcpOutput) : Nat := ((calls outs).map (·.data.length)).sum

lemma handedOn_append (front back) : handedOn (front ++ back) = handedOn front + handedOn back := by
  rw [handedOn, calls_append, map_append, sum_append]
  rfl

@[simp] lemma handedOn_call (call) : handedOn [.recvData call] = call.data.length := by
  simp [handedOn, calls, TcpOutput.call?]

@[simp] lemma handedOn_nil : handedOn [] = 0 := rfl

@[simp] lemma handedOn_disconnected : handedOn [.onDisconnected] = 0 := rfl

lemma EventResult.handedOn_le (result : EventResult maxLen s outcomes t out) :
    handedOn out + t.stream.length ≤ s.stream.length := by
  cases result with
  | ignored => simp
  | disconnected => simp
  | shortHead positive short come => simp
  | @refused later rest fewer =>
    rw [handedOn_nil]
    change 0 + rest.length ≤ s.stream.length
    omega
  | delivered isOpen hHead fits sound come =>
    rw [handedOn_call, length_take_of_le come, length_drop]
    omega
  | overrun isOpen hHead overruns come =>
    rw [handedOn_call, take_take, length_take, length_drop]
    omega

/-- An event that wastes nothing read a whole packet, or closed the connection before it. -/
lemma EventResult.whole_of_tight (result : EventResult maxLen s outcomes t out)
    (tight : handedOn out + t.stream.length = s.stream.length) :
    ReadsWhole maxLen s outcomes ∨ (t.isOpen = false ∧ t.stream = s.stream) := by
  cases result with
  | ignored closed => exact .inr ⟨closed, rfl⟩
  | disconnected => exact .inr ⟨rfl, rfl⟩
  | shortHead positive short come =>
    rw [handedOn_nil, length_drop] at tight
    omega
  | @refused later rest fewer =>
    rw [handedOn_nil] at tight
    change 0 + rest.length = s.stream.length at tight
    simp only [connPktHeadSize] at fewer
    omega
  | delivered isOpen hHead fits sound come =>
    refine .inl (.inr ⟨rfl, by simp [sound], hHead ▸ fits⟩)
  | overrun isOpen hHead overruns come =>
    have negative := overruns.2.1
    rw [handedOn_call, take_take, length_take, length_drop] at tight
    simp only [connPktHeadSize] at come tight
    omega

section
variable (hRun : run (tcpOnDataEvent maxLen) s events = some (t, outs))
include hRun

lemma run_closed (closed : s.isOpen = false) : t = s := by
  induction events generalizing outs with
  | nil =>
    cases hRun
    rfl
  | cons outcomes events ih =>
    obtain ⟨u, out, later, hStep, hRest, rfl⟩ := run_cons_eq_some.mp hRun
    rw [tcpOnDataEvent.eq_def, if_pos closed] at hStep
    cases hStep
    exact ih hRest

lemma run_handedOn_le : handedOn outs + t.stream.length ≤ s.stream.length := by
  induction events generalizing s outs with
  | nil =>
    cases hRun
    simp
  | cons outcomes events ih =>
    obtain ⟨u, out, later, hStep, hRest, rfl⟩ := run_cons_eq_some.mp hRun
    have first := (tcpOnDataEvent_result hStep).handedOn_le
    have rest := ih hRest
    rw [handedOn_append]
    omega

lemma readsWhole_of_handedOn (all : t.stream = [])
    (handed : handedOn outs = s.stream.length) :
    AllSteps (tcpOnDataEvent maxLen) (ReadsWhole maxLen) s events := by
  induction events generalizing s outs with
  | nil => exact allSteps_nil _ _
  | cons outcomes events ih =>
    obtain ⟨u, out, later, hStep, hRest, rfl⟩ := run_cons_eq_some.mp hRun
    have result := tcpOnDataEvent_result hStep
    have first := result.handedOn_le
    have rest := run_handedOn_le hRest
    rw [handedOn_append] at handed
    rw [all, length_nil] at rest
    refine AllSteps.cons ?_ hStep (ih hRest (by omega))
    rcases result.whole_of_tight (by omega) with whole | ⟨closed, same⟩
    · exact whole
    · rw [run_closed hRest closed, same] at all
      exact .inl all

end

lemma EventResult.of_packet {packet later}
    (result : EventResult maxLen s outcomes t out) (isOpen : s.isOpen)
    (stream : s.stream = packet.bytes ++ later) (small : packet.bytes.length < 2 ^ 31)
    (whole : ReadsWhole maxLen s outcomes) : t = ⟨later, true⟩ ∧ calls out = [delivery packet] := by
  have long := packet.length_bytes
  have head : read s.stream = packet.head := by
    rw [stream, Packet.bytes, append_assoc, read_bytes_append]
  rcases whole with empty | ⟨first, sound, fits⟩
  · have count := congrArg length (stream.symm.trans empty)
    simp only [length_append, length_nil, connPktHeadSize] at count long
    omega
  cases result with
  | ignored closed => simp [closed] at isOpen
  | disconnected nothing => exact absurd (Option.some.inj first) (nothing _)
  | shortHead positive short come =>
    cases Option.some.inj first
    exact absurd short (lt_irrefl _)
  | refused fewer room reason =>
    rcases reason with misfit | failed
    · exact absurd fits misfit
    · exact absurd (mem_cons_of_mem _ failed) sound
  | overrun _ hHead overruns come =>
    have negative := overruns.2.1
    have nonneg := fits.1
    rw [← hHead] at nonneg
    omega
  | delivered _ hHead _ _ come =>
    have payload : packet.payload.length < 2 ^ 32 := by omega
    have number : packet.head.len.toNat = packet.payload.length := by
      rw [Packet.head, BitVec.toNat_ofNat, Nat.mod_eq_of_lt payload]
    have size : connPktHeadSize + packet.head.len.toNat = packet.bytes.length := by
      rw [number, long]
    rw [hHead, head, size, stream, drop_left, take_left]
    refine ⟨rfl, ?_⟩
    have sum : BitVec.ofNat 32 connPktHeadSize + packet.head.len =
        BitVec.ofNat 32 packet.bytes.length := by
      rw [long, BitVec.ofNat_add]
      rfl
    rw [sum]
    rfl

lemma EventResult.of_empty (result : EventResult maxLen s outcomes t out)
    (empty : s.stream = []) : t.stream = [] ∧ calls out = [] := by
  cases result with
  | ignored | disconnected => exact ⟨empty, rfl⟩
  | shortHead positive short come => exact ⟨by simp [empty], rfl⟩
  | refused fewer =>
    rw [empty, length_nil, connPktHeadSize] at fewer
    omega
  | delivered isOpen hHead fits sound come | overrun isOpen hHead overruns come =>
    rw [empty, length_nil, connPktHeadSize] at come
    omega

lemma run_delivers {packets} (stream : s.stream = (packets.map Packet.bytes).flatten)
    (isOpen : packets ≠ [] → s.isOpen) (small : ∀ packet ∈ packets, packet.bytes.length < 2 ^ 31)
    (whole : AllSteps (tcpOnDataEvent maxLen) (ReadsWhole maxLen) s events)
    (hRun : run (tcpOnDataEvent maxLen) s events = some (t, outs)) (all : t.stream = []) :
    calls outs = packets.map delivery := by
  induction events generalizing s packets outs with
  | nil =>
    cases hRun
    cases packets with
    | nil => rfl
    | cons packet packets =>
      have long := packet.length_bytes
      have count := congrArg length (stream.symm.trans all)
      simp only [map_cons, flatten_cons, length_append, length_nil, connPktHeadSize] at count long
      omega
  | cons outcomes events ih =>
    obtain ⟨u, out, later, hStep, hRest, rfl⟩ := run_cons_eq_some.mp hRun
    have result := tcpOnDataEvent_result hStep
    have tail := whole.tail hStep
    rw [calls_append]
    cases packets with
    | nil =>
      obtain ⟨empty, hCalls⟩ := result.of_empty stream
      rw [hCalls, ih empty (by simp) small tail hRest]
      rfl
    | cons packet packets =>
      obtain ⟨rfl, hCalls⟩ := result.of_packet (isOpen (cons_ne_nil _ _)) stream
        (small packet mem_cons_self) whole.head
      rw [hCalls, ih rfl (fun _ => rfl)
        (fun p mem => small p (mem_cons_of_mem _ mem)) tail hRest]
      rfl

lemma EventResult.outOfRange (result : EventResult maxLen s outcomes t out) :
    ((read s.stream).len.toInt < 0 ∨ maxLen.toInt < (read s.stream).len.toInt → calls out = []) ↔
      ¬ ReadsOverrun maxLen s outcomes := by
  cases result with
  | ignored closed => simp [ReadsOverrun, closed]
  | disconnected nothing => simp [ReadsOverrun, nothing, calls, TcpOutput.call?]
  | shortHead positive short come => simp [ReadsOverrun, ne_of_lt short]
  | refused fewer room reason => simp [ReadsOverrun, room]
  | delivered _ hHead fits _ come =>
    subst hHead
    have nonneg := fits.1
    have below := fits.2.1
    constructor
    · rintro - ⟨-, -, overruns⟩
      have := overruns.2.1
      omega
    · intro _ outside
      omega
  | overrun isOpen hHead overruns come =>
    subst hHead
    constructor
    · intro none
      cases none (.inl overruns.2.1)
    · intro fine
      exact absurd ⟨isOpen, rfl, overruns⟩ fine

lemma toInt_handedLen {len : BitVec 32} (low : -24 ≤ len.toInt)
    (small : 24 + len.toInt ≤ maxMallocSize) :
    (BitVec.ofNat 32 connPktHeadSize + len).toInt = 24 + len.toInt := by
  have size := toInt_blockSize len
  rw [if_neg (by omega)] at size
  rw [maxMallocSize] at small
  rw [BitVec.toInt_eq_toNat_cond, if_pos (by omega), size]

lemma EventResult.inRange_of_listener {call : RecvCall} {handed : BitVec 32 × BitVec 64 × Bytes}
    (result : EventResult maxLen s outcomes t out) (mem : call ∈ calls out)
    (given : connManagerRecvData call = some handed) : 0 < (read s.stream).len.toInt ∧
      (read s.stream).len.toInt ≤ maxLen.toInt := by
  rw [connManagerRecvData] at given
  split at given
  · cases given
  rename_i long
  cases result with
  | ignored => cases mem
  | disconnected => cases mem
  | shortHead => cases mem
  | refused => cases mem
  | delivered _ hHead fits _ come =>
    cases mem_singleton.mp mem
    rw [← hHead]
    have nonneg := fits.1
    dsimp only at long
    rw [toInt_handedLen (by omega) fits.2.2, connPktHeadSize] at long
    exact ⟨by omega, fits.2.1⟩
  | overrun _ hHead overruns come =>
    cases mem_singleton.mp mem
    have negative := overruns.2.1
    dsimp only at long
    rw [toInt_handedLen (le_of_lt overruns.1) (by rw [maxMallocSize]; omega),
      connPktHeadSize] at long
    omega

end

/-- With `ReadsWhole` at every event, and only then, a stream of posted packets that is read to its
end is handed on packet by packet. Heads whose length is out of range are handed on in the events
that meet `ReadsOverrun` and in no others; no listener is given anything of them. -/
theorem tcpOnDataEvent_framed (tcpMaxLen : BitVec 32) :
    (∀ (posts : List ConnPostData) (wires : List (List UInt8)),
      posts.map connPostBytes = wires.map some → ∀ events t outs,
        run (tcpOnDataEvent tcpMaxLen) ⟨wires.flatten, true⟩ events = some (t, outs) →
        t.stream = [] → (calls outs = posts.map (fun data => delivery data.packet) ↔
          AllSteps (tcpOnDataEvent tcpMaxLen) (ReadsWhole tcpMaxLen) ⟨wires.flatten, true⟩
            events)) ∧ ∀ stream events t outs,
      run (tcpOnDataEvent tcpMaxLen) ⟨stream, true⟩ events = some (t, outs) →
      (AllResults (tcpOnDataEvent tcpMaxLen) (fun s _ _ out => (read s.stream).len.toInt < 0 ∨
            tcpMaxLen.toInt < (read s.stream).len.toInt → calls out = [])
          ⟨stream, true⟩ events ↔ AllSteps (tcpOnDataEvent tcpMaxLen)
          (fun s outcomes => ¬ ReadsOverrun tcpMaxLen s outcomes) ⟨stream, true⟩ events) ∧
      AllResults (tcpOnDataEvent tcpMaxLen)
        (fun s _ _ out => ∀ call ∈ calls out, (connManagerRecvData call).isSome →
          0 < (read s.stream).len.toInt ∧ (read s.stream).len.toInt ≤ tcpMaxLen.toInt)
        ⟨stream, true⟩ events := by
  constructor
  · intro posts wires posted events t outs hRun all
    have each (data) (mem : data ∈ posts) :
        data.packet.bytes.length < 2 ^ 31 ∧ connPostBytes data = some data.packet.bytes := by
      have posted' : connPostBytes data ∈ wires.map some := posted ▸ mem_map_of_mem mem
      obtain ⟨wire, -, hWire⟩ := mem_map.mp posted'
      obtain ⟨rfl, small⟩ := connPostBytes_eq_some hWire.symm
      exact ⟨small, hWire.symm⟩
    have hWires : wires = (posts.map ConnPostData.packet).map Packet.bytes := by
      apply map_injective_iff.mpr (Option.some_injective _)
      rw [← posted, map_map, map_map]
      exact map_congr_left fun data mem => (each data mem).2
    constructor
    · intro hCalls
      refine readsWhole_of_handedOn hRun all ?_
      rw [handedOn, hCalls, hWires, length_flatten, map_map, map_map, map_map]
      rfl
    · intro whole
      have delivered := run_delivers (congrArg flatten hWires) (fun _ => rfl) (by
          intro packet mem
          obtain ⟨data, hData, rfl⟩ := mem_map.mp mem
          exact (each data hData).1) whole hRun all
      rw [delivered, map_map]
      rfl
  · intro stream events t outs hRun
    refine ⟨allResults_iff_allSteps hRun fun s outcomes u out hStep =>
      (tcpOnDataEvent_result hStep).outOfRange, ?_⟩
    intro pre outcomes post _ s before _ u out hStep call mem given
    obtain ⟨handed, hHanded⟩ := Option.isSome_iff_exists.mp given
    exact (tcpOnDataEvent_result hStep).inRange_of_listener mem hHanded

def onePost (seq : BitVec 64) : ConnPostData where
  module := moduleDeviceAuth
  seq := seq
  flag := 2
  buf := replicate 24 0 ++ [1]
  sized := by decide

def twoWires : List Bytes := [(onePost 1).packet.bytes, (onePost 2).packet.bytes]

lemma onePost_wires : [onePost 1, onePost 2].map connPostBytes = twoWires.map some := by
  decide +kernel

/-- The payload of the first packet is read after a receive call that would block. -/
theorem tcpOnDataEvent_framed_twoPackets :
    ∃ t outs, run (tcpOnDataEvent 3072) ⟨twoWires.flatten, true⟩
        [[.got 24, .again, .got 1], [.got 24, .got 1]] = some (t, outs) ∧
      calls outs = [delivery (onePost 1).packet, delivery (onePost 2).packet] := by
  have computed : (run (tcpOnDataEvent 3072) ⟨twoWires.flatten, true⟩
      [[.got 24, .again, .got 1], [.got 24, .got 1]]).map (·.1) = some ⟨[], true⟩ := by
    decide +kernel
  obtain ⟨⟨t, outs⟩, hRun, hEnd⟩ := Option.map_eq_some_iff.mp computed
  refine ⟨t, outs, hRun, ?_⟩
  have all : t.stream = [] := congrArg TcpState.stream hEnd
  exact ((tcpOnDataEvent_framed 3072).1 [onePost 1, onePost 2] twoWires onePost_wires _ t outs
    hRun all).mpr (by decide +kernel)

/-- A head of which ten bytes come first is lost with its packet, and a length of -1 is handed
on. -/
theorem split_head_lost :
    (∃ t outs, run (tcpOnDataEvent 3072) ⟨(onePost 1).packet.bytes, true⟩ [[.got 10], [.got 15]] =
        some (t, outs) ∧ connPostBytes (onePost 1) = some (onePost 1).packet.bytes ∧
      t = ⟨[], true⟩ ∧ calls outs = []) ∧
    ∃ t outs, run (tcpOnDataEvent 3072) ⟨(mk magicNumber 14 1 0 (-1)).bytes, true⟩
        [[.got 24]] = some (t, outs) ∧ (calls outs).map RecvCall.len = [23] := by
  refine ⟨⟨⟨[], true⟩, [], ?_, ?_, rfl, rfl⟩, ⟨[], true⟩, [.recvData ⟨14, 1,
    ((mk magicNumber 14 1 0 (-1)).bytes).take 23, 23⟩], ?_, rfl⟩
  all_goals decide +kernel

end DSoftBus.Tcp
