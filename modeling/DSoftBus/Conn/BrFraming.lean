import DSoftBus.Conn.BrReceive

/-!
Streams of packets on a BR connection. However the Bluetooth stack cuts the stream, the
queue is given its packets, as long as no callback brings the beginning of a further
packet into an empty buffer, none completes two packets, and no packet of
MODULE_DEVICE_AUTH is completed while another one of the connection is queued.

The packets are those given to the queue and the rest, which the parked bytes and those to
come make up and of which the first is incomplete. For each module, what was taken out of
the queue and what is in it are what was put in, in order.
-/
namespace DSoftBus.Br
open ByteString Execution Conn KeyedList List ConnPktHead

def Reading.isPacket : Reading → Bool
  | .packet _ => true
  | _ => false

def Paced (property : BrProperty) (fd : BitVec 32) (s : ReceiveState) : ReceiveEvent → Prop
  | .clientOnDataReceived socketFd buf =>
    socketFd = fd → match lookup (·.socketFd) fd s.conns with
      | none => True
      | some conn =>
        match reading property (conn.held ++ buf) with
        | .packet len =>
          (conn.recvPos = 0 → len = buf.length) ∧
          (reading property ((conn.held ++ buf).drop len)).isPacket = false ∧
          ((read (conn.held ++ buf)).module = moduleDeviceAuth →
            ∀ item ∈ s.recvList, item.connectionId = conn.connectionId →
              item.module ≠ moduleDeviceAuth)
        | _ => True
  | .recvHandlerLoop => True

def arriving (fd : BitVec 32) : List ReceiveEvent → Bytes
  | [] => []
  | .clientOnDataReceived socketFd buf :: rest =>
    if socketFd = fd then buf ++ arriving fd rest else arriving fd rest
  | .recvHandlerLoop :: rest => arriving fd rest

def ReceiveOutput.inserted? : ReceiveOutput → Option ReceiveItemStruct
  | .inserted item => some item
  | _ => none

def ReceiveOutput.taken? : ReceiveOutput → Option ReceiveItemStruct
  | .inserted _ => none
  | .recvConnectedComd item | .onDataReceived item => some item

variable (connectionId : BitVec 32)

def insertedOf (outs : List ReceiveOutput) : List ReceiveItemStruct :=
  (outs.filterMap ReceiveOutput.inserted?).filter (·.connectionId = connectionId)

def ofModule (connectionId module : BitVec 32) (items : List ReceiveItemStruct) :
    List ReceiveItemStruct :=
  items.filter fun item => item.connectionId = connectionId ∧ item.module = module

def takenOf (connectionId module : BitVec 32) (outs : List ReceiveOutput) :
    List ReceiveItemStruct := ofModule connectionId module (outs.filterMap ReceiveOutput.taken?)

def recvItem (packet : Packet) : ReceiveItemStruct :=
  ⟨connectionId, packet.module, packet.seq, packet.flag, packet.bytes⟩

section
variable {property : BrProperty} {pkt : Packet} {stream coming : Bytes}
  {frames : List Bytes}

lemma sizeT_ofNat {n} (small : n < 2 ^ 31) : sizeT (BitVec.ofNat 32 n) = n := by
  have value : (BitVec.ofNat 32 n).toNat = n := by
    rw [BitVec.toNat_ofNat]
    exact Nat.mod_eq_of_lt (by omega)
  have positive : (BitVec.ofNat 32 n).msb = false := by
    rw [BitVec.msb_eq_false_iff_two_mul_lt, value]
    omega
  rw [sizeT, BitVec.signExtend_eq_setWidth_of_msb_false positive, BitVec.toNat_setWidth, value]
  exact Nat.mod_eq_of_lt (by omega)

lemma receivedHeadCheck_head (fits : pkt.bytes.length ≤ property.brBuffSize) :
    receivedHeadCheck property pkt.head := by
  have small := property.brBuffSize_le
  rw [Packet.length_bytes] at fits
  rw [maxBrSize] at small
  have room : (BitVec.ofNat 64 property.brBuffSize - BitVec.ofNat 64 connPktHeadSize).toNat =
      property.brBuffSize - connPktHeadSize := by
    have size : (BitVec.ofNat 64 property.brBuffSize).toNat = property.brBuffSize := by
      rw [BitVec.toNat_ofNat]
      exact Nat.mod_eq_of_lt (by omega)
    have head : (BitVec.ofNat 64 connPktHeadSize).toNat = connPktHeadSize := rfl
    rw [BitVec.toNat_sub_of_le (by rw [BitVec.le_def, size, head]; omega), size, head]
  have len : sizeT pkt.head.len = pkt.payload.length := sizeT_ofNat (by omega)
  rw [receivedHeadCheck, room, len]
  simp only [Packet.head, decide_true, Bool.true_and, decide_eq_true_eq]
  omega

lemma reading_begins (fits : pkt.bytes.length ≤ property.brBuffSize)
    (begins : stream ++ coming = (pkt.bytes :: frames).flatten) : reading property stream =
      if stream.length < pkt.bytes.length then .incomplete else .packet pkt.bytes.length := by
  have small := property.brBuffSize_le
  have length := pkt.length_bytes
  rw [maxBrSize] at small
  unfold reading
  by_cases short : stream.length < connPktHeadSize
  · rw [if_pos short, if_pos (by omega)]
  have head : read stream = pkt.head := by
    apply read_of_begins
    exact Framing.take_held begins (not_lt.mp short) (by omega)
  have len : sizeT pkt.head.len = pkt.payload.length := sizeT_ofNat (by omega)
  rw [if_neg short, head, receivedHeadCheck_head fits, len]
  by_cases more : stream.length < pkt.bytes.length
  · rw [if_pos more, if_neg (by decide), if_pos (by omega)]
  · rw [if_neg more, if_neg (by decide), if_neg (by omega), length, add_comm]

lemma initRecvItem_bytes (connectionId pkt) :
    initRecvItem connectionId pkt.bytes = recvItem connectionId pkt := by
  rw [initRecvItem, Packet.bytes, read_bytes_append]
  rfl

end

/-- For each module, what was taken out of the queue and what is in it are what was put in. -/
def InOrder (past : List ReceiveOutput) (recvList : List ReceiveItemStruct) : Prop :=
  ∀ module, takenOf connectionId module past ++ ofModule connectionId module recvList =
    (insertedOf connectionId past).filter (·.module = module)

section
variable {cid : BitVec 32} {past : List ReceiveOutput}
  {recvList : List ReceiveItemStruct} {item : ReceiveItemStruct}

lemma insertedOf_concat : insertedOf cid (past ++ [.inserted item]) =
      insertedOf cid past ++ [item].filter (·.connectionId = cid) := by
  rw [insertedOf, filterMap_append, filter_append]
  rfl

lemma takenOf_concat_inserted (module) :
    takenOf cid module (past ++ [.inserted item]) = takenOf cid module past := by
  rw [takenOf, filterMap_append]
  change ofModule cid module (_ ++ []) = _
  rw [append_nil, takenOf]

lemma ofModule_append (module front back) : ofModule cid module (front ++ back) =
      ofModule cid module front ++ ofModule cid module back := filter_append ..

lemma InOrder.insert_other (inOrder : InOrder cid past recvList) (other : item.connectionId ≠ cid) :
    InOrder cid (past ++ [.inserted item]) (insertRecvItem item recvList) := by
  intro module
  have none : [item].filter (·.connectionId = cid) = [] := by simp [other]
  have skipped : ofModule cid module (insertRecvItem item recvList) =
      ofModule cid module recvList := by
    rw [insertRecvItem]
    split <;> simp [ofModule, other]
  rw [insertedOf_concat, none, append_nil, takenOf_concat_inserted, skipped, inOrder module]

lemma insert_others {items : List ReceiveItemStruct}
    (foreign : ∀ item ∈ items, item.connectionId ≠ cid) (inOrder : InOrder cid past recvList) :
    InOrder cid (past ++ items.map .inserted)
        (items.foldl (fun queue item => insertRecvItem item queue) recvList) ∧
      insertedOf cid (past ++ items.map .inserted) = insertedOf cid past := by
  induction items generalizing past recvList with
  | nil => exact ⟨by simpa using inOrder, by simp⟩
  | cons item rest ih =>
    have ne := foreign item mem_cons_self
    have later := ih (fun other mem => foreign other (mem_cons_of_mem item mem))
      (inOrder.insert_other ne)
    rw [append_assoc, singleton_append] at later
    refine ⟨later.1, later.2.trans ?_⟩
    rw [insertedOf_concat]
    simp [ne]

/-- An item of the connection. It is put at the head only if none of its module is queued. -/
lemma InOrder.insert_own (inOrder : InOrder cid past recvList) (own : item.connectionId = cid)
    (first : item.module = moduleDeviceAuth → ∀ queued ∈ recvList,
      queued.connectionId = cid → queued.module ≠ moduleDeviceAuth) :
    InOrder cid (past ++ [.inserted item]) (insertRecvItem item recvList) := by
  intro module
  have one : [item].filter (·.connectionId = cid) = [item] := by simp [own]
  have last : ofModule cid module (insertRecvItem item recvList) =
      ofModule cid module recvList ++ ofModule cid module [item] := by
    rw [insertRecvItem]
    split
    next auth =>
      by_cases same : item.module = module
      · have none : ofModule cid module recvList = [] := by
          rw [ofModule, filter_eq_nil_iff]
          rintro queued mem both
          obtain ⟨id, mod⟩ := of_decide_eq_true both
          exact first auth queued mem id (mod.trans (same.symm.trans auth))
        rw [none, nil_append, ← singleton_append, ofModule_append, none, append_nil]
      · simp [ofModule, same]
    · exact ofModule_append module recvList [item]
  rw [insertedOf_concat, one, takenOf_concat_inserted, last, ← append_assoc, inOrder module,
    filter_append, ofModule]
  simp [filter_cons, own]

lemma InOrder.take {rest out}
    (inOrder : InOrder cid past (item :: rest)) (taken : out.taken? = some item) :
    InOrder cid (past ++ [out]) rest := by
  intro module
  have notInserted : out.inserted? = none := by
    cases out with
    | inserted _ => cases taken
    | recvConnectedComd _ => rfl
    | onDataReceived _ => rfl
  have same : insertedOf cid (past ++ [out]) = insertedOf cid past := by
    simp [insertedOf, filterMap_append, notInserted]
  have more : takenOf cid module (past ++ [out]) =
      takenOf cid module past ++ ofModule cid module [item] := by
    rw [takenOf, filterMap_append, ofModule_append]
    simp [taken, takenOf]
  rw [same, more, append_assoc, ← ofModule_append, singleton_append, inOrder module]

end

/-- The packets `sent` were given to the queue; those of `rest` are parked or still to come. -/
structure Streamed (property : BrProperty) (fd connectionId : BitVec 32) (s : ReceiveState)
    (past : List ReceiveOutput) (sent rest : List Packet) (coming : Bytes) : Prop where
  sized : s.Sized property
  others : ∀ conn ∈ s.conns, conn.socketFd ≠ fd → conn.connectionId ≠ connectionId
  found : ∃ conn, lookup (·.socketFd) fd s.conns = some conn ∧
    conn.connectionId = connectionId ∧ conn.held ++ coming = (rest.map Packet.bytes).flatten ∧
    Framing.Stalled (rest.map Packet.bytes) conn.held
  fits : ∀ packet ∈ rest, packet.bytes.length ≤ property.brBuffSize
  inserted : insertedOf connectionId past = sent.map (recvItem connectionId)
  inOrder : InOrder connectionId past s.recvList

section
variable {prop : BrProperty} {fd cid : BitVec 32} {s : ReceiveState}
  {past : List ReceiveOutput} {sent rest : List Packet} {coming : Bytes}

lemma stalled_of_reading (fits : ∀ pkt ∈ rest, pkt.bytes.length ≤ prop.brBuffSize)
    {stream} (begins : stream ++ coming = (rest.map Packet.bytes).flatten)
    (none : (reading prop stream).isPacket = false) :
    Framing.Stalled (rest.map Packet.bytes) stream := by
  intro frame frames split
  cases rest with
  | nil => cases split
  | cons pkt rest =>
    cases split
    have read := reading_begins (fits pkt mem_cons_self) begins
    by_contra complete
    rw [if_neg complete] at read
    rw [read] at none
    cases none

lemma items_connectionId {item : ReceiveItemStruct} {stream : Bytes} {what : Reading}
    (mem : item ∈ what.items cid stream) : item.connectionId = cid := by
  cases what with
  | incomplete => cases mem
  | refused => cases mem
  | packet len =>
    rw [mem_singleton.mp mem]
    rfl

variable {socketFd : BitVec 32}

variable {buf : Bytes}

lemma receiveStep_data {conn} (sized : s.Sized prop)
    (found : lookup (·.socketFd) socketFd s.conns = some conn)
    (fitting : Fitting prop s (.clientOnDataReceived socketFd buf)) :
    ∃ next items, items = (reading prop (conn.held ++ buf)).items conn.connectionId
        (conn.held ++ buf) ∧ receiveStep prop s (.clientOnDataReceived socketFd buf) =
        some (⟨update (·.socketFd) socketFd (fun _ => next) s.conns,
          items.foldl (fun queue item => insertRecvItem item queue) s.recvList⟩,
          items.map .inserted) ∧
      Sized prop next ∧ next.connectionId = conn.connectionId ∧ next.socketFd = socketFd ∧
      (Alone prop conn buf →
        next.held = (reading prop (conn.held ++ buf)).left (conn.held ++ buf)) := by
  obtain ⟨mem, key⟩ := mem_of_lookup found
  obtain ⟨next, hNext, nextSized, id, sameFd, left⟩ :=
    receiveOn_spec (sized conn mem) (fitting conn found)
  refine ⟨next, _, rfl, ?_, nextSized, id, sameFd.trans key, left⟩
  rw [receiveStep, found]
  simp [hNext]

lemma sized_update {next} (sized : s.Sized prop) (nextSized : Sized prop next) :
    ∀ conn ∈ update (·.socketFd) socketFd (fun _ => next) s.conns, Sized prop conn := by
  intro conn mem
  rcases mem_update mem with old | ⟨_, _, rfl⟩
  · exact sized conn old
  · exact nextSized

lemma Streamed.other (streamed : Streamed prop fd cid s past sent rest coming)
    (other : socketFd ≠ fd) (fitting : Fitting prop s (.clientOnDataReceived socketFd buf)) :
    ∃ t out, receiveStep prop s (.clientOnDataReceived socketFd buf) = some (t, out) ∧
      Streamed prop fd cid t (past ++ out) sent rest coming := by
  obtain ⟨own, foundOwn, sameId, parked, stalled⟩ := streamed.found
  cases found : lookup (·.socketFd) socketFd s.conns with
  | none =>
    refine ⟨s, [], by rw [receiveStep, found], ?_⟩
    rwa [append_nil]
  | some conn =>
    obtain ⟨mem, key⟩ := mem_of_lookup found
    obtain ⟨next, items, hItems, hStep, nextSized, id, nextFd, _⟩ :=
      receiveStep_data streamed.sized found fitting
    have ne : conn.connectionId ≠ cid := streamed.others conn mem (key ▸ other)
    have keeps (conn : BrConnectionInfo) (_ : conn.socketFd = socketFd) :
        next.socketFd = socketFd := nextFd
    have foreign (item) (mem : item ∈ items) : item.connectionId ≠ cid := by
      rw [hItems] at mem
      rw [items_connectionId mem]
      exact ne
    refine ⟨_, _, hStep, sized_update streamed.sized nextSized, ?_, ?_, streamed.fits, ?_, ?_⟩
    · intro conn' mem' elsewhere
      rcases mem_update mem' with old | ⟨_, _, rfl⟩
      · exact streamed.others conn' old elsewhere
      · rwa [id]
    · refine ⟨own, ?_, sameId, parked, stalled⟩
      rw [lookup_update_of_ne keeps other.symm, foundOwn]
    · rw [(insert_others foreign streamed.inOrder).2, streamed.inserted]
    · exact (insert_others foreign streamed.inOrder).1

lemma reading_rest (fits : ∀ pkt ∈ rest, pkt.bytes.length ≤ prop.brBuffSize)
    {stream} (begins : stream ++ coming = (rest.map Packet.bytes).flatten) :
    reading prop stream = .incomplete ∨
      ∃ pkt later, rest = pkt :: later ∧ pkt.bytes.length ≤ stream.length ∧
        reading prop stream = .packet pkt.bytes.length := by
  cases rest with
  | nil =>
    have empty : stream = [] := (append_eq_nil_iff.mp begins).1
    rw [empty]
    exact .inl rfl
  | cons pkt later =>
    have read := reading_begins (fits pkt mem_cons_self) begins
    by_cases short : stream.length < pkt.bytes.length
    · rw [if_pos short] at read
      exact .inl read
    · rw [if_neg short] at read
      exact .inr ⟨pkt, later, rfl, not_lt.mp short, read⟩

lemma Streamed.own (streamed : Streamed prop fd cid s past sent rest (buf ++ coming))
    (fitting : Fitting prop s (.clientOnDataReceived fd buf))
    (paced : Paced prop fd s (.clientOnDataReceived fd buf)) :
    ∃ t out sent' rest', receiveStep prop s (.clientOnDataReceived fd buf) = some (t, out) ∧
      Streamed prop fd cid t (past ++ out) sent' rest' coming ∧ sent' ++ rest' = sent ++ rest := by
  obtain ⟨conn, found, sameId, parked, stalled⟩ := streamed.found
  obtain ⟨mem, key⟩ := mem_of_lookup found
  obtain ⟨next, items, hItems, hStep, nextSized, id, nextFd, left⟩ :=
    receiveStep_data streamed.sized found fitting
  have calm := paced rfl
  rw [found] at calm
  dsimp only at calm
  have keeps (conn : BrConnectionInfo) (_ : conn.socketFd = fd) : next.socketFd = fd := nextFd
  have foundNext : lookup (·.socketFd) fd
      (update (·.socketFd) fd (fun _ => next) s.conns) = some next := by
    rw [lookup_update_self keeps, found, Option.map_some]
  have others (other) (mem : other ∈ update (·.socketFd) fd (fun _ => next) s.conns)
      (ne : other.socketFd ≠ fd) : other.connectionId ≠ cid := by
    rcases mem_update mem with old | ⟨_, _, rfl⟩
    · exact streamed.others other old ne
    · exact absurd nextFd ne
  rw [← append_assoc] at parked
  rcases reading_rest streamed.fits parked with what | ⟨pkt, later, rfl, complete, what⟩
  · have alone : Alone prop conn buf := by
      intro empty len isPacket
      simp [held_of_empty empty, nil_append, isPacket] at what
    rw [what] at hItems left
    subst hItems
    refine ⟨_, _, sent, rest, hStep, ⟨sized_update streamed.sized nextSized, others, ?_,
      streamed.fits, ?_, ?_⟩, rfl⟩
    · have held := left alone
      rw [Reading.left] at held
      refine ⟨next, foundNext, id.trans sameId, by rw [held, parked], ?_⟩
      rw [held]
      exact stalled_of_reading streamed.fits parked (by rw [what]; rfl)
    · simpa [Reading.items] using streamed.inserted
    · simpa [Reading.items] using streamed.inOrder
  · rw [what] at calm hItems left
    dsimp only at calm
    obtain ⟨single, noMore, first⟩ := calm
    have front : (conn.held ++ buf).take pkt.bytes.length = pkt.bytes := by
      have same := Framing.take_held parked complete le_rfl
      rwa [take_length] at same
    have tail := (Framing.take_frame parked complete).2
    rw [Reading.items, front, sameId, initRecvItem_bytes] at hItems
    subst hItems
    have alone : Alone prop conn buf := by
      intro empty len isPacket
      rw [held_of_empty empty, nil_append, isPacket] at what
      cases what
      exact single empty
    have head : read (conn.held ++ buf) = pkt.head := by
      apply read_of_begins
      exact Framing.take_held parked (by rw [pkt.length_bytes] at complete; omega)
        (by rw [pkt.length_bytes]; omega)
    rw [head, sameId] at first
    have laterFits (other) (mem : other ∈ later) :=
      streamed.fits other (mem_cons_of_mem pkt mem)
    refine ⟨_, _, sent ++ [pkt], later, hStep, ⟨sized_update streamed.sized nextSized, others,
      ?_, laterFits, ?_, ?_⟩, by rw [append_assoc, singleton_append]⟩
    · have held := left alone
      rw [Reading.left] at held
      refine ⟨next, foundNext, id.trans sameId, by rw [held, tail], ?_⟩
      rw [held]
      exact stalled_of_reading laterFits tail noMore
    · rw [map_singleton, insertedOf_concat, streamed.inserted, map_append]
      simp [recvItem]
    · exact streamed.inOrder.insert_own rfl first

lemma Streamed.handled (streamed : Streamed prop fd cid s past sent rest coming) :
    ∃ t out, receiveStep prop s .recvHandlerLoop = some (t, out) ∧
      Streamed prop fd cid t (past ++ out) sent rest coming := by
  rw [receiveStep]
  cases queue : s.recvList with
  | nil => exact ⟨s, [], rfl, by rwa [append_nil]⟩
  | cons item later =>
    refine ⟨_, _, rfl, streamed.sized, streamed.others, streamed.found, streamed.fits, ?_, ?_⟩
    · rw [← streamed.inserted]
      split <;> simp [insertedOf, ReceiveOutput.inserted?]
    · apply InOrder.take (queue ▸ streamed.inOrder)
      split <;> rfl

lemma streamed_step {event}
    (streamed : Streamed prop fd cid s past sent rest (arriving fd [event] ++ coming))
    (fitting : Fitting prop s event) (paced : Paced prop fd s event) :
    ∃ t out sent' rest', receiveStep prop s event = some (t, out) ∧
      Streamed prop fd cid t (past ++ out) sent' rest' coming ∧ sent' ++ rest' = sent ++ rest := by
  cases event with
  | recvHandlerLoop =>
    obtain ⟨t, out, hStep, still⟩ := streamed.handled
    exact ⟨t, out, sent, rest, hStep, still, rfl⟩
  | clientOnDataReceived socketFd buf =>
    by_cases same : socketFd = fd
    · subst same
      have here : arriving socketFd [.clientOnDataReceived socketFd buf] = buf := by
        simp [arriving]
      rw [here] at streamed
      exact streamed.own fitting paced
    · have elsewhere : arriving fd [.clientOnDataReceived socketFd buf] = [] := by
        simp [arriving, same]
      rw [elsewhere] at streamed
      obtain ⟨t, out, hStep, still⟩ := streamed.other same fitting
      exact ⟨t, out, sent, rest, hStep, still, rfl⟩

lemma arriving_cons (event events) :
    arriving fd (event :: events) = arriving fd [event] ++ arriving fd events := by
  cases event with
  | recvHandlerLoop => rfl
  | clientOnDataReceived socketFd buf =>
    by_cases same : socketFd = fd <;> simp [arriving, same]

lemma run_streamed {events} (streamed : Streamed prop fd cid s past sent rest (arriving fd events))
    (guarded : AllSteps (receiveStep prop)
      (fun s event => Fitting prop s event ∧ Paced prop fd s event) s events) :
    ∃ t outs sent' rest', run (receiveStep prop) s events = some (t, outs) ∧
      Streamed prop fd cid t (past ++ outs) sent' rest' [] ∧ sent' ++ rest' = sent ++ rest := by
  induction events generalizing s past sent rest with
  | nil => exact ⟨s, [], sent, rest, rfl, by rwa [append_nil], rfl⟩
  | cons event later ih =>
    rw [arriving_cons] at streamed
    obtain ⟨fitting, paced⟩ := guarded.head
    obtain ⟨u, out, sent₁, rest₁, hStep, now, same₁⟩ := streamed_step streamed fitting paced
    obtain ⟨t, outs, sent₂, rest₂, hRest, final, same₂⟩ := ih now (guarded.tail hStep)
    refine ⟨t, out ++ outs, sent₂, rest₂, ?_, ?_, same₂.trans same₁⟩
    · exact run_cons_eq_some.mpr ⟨u, out, outs, hStep, hRest, rfl⟩
    · rwa [← append_assoc]

end

structure ReceiveState.Open (property : BrProperty) (fd connectionId : BitVec 32)
    (s : ReceiveState) : Prop where
  sized : s.Sized property
  found : ∃ conn, lookup (·.socketFd) fd s.conns = some conn ∧
    conn.connectionId = connectionId ∧ conn.recvPos = 0
  others : ∀ conn ∈ s.conns, conn.socketFd ≠ fd → conn.connectionId ≠ connectionId
  queue : ∀ item ∈ s.recvList, item.connectionId ≠ connectionId

lemma ReceiveState.Open.streamed {property fd connectionId s}
    (start : s.Open property fd connectionId) {packets}
    (fits : ∀ pkt ∈ packets, pkt.bytes.length ≤ property.brBuffSize) :
    Streamed property fd connectionId s [] [] packets (packets.map Packet.bytes).flatten := by
  obtain ⟨conn, found, sameId, empty⟩ := start.found
  have nothing := held_of_empty empty
  refine ⟨start.sized, start.others, ⟨conn, found, sameId, ?_, ?_⟩, fits, rfl, fun module => ?_⟩
  · rw [nothing, nil_append]
  · rw [nothing]
    intro frame frames split
    have mem : frame ∈ packets.map Packet.bytes := by
      rw [split]
      exact mem_cons_self
    obtain ⟨pkt, _, rfl⟩ := mem_map.mp mem
    rw [pkt.length_bytes, length_nil, connPktHeadSize]
    omega
  · have none : ofModule connectionId module s.recvList = [] := by
      rw [ofModule, filter_eq_nil_iff]
      intro item mem both
      exact start.queue item mem (of_decide_eq_true both).1
    rw [none]
    rfl

/-- If all callbacks are paced, the queue is given just the packets of the stream, and those of
each module are taken out in order. Whatever the stream, the position stays inside the buffer.
-/
theorem recvQueue_given_packets (property : BrProperty) :
    (∀ (fd connectionId : BitVec 32) (packets : List Packet) (s : ReceiveState)
        (events : List ReceiveEvent), s.Open property fd connectionId →
      (∀ packet ∈ packets, packet.bytes.length ≤ property.brBuffSize) →
      arriving fd events = (packets.map Packet.bytes).flatten → AllSteps (receiveStep property)
        (fun s event => Fitting property s event ∧ Paced property fd s event) s events →
      ∃ t outs, run (receiveStep property) s events = some (t, outs) ∧
        insertedOf connectionId outs = packets.map (recvItem connectionId) ∧
        ∀ module, takenOf connectionId module outs ++ ofModule connectionId module t.recvList =
          (packets.filter (·.module = module)).map (recvItem connectionId)) ∧
    ∀ (s : ReceiveState) (events : List ReceiveEvent), s.Sized property →
      AllSteps (receiveStep property) (Fitting property) s events →
      ∃ t outs, run (receiveStep property) s events = some (t, outs) ∧
        ∀ conn ∈ t.conns, conn.recvPos ≤ property.brBuffSize := by
  constructor
  · intro fd connectionId packets s events start fits arrives guarded
    have streamed := start.streamed fits
    rw [← arrives] at streamed
    obtain ⟨t, outs, sent, rest, hRun, final, same⟩ := run_streamed streamed guarded
    obtain ⟨conn, _, _, parked, stalled⟩ := final.found
    have done : rest = [] := map_eq_nil_iff.mp (Framing.all_taken parked stalled)
    have all : sent = packets := by
      rw [done, append_nil] at same
      exact same
    have inserted := final.inserted
    rw [nil_append, all] at inserted
    refine ⟨t, outs, hRun, inserted, fun module => ?_⟩
    have ordered := final.inOrder module
    rw [nil_append, inserted] at ordered
    rw [ordered, filter_map]
    rfl
  · intro s events sized guarded
    obtain ⟨t, outs, hRun, final⟩ := run_defined
      (fun _ _ sized fitting => receiveStep_sized sized fitting) sized guarded
    exact ⟨t, outs, hRun, fun conn mem => (final conn mem).pos⟩

instance (property : BrProperty) (s event) : Decidable (Fitting property s event) := by
  unfold Fitting
  split <;> infer_instance

instance (property : BrProperty) (fd : BitVec 32) (s event) :
    Decidable (Paced property fd s event) := by
  unfold Paced
  repeat' split
  all_goals infer_instance

def listening : ReceiveState where
  conns := [{ openConnection 0x20001 7 with
    recvBuf := replicate BrProperty.standard.brBuffSize 0 }]
  recvList := []

lemma open_listening : listening.Open .standard 7 0x20001 where
  sized := by
    intro conn mem
    rw [mem_singleton.mp mem]
    exact ⟨length_replicate, by decide⟩
  found := ⟨_, rfl, rfl, rfl⟩
  others := by
    intro conn mem other
    rw [mem_singleton.mp mem] at other
    exact absurd rfl other
  queue := fun item mem => absurd mem not_mem_nil

def proxyPacket : Packet := ⟨13, 1, 0, [1, 2, 3]⟩
def authPacket : Packet := ⟨moduleDeviceAuth, 2, 0, [4]⟩

/-- The second callback has the end of the first packet and the beginning of the second. -/
def threeCallbacks : List ReceiveEvent :=
  [.clientOnDataReceived 7 (proxyPacket.bytes.take 10),
    .clientOnDataReceived 7 (proxyPacket.bytes.drop 10 ++ authPacket.bytes.take 5),
    .recvHandlerLoop, .clientOnDataReceived 7 (authPacket.bytes.drop 5)]

theorem recvQueue_given_threeCallbacks :
    ∃ t outs, run (receiveStep .standard) listening threeCallbacks = some (t, outs) ∧
      insertedOf 0x20001 outs = [proxyPacket, authPacket].map (recvItem 0x20001) := by
  obtain ⟨t, outs, hRun, inserted, _⟩ := (recvQueue_given_packets .standard).1 7 0x20001
    [proxyPacket, authPacket] listening threeCallbacks open_listening (by decide +kernel)
    (by decide +kernel) (by decide +kernel)
  exact ⟨t, outs, hRun, inserted⟩

/-- Both packets in one callback: the second is lost, and as many other bytes are parked. -/
theorem merged_packets_lost : listening.Open .standard 7 0x20001 ∧
      AllSteps (receiveStep .standard) (Fitting .standard) listening
        [.clientOnDataReceived 7 (proxyPacket.bytes ++ authPacket.bytes)] ∧
      (run (receiveStep .standard) listening
        [.clientOnDataReceived 7 (proxyPacket.bytes ++ authPacket.bytes)]).map
          (fun result => (insertedOf 0x20001 result.2, result.1.conns.map (·.held))) =
        some ([recvItem 0x20001 proxyPacket], [replicate 25 0]) := by
  refine ⟨open_listening, by decide +kernel, by decide +kernel⟩

end DSoftBus.Br
