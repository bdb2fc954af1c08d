import DSoftBus.Conn.BrSendQueue

/-!
SendData of br_connection.c beside RfcomCongestEvent. SendData looks for the item's
connection and goes on to the end of the list, so what it tests and waits for is the last
connection, while it writes to the socket it was looking for. It waits once: whatever ends
the wait, it writes the next chunk. From the first wait on it no longer holds the lock
that keeps RfcomCongestEvent away.

A step is what happens between two points where another thread may run. A connection is
named by its position in the list, which does not change.
-/
namespace DSoftBus.Br
open Execution List

structure SendJob where
  item : SendItemStruct
  socketFd : BitVec 32
  brConnInfo : Nat
  rest : Bytes
  freeLock : Bool

inductive SendPhase where
  | idle
  | checking (job : SendJob)
  | waiting (job : SendJob)
  | writing (job : SendJob)

structure CongestState where
  conns : List BrConnectionInfo
  phase : SendPhase

/-- `start` is an iteration of SendHandlerLoop that has taken the item. A wait may end
without a signal. -/
inductive CongestEvent where
  | start (item : SendItemStruct)
  | check
  | wake
  | write
  | rfcomCongestEvent (socketFd value : BitVec 32)

def BrConnectionInfo.Congested (conn : BrConnectionInfo) : Prop :=
  conn.conGestState = btRfcomCongestOn ∧ conn.state = .connected
deriving Decidable

/-- The socket that the scan leaves in the variable, -1 if the connection is not found. -/
def scanForSocket (connectionId : BitVec 32) (conns : List BrConnectionInfo) : BitVec 32 :=
  conns.foldl (fun socketFd conn =>
    if conn.connectionId = connectionId then conn.socketFd else socketFd) (-1)

/-- `g_connectionLock` is held by SendData. -/
def SendPhase.Locked : SendPhase → Prop
  | .idle | .waiting _ => False
  | .checking job | .writing job => job.freeLock = false

instance : DecidablePred SendPhase.Locked
  | .idle | .waiting _ => isFalse id
  | .checking job | .writing job => inferInstanceAs (Decidable (job.freeLock = false))

def rfcomCongestEvent (socketFd value : BitVec 32) (conns : List BrConnectionInfo) :
    List BrConnectionInfo :=
  KeyedList.update (·.socketFd) socketFd (fun conn => { conn with conGestState := value }) conns

/-- The outputs are the chunks given to the driver, with their sockets. -/
def congestStep (property : BrProperty) (s : CongestState) :
    CongestEvent → Option (CongestState × List (BitVec 32 × Bytes))
  | .start item =>
    match s.phase with
    | .idle =>
      let socketFd := scanForSocket item.connectionId s.conns
      if socketFd = -1 then some (s, [])
      else some ({ s with
        phase := .checking ⟨item, socketFd, s.conns.length - 1, item.data, false⟩ }, [])
    | _ => none
  | .check =>
    match s.phase with
    | .checking job =>
      if job.rest = [] then some ({ s with phase := .idle }, [])
      else
        match s.conns[job.brConnInfo]? with
        | none => none
        | some conn =>
          if conn.Congested then
            some ({ s with phase := .waiting { job with freeLock := true } }, [])
          else some ({ s with phase := .writing job }, [])
    | _ => none
  | .wake =>
    match s.phase with
    | .waiting job => some ({ s with phase := .writing job }, [])
    | _ => none
  | .write =>
    match s.phase with
    | .writing job =>
      some ({ s with
          phase := .checking { job with rest := job.rest.drop property.brSendPeerLen } },
        [(job.socketFd, job.rest.take property.brSendPeerLen)])
    | _ => none
  | .rfcomCongestEvent socketFd value =>
    if s.phase.Locked then none
    else some ({ s with conns := rfcomCongestEvent socketFd value s.conns }, [])

/-- The item's connection is the one SendData looks at, and its socket the one it writes to. -/
def SendJob.Own (job : SendJob) (conns : List BrConnectionInfo) : Prop :=
  (∃ conn, conns[job.brConnInfo]? = some conn ∧ conn.connectionId = job.item.connectionId ∧
    conn.socketFd = job.socketFd) ∧
  ∀ pos conn, conns[pos]? = some conn → conn.connectionId = job.item.connectionId →
    pos = job.brConnInfo

def Uncongested (item : SendItemStruct) (conns : List BrConnectionInfo) : Prop :=
  ∀ conn ∈ conns, conn.connectionId = item.connectionId → ¬ conn.Congested

/-- A chunk goes to a connection that is not congested, and a wait is one for the item's own
connection. -/
def Polite (s : CongestState) (event : CongestEvent) (t : CongestState)
    (_ : List (BitVec 32 × Bytes)) : Prop :=
  (event = .write → ∀ job, s.phase = .writing job → Uncongested job.item s.conns) ∧
  ∀ job, t.phase = .waiting job → job.Own t.conns

/-- The item's connection is the last one of the list, the wait does not end while it is
congested, and it does not become congested between the wait or the test and the next chunk. -/
def Calm (s : CongestState) : CongestEvent → Prop
  | .start item => ∀ conn ∈ s.conns.dropLast, conn.connectionId ≠ item.connectionId
  | .wake =>
    match s.phase with
    | .waiting job => ∀ conn ∈ s.conns[job.brConnInfo]?, ¬ conn.Congested
    | _ => True
  | .rfcomCongestEvent socketFd value =>
    match s.phase with
    | .writing job => value = btRfcomCongestOn →
        s.conns.findIdx (fun conn => conn.socketFd = socketFd) ≠ job.brConnInfo
    | _ => True
  | _ => True

instance (s : CongestState) (event : CongestEvent) : Decidable (Calm s event) := by
  obtain ⟨conns, phase⟩ := s
  cases event <;> cases phase <;> dsimp only [Calm] <;> infer_instance

section
variable {cid : BitVec 32} {conns : List BrConnectionInfo}

lemma scanForSocket_concat (front last) : scanForSocket cid (front ++ [last]) =
      if last.connectionId = cid then last.socketFd
      else scanForSocket cid front := by
  rw [scanForSocket, foldl_append]
  rfl

lemma scanForSocket_of_none (none : ∀ conn ∈ conns, conn.connectionId ≠ cid) :
    scanForSocket cid conns = -1 := by
  induction conns using reverseRecOn with
  | nil => rfl
  | append_singleton front last ih =>
    rw [scanForSocket_concat, if_neg (none last (by simp)),
      ih fun conn mem => none conn (mem_append_left _ mem)]

lemma own_of_scanForSocket {item rest freeLock}
    (last : ∀ conn ∈ conns.dropLast, conn.connectionId ≠ item.connectionId)
    (found : scanForSocket item.connectionId conns ≠ -1) :
    SendJob.Own ⟨item, scanForSocket item.connectionId conns, conns.length - 1, rest, freeLock⟩
      conns := by
  rcases eq_nil_or_concat conns with rfl | ⟨front, conn, rfl⟩
  · exact absurd rfl found
  rw [concat_eq_append] at *
  rw [dropLast_concat] at last
  rw [scanForSocket_concat] at found ⊢
  have own : conn.connectionId = item.connectionId := by
    by_contra other
    rw [if_neg other, scanForSocket_of_none last] at found
    exact found rfl
  rw [if_pos own]
  refine ⟨⟨conn, by simp, own, rfl⟩, fun pos other atPos same => ?_⟩
  by_contra early
  have inFront : pos < front.length := by
    have inside := (List.getElem?_eq_some_iff.mp atPos).1
    rw [List.length_append, List.length_singleton] at inside
    simp only [List.length_append, List.length_singleton] at early
    omega
  rw [getElem?_append_left inFront] at atPos
  exact last other (mem_of_getElem? atPos) same

end

section
variable {job : SendJob} {conns : List BrConnectionInfo} {socketFd value : BitVec 32}

lemma SendJob.Own.uncongested_iff (own : job.Own conns) :
    Uncongested job.item conns ↔ ∀ conn ∈ conns[job.brConnInfo]?, ¬ conn.Congested := by
  constructor
  · intro clear conn atPos
    obtain ⟨found, here, same, _⟩ := own.1
    rw [here, Option.mem_def, Option.some.injEq] at atPos
    exact atPos ▸ clear found (mem_of_getElem? here) same
  · intro clear conn mem same
    obtain ⟨pos, atPos⟩ := mem_iff_getElem?.mp mem
    have here := own.2 pos conn atPos same
    exact clear conn (here ▸ atPos)

lemma SendJob.Own.rfcomCongestEvent (own : job.Own conns) :
    job.Own (rfcomCongestEvent socketFd value conns) := by
  have back {pos : Nat} {conn : BrConnectionInfo}
      (atPos : (Br.rfcomCongestEvent socketFd value conns)[pos]? = some conn) :
      ∃ old, conns[pos]? = some old ∧ conn.connectionId = old.connectionId := by
    rw [Br.rfcomCongestEvent, KeyedList.getElem?_update] at atPos
    split at atPos
    · obtain ⟨old, atOld, rfl⟩ := Option.map_eq_some_iff.mp atPos
      exact ⟨old, atOld, rfl⟩
    · exact ⟨conn, atPos, rfl⟩
  refine ⟨?_, fun pos conn atPos same => ?_⟩
  · obtain ⟨conn, here, same, socket⟩ := own.1
    rw [Br.rfcomCongestEvent, KeyedList.getElem?_update, here]
    split
    · exact ⟨_, rfl, same, socket⟩
    · exact ⟨conn, rfl, same, socket⟩
  · obtain ⟨old, atOld, keeps⟩ := back atPos
    exact own.2 pos old atOld (keeps ▸ same)

lemma SendJob.Own.stays_uncongested (own : job.Own conns) (clear : Uncongested job.item conns)
    (other : value = btRfcomCongestOn →
      conns.findIdx (fun conn => conn.socketFd = socketFd) ≠ job.brConnInfo) :
    Uncongested job.item (Br.rfcomCongestEvent socketFd value conns) := by
  rw [own.uncongested_iff] at clear
  rw [own.rfcomCongestEvent.uncongested_iff, Br.rfcomCongestEvent, KeyedList.getElem?_update]
  split
  next here =>
    rintro conn atPos ⟨isOn, _⟩
    obtain ⟨old, _, rfl⟩ := Option.map_eq_some_iff.mp atPos
    exact other isOn here.symm
  · exact clear

end

/-- SendData works on the item's own connection, which is not congested when a chunk is due. -/
def SendPhase.Sound (conns : List BrConnectionInfo) : SendPhase → Prop
  | .idle => True
  | .checking job | .waiting job => job.Own conns
  | .writing job => job.Own conns ∧ Uncongested job.item conns

lemma congestStep_polite {property} (s event t out) (sound : s.phase.Sound s.conns)
    (calm : Calm s event) (h : congestStep property s event = some (t, out)) :
    t.phase.Sound t.conns ∧ Polite s event t out := by
  obtain ⟨conns, phase⟩ := s
  cases event with
  | start item =>
    cases phase with
    | idle =>
      rw [congestStep] at h
      dsimp only at h
      split at h
      · cases h
        exact ⟨trivial, by simp, by simp⟩
      next found =>
        cases h
        exact ⟨own_of_scanForSocket calm found, by simp, by simp⟩
    | _ => cases h
  | check =>
    cases phase with
    | checking job =>
      rw [congestStep] at h
      dsimp only at h
      split at h
      · cases h
        exact ⟨trivial, by simp, by simp⟩
      split at h
      · cases h
      rename_i conn here
      split at h
      · cases h
        refine ⟨sound, by simp, fun job same => ?_⟩
        cases same
        exact sound
      next clear =>
        cases h
        refine ⟨⟨sound, sound.uncongested_iff.mpr fun other atPos => ?_⟩, by simp, by simp⟩
        rw [here] at atPos
        cases atPos
        exact clear
    | _ => cases h
  | wake =>
    cases phase with
    | waiting job =>
      cases h
      exact ⟨⟨sound, SendJob.Own.uncongested_iff sound |>.mpr calm⟩, by simp, by simp⟩
    | _ => cases h
  | write =>
    cases phase with
    | writing job =>
      cases h
      refine ⟨sound.1, fun _ other same => ?_, by simp⟩
      cases same
      exact sound.2
    | _ => cases h
  | rfcomCongestEvent socketFd value =>
    rw [congestStep] at h
    split at h
    · cases h
    cases h
    cases phase with
    | idle => exact ⟨trivial, by simp, by simp⟩
    | checking job => exact ⟨sound.rfcomCongestEvent, by simp, by simp⟩
    | waiting job =>
      refine ⟨SendJob.Own.rfcomCongestEvent sound, by simp, fun other same => ?_⟩
      cases same
      exact SendJob.Own.rfcomCongestEvent sound
    | writing job =>
      exact ⟨⟨sound.1.rfcomCongestEvent, sound.1.stays_uncongested sound.2 calm⟩, by simp, by simp⟩

/-- A run that keeps to the condition writes no chunk to a congested connection and waits only
for the item's own. -/
theorem sendData_polite (property : BrProperty) (conns : List BrConnectionInfo)
    (inputs : List CongestEvent)
    (calm : AllSteps (congestStep property) Calm ⟨conns, .idle⟩ inputs) :
    AllResults (congestStep property) Polite ⟨conns, .idle⟩ inputs := by
  have start : SendPhase.Sound conns .idle := trivial
  exact AllSteps.results_of_inv (I := fun s => s.phase.Sound s.conns) congestStep_polite start calm

/-- The item waits until its connection, the last one of two, is free. -/
theorem sendData_polite_oneWait : AllResults (congestStep .standard) Polite ⟨twoConnections, .idle⟩
      [.rfcomCongestEvent 7 btRfcomCongestOn, .start ⟨0x20001, 5, 1, [1, 2, 3]⟩, .check,
        .rfcomCongestEvent 7 btRfcomCongestOff, .wake, .write, .check] :=
  sendData_polite .standard twoConnections _ (by decide +kernel)

/-- An item of the first of two connections: it is written although this connection is
congested, and it waits for the congestion of the other one. -/
theorem firstConnection_not_polite :
    ¬ AllResults (congestStep .standard) Polite ⟨twoConnections, .idle⟩
      [.rfcomCongestEvent 8 btRfcomCongestOn, .start ⟨0x20002, 5, 1, [1, 2, 3]⟩, .check, .write] ∧
    ¬ AllResults (congestStep .standard) Polite ⟨twoConnections, .idle⟩
      [.rfcomCongestEvent 7 btRfcomCongestOn, .start ⟨0x20002, 5, 1, [1, 2, 3]⟩, .check] := by
  constructor
  · intro polite
    have wrote := (polite [_, _, _] .write [] rfl _ _ rfl _ _ rfl).1 rfl _ rfl
    exact wrote _ mem_cons_self rfl ⟨rfl, rfl⟩
  · intro polite
    have waits := (polite [_, _] .check [] rfl _ _ rfl _ _ rfl).2 _ rfl
    obtain ⟨conn, here, same, _⟩ := waits.1
    cases here
    exact absurd same (by decide)

end DSoftBus.Br
