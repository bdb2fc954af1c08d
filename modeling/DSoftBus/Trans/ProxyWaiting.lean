import DSoftBus.Trans.ProxyRefinement

/-!
Channels that wait for a connection. Each has an item that still connects and was
requested for the address of the channel, so whatever becomes of the request reaches the
channel.

This fails in two ways. TransAddConnItem refuses an item when another one has the same
string for an address, of whatever type and port, and the open succeeds all the same; and
a channel given up while it waits closes connection 0, the id of every item that still
connects.
-/
namespace DSoftBus.Proxy
open Effect Execution RecordHeap KeyedList List Prod ProxyConnInfo ProxyChannel

def Asked (items : List ProxyConnInfo) (reqId : BitVec 32) (connInfo : ConnectOption) : Prop :=
  ∃ item ∈ items, item.request = (reqId, .pyhConnecting) ∧ item.connInfo = connInfo

/-- Items that connect are only made by requests; no other change makes one or alters it. -/
def Derived (items items' : List ProxyConnInfo) : Prop :=
  ∀ item ∈ items', item.state = .pyhConnecting → ∃ old ∈ items,
    old.request = item.request ∧ old.connInfo = item.connInfo ∧ old.connId = item.connId

section
variable {items items' : List ProxyConnInfo} {reqId connId r : BitVec 32} {addr : ConnectOption}

lemma derived_of_subset (sub : items' ⊆ items) : Derived items items' :=
  fun item mem _ => ⟨item, sub mem, rfl, rfl, rfl⟩

variable {f : ProxyConnInfo → ProxyConnInfo}

lemma derived_update {κ : Type} [DecidableEq κ] {key : ProxyConnInfo → κ} {k}
    (same : ∀ item, (f item).state = .pyhConnecting → item.request = (f item).request ∧
      item.connInfo = (f item).connInfo ∧ item.connId = (f item).connId) :
    Derived items (update key k f items) := by
  intro item mem conn
  rcases mem_update mem with old | ⟨old, found, rfl⟩
  · exact ⟨item, old, rfl, rfl, rfl⟩
  · exact ⟨old, (mem_of_lookup found).1, same old conn⟩

lemma derived_addRef : Derived items (transAddConnRefByConnId connId items) :=
  derived_update fun _ _ => ⟨rfl, rfl, rfl⟩

lemma Derived.trans {others} (first : Derived items items')
    (next : Derived items' others) : Derived items others := by
  intro item mem conn
  obtain ⟨between, mem', request, address, connId⟩ := next item mem conn
  have connecting' : between.state = .pyhConnecting := (congrArg snd request).trans conn
  obtain ⟨old, mem'', request', address', connId'⟩ := first between mem' connecting'
  exact ⟨old, mem'', request'.trans request, address'.trans address, connId'.trans connId⟩

lemma derived_decRef : Derived items (transDecConnRefByConnId connId items).1 := by
  unfold transDecConnRefByConnId
  split
  · exact derived_of_subset fun _ mem => mem
  · split
    · exact derived_of_subset fun _ mem => mem_of_mem_remove mem
    · exact derived_update fun _ _ => ⟨rfl, rfl, rfl⟩

lemma derived_createConn {info} : Derived items (transCreateConnByConnId connId items info) := by
  unfold transCreateConnByConnId
  split
  · exact derived_of_subset fun _ mem => mem
  · exact derived_addRef
  · intro item mem conn
    rcases mem_cons.mp mem with rfl | old
    · cases conn
    · exact ⟨item, old, rfl, rfl, rfl⟩

lemma Asked.cons {item} (asked : Asked items reqId addr) : Asked (item :: items) reqId addr := by
  obtain ⟨other, mem, is⟩ := asked
  exact ⟨other, mem_cons_of_mem _ mem, is⟩

lemma Asked.update {κ : Type} [DecidableEq κ] {key : ProxyConnInfo → κ} {k}
    (asked : Asked items reqId addr)
    (same : ∀ item, (f item).request = item.request ∧ (f item).connInfo = item.connInfo) :
    Asked (update key k f items) reqId addr := by
  obtain ⟨item, mem, request, address⟩ := asked
  have view (item) : ((f item).request, (f item).connInfo) = (item.request, item.connInfo) :=
    Prod.ext (same item).1 (same item).2
  have mem' : (item.request, item.connInfo) ∈
      (KeyedList.update key k f items).map fun item => (item.request, item.connInfo) := by
    rw [map_update_same (g := fun item : ProxyConnInfo => (item.request, item.connInfo))
      fun a _ => view a]
    exact mem_map.mpr ⟨item, mem, rfl⟩
  obtain ⟨item', mem'', eq⟩ := mem_map.mp mem'
  exact ⟨item', mem'', (congrArg fst eq).trans request, (congrArg snd eq).trans address⟩

lemma Asked.addRef (asked : Asked items reqId addr) :
    Asked (transAddConnRefByConnId connId items) reqId addr := asked.update fun _ => ⟨rfl, rfl⟩

lemma addRefs {α : Type} (connId : BitVec 32) (users : List α) (items : List ProxyConnInfo) :
    Derived items (users.foldl (fun items _ => transAddConnRefByConnId connId items) items) ∧
      ∀ reqId addr, Asked items reqId addr →
        Asked (users.foldl (fun items _ => transAddConnRefByConnId connId items) items) reqId
          addr := by
  induction users generalizing items with
  | nil => exact ⟨derived_of_subset fun _ mem => mem, fun _ _ asked => asked⟩
  | cons _ rest ih =>
    obtain ⟨derived, asked⟩ := ih (transAddConnRefByConnId connId items)
    exact ⟨derived_addRef.trans derived, fun reqId addr before =>
      asked reqId addr before.addRef⟩

section

variable (asked : Asked items reqId addr)
include asked

lemma Asked.others {items'} (other : reqId ≠ r)
    (kept : ∀ {item}, item ∈ items → item.request ≠ (r, .pyhConnecting) → item ∈ items') :
    Asked items' reqId addr := by
  obtain ⟨item, mem, request, address⟩ := asked
  refine ⟨item, kept mem fun same => other ?_, request, address⟩
  exact congrArg fst (request.symm.trans same)

lemma Asked.delConnByConnId
    (late : ∀ item ∈ items, item.state = .pyhConnecting → item.connId = 0) (set : connId ≠ 0) :
    Asked (transDelConnByConnId connId items) reqId addr := by
  obtain ⟨item, mem, request, address⟩ := asked
  refine ⟨item, mem_remove_of_ne mem fun same => set ?_, request, address⟩
  exact same.symm.trans (late item mem (congrArg snd request))

lemma Asked.decRef
    (late : ∀ item ∈ items, item.state = .pyhConnecting → item.connId = 0) (set : connId ≠ 0) :
    Asked (transDecConnRefByConnId connId items).1 reqId addr := by
  unfold transDecConnRefByConnId
  split
  · exact asked
  · split
    · exact asked.delConnByConnId late set
    · exact asked.update fun _ => ⟨rfl, rfl⟩

lemma Asked.createConn {info} : Asked (transCreateConnByConnId connId items info) reqId addr := by
  unfold transCreateConnByConnId
  split
  · exact asked
  · exact asked.addRef
  · exact asked.cons

end

end

/-- No open is stopped by another item's address, and no channel is given up, or its handshake
fails, before it has a connection. -/
def patient : Permits :=
  { Permits.everything with
    requests := fun items connInfo =>
      items.all fun item => !item.repeats connInfo || items.any (isFor connInfo)
    resets := fun _ connId => connId ≠ 0
    givesUp := fun role => role.connId ≠ 0
    shakes := fun found => found.any fun role => role.connId ≠ 0 }

structure Expects (l : Ledger) (role : Role) : Prop where
  connId : role.connId = 0
  asked : ∃ connInfo address, role.requested = some connInfo ∧ connInfo.SameTarget address ∧
    Asked l.connections role.reqId address

structure Waiting (l : Ledger) (past : Told) : Prop where
  late : ∀ item ∈ l.connections, item.state = .pyhConnecting → item.connId = 0
  told : ∀ item ∈ l.connections, item.state = .pyhConnecting →
    (item.requestId, item.connInfo) ∈ past.requests
  expects : ∀ h role, l.channels.get? h = some role → role.stage = .connecting → Expects l role
  releases : 0 ∉ l.releases

namespace Waiting
variable {l l' : Ledger} {past told : Told} {role : Role} {h : Nat} {connId reqId : BitVec 32}

lemma next (w : Waiting l past) (derived : Derived l.connections l'.connections)
    (expects : ∀ h role, l'.channels.get? h = some role → role.stage = .connecting →
      Expects l' role) (releases : 0 ∉ l'.releases) : Waiting l' (past ++ told) where
  late := by
    intro item mem conn
    obtain ⟨old, mem', request, _, connId⟩ := derived item mem conn
    rw [← connId]
    exact w.late old mem' ((congrArg snd request).trans conn)
  told := by
    intro item mem conn
    obtain ⟨old, mem', request, address, _⟩ := derived item mem conn
    have asked := w.told old mem' ((congrArg snd request).trans conn)
    rw [address, show old.requestId = item.requestId from congrArg fst request] at asked
    exact mem_append_left _ asked
  expects := expects
  releases := releases

lemma keeps (expects : Expects l role) (kept : ∀ address,
      Asked l.connections role.reqId address → Asked l'.connections role.reqId address) :
    Expects l' role := by
  obtain ⟨addr, address, requested, target, asked⟩ := expects.asked
  exact ⟨expects.connId, addr, address, requested, target, kept address asked⟩

section

variable (w : Waiting l past)
include w

/-- The channels are the same or fewer, and no request that one of them waits for goes. -/
lemma fewer (derived : Derived l.connections l'.connections)
    (sub : ∀ h role, l'.channels.get? h = some role → l.channels.get? h = some role)
    (kept : ∀ h role, l'.channels.get? h = some role → role.stage = .connecting → ∀ address,
      Asked l.connections role.reqId address → Asked l'.connections role.reqId address)
    (releases : 0 ∉ l'.releases) : Waiting l' (past ++ told) := by
  refine w.next derived (fun h role here stage => ?_) releases
  exact keeps (w.expects h role (sub h role here) stage) (kept h role here stage)

lemma same (connections : l'.connections = l.connections)
    (channels : ∀ h, l'.channels.get? h = l.channels.get? h) (releases : l'.releases = l.releases) :
    Waiting l' (past ++ told) :=
  w.fewer (derived_of_subset (connections ▸ List.Subset.refl _))
    (fun h _ here => channels h ▸ here) (fun _ _ _ _ _ asked => connections ▸ asked)
    (releases ▸ w.releases)

lemma adds (derived : Derived l.connections l'.connections)
    (channels : l'.channels = l.channels.alloc role) (releases : l'.releases = l.releases)
    (kept : ∀ reqId address, Asked l.connections reqId address → Asked l'.connections reqId address)
    (new : role.stage = .connecting → Expects l' role) : Waiting l' (past ++ told) := by
  refine w.next derived (fun h other here stage => ?_) (releases ▸ w.releases)
  rw [channels] at here
  rcases get?_alloc_eq_some here with ⟨_, rfl⟩ | old
  · exact new stage
  · exact keeps (w.expects h other old stage) (kept other.reqId)

lemma connectAll {items} (derived : Derived l.connections items)
    (kept : ∀ r address, r ≠ reqId → Asked l.connections r address → Asked items r address) :
    Waiting ({ l with connections := items }.connectAll reqId connId) (past ++ told) := by
  obtain ⟨derived', kept'⟩ := addRefs connId (l.channels.all (Role.waitsFor reqId)) items
  refine w.next (derived.trans derived') (fun h role here stage => ?_) w.releases
  have found : (l.channels.get? h).map (Role.connect reqId connId) = some role := by
    rw [← get?_map]
    exact here
  obtain ⟨old, before, rfl⟩ := Option.map_eq_some_iff.mp found
  rw [Role.connect] at stage ⊢
  split at stage
  · cases stage
  rename_i waits
  rw [if_neg waits]
  have other : old.reqId ≠ reqId := by
    intro same
    apply waits
    simp [Role.waitsFor, same, stage]
  exact keeps (w.expects h old before stage) fun address asked =>
    kept' _ _ (kept _ address other asked)

lemma closes (set : connId ≠ 0)
    (connections : l'.connections = (transDecConnRefByConnId connId l.connections).1)
    (sub : ∀ h role, l'.channels.get? h = some role → l.channels.get? h = some role)
    (releases : 0 ∉ l'.releases) : Waiting l' (past ++ told) := by
  refine w.fewer (connections ▸ derived_decRef) sub (fun _ _ _ _ _ asked => ?_) releases
  rw [connections]
  exact asked.decRef w.late set

end

lemma released_set {cause notice}
    (released : Released patient role connId cause notice) : connId ≠ 0 := by
  cases released with
  | reset ok | handshakeFailed ok | died ok => exact of_decide_eq_true ok

lemma requested (w : Waiting l past) {addr} (counter additions) (zero : role.connId = 0)
    (requested : role.requested = some addr) : Waiting { l.add role with
        counter := counter
        connections := ⟨role.reqId, addr, 0, 0, .pyhConnecting⟩ :: l.connections }
      (past ++ { additions := additions, requests := [(role.reqId, addr)] }) where
  late := forall_mem_cons.mpr ⟨fun _ => rfl, w.late⟩
  told := by
    refine forall_mem_cons.mpr ⟨fun _ => ?_, fun item mem conn => ?_⟩
    · exact mem_concat_self
    · exact mem_append_left _ (w.told item mem conn)
  expects := by
    intro h other here stage
    rcases get?_alloc_eq_some here with ⟨_, rfl⟩ | old
    · exact ⟨zero, addr, addr, requested, .refl _, _, mem_cons_self, rfl, rfl⟩
    · exact keeps (w.expects h other old stage) fun _ asked => asked.cons
  releases := w.releases

lemma not_stranded {addr item} (ok : patient.requests l.connections addr)
    (unknown : l.connections.find? (isFor addr) = none)
    (found : l.connections.find? (repeats addr) = some item) : False := by
  have repeats := find?_some found
  simp only [patient, all_eq_true, Bool.or_eq_true, any_eq_true] at ok
  rcases ok item (mem_of_find?_eq_some found) with no | ⟨other, mem, isFor⟩
  · simp [repeats] at no
  · exact find?_eq_none.mp unknown other mem isFor

lemma move (w : Waiting l past) (move : Move patient l told l') : Waiting l' (past ++ told) := by
  cases move with
  | quiet | noticed | refused | turnedAway | connectRefused =>
    exact w.same rfl (fun _ => rfl) rfl
  | @acked g role here ok =>
    refine w.next (derived_of_subset fun _ mem => mem) (fun h other found stage => ?_) w.releases
    rcases get?_modify_eq_some found with ⟨_, old⟩ | ⟨_, before, _, rfl⟩
    · exact keeps (w.expects h other old stage) fun _ asked => asked
    · cases stage
  | @waits _ role item addr _ _ _ zero known conn reqId requested target =>
    refine w.adds (derived_of_subset fun _ mem => mem) rfl rfl (fun _ _ asked => asked) fun _ => ?_
    refine ⟨zero, addr, item.connInfo, requested, target, item, known, ?_, rfl⟩
    rw [request, conn, reqId]
  | attached _ _ shaking =>
    refine w.adds derived_addRef rfl rfl (fun _ _ asked => asked.addRef) fun stage => ?_
    simp [shaking] at stage
  | requested counter _ _ zero requested => exact w.requested counter _ zero requested
  | stranded _ _ _ _ ok unknown found => exact (not_stranded ok unknown found).elim
  | woken reqId =>
    exact w.connectAll (derived_of_subset fun _ mem => mem) fun _ _ _ asked => asked
  | connected =>
    exact w.connectAll (derived_update (by simp)) fun _ _ other asked =>
      asked.others other mem_update_of_ne
  | admitted _ _ opened =>
    refine w.adds derived_createConn rfl rfl (fun _ _ asked => asked.createConn) fun stage => ?_
    simp [opened] at stage
  | lost =>
    refine w.fewer (derived_of_subset fun _ mem => mem_of_mem_remove mem)
      (fun h role here => (get?_freeAll.mp here).1) (fun h role here stage address asked => ?_)
      w.releases
    obtain ⟨before, other⟩ := get?_freeAll.mp here
    refine asked.delConnByConnId w.late ?_
    rintro rfl
    simp [(w.expects h role before stage).connId] at other
  | failed reqId =>
    refine w.fewer (derived_of_subset fun _ mem => mem_of_mem_remove mem)
      (fun h role here => (get?_freeAll.mp here).1) (fun h role here stage address asked => ?_)
      w.releases
    refine asked.others (fun same => ?_) mem_remove_of_ne
    have other := (get?_freeAll.mp here).2
    simp [Role.waitsFor, same, stage] at other
  | closed here ok | timedOut here ok =>
    refine w.fewer (derived_of_subset fun _ mem => mem) (fun h role found => get?_of_free found)
      (fun _ _ _ _ _ asked => asked) (not_mem_append w.releases fun mem => ?_)
    exact of_decide_eq_true ok (mem_singleton.mp mem).symm
  | released here released =>
    exact w.closes (released_set released) rfl (fun h role found => get?_of_free found) w.releases
  | orphan ok => cases ok
  | releasedLater first =>
    have releases := w.releases
    rw [first, mem_cons, not_or] at releases
    exact w.closes (Ne.symm releases.1) rfl (fun _ _ here => here) releases.2

lemma init : Waiting ProxyManager.init.ledger {} := ⟨nofun, nofun, nofun, nofun⟩

end Waiting

/-- The callbacks of a request reach the channel: it goes on to the handshake, or it ends and the
application will hear of it. -/
structure Reached (s : ProxyManager) (h : Nat) (reqId : BitVec 32) : Prop where
  connected : ∀ env connId t out,
    managerStep s (env, .connectSuccessed reqId connId) = some (t, out) →
      ∃ chan, t.channels.get? h = some chan ∧ chan.status = .handshakeing ∧ chan.connId = connId
  failed : ∀ env t out, managerStep s (env, .connectFailed reqId) = some (t, out) →
    t.channels.get? h = none ∧ ∃ chan, .openFail h chan ∈ t.loop

section
variable {s : ProxyManager} {h : Nat} {chan : ProxyChannel}

end

def twoWaiting : List (Env × ManagerInput) :=
  [(.good, .openChannel networking (.br [0x42])), (.good, .openChannel networking (.br [0x42]))]

end DSoftBus.Proxy
