import DSoftBus.Adapter
import DSoftBus.Lib.Execution
import DSoftBus.Lib.KeyedList

/-!
The registry of session servers (trans_session_manager.c, trans_session_service.c): a list
with a counter that is searched by session name. A package may own several names, but when
its process dies only the first of them in the list is removed.

A string is the list of its bytes; the locks are always taken.
-/
namespace DSoftBus.Session
open Execution KeyedList List

def pkgNameSizeMax : Nat := 65
def sessionNameSizeMax : Nat := 256
def maxSessionServerNum : Nat := 32

structure SessionServer where
  (pkgName sessionName : Bytes)
  (uid pid : BitVec 32)

structure SoftBusList where
  list : List SessionServer
  cnt : BitVec 32

inductive CreateError where
  | invalidParam
  | err
  | invalidNum
  | serverNameRepeated

namespace SoftBusList

def init : SoftBusList := ⟨[], 0⟩

variable (l : SoftBusList)

def search (name : Bytes) : Option SessionServer := lookup (·.sessionName) name l.list

def transSessionServerAddItem (newNode : SessionServer) : Except CreateError SoftBusList :=
  if maxSessionServerNum ≤ l.cnt.toNat then .error .invalidNum
  else if (l.search newNode.sessionName).isSome then .error .serverNameRepeated
  else .ok ⟨newNode :: l.list, l.cnt + 1⟩

/-- The first entry that meets the test is taken out of the list. -/
def deleteFirst (p : SessionServer → Bool) : SoftBusList :=
  if l.list.any p then ⟨l.list.eraseP p, l.cnt - 1⟩ else l

def transSessionServerDelItem (sessionName : Bytes) : SoftBusList :=
  l.deleteFirst (·.sessionName = sessionName)

def transDelItemByPackageName (pkgName : Bytes) : SoftBusList :=
  l.deleteFirst (·.pkgName = pkgName)

/-- The name is copied to a buffer of the given size, with its terminator. -/
def transGetPkgNameBySessionName (sessionName : Bytes) (len : Nat) : Option Bytes :=
  ((l.search sessionName).map (·.pkgName)).filter (·.length < len)

def transGetUidAndPid (sessionName : Bytes) : Option (BitVec 32 × BitVec 32) :=
  (l.search sessionName).map fun pos => (pos.uid, pos.pid)

def transCreateSessionServer (server : SessionServer) (allocated : Bool) :
    Except CreateError SoftBusList :=
  if !isValidString server.pkgName pkgNameSizeMax ||
      !isValidString server.sessionName sessionNameSizeMax then .error .invalidParam
  else if !allocated then .error .err
  else l.transSessionServerAddItem server

def transRemoveSessionServer (pkgName sessionName : Bytes) : Option SoftBusList :=
  if !isValidString pkgName pkgNameSizeMax ||
      !isValidString sessionName sessionNameSizeMax then none
  else some (l.transSessionServerDelItem sessionName)

end SoftBusList

inductive RegistryCall where
  | create (server : SessionServer) (allocated : Bool)
  | remove (pkgName sessionName : Bytes)
  | death (pkgName : Bytes)

inductive Change where
  | created (server : SessionServer)
  | removed (sessionName : Bytes)
  | died (pkgName : Bytes)

open Change

def SoftBusList.handle (l : SoftBusList) : RegistryCall → SoftBusList × List Change
  | .create server allocated =>
    match l.transCreateSessionServer server allocated with
    | .ok l' => (l', [.created server])
    | .error _ => (l, [])
  | .remove pkgName sessionName =>
    match l.transRemoveSessionServer pkgName sessionName with
    | some l' => (l', [.removed sessionName])
    | none => (l, [])
  | .death pkgName => (l.transDelItemByPackageName pkgName, [.died pkgName])

def registryStep (l : SoftBusList) (call : RegistryCall) := some (l.handle call)

/-- The owners of the names after a change: those of the latest creation of a live name. -/
def Change.apply (owners : Bytes → Option SessionServer) : Change → Bytes → Option SessionServer
  | .created server, name => if name = server.sessionName then some server else owners name
  | .removed sessionName, name => if name = sessionName then none else owners name
  | .died pkgName, name => (owners name).filter (·.pkgName ≠ pkgName)

def live (past : List Change) : Bytes → Option SessionServer :=
  past.foldl apply fun _ => none

structure SoftBusList.Kept (l : SoftBusList) : Prop where
  names : (l.list.map (·.sessionName)).Nodup
  cnt : l.cnt.toNat = l.list.length
  few : l.list.length ≤ maxSessionServerNum
  short : ∀ server ∈ l.list, server.pkgName.length < pkgNameSizeMax

/-- The owners change as told, and a death takes the entries of the package and leaves the
others. -/
structure Follows (l : SoftBusList) (call : RegistryCall) (l' : SoftBusList) (out : List Change) :
    Prop where
  owners : l'.search = out.foldl apply l.search
  death : ∀ pkgName, call = .death pkgName → l'.list = l.list.filter (·.pkgName ≠ pkgName)

def SingleName (l : SoftBusList) : RegistryCall → Prop
  | .death pkgName => l.list.countP (·.pkgName = pkgName) ≤ 1
  | _ => True

lemma eraseP_eq_filter_iff {α : Type*} (p : α → Bool) (items : List α) :
    items.eraseP p = items.filter (!p ·) ↔ items.countP p ≤ 1 := by
  induction items with
  | nil => simp
  | cons a rest ih =>
    cases here : p a with
    | false => simpa [here] using ih
    | true =>
      have others : rest = rest.filter (!p ·) ↔ rest.countP p = 0 := by
        rw [eq_comm, filter_eq_self, countP_eq_zero]
        simp
      simpa [here] using others

namespace SoftBusList
variable {l l' : SoftBusList} {p : SessionServer → Bool} {server : SessionServer}

lemma list_deleteFirst : (l.deleteFirst p).list = l.list.eraseP p := by
  rw [deleteFirst]
  split
  · rfl
  · rw [eraseP_of_forall_not (by simp_all)]

lemma Kept.deleteFirst (kept : l.Kept) : (l.deleteFirst p).Kept := by
  rw [SoftBusList.deleteFirst]
  split
  · obtain ⟨server, mem, holds⟩ := any_eq_true.mp ‹_›
    have shorter := length_eraseP_of_mem mem holds
    have some := length_pos_of_mem mem
    have cnt := kept.cnt
    refine ⟨kept.names.sublist (eraseP_sublist.map _), ?_, ?_, fun server mem =>
      kept.short server (mem_of_mem_eraseP mem)⟩
    · rw [BitVec.toNat_sub_of_le (by rw [BitVec.le_def, cnt]; exact some), cnt, shorter]
      rfl
    · exact (eraseP_sublist.length_le).trans kept.few
  · exact kept

lemma transCreateSessionServer_ok {allocated}
    (created : l.transCreateSessionServer server allocated = .ok l') :
    server.pkgName.length < pkgNameSizeMax ∧ l.cnt.toNat < maxSessionServerNum ∧
      l.search server.sessionName = none ∧ l' = ⟨server :: l.list, l.cnt + 1⟩ := by
  grind [transCreateSessionServer, transSessionServerAddItem, isValidString,
    Option.not_isSome_iff_eq_none]

lemma Kept.create {allocated} (kept : l.Kept)
    (created : l.transCreateSessionServer server allocated = .ok l') :
    l'.Kept ∧ l'.search = apply l.search (.created server) := by
  obtain ⟨short, room, fresh, rfl⟩ := transCreateSessionServer_ok created
  have cnt := kept.cnt
  rw [maxSessionServerNum] at room
  refine ⟨⟨?_, ?_, ?_, forall_mem_cons.mpr ⟨short, kept.short⟩⟩, funext fun name => ?_⟩
  · exact nodup_cons.mpr ⟨by simpa [search, lookup_eq_none] using fresh, kept.names⟩
  · rw [BitVec.toNat_add, cnt, length_cons]
    exact Nat.mod_eq_of_lt (by simp; omega)
  · rw [length_cons, maxSessionServerNum]
    omega
  · grind [search, KeyedList.lookup, apply]

lemma search_delItem (kept : l.Kept) (sessionName : Bytes) :
    (l.transSessionServerDelItem sessionName).search =
      apply l.search (.removed sessionName) := by
  funext name
  rw [search, transSessionServerDelItem, list_deleteFirst, apply]
  by_cases same : name = sessionName
  · rw [if_pos same, same]
    exact lookup_remove_self kept.names
  · rw [if_neg same]
    exact lookup_remove_of_ne same _

lemma search_filter (kept : l.Kept) (keep : SessionServer → Bool) (name : Bytes) :
    lookup (·.sessionName) name (l.list.filter keep) = (l.search name).filter keep := by
  have names : ((l.list.filter keep).map (·.sessionName)).Nodup :=
    kept.names.sublist (filter_sublist.map _)
  ext server
  rw [lookup_eq_some names, mem_filter, Option.filter_eq_some_iff, search,
    lookup_eq_some kept.names]
  exact and_right_comm

end SoftBusList

open SoftBusList
variable {l l' : SoftBusList} {call : RegistryCall} {out : List Change}

lemma follows_death_iff (kept : l.Kept) (pkgName) :
    Follows l (.death pkgName) (l.transDelItemByPackageName pkgName) [.died pkgName] ↔
      l.list.countP (·.pkgName = pkgName) ≤ 1 := by
  have list : (l.transDelItemByPackageName pkgName).list = l.list.eraseP (·.pkgName = pkgName) :=
    list_deleteFirst
  rw [← eraseP_eq_filter_iff, ← list]
  constructor
  · intro follows
    simpa using follows.death pkgName rfl
  · intro same
    refine ⟨funext fun name => ?_, fun _ eq => by cases eq; simpa using same⟩
    rw [search, same, search_filter kept]
    simp [apply]

lemma handle_kept (kept : l.Kept) (call) : (l.handle call).1.Kept ∧
    (Follows l call (l.handle call).1 (l.handle call).2 ↔ SingleName l call) := by
  cases call with
  | create server allocated =>
    rw [handle]
    split
    next created =>
      obtain ⟨kept', search⟩ := kept.create created
      exact ⟨kept', iff_of_true ⟨search, by simp⟩ trivial⟩
    · exact ⟨kept, iff_of_true ⟨rfl, by simp⟩ trivial⟩
  | remove pkgName sessionName =>
    rw [handle, transRemoveSessionServer]
    split
    next removed =>
      split at removed <;> cases removed
      exact ⟨kept.deleteFirst, iff_of_true ⟨search_delItem kept _, by simp⟩ trivial⟩
    · exact ⟨kept, iff_of_true ⟨rfl, by simp⟩ trivial⟩
  | death pkgName => exact ⟨kept.deleteFirst, follows_death_iff kept pkgName⟩

lemma registryStep_kept (kept : l.Kept) (done : registryStep l call = some (l', out)) :
    l'.Kept ∧ (Follows l call l' out ↔ SingleName l call) := by
  have kept' := handle_kept kept call
  rwa [Option.some_inj.mp done] at kept'

lemma kept_init : init.Kept := ⟨nodup_nil, rfl, Nat.zero_le _, by simp [init]⟩

lemma SoftBusList.Kept.getPkgName (kept : l.Kept) {len : Nat} (room : pkgNameSizeMax ≤ len)
    (name : Bytes) : l.transGetPkgNameBySessionName name len = (l.search name).map (·.pkgName) := by
  rw [transGetPkgNameBySessionName]
  cases found : l.search name with
  | none => rfl
  | some server =>
    have short := kept.short server (mem_of_lookup found).1
    simp [Option.filter, short.trans_le room]

theorem registry_follows_iff (calls : List RegistryCall) :
    ∃ l out, run registryStep .init calls = some (l, out) ∧ l.Kept ∧
      (AllResults registryStep Follows .init calls ↔ AllSteps registryStep SingleName .init calls) ∧
      (AllSteps registryStep SingleName .init calls → ∀ name len, pkgNameSizeMax ≤ len →
        l.transGetPkgNameBySessionName name len = (live out name).map (·.pkgName) ∧
        l.transGetUidAndPid name = (live out name).map fun server => (server.uid, server.pid)) := by
  have kept (l : SoftBusList) (call : RegistryCall) (inv : l.Kept) (_ : True) :
      ∃ l' out, registryStep l call = some (l', out) ∧ l'.Kept := by
    exact ⟨_, _, rfl, (registryStep_kept inv rfl).1⟩
  have free : AllSteps registryStep (fun _ _ => True) .init calls := fun _ _ _ _ _ _ _ => trivial
  obtain ⟨l, out, ran, inv⟩ := run_defined kept kept_init free
  refine ⟨l, out, ran, inv, ?_, fun single name len room => ?_⟩
  · exact allResults_iff_allSteps_of_inv (fun _ _ _ _ inv done => (registryStep_kept inv done).2)
      (fun _ _ _ _ inv _ done => (registryStep_kept inv done).1) kept_init ran
  · have owners : l.search = live out := by
      have step (s past call t out) (now : SoftBusList.Kept s ∧ s.search = live past)
          (single : SingleName s call) (done : registryStep s call = some (t, out)) :
          t.Kept ∧ t.search = live (past ++ out) := by
        obtain ⟨kept', follows⟩ := registryStep_kept now.1 done
        refine ⟨kept', (follows.mpr single).owners.trans ?_⟩
        rw [now.2, live, live, foldl_append]
      have now := run_invariant step ⟨kept_init, (rfl : _ = live [])⟩ single ran
      exact now.2
    rw [inv.getPkgName room, transGetUidAndPid, owners]
    exact ⟨rfl, rfl⟩

/-- A package that owns two names dies; the name it created first stays. -/
theorem second_name_survives : (run registryStep .init [.create ⟨[112], [97], 1, 1⟩ true,
      .create ⟨[112], [98], 1, 1⟩ true, .death [112]]).map (·.1.transGetUidAndPid [97]) =
    some (some (1, 1)) := by decide

end DSoftBus.Session
