import DSoftBus.Lnn.MasterElect
import Mathlib.Combinatorics.SimpleGraph.Hasse

/-!
The election over a network of devices that are all online to their neighbours. Every
device starts as its own master, with a message that each neighbour came online and the
neighbour's pair in its ledger.

A pair travels one link with that message. The elect messages sent then come from online
peers and are dropped, so a device ends with the greatest pair among its own and its
neighbours'.
-/
namespace DSoftBus.Lnn

open Execution List Function SimpleGraph

/-- Devices, their links, and what each has in its list of machines and in its ledger. -/
structure Network (ι : Type) where
  graph : SimpleGraph ι
  connected : graph.Connected
  own : ι → Master
  distinct : Function.Injective own
  named : ∀ i, isValidString (own i).udid.bytes udidBufLen
  networkId : ι → CString
  view : ι → ElectView
  /-- The address that a device has of its neighbour. -/
  addr : ι → ι → ConnectionAddr
  machine : ∀ i j, graph.Adj i j → ∃ item,
    (view i).nb.findConnectionFsmByAddr (addr i j) = some item ∧ item.networkId = networkId j ∧
      ¬item.fsm.connInfo.peerVersion < softBusNewV1
  neighbours : ∀ i, ∀ item ∈ (view i).nb.fsmList, item.freed = false ∧
    ∃ j, graph.Adj i j ∧ item.networkId = networkId j
  known : ∀ i j, graph.Adj i j → (view i).dlGetMaster (networkId j) = some (own j)
  /-- The messages that a neighbour came online: device, neighbour. -/
  onlines : List (ι × ι)
  onlines_iff : ∀ i j, (i, j) ∈ onlines ↔ graph.Adj i j

structure Sent (ι : Type) where
  sender : ι
  message : ElectMessage
deriving DecidableEq

structure NetworkState (ι : Type) where
  node : ι → LocalNode
  pending : List (ι × ι)
  flight : List (Sent ι)

inductive NetworkEvent (ι : Type) where
  | nodeOnline (device neighbour : ι)
  | deliver (sent : Sent ι) (receiver : ι)

namespace Network
variable {ι : Type}

variable (net : Network ι)

def start : NetworkState ι where
  node i := ⟨(net.own i).udid, (net.own i).weight, net.own i⟩
  pending := net.onlines
  flight := []

def Agreed (state : NetworkState ι) : Prop :=
  ∃ top, (∀ i, net.own i ≤ net.own top) ∧ ∀ i, (state.node i).master = net.own top

def Fits : Prop := ∀ i j, (net.own i).Comparable (net.own j)

def Central : Prop := ∃ top, (∀ i, net.own i ≤ net.own top) ∧ ∀ i, i ≠ top → net.graph.Adj i top

/-- The messages that a device sends when a neighbour came online are at most its machines. -/
def messageBound (pending : List (ι × ι)) : Nat :=
  (pending.map fun pair => (net.view pair.1).nb.fsmList.length).sum

variable {net : Network ι} {state : NetworkState ι}

lemma isNodeOnline_of_mem {i item} (mem : item ∈ (net.view i).nb.fsmList) :
    (net.view i).isNodeOnline item.networkId := by
  obtain ⟨-, j, adj, same⟩ := net.neighbours i item mem
  rw [same]
  exact ElectView.isNodeOnline_of_dlGetMaster (net.known i j adj)

lemma mem_of_findConnectionFsmByUdid {view : ElectView} {udid : CString} {item : Linked}
    (found : view.findConnectionFsmByUdid udid = some item) : item ∈ view.nb.fsmList := by
  simp only [ElectView.findConnectionFsmByUdid, NetBuilder.findConnectionFsmByUdid] at found
  split at found
  next h =>
    cases found
    exact mem_of_find?_eq_some h
  · obtain ⟨networkId, -, here⟩ := Option.bind_eq_some_iff.mp found
    exact mem_of_find?_eq_some here

lemma processMasterElect_dropped (i : ι) (node udid reported) :
    processMasterElect (net.view i) node udid reported = (node, []) := by
  cases found : (net.view i).findConnectionFsmByUdid udid with
  | none => simp [processMasterElect, found]
  | some item =>
    exact processMasterElect_online reported found
      (isNodeOnline_of_mem (mem_of_findConnectionFsmByUdid found))

lemma length_sendElectMessageToAll_le (view master skip) :
    (sendElectMessageToAll view master skip).length ≤ view.nb.fsmList.length := by
  rw [sendElectMessageToAll, length_map]
  exact length_filter_le _ _

lemma processNodeStateChanged_neighbour {i j} (adj : net.graph.Adj i j) (node) :
    (processNodeStateChanged (net.view i) node (net.addr i j)).1.master =
        (if lnnCompareNodeWeight node.master (net.own j) < 0 then net.own j else node.master) ∧
      (processNodeStateChanged (net.view i) node (net.addr i j)).2.length ≤
        (net.view i).nb.fsmList.length := by
  obtain ⟨item, found, same, new⟩ := net.machine i j adj
  have known := net.known i j adj
  rw [← same] at known
  rw [processNodeStateChanged_online found new known, updateLocalMasterNode, if_pos (net.named j)]
  split
  · exact ⟨rfl, length_sendElectMessageToAll_le _ _ _⟩
  · exact ⟨rfl, Nat.zero_le _⟩

def OnLinks (state : NetworkState ι) : Prop := ∀ i j, (i, j) ∈ state.pending → net.graph.Adj i j

/-- While messages are to come, a device holds the pair of a neighbour or its own, and its own
only if it has heard of none that seemed greater. -/
structure Holding (net : Network ι) (state : NetworkState ι) : Prop where
  linked : net.OnLinks state
  source : ∀ i, ∃ j, (j = i ∨ net.graph.Adj i j) ∧ (state.node i).master = net.own j
  stays : ∀ i j, (state.node i).master = net.own i → net.graph.Adj i j → (i, j) ∉ state.pending →
    ¬lnnCompareNodeWeight (net.own i) (net.own j) < 0

/-- The pair is at least the device's own, and at least those it has heard of. -/
structure Electing (net : Network ι) (state : NetworkState ι) : Prop extends Holding net state where
  low : ∀ i, net.own i ≤ (state.node i).master
  heard : ∀ i j, net.graph.Adj i j → (i, j) ∉ state.pending → net.own j ≤ (state.node i).master

lemma electing_start : net.Electing net.start where
  linked i j := (net.onlines_iff i j).mp
  source i := ⟨i, .inl rfl, rfl⟩
  stays i j _ adj absent := absurd ((net.onlines_iff i j).mpr adj) absent
  low _ := le_refl _
  heard i j adj absent := absurd ((net.onlines_iff i j).mpr adj) absent

lemma Holding.adj_of_held (holding : net.Holding state) {top}
    (held : ∀ i, (state.node i).master = net.own top) {i} (other : i ≠ top) :
    net.graph.Adj i top := by
  obtain ⟨j, near, same⟩ := holding.source i
  have isTop : j = top := net.distinct (same.symm.trans (held i))
  cases near with
  | inl here => exact absurd (here.symm.trans isTop) other
  | inr adj => exact isTop ▸ adj

/-- A weight too far below the greatest one would have seemed greater to its device. -/
lemma Holding.fits (holding : net.Holding state) (agreed : net.Agreed state)
    (settled : state.pending = []) : net.Fits := by
  obtain ⟨top, greatest, held⟩ := agreed
  have near (j) : (net.own top).Comparable (net.own j) := by
    by_cases here : j = top
    · simp [here, Master.Comparable]
    · by_contra wraps
      have adj := (holding.adj_of_held held here).symm
      refine holding.stays top j (held top) adj (by simp [settled]) ?_
      exact (lnnCompareNodeWeight_neg_iff_of_not wraps).mpr
        (lt_of_le_of_ne (greatest j) fun same => here (net.distinct same))
  intro i j
  have above := Master.weight_le (greatest i)
  have above' := Master.weight_le (greatest j)
  have fits := near i
  have fits' := near j
  simp only [Master.Comparable] at fits fits' ⊢
  omega

lemma Electing.agreed (electing : net.Electing state) (settled : state.pending = [])
    (central : net.Central) : net.Agreed state := by
  obtain ⟨top, greatest, near⟩ := central
  refine ⟨top, greatest, fun i => le_antisymm ?_ ?_⟩
  · obtain ⟨j, -, same⟩ := electing.source i
    exact same ▸ greatest j
  · by_cases here : i = top
    · exact here ▸ electing.low i
    · exact electing.heard i top (near i here) (by simp [settled])

section
variable [DecidableEq ι] {state' : NetworkState ι} {out : List (Sent ι)}

/-- The device has handled a message; what it sends is on its way. -/
def handled (state : NetworkState ι) (device : ι) (result : LocalNode × List ElectMessage) :
    NetworkState ι × List (Sent ι) :=
  let out := result.2.map fun message => ⟨device, message⟩
  ({ state with
      node := update state.node device result.1, flight := state.flight ++ out }, out)

/-- A message is handled in any order, by the device it is for. -/
def step (net : Network ι) (state : NetworkState ι) :
    NetworkEvent ι → Option (NetworkState ι × List (Sent ι))
  | .nodeOnline device neighbour =>
    if (device, neighbour) ∈ state.pending then
      some (handled { state with pending := state.pending.erase (device, neighbour) } device
        (processNodeStateChanged (net.view device) (state.node device) (net.addr device neighbour)))
    else none
  | .deliver sent receiver =>
    if sent ∈ state.flight ∧ net.networkId receiver = sent.message.networkId then
      some (handled { state with flight := state.flight.erase sent } receiver
        (processMasterElect (net.view receiver) (state.node receiver) (net.own sent.sender).udid
          sent.message.master))
    else none

lemma step_nodeOnline {i j} (done : net.step state (.nodeOnline i j) = some (state', out)) :
    (i, j) ∈ state.pending ∧ (state', out) =
      handled { state with pending := state.pending.erase (i, j) } i
        (processNodeStateChanged (net.view i) (state.node i) (net.addr i j)) := by
  rw [step] at done
  split at done
  · exact ⟨‹_›, (Option.some.inj done).symm⟩
  · cases done

lemma step_deliver {sent receiver}
    (done : net.step state (.deliver sent receiver) = some (state', out)) :
    state'.node = state.node ∧ state'.pending = state.pending ∧ out = [] := by
  rw [step] at done
  split at done
  · rw [processMasterElect_dropped] at done
    cases done
    exact ⟨update_eq_self _ _, rfl, rfl⟩
  · cases done

variable {event : NetworkEvent ι}

lemma step_linked (linked : net.OnLinks state) (done : net.step state event = some (state', out)) :
    net.OnLinks state' := by
  cases event with
  | nodeOnline i j =>
    obtain ⟨-, same⟩ := step_nodeOnline done
    cases same
    exact fun a b mem => linked a b (mem_of_mem_erase mem)
  | deliver sent receiver =>
    obtain ⟨-, pending, -⟩ := step_deliver done
    simp only [OnLinks, pending]
    exact linked

lemma step_messageBound (linked : net.OnLinks state)
    (done : net.step state event = some (state', out)) :
    out.length + net.messageBound state'.pending ≤ net.messageBound state.pending := by
  cases event with
  | nodeOnline i j =>
    obtain ⟨mem, same⟩ := step_nodeOnline done
    cases same
    have paid := ((perm_cons_erase mem).map fun pair : ι × ι =>
      (net.view pair.1).nb.fsmList.length).sum_eq
    have sent := (processNodeStateChanged_neighbour (linked i j mem) (state.node i)).2
    simp only [map_cons, sum_cons] at paid
    simp only [messageBound, length_map]
    omega
  | deliver sent receiver =>
    obtain ⟨-, pending, rfl⟩ := step_deliver done
    rw [pending, length_nil, zero_add]

/-- The message of a neighbour changes one device, to the neighbour's pair if that seemed
greater. -/
lemma step_master (holding : net.Holding state) {i j}
    (done : net.step state (.nodeOnline i j) = some (state', out)) :
    state'.pending = state.pending.erase (i, j) ∧ net.graph.Adj i j ∧
      (∀ a, a ≠ i → state'.node a = state.node a) ∧ (state'.node i).master =
        if lnnCompareNodeWeight (state.node i).master (net.own j) < 0 then net.own j
        else (state.node i).master := by
  obtain ⟨mem, same⟩ := step_nodeOnline done
  cases same
  have adj := holding.linked i j mem
  refine ⟨rfl, adj, fun a other => update_of_ne other .., ?_⟩
  rw [← (processNodeStateChanged_neighbour adj (state.node i)).1]
  exact congrArg LocalNode.master (update_self ..)

lemma step_holding (holding : net.Holding state)
    (done : net.step state event = some (state', out)) : net.Holding state' := by
  have linked := step_linked holding.linked done
  cases event with
  | deliver sent receiver =>
    obtain ⟨node, pending, -⟩ := step_deliver done
    exact ⟨linked, node ▸ holding.source, node ▸ pending ▸ holding.stays⟩
  | nodeOnline i j =>
    obtain ⟨pending, adj, others, master⟩ := step_master holding done
    refine ⟨linked, fun a => ?_, fun a b keeps adj' absent => ?_⟩
    · by_cases here : a = i
      · rw [here, master]
        split
        · exact ⟨j, .inr adj, rfl⟩
        · exact holding.source i
      · rw [others a here]
        exact holding.source a
    · rw [pending] at absent
      by_cases here : a = i
      · subst here
        rw [master] at keeps
        split at keeps
        · exact absurd (net.distinct keeps) adj.ne'
        next kept =>
          by_cases neighbour : b = j
          · rwa [neighbour, ← keeps]
          · refine holding.stays a b keeps adj' fun there => absent ?_
            exact (mem_erase_of_ne (by simp [neighbour])).mpr there
      · refine holding.stays a b (others a here ▸ keeps) adj' fun there => absent ?_
        exact (mem_erase_of_ne (by simp [here])).mpr there

lemma step_electing (fits : net.Fits) (electing : net.Electing state)
    (done : net.step state event = some (state', out)) : net.Electing state' := by
  have holding := step_holding electing.toHolding done
  cases event with
  | deliver sent receiver =>
    obtain ⟨node, pending, -⟩ := step_deliver done
    exact ⟨holding, node ▸ electing.low, node ▸ pending ▸ electing.heard⟩
  | nodeOnline i j =>
    obtain ⟨pending, adj, others, master⟩ := step_master electing.toHolding done
    have raised : (state'.node i).master = max (state.node i).master (net.own j) := by
      obtain ⟨k, -, held⟩ := electing.source i
      have comparable : (state.node i).master.Comparable (net.own j) := held ▸ fits k j
      simp only [master, max_def_lt, lnnCompareNodeWeight_neg_iff comparable]
    have grown (a : ι) : (state.node a).master ≤ (state'.node a).master := by
      by_cases here : a = i
      · rw [here, raised]
        exact le_max_left _ _
      · rw [others a here]
    refine ⟨holding, fun a => (electing.low a).trans (grown a), fun a b adj' absent => ?_⟩
    rw [pending] at absent
    by_cases here : (a, b) = (i, j)
    · cases here
      rw [raised]
      exact le_max_right _ _
    · exact (electing.heard a b adj' fun there =>
        absent ((mem_erase_of_ne here).mpr there)).trans (grown a)

end

end Network

open Network

section
variable {ι : Type} [DecidableEq ι] {net : Network ι} {events : List (NetworkEvent ι)}
  {state : NetworkState ι} {outs : List (Sent ι)}

lemma Network.run_electing (fits : net.Fits)
    (hRun : run net.step net.start events = some (state, outs)) : net.Electing state :=
  run_state_invariant (P := fun _ _ => True)
    (fun _ _ _ _ inv _ done => step_electing fits inv done) net.electing_start
    (fun _ _ _ _ _ _ _ => trivial) hRun

lemma Network.run_holding (hRun : run net.step net.start events = some (state, outs)) :
    net.Holding state :=
  run_state_invariant (P := fun _ _ => True)
    (fun _ _ _ _ inv _ done => step_holding inv done) net.electing_start.toHolding
    (fun _ _ _ _ _ _ _ => trivial) hRun

end

/-- The elect messages are bounded; and when all messages are handled the devices hold the
greatest pair if and only if the differences of the weights fit and the device of that pair is a
neighbour of every other. -/
theorem election_converges_iff {ι : Type} [DecidableEq ι] (net : Network ι)
    {events : List (NetworkEvent ι)} {state : NetworkState ι} {outs : List (Sent ι)}
    (hRun : run net.step net.start events = some (state, outs)) :
    outs.length ≤ net.messageBound net.onlines ∧
      (state.pending = [] → state.flight = [] →
        (net.Agreed state ↔ net.Fits ∧ net.Central)) := by
  have always : AllSteps net.step (fun _ _ => True) net.start events :=
    fun _ _ _ _ _ _ _ => trivial
  constructor
  · have preserve (s past event)
        (t : NetworkState ι) (out : List (Sent ι))
        (inv : net.OnLinks s ∧
          past.length + net.messageBound s.pending ≤ net.messageBound net.onlines)
        (_ : True) (done : net.step s event = some (t, out)) : net.OnLinks t ∧
          (past ++ out).length + net.messageBound t.pending ≤ net.messageBound net.onlines := by
      have bound := step_messageBound inv.1 done
      refine ⟨step_linked inv.1 done, ?_⟩
      rw [length_append]
      omega
    have paid := (@run_invariant _ _ _ _ _ _ preserve _ _ [] _ _
      ⟨(net.electing_start).linked, by simp [start]⟩ always hRun).2
    rw [nil_append] at paid
    omega
  · intro settled _
    have holding := run_holding hRun
    constructor
    · intro agreed
      obtain ⟨top, greatest, held⟩ := agreed
      exact ⟨holding.fits ⟨top, greatest, held⟩ settled, top, greatest,
        fun i => holding.adj_of_held held⟩
    · rintro ⟨fits, central⟩
      exact (run_electing fits hRun).agreed settled central

/-- Three devices with growing weights; the names of MasterElect stand for them. -/
def samplePair (k : Fin 3) : Master := ⟨.ofNat 32 k, sampleName k⟩

def lineNeighbours : Fin 3 → List (Fin 3)
  | 0 => [1]
  | 1 => [0, 2]
  | 2 => [1]

def line : Network (Fin 3) where
  graph := pathGraph 3
  connected := pathGraph_connected 2
  own := samplePair
  distinct := by decide +kernel
  named := by decide
  networkId := sampleName
  view i := sampleView (lineNeighbours i) samplePair
  addr _ := sampleAddr
  machine i j adj := ⟨sampleMachine j, by
    rw [pathGraph_adj] at adj
    revert i j
    decide +kernel, rfl, by simp [sampleMachine]⟩
  neighbours := by
    simp only [pathGraph_adj]
    decide +kernel
  known := by
    simp only [pathGraph_adj]
    decide +kernel
  onlines := [(0, 1), (1, 0), (1, 2), (2, 1)]
  onlines_iff := by
    simp only [pathGraph_adj]
    decide +kernel

def triangleNeighbours : Fin 3 → List (Fin 3)
  | 0 => [1, 2]
  | 1 => [0, 2]
  | 2 => [0, 1]

def triangle : Network (Fin 3) where
  graph := ⊤
  connected := connected_top
  own := samplePair
  distinct := by decide +kernel
  named := by decide
  networkId := sampleName
  view i := sampleView (triangleNeighbours i) samplePair
  addr _ := sampleAddr
  machine i j adj := ⟨sampleMachine j, by
    rw [top_adj] at adj
    revert i j
    decide +kernel, rfl, by simp [sampleMachine]⟩
  neighbours := by
    simp only [top_adj]
    decide +kernel
  known := by
    simp only [top_adj]
    decide +kernel
  onlines := [(0, 1), (0, 2), (1, 0), (1, 2), (2, 0), (2, 1)]
  onlines_iff := by
    simp only [top_adj]
    decide +kernel

/-- All devices hear of their neighbours; the messages of devices 0 and 1 are then delivered. -/
def triangleEvents : List (NetworkEvent (Fin 3)) :=
  [.nodeOnline 0 1, .nodeOnline 0 2, .nodeOnline 1 0, .nodeOnline 1 2, .nodeOnline 2 0,
    .nodeOnline 2 1, .deliver ⟨0, sampleName 2, samplePair 1⟩ 2,
    .deliver ⟨0, sampleName 1, samplePair 2⟩ 1, .deliver ⟨1, sampleName 0, samplePair 2⟩ 0]

theorem election_converges_iff_triangle :
    ∃ state outs, run triangle.step triangle.start triangleEvents = some (state, outs) ∧
      state.pending = [] ∧ state.flight = [] ∧ triangle.Agreed state := by
  have ended : (run triangle.step triangle.start triangleEvents).map
      (fun result => (result.1.pending, result.1.flight)) = some ([], []) := by
    decide +kernel
  obtain ⟨⟨state, outs⟩, hRun, same⟩ := Option.map_eq_some_iff.mp ended
  obtain ⟨settled, empty⟩ := Prod.mk.inj same
  have fits : triangle.Fits := by
    unfold Network.Fits
    decide +kernel
  have central : triangle.Central := ⟨2, by
    simp only [← not_lt, Master.lt_iff]
    decide +kernel, fun i other => other⟩
  exact ⟨state, outs, hRun, settled, empty,
    ((election_converges_iff triangle hRun).2 settled empty).mpr ⟨fits, central⟩⟩

/-- On a line the first device never hears of the last one: the middle device's elect message
is dropped. -/
theorem line_disagrees : (run line.step line.start
      [.nodeOnline 0 1, .nodeOnline 1 0, .nodeOnline 1 2, .nodeOnline 2 1,
        .deliver ⟨1, sampleName 0, samplePair 2⟩ 0]).map
        (fun result => (result.1.pending, result.1.flight, (result.1.node 0).master,
          (result.1.node 1).master)) = some ([], [], samplePair 1, samplePair 2) := by
  decide +kernel

/-- In every network and every order, each device ends with the greatest pair among its own and
its neighbours'. -/
theorem election_settles {ι : Type} [DecidableEq ι] (net : Network ι)
    (fits : ∀ i j, (net.own i).Comparable (net.own j)) {events : List (NetworkEvent ι)}
    {state : NetworkState ι} {outs : List (Sent ι)}
    (hRun : run net.step net.start events = some (state, outs)) (settled : state.pending = [])
    (i : ι) : IsGreatest (net.own '' {j | j = i ∨ net.graph.Adj i j}) (state.node i).master := by
  have electing := run_electing fits hRun
  obtain ⟨j, near, same⟩ := electing.source i
  refine ⟨⟨j, near, same.symm⟩, ?_⟩
  rintro _ ⟨k, rfl | adj, rfl⟩
  · exact electing.low k
  · exact electing.heard i k adj (by simp [settled])

theorem election_settles_triangle : ∃ r ∈ run triangle.step triangle.start triangleEvents,
    IsGreatest (triangle.own '' {j | j = 0 ∨ triangle.graph.Adj 0 j}) (r.1.node 0).master := by
  have ended : (run triangle.step triangle.start triangleEvents).map (·.1.pending) = some [] := by
    decide +kernel
  obtain ⟨r, hRun, settled⟩ := Option.map_eq_some_iff.mp ended
  exact ⟨r, hRun, election_settles triangle (by decide +kernel) hRun settled 0⟩

end DSoftBus.Lnn
