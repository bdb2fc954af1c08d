import DSoftBus.Lib.Execution

/-!
The list of blocks to send in nstackx_file_manager_client.c. A block to be sent again is put
behind the node that sendRetranListTail points at, any other one at the end. The semaphore
of the list keeps it within its capacity, so `size` does not wrap. A node is known by the
number of its allocation.
-/
namespace DSoftBus.DFile.SendBlocks
open Execution List

structure BlockFrame (β : Type) where
  list : Nat
  fileDataFrame : β
  sendLen : Nat
  socketIndex : Nat

/-- The tail `none` is the head of the list. -/
structure SendBlockFrameListPara (β : Type) where
  sendBlockFrameList : List (BlockFrame β)
  size : Nat
  sendRetranListTail : Option Nat
  allocated : Nat

section
variable {β : Type} (para : SendBlockFrameListPara β)

def initSendBlockLists : SendBlockFrameListPara β := ⟨[], 0, none, 0⟩

/-- A node behind one that is not in the list does not get into the list. -/
def listInsertHead (node : BlockFrame β) :
    Option Nat → List (BlockFrame β) → Option (List (BlockFrame β))
  | none, frames => some (node :: frames)
  | some _, [] => none
  | some head, frame :: rest =>
    if frame.list = head then some (frame :: node :: rest)
    else (listInsertHead node (some head) rest).map (frame :: ·)

/-- `created` tells whether the node is allocated and the lock taken. -/
def pushFileBlockFrame (created : Bool) (socketIndex : Nat) (fileDataFrame : β)
    (isRetran : Bool) : Option (SendBlockFrameListPara β) :=
  let blockFrame := ⟨para.allocated, fileDataFrame, 0, socketIndex⟩
  if created then
    if isRetran then do
      let frames ← listInsertHead blockFrame para.sendRetranListTail para.sendBlockFrameList
      some ⟨frames, para.size + 1, some blockFrame.list, para.allocated + 1⟩
    else some ⟨para.sendBlockFrameList ++ [blockFrame], para.size + 1, para.sendRetranListTail,
      para.allocated + 1⟩
  else some para

def popFront (cur : BlockFrame β) (rest : List (BlockFrame β)) : SendBlockFrameListPara β :=
  ⟨rest, para.size - 1,
    if para.sendRetranListTail = some cur.list then none else para.sendRetranListTail,
    para.allocated⟩

def getMultipleBlockFrame (para : SendBlockFrameListPara β) :
    Nat → SendBlockFrameListPara β × List (BlockFrame β)
  | 0 => (para, [])
  | nr + 1 =>
    match para.sendBlockFrameList with
    | [] => (para, [])
    | cur :: rest =>
      let next := getMultipleBlockFrame (popFront para cur rest) nr
      (next.1, cur :: next.2)

inductive Call (β : Type)
  | push (created : Bool) (socketIndex : Nat) (fileDataFrame : β) (isRetran : Bool)
  | get (nr : Int)

def listStep : Call β → Option (SendBlockFrameListPara β × List (BlockFrame β))
  | .push created socketIndex fileDataFrame isRetran =>
    (pushFileBlockFrame para created socketIndex fileDataFrame isRetran).map (·, [])
  | .get nr => some (getMultipleBlockFrame para nr.toNat)

end

/-- What the list is for: two queues, of which the first one is emptied first. -/
structure Queues (β : Type) where
  retran : List (BlockFrame β) := []
  normal : List (BlockFrame β) := []
  allocated : Nat := 0

namespace Queues
variable {β : Type} {queues : Queues β} {retran normal : List (BlockFrame β)} {cur : BlockFrame β}
  {allocated : Nat}

def pop : Nat → Queues β → Queues β × List (BlockFrame β)
  | nr + 1, ⟨cur :: rest, normal, allocated⟩ =>
    let next := pop nr ⟨rest, normal, allocated⟩
    (next.1, cur :: next.2)
  | nr + 1, ⟨[], cur :: rest, allocated⟩ =>
    let next := pop nr ⟨[], rest, allocated⟩
    (next.1, cur :: next.2)
  | _, queues => (queues, [])

def step (queues : Queues β) : Call β → Queues β × List (BlockFrame β)
  | .push false .. => (queues, [])
  | .push true socketIndex block isRetran =>
    let added := [⟨queues.allocated, block, 0, socketIndex⟩]
    (if isRetran then ⟨queues.retran ++ added, queues.normal, queues.allocated + 1⟩
      else ⟨queues.retran, queues.normal ++ added, queues.allocated + 1⟩, [])
  | .get nr => queues.pop nr.toNat

/-- The list that holds the two queues. -/
def para (queues : Queues β) : SendBlockFrameListPara β :=
  ⟨queues.retran ++ queues.normal, (queues.retran ++ queues.normal).length,
    queues.retran.getLast?.map (·.list), queues.allocated⟩

structure Numbered (queues : Queues β) : Prop where
  ordered : queues.retran.Pairwise (·.list < ·.list)
  bound : ∀ frame ∈ queues.retran, frame.list < queues.allocated

lemma listInsertHead_getLast? {node} (ordered : retran.Pairwise (·.list < ·.list)) :
    listInsertHead node (retran.getLast?.map (·.list)) (retran ++ normal) =
      some (retran ++ node :: normal) := by
  rcases eq_nil_or_concat' retran with rfl | ⟨front, last, rfl⟩
  · simp [listInsertHead]
  · rw [getLast?_concat, append_assoc, append_assoc]
    induction front with
    | nil => simp [listInsertHead]
    | cons frame front ih =>
      obtain ⟨before, ordered⟩ := pairwise_cons.mp ordered
      have other : frame.list ≠ last.list := (before last (by simp)).ne
      simpa [listInsertHead, other] using ih ordered

lemma popFront_para (numbered : Numbered ⟨cur :: retran, normal, allocated⟩) :
    popFront (para ⟨cur :: retran, normal, allocated⟩) cur (retran ++ normal) =
      para ⟨retran, normal, allocated⟩ := by
  rcases eq_nil_or_concat' retran with rfl | ⟨front, last, rfl⟩
  · simp [popFront, para]
  · have other : last.list ≠ cur.list := (rel_of_pairwise_cons numbered.ordered (by simp)).ne'
    simp [popFront, para, getLast?_cons, other]

lemma Numbered.rest (numbered : Numbered ⟨cur :: retran, normal, allocated⟩) :
    Numbered ⟨retran, normal, allocated⟩ :=
  ⟨numbered.ordered.tail, fun frame mem => numbered.bound frame (mem_cons_of_mem cur mem)⟩

lemma getMultipleBlockFrame_para (numbered : queues.Numbered) (nr : Nat) :
    getMultipleBlockFrame queues.para nr = ((queues.pop nr).1.para, (queues.pop nr).2) ∧
      (queues.pop nr).1.Numbered := by
  induction nr generalizing queues with
  | zero => exact ⟨rfl, numbered⟩
  | succ nr ih =>
    obtain ⟨retran, normal, allocated⟩ := queues
    cases retran with
    | nil =>
      cases normal with
      | nil => exact ⟨rfl, numbered⟩
      | cons cur normal =>
        obtain ⟨same, later⟩ := @ih ⟨[], normal, allocated⟩ ⟨.nil, nofun⟩
        exact ⟨congrArg (fun next => (next.1, cur :: next.2)) same, later⟩
    | cons cur retran =>
      obtain ⟨same, later⟩ := ih numbered.rest
      rw [← popFront_para numbered] at same
      exact ⟨congrArg (fun next => (next.1, cur :: next.2)) same, later⟩

lemma listStep_para (numbered : queues.Numbered) (call : Call β) :
    listStep queues.para call = some ((queues.step call).1.para, (queues.step call).2) ∧
      (queues.step call).1.Numbered := by
  have older (frame) (mem : frame ∈ queues.retran) : frame.list < queues.allocated + 1 :=
    Nat.lt_succ_of_lt (numbered.bound frame mem)
  cases call with
  | push created socketIndex block isRetran =>
    cases created with
    | false => exact ⟨rfl, numbered⟩
    | true =>
      cases isRetran with
      | true =>
        refine ⟨?_, ?_, ?_⟩
        · simp [listStep, pushFileBlockFrame, step, para, add_assoc,
            listInsertHead_getLast? numbered.ordered]
        · simpa [step, pairwise_append, numbered.ordered] using numbered.bound
        · simpa [step, or_imp, forall_and] using older
      | false =>
        refine ⟨?_, numbered.ordered, older⟩
        simp [listStep, pushFileBlockFrame, step, para, add_assoc]
  | get nr =>
    obtain ⟨popped, later⟩ := getMultipleBlockFrame_para numbered nr.toNat
    exact ⟨congrArg some popped, later⟩

lemma run_para_of_numbered (numbered : queues.Numbered) (calls : List (Call β)) :
    ∃ last out, run (fun queues call => some (step queues call)) queues calls = some (last, out) ∧
      run listStep queues.para calls = some (last.para, out) := by
  induction calls generalizing queues with
  | nil => exact ⟨queues, [], rfl, rfl⟩
  | cons call calls ih =>
    obtain ⟨here, numbered⟩ := listStep_para numbered call
    obtain ⟨last, out, queued, listed⟩ := ih numbered
    exact ⟨last, _, run_cons_eq_some.mpr ⟨_, _, out, rfl, queued, rfl⟩,
      run_cons_eq_some.mpr ⟨_, _, out, here, listed, rfl⟩⟩

/-- After any calls the list is that of the two queues: the size is its length and
sendRetranListTail is the last block to be sent again. The calls return the same blocks. -/
theorem run_para (calls : List (Call β)) :
    ∃ queues out, run (fun queues call => some (step queues call)) {} calls = some (queues, out) ∧
      run listStep initSendBlockLists calls = some (queues.para, out) :=
  run_para_of_numbered ⟨.nil, by simp⟩ calls

end DSoftBus.DFile.SendBlocks.Queues
