import DSoftBus.DFile.FileProgress

/-!
What is on the disk when a file is reported. The receiver counts frames and not blocks, so the
report is right for every content if and only if the frames that it counted were of
different blocks. That all files are reported once every block has come needs no more than the
count.
-/
namespace DSoftBus.DFile
open Blockwise List SentBlock

/-- The order in which the task finds the frames handed over while it slept. -/
def takenOrder (sents : List SentBlock) : List SentBlock :=
  sents.foldl (fun list sent => if sent.isRetran then sent :: list else list ++ [sent]) []

def received (handed : List (List SentBlock)) : List SentBlock := (handed.map takenOrder).flatten

section

private lemma mem_foldl_taken {sent} (sents list : List SentBlock) :
    sent ∈ sents.foldl (fun list sent => if sent.isRetran then sent :: list else list ++ [sent])
      list ↔ sent ∈ list ∨ sent ∈ sents := by
  induction sents generalizing list with
  | nil => simp
  | cons first rest ih =>
    rw [foldl_cons, ih]
    cases first.isRetran <;> simp <;> tauto

lemma mem_received {handed sent} : sent ∈ received handed ↔ sent ∈ handed.flatten := by
  simp [received, takenOrder, mem_foldl_taken, mem_flatten]

variable {fm : FileManager} {transId : Nat} {files : List Bytes} {sizes : List Nat}

private lemma foldl_pushRecvBlockFrame (cnt : ∀ content ∈ files, Countable manager content.length)
    (hSizes : files.map length = sizes) {sents : List SentBlock}
    (blocks : ∀ sent ∈ sents, IsBlock manager sizes sent) (list : List SentBlock) :
    (sents.filterMap (frame manager transId files)).foldl pushRecvBlockFrame
        (list.filterMap (frame manager transId files)) =
      (sents.foldl (fun list sent => if sent.isRetran then sent :: list else list ++ [sent])
        list).filterMap (frame manager transId files) := by
  induction sents generalizing list with
  | nil => rfl
  | cons sent sents ih =>
    obtain ⟨i, content, hFile, hContent, inside⟩ :=
      exists_content hSizes (blocks sent mem_cons_self)
    obtain ⟨payload, made, -⟩ := frame_of_block transId
      (cnt content (mem_of_getElem? hContent)) hFile hContent inside
    rw [filterMap_cons_some made, foldl_cons, foldl_cons,
      ← ih fun other mem => blocks other (mem_cons_of_mem _ mem)]
    congr 1
    cases retran : sent.isRetran <;> simp [pushRecvBlockFrame, made, retran]

lemma recvBlockLists_eq (cnt : ∀ file ∈ files, Countable fm file.length)
    (hSizes : files.map length = sizes) {handed : List (List SentBlock)}
    (blocks : ∀ sents ∈ handed, ∀ sent ∈ sents, IsBlock fm sizes sent) :
    (handed.map (filterMap (frame fm transId files))).map
        (fun frames => frames.foldl pushRecvBlockFrame []) =
      (handed.map takenOrder).map (filterMap (frame fm transId files)) := by
  rw [map_map, map_map]
  apply map_congr_left
  intro sents mem
  exact foldl_pushRecvBlockFrame cnt hSizes (blocks sents mem) []

lemma lt_blockCount_of_mem {sents} {i k fileSize : Nat}
    (blocks : ∀ sent ∈ sents, IsBlock fm sizes sent) (hSize : sizes[i]? = some fileSize)
    (mem : k ∈ blocksOf (i + 1) sents) : k < blockCount fm fileSize := by
  simp only [blocksOf, mem_map, mem_filter, decide_eq_true_eq] at mem
  obtain ⟨sent, ⟨sentMem, hFile⟩, rfl⟩ := mem
  obtain ⟨j, other, hFile', hSize', inside⟩ := blocks sent sentMem
  obtain rfl : i = j := by omega
  rw [hSize] at hSize'
  cases hSize'
  exact inside

end

section
variable {fm : FileManager} {transId : Nat} {old : Nat → Bytes} {sizes : List Nat}
  {handed : List (List SentBlock)} {files : List Bytes}

lemma countable_files (hSizes : files.map length = sizes)
    (cnt : ∀ fileSize ∈ sizes, Countable fm fileSize) :
    ∀ file ∈ files, Countable fm file.length := by
  intro file mem
  exact cnt _ (hSizes ▸ mem_map_of_mem mem)

lemma isBlock_received (blocks : ∀ sents ∈ handed, ∀ sent ∈ sents, IsBlock fm sizes sent) :
    ∀ sent ∈ received handed, IsBlock fm sizes sent := by
  intro sent mem
  obtain ⟨sents, sentsMem, sentMem⟩ := mem_flatten.mp (mem_received.mp mem)
  exact blocks sents sentsMem sent sentMem

lemma fileManagerReceive_eq (hSizes : files.map length = sizes)
    (cnt : ∀ fileSize ∈ sizes, Countable fm fileSize)
    (blocks : ∀ sents ∈ handed, ∀ sent ∈ sents, IsBlock fm sizes sent) :
    (fileManagerReceive (createRecvFileList fm transId old sizes)
        (handed.map (filterMap (frame fm transId files)))).1 =
      taskAfter fm transId old files (received handed) ∧ ∀ i, .receiveSuccess (i + 1) ∈
        (fileManagerReceive (createRecvFileList fm transId old sizes)
          (handed.map (filterMap (frame fm transId files)))).2 ↔
      Finished fm files (received handed) i := by
  have small := countable_files hSizes cnt
  rw [fileManagerReceive, recvBlockLists_eq small hSizes blocks]
  refine recvTaskProcess_taskAfter small hSizes ?_
  intro sents mem sent sentMem
  exact isBlock_received blocks sent (mem_flatten.mpr ⟨sents, mem, sentMem⟩)

lemma disk_of_finished {i file} (hContent : files[i]? = some file)
    (finished : Finished fm files (received handed) i) :
    (taskAfter fm transId old files (received handed)).fileInfo[i]?.map FileInfo.disk =
      some (copied 0 (getStandardBlockSize fm) file
        ((blocksOf (i + 1) (received handed)).take (blockCount fm file.length))) := by
  rw [getElem?_taskAfter, hContent, Option.map_some, Option.map_some, progress]
  have enough := (finished_iff hContent).mp finished
  rw [if_neg]
  rintro ⟨none, nonempty⟩
  rw [none, length_nil, Nat.le_zero] at enough
  exact nonempty (blockCount_eq_zero.mp enough)

/-- With a block missing among those counted, a file of ones is not on the disk. -/
lemma disk_ne_of_missing {blocks fileSize k}
    (inside : ∀ j ∈ blocks, j < blockCount fm fileSize) (small : k < blockCount fm fileSize)
    (missing : k ∉ blocks) : copied 0 (getStandardBlockSize fm) (replicate fileSize 1) blocks ≠
      replicate fileSize (1 : UInt8) := by
  intro same
  have positive := getStandardBlockSize_pos fm
  have length : (replicate fileSize (1 : UInt8)).length = fileSize := length_replicate
  have start : getStandardBlockSize fm * k < fileSize := (lt_count_iff positive).mp small
  have bounds : ∀ j ∈ blocks, getStandardBlockSize fm * j <
      (replicate fileSize (1 : UInt8)).length := by
    intro j mem
    rw [length]
    exact (lt_count_iff positive).mp (inside j mem)
  have gap := @copied_gap UInt8 0 _ _ blocks bounds positive k (by rw [length]; exact start) missing
  rw [same, getElem?_replicate_of_lt start] at gap
  rcases gap with zero | none
  · exact absurd (Option.some.inj zero) (by decide)
  · cases none

end

/-- The reports are right for every content of the files, and all files are reported once every
block has come, if and only if the frames counted for a file that has as many as it has blocks
were of different blocks. -/
theorem fileManagerReceive_intact_iff (manager : FileManager) (transId : Nat)
    (old : Nat → List UInt8) (sizes : List Nat)
    (countable : ∀ fileSize ∈ sizes, Countable manager fileSize)
    (handed : List (List SentBlock))
    (blocks : ∀ sents ∈ handed, ∀ sent ∈ sents, IsBlock manager sizes sent) :
    (∀ files : List (List UInt8), files.map length = sizes → (∀ i, .receiveSuccess (i + 1) ∈
          (fileManagerReceive (createRecvFileList manager transId old sizes)
            (handed.map (filterMap (frame manager transId files)))).2 →
        (fileManagerReceive (createRecvFileList manager transId old sizes)
          (handed.map (filterMap (frame manager transId files)))).1.fileInfo[i]?.map
            FileInfo.disk = files[i]?) ∧ ((∀ i fileSize, sizes[i]? = some fileSize →
          ∀ k < blockCount manager fileSize, k ∈ blocksOf (i + 1) handed.flatten) →
        ∀ i < sizes.length, .receiveSuccess (i + 1) ∈
          (fileManagerReceive (createRecvFileList manager transId old sizes)
            (handed.map (filterMap (frame manager transId files)))).2)) ↔
    ∀ i fileSize, sizes[i]? = some fileSize →
      blockCount manager fileSize ≤ (blocksOf (i + 1) (received handed)).length →
      ((blocksOf (i + 1) (received handed)).take (blockCount manager fileSize)).Nodup := by
  have inside (i fileSize) (hSize : sizes[i]? = some fileSize) :
      ∀ k ∈ (blocksOf (i + 1) (received handed)).take (blockCount manager fileSize),
        k < blockCount manager fileSize := fun k mem =>
    lt_blockCount_of_mem (isBlock_received blocks) hSize (mem_of_mem_take mem)
  constructor
  · intro intact i fileSize hSize enough
    -- a block that is missing shows in a file of ones
    have hSizes : (sizes.map fun size => replicate size (1 : UInt8)).map length = sizes := by
      simp [map_map, Function.comp_def]
    obtain ⟨state, reports⟩ := @fileManagerReceive_eq manager transId old sizes handed
      (sizes.map fun size => replicate size (1 : UInt8)) hSizes countable blocks
    have hContent : (sizes.map fun size => replicate size (1 : UInt8))[i]? =
        some (replicate fileSize 1) := by
      rw [getElem?_map, hSize, Option.map_some]
    have finished : Finished manager (sizes.map fun size => replicate size (1 : UInt8))
        (received handed) i := by
      rw [finished_iff hContent, length_replicate]
      exact enough
    have same := (intact _ hSizes).1 i ((reports i).mpr finished)
    rw [state, disk_of_finished hContent finished, hContent, length_replicate] at same
    rw [← all_iff_nodup (inside i fileSize hSize) (length_take_of_le enough)]
    intro k small
    by_contra missing
    exact disk_ne_of_missing (inside i fileSize hSize) small missing (Option.some.inj same)
  · intro different files hSizes
    obtain ⟨state, reports⟩ := @fileManagerReceive_eq manager transId old sizes handed files hSizes
      countable blocks
    have size {i : Nat} {content : Bytes} (hContent : files[i]? = some content) :
        sizes[i]? = some content.length := by
      rw [← hSizes, getElem?_map, hContent, Option.map_some]
    constructor
    · intro i reported
      have finished := (reports i).mp reported
      obtain ⟨content, hContent, enough⟩ := finished
      rw [state, disk_of_finished hContent ((reports i).mp reported), hContent]
      have positive := getStandardBlockSize_pos manager
      have all := (all_iff_nodup (inside i _ (size hContent)) (length_take_of_le enough)).mpr
        (different i _ (size hContent) enough)
      rw [copied_eq content
        (fun k mem => (lt_count_iff positive).mp (inside i _ (size hContent) k mem)) positive
        (fun k start => all k ((lt_count_iff positive).mpr start))]
    · intro delivered i small
      rw [reports i]
      obtain ⟨content, hContent⟩ : ∃ content, files[i]? = some content := by
        rw [← hSizes, length_map] at small
        exact ⟨_, getElem?_eq_getElem small⟩
      rw [finished_iff hContent]
      have sub : (range (blockCount manager content.length)).Subperm
          (blocksOf (i + 1) (received handed)) := by
        refine subperm_of_subset nodup_range fun k mem => ?_
        have come := delivered i _ (size hContent) k (mem_range.mp mem)
        simp only [blocksOf, mem_map, mem_filter, mem_received] at come ⊢
        exact come
      have count := sub.length_le
      rwa [length_range] at count

def twoByteManager : FileManager where
  maxFrameLength := 16
  crypt := none
  large := by decide
  small := by decide

def sentBlock (fileId blockSequence : Nat) (isRetran : Bool) : SentBlock :=
  ⟨fileId, blockSequence, .zero, isRetran⟩

/-- Both blocks of a file of three bytes, the retransmitted one first, and an empty file. -/
theorem fileManagerReceive_intact_iff_retran :
    let reports := (fileManagerReceive (createRecvFileList twoByteManager 1 (fun _ => [9]) [3, 0])
      ([[sentBlock 1 1 false, sentBlock 1 0 true]].map
        (filterMap (frame twoByteManager 1 [[1, 2, 3], []])))).2
    .receiveSuccess 1 ∈ reports ∧ .receiveSuccess 2 ∈ reports := by
  have countable : ∀ fileSize ∈ [3, 0], Countable twoByteManager fileSize := by
    simp only [Countable]
    decide
  have isBlock (k) (small : k < 2) (isRetran) :
      IsBlock twoByteManager [3, 0] (sentBlock 1 k isRetran) := ⟨0, 3, rfl, rfl, small⟩
  have blocks : ∀ sents ∈ [[sentBlock 1 1 false, sentBlock 1 0 true]], ∀ sent ∈ sents,
      IsBlock twoByteManager [3, 0] sent := by
    simp only [forall_eq, mem_cons, not_mem_nil, or_false, forall_eq_or_imp]
    exact ⟨isBlock 1 (by decide) false, isBlock 0 (by decide) true⟩
  have intact := (fileManagerReceive_intact_iff twoByteManager 1 (fun _ => [9]) [3, 0] countable _
    blocks).mpr fun i fileSize hSize _ => by
      rcases i with _ | _ | i <;> cases hSize <;> decide
  have both := (intact [[1, 2, 3], []] rfl).2 fun i fileSize hSize => by
    rcases i with _ | _ | i <;> cases hSize <;> decide
  exact ⟨both 0 (by decide), both 1 (by decide)⟩

/-- The first block twice is as good as both blocks. -/
theorem repeated_block_reported :
    .receiveSuccess 1 ∈ (fileManagerReceive (createRecvFileList twoByteManager 1 (fun _ => []) [3])
        ([[sentBlock 1 0 false, sentBlock 1 0 false]].map
          (filterMap (frame twoByteManager 1 [[1, 2, 3]])))).2 ∧
      (fileManagerReceive (createRecvFileList twoByteManager 1 (fun _ => []) [3])
        ([[sentBlock 1 0 false, sentBlock 1 0 false]].map
          (filterMap (frame twoByteManager 1 [[1, 2, 3]])))).1.fileInfo.map
            FileInfo.disk = [[1, 2]] := by
  decide +kernel

end DSoftBus.DFile
