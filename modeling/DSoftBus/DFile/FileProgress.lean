import DSoftBus.DFile.FileManager

/-!
The receiver's task as a function of the blocks whose frames it has taken from its list:
each file has the first of them copied to the disk, as many as the file has blocks, and is
reported when that many have come; empty files are there from the start.
-/
namespace DSoftBus.DFile
open Blockwise Option Nat SentBlock
open List hiding count map_map

section
variable (fm : FileManager)

lemma getStandardBlockSize_eq : getStandardBlockSize fm =
    fm.maxFrameLength - fileDataFrameSize - addedLen fm.crypt := by
  have large := fm.large
  rw [getStandardBlockSize, if_neg (by omega)]
  cases key : fm.crypt with
  | none => rfl
  | some para =>
    rw [key] at large
    simp only [addedLen] at large ⊢
    rw [if_neg (by omega)]

lemma getStandardBlockSize_pos : 0 < getStandardBlockSize fm := by
  have large := fm.large
  rw [getStandardBlockSize_eq]
  omega

lemma getStandardBlockSize_le : fileDataFrameSize + getStandardBlockSize fm + addedLen fm.crypt ≤
      nstackxMaxFrameSize := by
  have large := fm.large
  have small := fm.small
  rw [getStandardBlockSize_eq]
  omega

def blockCount (fileSize : Nat) : Nat := count (getStandardBlockSize fm) fileSize

def Countable (fileSize : Nat) : Prop := blockCount fm fileSize < 2 ^ 32

variable {fm}

lemma totalBlockNum_eq {file : Bytes} (cnt : Countable fm file.length) :
    totalBlockNum file.length (getStandardBlockSize fm) = blockCount fm file.length := by
  rw [Countable, blockCount, Blockwise.count] at cnt
  rw [totalBlockNum, blockCount, Blockwise.count]
  generalize file.length / getStandardBlockSize fm = whole at cnt ⊢
  split at cnt
  next rest =>
    rw [if_pos rest]
    omega
  next rest =>
    rw [if_neg rest]
    omega

lemma aesGcmDecrypt_encrypted {para iv data encrypted}
    (h : aesGcmEncrypt para iv data = some encrypted) :
    encrypted.length = data.length + overheadLen ∧ aesGcmDecrypt para encrypted = some data := by
  rw [aesGcmEncrypt] at h
  split at h
  · cases h
  cases h
  have cipher := para.gcm.length_cipher para.key iv.bytes data
  have tag := para.gcm.length_tag para.key iv.bytes data
  have vector := iv.length_bytes
  have size : ((para.gcm.cryptAndTag para.key iv.bytes data).1 ++
      ((para.gcm.cryptAndTag para.key iv.bytes data).2 ++ iv.bytes)).length =
      data.length + overheadLen := by
    rw [length_append, length_append, cipher, tag, vector, overheadLen, add_comm tagLen]
  refine ⟨size, ?_⟩
  rw [aesGcmDecrypt, if_neg (by omega), size, Nat.add_sub_cancel]
  simp only [← drop_drop, drop_left' cipher, take_left' cipher, take_left' tag, drop_left' tag]
  exact para.gcm.authDecrypt_cryptAndTag _ _ _

lemma openBlock_sealed (crypt iv) {buffer}
    (nonempty : 0 < buffer.length) : ∃ body, sealBlock crypt iv buffer = some body ∧
      body.length = buffer.length + addedLen crypt ∧ openBlock crypt body = some buffer := by
  cases crypt with
  | none => exact ⟨buffer, rfl, rfl, rfl⟩
  | some para =>
    have done : sealBlock (some para) iv buffer = some _ := if_neg (by omega)
    obtain ⟨size, opened⟩ := aesGcmDecrypt_encrypted done
    exact ⟨_, done, size, opened⟩

lemma block_nonempty {file : Bytes} {k : Nat} (inside : k < blockCount fm file.length) :
    0 < (block (getStandardBlockSize fm) file k).length := by
  have positive := getStandardBlockSize_pos fm
  have start := (lt_count_iff positive).mp inside
  rw [length_block]
  omega

/-- The last block is what is left of the file; all others have the standard size. -/
lemma readFromFile_block {file k}
    (cnt : Countable fm file.length) (inside : k < blockCount fm file.length) :
    readFromFile file (getStandardBlockSize fm * k)
      (if k = (blockCount fm file.length + (2 ^ 32 - 1)) % 2 ^ 32
        then (file.length - getStandardBlockSize fm * k) % 2 ^ 16 else getStandardBlockSize fm) =
      some (block (getStandardBlockSize fm) file k) := by
  have positive := getStandardBlockSize_pos fm
  have bound := getStandardBlockSize_le fm
  have next : k + 1 < count (getStandardBlockSize fm) file.length ↔ _ :=
    lt_count_iff positive
  simp only [nstackxMaxFrameSize] at bound
  rw [Countable] at cnt
  rw [blockCount] at inside cnt ⊢
  rw [mul_succ] at next
  split
  next last =>
    have short : file.length - getStandardBlockSize fm * k ≤ getStandardBlockSize fm := by
      omega
    rw [readFromFile, mod_eq_of_lt (by omega), block, take_of_length_le (by rw [length_drop]),
      take_of_length_le (by rw [length_drop]; exact short), if_pos length_drop]
  next notLast =>
    rw [readFromFile, if_pos, block]
    rw [length_take, length_drop]
    omega

end

def blocksOf (fileId : Nat) (sent : List SentBlock) : List Nat :=
  (sent.filter (·.fileId = fileId)).map (·.blockSequence)

lemma blocksOf_append (fileId front back) :
    blocksOf fileId (front ++ back) = blocksOf fileId front ++ blocksOf fileId back := by
  rw [blocksOf, filter_append, map_append]
  rfl

lemma blocksOf_singleton (fileId sent) :
    blocksOf fileId [sent] = if sent.fileId = fileId then [sent.blockSequence] else [] := by
  rw [blocksOf]
  split <;> rename_i own <;> simp [own]

section
variable (fm : FileManager) (transId : Nat) (old : Nat → Bytes)
  (files : List Bytes) {sizes : List Nat}

def IsBlock (sizes : List Nat) (sent : SentBlock) : Prop :=
  ∃ i fileSize, sent.fileId = i + 1 ∧ sizes[i]? = some fileSize ∧
    sent.blockSequence < blockCount fm fileSize

def Finished (seen : List SentBlock) (i : Nat) : Prop :=
  ∃ file, files[i]? = some file ∧
    blockCount fm file.length ≤ (blocksOf (i + 1) seen).length

/-- A file after some of its blocks have been received. Blocks that come when there are as many as
the file has are ignored. -/
def progress (i : Nat) (file : Bytes) (blocks : List Nat) : FileInfo where
  fileId := i + 1
  fileSize := file.length
  standardBlockSize := getStandardBlockSize fm
  totalBlockNum := totalBlockNum file.length (getStandardBlockSize fm)
  receivedBlockNum := min blocks.length (blockCount fm file.length)
  failed := false
  isOpen := 0 < blocks.length ∧ blocks.length < blockCount fm file.length
  disk :=
    if blocks = [] ∧ file ≠ [] then old i
    else copied 0 (getStandardBlockSize fm) file (blocks.take (blockCount fm file.length))

def isComplete (info : FileInfo) : Bool := info.receivedBlockNum = info.totalBlockNum

def taskAfter (seen : List SentBlock) : FileListTask :=
  let fileInfo := files.mapIdx fun i file =>
    progress fm old i file (blocksOf (i + 1) seen)
  { transId := transId
    fileInfo := fileInfo
    crypt := fm.crypt
    recvFileProcessed := fileInfo.countP isComplete
    failed := false }

variable {fm transId old files}

variable {sent : SentBlock} {i : Nat} {blocks : List Nat} {seen : List SentBlock}

variable (transId) in
lemma frame_of_block {file} (cnt : Countable fm file.length)
    (hFile : sent.fileId = i + 1) (hAt : files[i]? = some file)
    (inside : sent.blockSequence < blockCount fm file.length) :
    ∃ body, sent.frame fm transId files = some ⟨transId, blockHeadSize + body.length,
        sent.isRetran, i + 1, sent.blockSequence, body⟩ ∧ 0 < body.length ∧
      blockHeadSize + body.length ≤ nstackxMaxFrameSize ∧ openBlock fm.crypt body =
        some (block (getStandardBlockSize fm) file sent.blockSequence) := by
  have nonempty := block_nonempty inside
  have bound := getStandardBlockSize_le fm
  have total := totalBlockNum_eq cnt
  have size : (block (getStandardBlockSize fm) file sent.blockSequence).length = _ :=
    length_block file sent.blockSequence
  obtain ⟨body, hSeal, hLength, hOpen⟩ := openBlock_sealed fm.crypt sent.iv nonempty
  simp only [fileDataFrameSize, nstackxMaxFrameSize] at bound
  have small : blockHeadSize + body.length ≤ nstackxMaxFrameSize := by
    rw [blockHeadSize, nstackxMaxFrameSize]
    omega
  refine ⟨body, ?_, by omega, small, hOpen⟩
  have fits : (blockHeadSize + body.length) % 2 ^ 16 = blockHeadSize + body.length := by
    rw [nstackxMaxFrameSize] at small
    exact Nat.mod_eq_of_lt (by omega)
  rw [frame, hFile, if_neg (Nat.succ_ne_zero i), Nat.add_sub_cancel, hAt]
  simp only [total, if_pos inside, getDataFrame, readFromFile_block cnt inside, hSeal, fits]

lemma writeToFile_progress {k file} (inside : k < blockCount fm file.length)
    (more : blocks.length < blockCount fm file.length) :
    writeToFile (progress fm old i file blocks) k (block (getStandardBlockSize fm) file k) =
      { progress fm old i file (blocks ++ [k]) with isOpen := true } := by
  have nonempty := block_nonempty inside
  have length : (block (getStandardBlockSize fm) file k).length = _ :=
    length_block file k
  have opened : fileInfoWriteInit (progress fm old i file blocks) =
      { progress fm old i file blocks with
        isOpen := true
        disk := copied 0 (getStandardBlockSize fm) file blocks } := by
    rw [fileInfoWriteInit]
    cases blocks with
    | nil => simp [progress, copied]
    | cons first rest =>
      rw [length_cons] at more
      have whole : (first :: rest).take (blockCount fm file.length) = first :: rest :=
        take_of_length_le (le_of_lt more)
      simp [progress, more, whole]
  have all : (blocks ++ [k]).take (blockCount fm file.length) = blocks ++ [k] :=
    take_of_length_le (by rw [length_append]; exact more)
  have received : min blocks.length (blockCount fm file.length) + 1 =
      min (blocks ++ [k]).length (blockCount fm file.length) := by
    rw [length_append, length_singleton]
    omega
  have busy : ¬ ((fileInfoWriteInit (progress fm old i file blocks)).fileSize = 0 ∨
      (block (getStandardBlockSize fm) file k).length = 0) := by
    rw [opened]
    change ¬ (file.length = 0 ∨ _)
    omega
  simp only [writeToFile, if_neg busy]
  rw [opened]
  simp [progress, all, copied_concat, received]

lemma length_taskAfter (seen) :
    (taskAfter fm transId old files seen).fileInfo.length = files.length := length_mapIdx

variable (fm transId old files) in
lemma getElem?_taskAfter (seen i) : (taskAfter fm transId old files seen).fileInfo[i]? =
      files[i]?.map fun file => progress fm old i file (blocksOf (i + 1) seen) :=
  getElem?_mapIdx

lemma progress_append {file} (more) (enough : blockCount fm file.length ≤ blocks.length) :
    progress fm old i file (blocks ++ more) = progress fm old i file blocks := by
  have none : blocks = [] → file = [] := by
    intro empty
    rw [empty, length_nil, blockCount] at enough
    by_contra nonempty
    have first : 0 < count (getStandardBlockSize fm) file.length := by
      rw [lt_count_iff (getStandardBlockSize_pos fm), mul_zero]
      exact length_pos_iff.mpr nonempty
    omega
  have received : min (blocks ++ more).length (blockCount fm file.length) =
      min blocks.length (blockCount fm file.length) := by
    rw [length_append]
    omega
  have closed (front : List Nat) : blockCount fm file.length ≤ front.length →
      decide (0 < front.length ∧ front.length < blockCount fm file.length) = false := by
    intro long
    exact decide_eq_false (by omega)
  simp only [progress, received, take_append_of_le_length enough,
    closed blocks enough, closed (blocks ++ more) (by rw [length_append]; omega)]
  rw [if_neg (fun h => h.2 (none (append_eq_nil_iff.mp h.1).1)), if_neg (fun h => h.2 (none h.1))]

variable (fm transId old) in
lemma fileInfo_concat (seen) {file} (hFile : sent.fileId = i + 1) (hAt : files[i]? = some file) :
    (taskAfter fm transId old files (seen ++ [sent])).fileInfo =
      (taskAfter fm transId old files seen).fileInfo.set i
        (progress fm old i file (blocksOf (i + 1) seen ++ [sent.blockSequence])) := by
  apply ext_getElem?
  intro j
  have here : i < files.length := (List.getElem?_eq_some_iff.mp hAt).1
  rw [getElem?_set, getElem?_taskAfter, getElem?_taskAfter, blocksOf_append,
    blocksOf_singleton, hFile, length_taskAfter]
  by_cases own : i = j
  · subst own
    rw [if_pos rfl, if_pos rfl, if_pos here, hAt]
    rfl
  · rw [if_neg (by omega), if_neg own, append_nil]

lemma isComplete_progress {file : Bytes} (cnt : Countable fm file.length) :
    isComplete (progress fm old i file blocks) =
      decide (blockCount fm file.length ≤ blocks.length) := by
  simp only [isComplete, progress, totalBlockNum_eq cnt]
  exact decide_eq_decide.mpr (by omega)

variable (fm transId) in
/-- A task is known by its files, of which the complete ones are counted. -/
def taskOf (fileInfo : List FileInfo) : FileListTask :=
  ⟨transId, fileInfo, fm.crypt, fileInfo.countP isComplete, false⟩

lemma updateFileListRecvStatus_taskOf {fileInfo before info}
    (here : fileInfo[i]? = some before) (incomplete : isComplete before = false)
    (own : info.fileId = i + 1) (most : info.receivedBlockNum ≤ info.totalBlockNum) :
    updateFileListRecvStatus (taskOf fm transId fileInfo) info true =
      (taskOf fm transId (fileInfo.set i { info with isOpen := info.isOpen && !isComplete info }),
        if isComplete info then [.receiveSuccess (i + 1)] else []) := by
  obtain ⟨inside, rfl⟩ := List.getElem?_eq_some_iff.mp here
  obtain ⟨_, _, _, total, received⟩ := info
  cases own
  rw [taskOf, taskOf, countP_set inside, incomplete, updateFileListRecvStatus]
  by_cases last : received < total
  · simp [isComplete, last, Nat.ne_of_lt last]
  · have all : received = total := le_antisymm most (Nat.le_of_not_lt last)
    simp [isComplete, closeFile, all]

lemma progress_isOpen {file k} (cnt : Countable fm file.length) :
    { progress fm old i file (blocks ++ [k]) with
      isOpen := !isComplete (progress fm old i file (blocks ++ [k])) } =
      progress fm old i file (blocks ++ [k]) := by
  rw [isComplete_progress cnt]
  simp only [progress, length_append, length_singleton]
  congr 1
  rw [← decide_not, decide_eq_decide]
  omega

variable (old) in
lemma writeSingleBlockFrame_taskAfter (seen) {file : Bytes}
    {frame : FileDataFrame} (cnt : Countable fm file.length)
    (hFile : sent.fileId = i + 1) (hAt : files[i]? = some file)
    (inside : sent.blockSequence < blockCount fm file.length)
    (hFrame : sent.frame fm transId files = some frame) :
    writeSingleBlockFrame (taskAfter fm transId old files seen) frame =
      (taskAfter fm transId old files (seen ++ [sent]),
        if (blocksOf (i + 1) seen).length + 1 = blockCount fm file.length
          then [.receiveSuccess (i + 1)] else []) := by
  obtain ⟨body, made, nonempty, small, opened⟩ :=
    frame_of_block transId cnt hFile hAt inside
  rw [made] at hFrame
  cases hFrame
  have here : i < files.length := (List.getElem?_eq_some_iff.mp hAt).1
  have info := getElem?_taskAfter fm transId old files seen i
  rw [hAt, map_some] at info
  have next : taskAfter fm transId old files (seen ++ [sent]) = taskOf fm transId _ :=
    congrArg (taskOf fm transId) (fileInfo_concat fm transId old seen hFile hAt)
  have complete := @isComplete_progress fm old i (blocksOf (i + 1) seen) _ cnt
  have header : getFrameHearderInfo (taskAfter fm transId old files seen)
      ⟨transId, blockHeadSize + body.length, sent.isRetran, i + 1, sent.blockSequence, body⟩ =
      some (if isComplete (progress fm old i file (blocksOf (i + 1) seen)) then 0
        else body.length) := by
    rw [getFrameHearderInfo, if_neg (by rw [length_taskAfter]; simp [taskAfter]; omega)]
    simp only [Nat.add_sub_cancel, info, isComplete, decide_eq_true_eq]
    split
    · rfl
    · rw [if_neg (by simp only [progress, totalBlockNum_eq cnt]; omega),
        Nat.add_sub_cancel_left]
  simp only [writeSingleBlockFrame, header, complete, Nat.add_sub_cancel, info, next]
  by_cases enough : blockCount fm file.length ≤ (blocksOf (i + 1) seen).length
  · obtain ⟨place, same⟩ := List.getElem?_eq_some_iff.mp info
    have silent : ¬ (blocksOf (i + 1) seen).length + 1 = blockCount fm file.length := by omega
    simp only [enough, decide_true, if_true, true_or, if_neg silent]
    rw [progress_append _ enough, ← same, set_getElem_self]
    rfl
  · have sound : ¬ (body.length = 0 ∨
        (progress fm old i file (blocksOf (i + 1) seen)).failed) := by
      rintro (empty | failed)
      · omega
      · exact Bool.false_ne_true failed
    have opens : openBlock (taskAfter fm transId old files seen).crypt body = _ := opened
    simp only [enough, decide_false, Bool.false_eq_true, if_false, if_neg sound, take_length, opens,
      writeToFile_progress inside (not_le.mp enough)]
    refine (updateFileListRecvStatus_taskOf info (complete.trans (decide_eq_false enough)) rfl
      ((min_le_right _ _).trans (totalBlockNum_eq cnt).ge)).trans ?_
    refine Prod.ext (congrArg (taskOf _ _ <| set _ i ·) (progress_isOpen cnt)) ?_
    refine if_congr ?_ rfl rfl
    refine (Bool.eq_iff_iff.mp (@isComplete_progress _ old i _ _ cnt)).trans ?_
    rw [decide_eq_true_iff, length_append, length_singleton]
    omega

lemma blockCount_eq_zero {file : Bytes} : blockCount fm file.length = 0 ↔ file = [] := by
  have first : 0 < count (getStandardBlockSize fm) file.length ↔ _ :=
    lt_count_iff (getStandardBlockSize_pos fm)
  rw [mul_zero, length_pos_iff] at first
  rw [blockCount, ← not_iff_not, ← ne_eq, ← pos_iff_ne_zero, first]

lemma Finished.append (more) (finished : Finished fm files seen i) :
    Finished fm files (seen ++ more) i := by
  obtain ⟨file, hAt, enough⟩ := finished
  refine ⟨file, hAt, ?_⟩
  rw [blocksOf_append, length_append]
  omega

lemma finished_iff {file} (hAt : files[i]? = some file) : Finished fm files seen i ↔
      blockCount fm file.length ≤ (blocksOf (i + 1) seen).length := by
  simp [Finished, hAt]

lemma report_concat (seen) {j file} (hFile : sent.fileId = j + 1) (hAt : files[j]? = some file) :
    (.receiveSuccess (i + 1) ∈ (if (blocksOf (j + 1) seen).length + 1 =
        blockCount fm file.length then [FileMsg.receiveSuccess (j + 1)] else [])) ↔
      ¬ Finished fm files seen i ∧ Finished fm files (seen ++ [sent]) i := by
  by_cases own : i = j
  · subst own
    rw [finished_iff hAt, finished_iff hAt, blocksOf_append, blocksOf_singleton, if_pos hFile,
      length_append, length_singleton]
    split
    · simp only [mem_singleton, true_iff]
      omega
    · simp only [not_mem_nil, false_iff]
      omega
  · have same : Finished fm files (seen ++ [sent]) i ↔ Finished fm files seen i := by
      rw [Finished, blocksOf_append, blocksOf_singleton, if_neg (by omega), append_nil]
      rfl
    rw [same]
    split
    · simp [own]
    · simp

variable (fm transId old files) in
/-- The frames of more blocks have been taken, and the files that they finish are reported. -/
structure Advances (seen more : List SentBlock) (result : FileListTask × List FileMsg) : Prop where
  state : result.1 = taskAfter fm transId old files (seen ++ more)
  reports : ∀ i, .receiveSuccess (i + 1) ∈ result.2 ↔
    ¬ Finished fm files seen i ∧ Finished fm files (seen ++ more) i

lemma Advances.trans {more later task out result}
    (first : Advances fm transId old files seen more (task, out))
    (second : Advances fm transId old files (seen ++ more) later result) :
    Advances fm transId old files seen (more ++ later) (result.1, out ++ result.2) := by
  refine ⟨by rw [second.state, append_assoc], fun i => ?_⟩
  have before : Finished fm files seen i → _ := Finished.append more
  have after : Finished fm files (seen ++ more) i → _ := Finished.append later
  rw [mem_append, first.reports i, second.reports i, ← append_assoc]
  tauto

lemma exists_content {sizes} (hSizes : files.map length = sizes) (isBlock : IsBlock fm sizes sent) :
    ∃ i file, sent.fileId = i + 1 ∧ files[i]? = some file ∧
      sent.blockSequence < blockCount fm file.length := by
  obtain ⟨i, fileSize, hFile, hSize, inside⟩ := isBlock
  rw [← hSizes, getElem?_map] at hSize
  obtain ⟨file, hAt, rfl⟩ := map_eq_some_iff.mp hSize
  exact ⟨i, file, hFile, hAt, inside⟩

lemma taskAfter_of_finished (more) (all : ∀ i < files.length, Finished fm files seen i) :
    taskAfter fm transId old files (seen ++ more) = taskAfter fm transId old files seen := by
  suffices (taskAfter fm transId old files (seen ++ more)).fileInfo =
      (taskAfter fm transId old files seen).fileInfo from congrArg (taskOf fm transId) this
  apply ext_getElem?
  intro i
  rw [getElem?_taskAfter, getElem?_taskAfter]
  cases hAt : files[i]? with
  | none => rfl
  | some file =>
    have finished := all i (List.getElem?_eq_some_iff.mp hAt).1
    rw [map_some, map_some, blocksOf_append, progress_append _ ((finished_iff hAt).mp finished)]

section
variable (cnt : ∀ file ∈ files, Countable fm file.length)
  (hSizes : files.map length = sizes)
include cnt hSizes

variable (transId old) in
lemma writeBlockFrame_taskAfter (seen) {sents} (blocks : ∀ sent ∈ sents, IsBlock fm sizes sent) :
    Advances fm transId old files seen sents (writeBlockFrame
      (taskAfter fm transId old files seen) (sents.filterMap (frame fm transId files))) := by
  induction sents generalizing seen with
  | nil => exact ⟨by rw [append_nil]; rfl, by simp [writeBlockFrame]⟩
  | cons sent sents ih =>
    obtain ⟨j, file, hFile, hAt, inside⟩ :=
      exists_content hSizes (blocks sent mem_cons_self)
    have small := cnt file (mem_of_getElem? hAt)
    obtain ⟨body, made, -⟩ := frame_of_block transId small hFile hAt inside
    have one := writeSingleBlockFrame_taskAfter old seen small hFile hAt inside made
    have first : Advances fm transId old files seen [sent] (_, _) :=
      ⟨rfl, fun i => report_concat seen hFile hAt⟩
    rw [filterMap_cons_some made, writeBlockFrame, if_neg (by simp [taskAfter]), one]
    exact first.trans (ih (seen ++ [sent]) fun other mem => blocks other (mem_cons_of_mem _ mem))

omit hSizes in
lemma ended_taskAfter {seen} : (taskAfter fm transId old files seen).Ended ↔
      ∀ i < files.length, Finished fm files seen i := by
  have complete {i file} (hAt : files[i]? = some file) :
      isComplete (progress fm old i file (blocksOf (i + 1) seen)) ↔ Finished fm files seen i := by
    rw [isComplete_progress (cnt file (mem_of_getElem? hAt)), decide_eq_true_iff, finished_iff hAt]
  have most : (taskAfter fm transId old files seen).fileInfo.countP isComplete ≤ _ :=
    countP_le_length
  have ended : (taskAfter fm transId old files seen).Ended ↔
      (taskAfter fm transId old files seen).fileInfo.countP isComplete =
        (taskAfter fm transId old files seen).fileInfo.length := by
    have sound : (taskAfter fm transId old files seen).failed = false := rfl
    have number : (taskAfter fm transId old files seen).recvFileProcessed =
      (taskAfter fm transId old files seen).fileInfo.countP isComplete := rfl
    rw [FileListTask.Ended, sound, number]
    simp only [Bool.false_eq_true, false_or]
    omega
  rw [ended, countP_eq_length]
  constructor
  · intro all i inside
    obtain ⟨file, hAt⟩ : ∃ file, files[i]? = some file :=
      ⟨_, getElem?_eq_getElem inside⟩
    have info := getElem?_taskAfter fm transId old files seen i
    rw [hAt, map_some] at info
    exact (complete hAt).mp (all _ (mem_of_getElem? info))
  · intro all info mem
    obtain ⟨i, hInfo⟩ := mem_iff_getElem?.mp mem
    rw [getElem?_taskAfter] at hInfo
    obtain ⟨file, hAt, rfl⟩ := map_eq_some_iff.mp hInfo
    exact (complete hAt).mpr (all i (List.getElem?_eq_some_iff.mp hAt).1)

variable (transId old) in
lemma recvTaskLoop_taskAfter (seen) {groups : List (List SentBlock)}
    (blocks : ∀ sents ∈ groups, ∀ sent ∈ sents, IsBlock fm sizes sent) :
    Advances fm transId old files seen groups.flatten (recvTaskLoop
      (taskAfter fm transId old files seen) (groups.map (filterMap (frame fm transId files)))) := by
  induction groups generalizing seen with
  | nil => exact ⟨by rw [flatten_nil, append_nil]; rfl, by simp [recvTaskLoop]⟩
  | cons sents groups ih =>
    rw [map_cons, recvTaskLoop, flatten_cons]
    by_cases ended : (taskAfter fm transId old files seen).Ended
    · rw [if_pos ended]
      have all := (ended_taskAfter cnt).mp ended
      refine ⟨(taskAfter_of_finished _ all).symm, fun i => ?_⟩
      simp only [not_mem_nil, false_iff, not_and]
      intro unfinished ⟨file, hAt, _⟩
      exact unfinished (all i (List.getElem?_eq_some_iff.mp hAt).1)
    · have first := writeBlockFrame_taskAfter transId old cnt hSizes seen
        (blocks sents mem_cons_self)
      rw [if_neg ended]
      refine first.trans ?_
      rw [first.state]
      exact ih (seen ++ sents) fun others mem => blocks others (mem_cons_of_mem _ mem)

variable (fm transId old) in
omit cnt in
lemma fileInfo_created : (createRecvFileList fm transId old sizes).fileInfo.map generateEmptyFile =
      (taskAfter fm transId old files []).fileInfo := by
  apply ext_getElem?
  intro i
  rw [getElem?_map, getElem?_taskAfter]
  simp only [createRecvFileList, addRecvFileInfo, getElem?_mapIdx, ← hSizes, getElem?_map, map_map]
  congr 1
  funext file
  cases file with
  | nil => simp [generateEmptyFile, writeToFile, fileInfoWriteInit, closeFile, progress, copied,
      blocksOf]
  | cons byte rest => simp [generateEmptyFile, progress, blocksOf]

omit cnt in
lemma mem_created {info} : info ∈ (createRecvFileList fm transId old sizes).fileInfo ↔
      ∃ i file, files[i]? = some file ∧ info = ⟨i + 1, file.length, getStandardBlockSize fm,
          totalBlockNum file.length (getStandardBlockSize fm), 0, false, false, old i⟩ := by
  rw [mem_iff_getElem?]
  simp only [createRecvFileList, addRecvFileInfo, getElem?_mapIdx, ← hSizes,
    getElem?_map, map_map, map_eq_some_iff]
  constructor
  · rintro ⟨i, file, hAt, rfl⟩
    exact ⟨i, file, hAt, rfl⟩
  · rintro ⟨i, file, hAt, rfl⟩
    exact ⟨i, file, hAt, rfl⟩

variable (transId old) in
lemma generateAllEmptyFiles_created :
    (generateAllEmptyFiles (createRecvFileList fm transId old sizes)).1 =
      taskAfter fm transId old files [] ∧ ∀ i, .receiveSuccess (i + 1) ∈
        (generateAllEmptyFiles (createRecvFileList fm transId old sizes)).2 ↔
      Finished fm files [] i := by
  have created := fileInfo_created fm transId old hSizes
  constructor
  · have number : ((createRecvFileList fm transId old sizes).fileInfo.filter
        (·.fileSize = 0)).length =
        (taskAfter fm transId old files []).fileInfo.countP isComplete := by
      rw [← created, countP_map, ← countP_eq_length_filter]
      apply countP_congr
      intro info mem
      obtain ⟨i, file, hAt, rfl⟩ := (mem_created hSizes).mp mem
      have total := totalBlockNum_eq (cnt file (mem_of_getElem? hAt))
      cases file with
      | nil =>
        rw [blockCount_eq_zero.mpr rfl, length_nil] at total
        simp [isComplete, generateEmptyFile, writeToFile, fileInfoWriteInit, closeFile, total]
      | cons byte rest =>
        have some : blockCount fm (byte :: rest).length ≠ 0 :=
          mt blockCount_eq_zero.mp (cons_ne_nil _ _)
        simp [isComplete, generateEmptyFile] at total some ⊢
        omega
    change _ = taskOf fm transId (taskAfter fm transId old files []).fileInfo
    rw [taskOf, ← number, ← created]
    simp [generateAllEmptyFiles, createRecvFileList]
  · intro i
    simp only [generateAllEmptyFiles, List.mem_map, List.mem_filter, FileMsg.receiveSuccess.injEq,
      decide_eq_true_eq]
    constructor
    · rintro ⟨info, ⟨mem, empty⟩, own⟩
      obtain ⟨j, file, hAt, rfl⟩ := (mem_created hSizes).mp mem
      obtain rfl : j = i := succ.inj own
      have none : file = [] := length_eq_zero_iff.mp empty
      exact ⟨file, hAt, le_of_eq (blockCount_eq_zero.mpr none)⟩
    · rintro ⟨file, hAt, enough⟩
      have none : file = [] := blockCount_eq_zero.mp (le_zero.mp enough)
      refine ⟨_, ⟨(mem_created hSizes).mpr ⟨i, file, hAt, rfl⟩, ?_⟩, rfl⟩
      exact List.length_eq_zero_iff.mpr none

lemma recvTaskProcess_taskAfter {groups : List (List SentBlock)}
    (blocks : ∀ sents ∈ groups, ∀ sent ∈ sents, IsBlock fm sizes sent) :
    (recvTaskProcess (createRecvFileList fm transId old sizes)
        (groups.map (filterMap (frame fm transId files)))).1 =
      taskAfter fm transId old files groups.flatten ∧ ∀ i, .receiveSuccess (i + 1) ∈
        (recvTaskProcess (createRecvFileList fm transId old sizes)
          (groups.map (filterMap (frame fm transId files)))).2 ↔
      Finished fm files groups.flatten i := by
  obtain ⟨start, emptyReports⟩ := generateAllEmptyFiles_created transId old cnt hSizes
  obtain ⟨state, reports⟩ := recvTaskLoop_taskAfter transId old cnt hSizes [] blocks
  rw [nil_append] at state reports
  rw [recvTaskProcess]
  by_cases ended : (createRecvFileList fm transId old sizes).Ended
  · -- only a list without files has nothing to wait for
    have number : (createRecvFileList fm transId old sizes).fileInfo.length = files.length := by
      simp [createRecvFileList, addRecvFileInfo, ← hSizes]
    have nothing : files = [] := by
      rcases ended with failed | few
      · cases failed
      · rw [number] at few
        exact length_eq_zero_iff.mp (le_zero.mp few)
    subst nothing
    subst hSizes
    rw [if_pos ended]
    refine ⟨rfl, fun i => ?_⟩
    simp [Finished]
  · rw [if_neg ended]
    simp only [start, state, true_and]
    intro i
    rw [mem_append, emptyReports i, reports i]
    constructor
    · rintro (finished | ⟨-, finished⟩)
      · exact finished.append groups.flatten
      · exact finished
    · intro finished
      by_cases before : Finished fm files [] i
      · exact .inl before
      · exact .inr ⟨before, finished⟩

end

end

end DSoftBus.DFile
