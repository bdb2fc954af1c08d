import DSoftBus.Adapter
import DSoftBus.Lib.Blockwise

/-!
The file managers of a DFile transfer (nstackx_file_manager.c and its client part): the
sender makes a data frame of each block of a file, the receiver writes the payloads where
the block sequence says and reports a file when it has written as many frames as the file
has blocks, whichever they were.

Every file has a place of its own on the disk, which holds anything before the file is
opened. Opening and writing succeed. The task of the receiver takes the frames from its
list whenever it is woken up; retransmitted frames are put at the head. Frames that a full
list does not take are not handed over, and the time-out of the task is left out.
-/
namespace DSoftBus.DFile
open Blockwise

def nstackxMaxFrameSize : Nat := 14720

def fileDataFrameSize : Nat := 14

/-- The part of `sizeof(FileDataFrame)` that the length in the header counts. -/
def blockHeadSize : Nat := 6

structure CryptPara where
  gcm : AesGcm
  key : Bytes

/-- What encryption adds to a block, GCM_ADDED_LEN if there is a key. -/
def addedLen : Option CryptPara → Nat
  | none => 0
  | some _ => overheadLen

/-- What the two managers have in common. `FileManagerSetMaxFrameLength` keeps the bounds. -/
structure FileManager where
  maxFrameLength : Nat
  crypt : Option CryptPara
  large : fileDataFrameSize + addedLen crypt < maxFrameLength
  small : maxFrameLength ≤ nstackxMaxFrameSize

variable (manager : FileManager)

def getStandardBlockSize : Nat :=
  if manager.maxFrameLength ≤ fileDataFrameSize then 0
  else
    let standardBlockSize := manager.maxFrameLength - fileDataFrameSize
    match manager.crypt with
    | none => standardBlockSize
    | some _ => if standardBlockSize ≤ overheadLen then 0 else standardBlockSize - overheadLen

/-- The cipher text, the tag and the vector, in this order. -/
def aesGcmEncrypt (para : CryptPara) (iv : GcmIv) (data : Bytes) : Option Bytes :=
  if data.length = 0 then none
  else some ((para.gcm.cryptAndTag para.key iv.bytes data).1 ++
    ((para.gcm.cryptAndTag para.key iv.bytes data).2 ++ iv.bytes))

def aesGcmDecrypt (para : CryptPara) (data : Bytes) : Option Bytes :=
  if data.length ≤ overheadLen then none
  else
    let dataLen := data.length - overheadLen
    para.gcm.authDecrypt para.key (data.drop (dataLen + tagLen)) ((data.drop dataLen).take tagLen)
      (data.take dataLen)

def sealBlock (crypt : Option CryptPara) (iv : GcmIv) (buffer : Bytes) : Option Bytes :=
  match crypt with
  | none => some buffer
  | some para => aesGcmEncrypt para iv buffer

def openBlock (crypt : Option CryptPara) (payload : Bytes) : Option Bytes :=
  match crypt with
  | none => some payload
  | some para => aesGcmDecrypt para payload

/-- The quotient and the sum are cut to 32 bits. -/
def totalBlockNum (fileSize standardBlockSize : Nat) : Nat :=
  (fileSize / standardBlockSize % 2 ^ 32 +
    if fileSize % standardBlockSize = 0 then 0 else 1) % 2 ^ 32

structure FileDataFrame where
  transId : Nat
  length : Nat
  isRetran : Bool
  fileId : Nat
  blockSequence : Nat
  blockPayload : Bytes

/-- A short read is an error. -/
def readFromFile (content : Bytes) (offset bufferLength : Nat) : Option Bytes :=
  let buffer := (content.drop offset).take bufferLength
  if buffer.length = bufferLength then some buffer else none

/-- `GetNoEncryptedDataFrame` and `GetEncryptedDataFrame`. A file's content is what it has from
its start offset on. -/
def getDataFrame (transId fileId : Nat) (content : Bytes)
    (targetSequence : Nat) (iv : GcmIv) (isRetran : Bool) : Option FileDataFrame :=
  let standardBlockSize := getStandardBlockSize manager
  let total := totalBlockNum content.length standardBlockSize
  let fileOffset := standardBlockSize * targetSequence
  let targetLength := if targetSequence = (total + (2 ^ 32 - 1)) % 2 ^ 32
    then (content.length - fileOffset) % 2 ^ 16 else standardBlockSize
  match readFromFile content fileOffset targetLength with
  | none => none
  | some buffer =>
    match sealBlock manager.crypt iv buffer with
    | none => none
    | some blockPayload =>
      some ⟨transId, (blockHeadSize + blockPayload.length) % 2 ^ 16, isRetran, fileId,
        targetSequence, blockPayload⟩

structure SentBlock where
  fileId : Nat
  blockSequence : Nat
  iv : GcmIv
  isRetran : Bool

/-- Frames are made of the blocks of the list's files only. -/
def SentBlock.frame (transId : Nat) (files : List Bytes)
    (sent : SentBlock) : Option FileDataFrame :=
  if sent.fileId = 0 then none
  else match files[sent.fileId - 1]? with
    | none => none
    | some content =>
      if sent.blockSequence < totalBlockNum content.length (getStandardBlockSize manager) then
        getDataFrame manager transId sent.fileId content sent.blockSequence sent.iv sent.isRetran
      else none

/-- `failed` stands for an `errCode` other than FILE_MANAGER_EOK, `isOpen` for a valid `fd`. -/
structure FileInfo where
  fileId : Nat
  fileSize : Nat
  standardBlockSize : Nat
  totalBlockNum : Nat
  receivedBlockNum : Nat
  failed : Bool
  isOpen : Bool
  disk : Bytes

structure FileListTask where
  transId : Nat
  fileInfo : List FileInfo
  crypt : Option CryptPara
  recvFileProcessed : Nat
  failed : Bool

inductive FileMsg where
  | receiveSuccess (fileId : Nat)
  | receiveFail (fileId : Nat)
deriving DecidableEq

def addRecvFileInfo (standardBlockSize : Nat) (disk : Nat → Bytes) (sizes : List Nat) :
    List FileInfo :=
  sizes.mapIdx fun i fileSize =>
    { fileId := i + 1
      fileSize := fileSize
      standardBlockSize := standardBlockSize
      totalBlockNum := totalBlockNum fileSize standardBlockSize
      receivedBlockNum := 0
      failed := false
      isOpen := false
      disk := disk i }

def createRecvFileList (transId : Nat) (disk : Nat → Bytes) (sizes : List Nat) : FileListTask where
  transId := transId
  fileInfo := addRecvFileInfo (getStandardBlockSize manager) disk sizes
  crypt := manager.crypt
  recvFileProcessed := 0
  failed := false

/-- The file is truncated when it is opened. -/
def fileInfoWriteInit (info : FileInfo) : FileInfo :=
  if info.isOpen then info else { info with isOpen := true, disk := [] }

def closeFile (info : FileInfo) : FileInfo := { info with isOpen := false }

def writeToFile (info : FileInfo) (blockSequence : Nat) (payload : Bytes) : FileInfo :=
  let opened := fileInfoWriteInit info
  if opened.fileSize = 0 ∨ payload.length = 0 then opened
  else { opened with
    disk := put 0 opened.disk (opened.standardBlockSize * blockSequence) payload
    receivedBlockNum := opened.receivedBlockNum + 1 }

variable (task : FileListTask)

/-- The length of the payload; zero for a file that is complete. -/
def getFrameHearderInfo (frame : FileDataFrame) : Option Nat :=
  if frame.transId ≠ task.transId ∨ task.fileInfo.length < frame.fileId ∨ frame.fileId = 0 then none
  else match task.fileInfo[frame.fileId - 1]? with
    | none => none
    | some info =>
      if info.receivedBlockNum = info.totalBlockNum then some 0
      else if info.totalBlockNum ≤ frame.blockSequence ∨ frame.length ≤ blockHeadSize ∨
          nstackxMaxFrameSize < frame.length then none
      else some (frame.length - blockHeadSize)

def updateFileListRecvStatus (info : FileInfo) (ok : Bool) : FileListTask × List FileMsg :=
  let index := info.fileId - 1
  if ok = false then
    ({ task with
        fileInfo := task.fileInfo.set index (closeFile info)
        recvFileProcessed := task.recvFileProcessed + 1 }, [.receiveFail info.fileId])
  else if info.receivedBlockNum < info.totalBlockNum then
    ({ task with fileInfo := task.fileInfo.set index info }, [])
  else
    ({ task with
        fileInfo := task.fileInfo.set index (closeFile info)
        recvFileProcessed := task.recvFileProcessed + 1 }, [.receiveSuccess info.fileId])

def writeSingleBlockFrame (frame : FileDataFrame) : FileListTask × List FileMsg :=
  match getFrameHearderInfo task frame, task.fileInfo[frame.fileId - 1]? with
  | none, _ => ({ task with failed := true }, [])
  | some _, none => (task, [])
  | some payloadLength, some info =>
    if payloadLength = 0 ∨ info.failed then (task, [])
    else
      match openBlock task.crypt (frame.blockPayload.take payloadLength) with
      | none => updateFileListRecvStatus task { info with failed := true } false
      | some data =>
        updateFileListRecvStatus task (writeToFile info frame.blockSequence data) true

/-- The list is checked before every frame, which is where an error ends the loop. -/
def writeBlockFrame : FileListTask → List FileDataFrame → FileListTask × List FileMsg
  | task, [] => (task, [])
  | task, frame :: later =>
    if task.failed then (task, [])
    else
      let (next, out) := writeSingleBlockFrame task frame
      let (final, outs) := writeBlockFrame next later
      (final, out ++ outs)

def generateEmptyFile (info : FileInfo) : FileInfo :=
  if 0 < info.fileSize then info else closeFile (writeToFile info 0 [])

def generateAllEmptyFiles : FileListTask × List FileMsg :=
  let empty := task.fileInfo.filter (·.fileSize = 0)
  ({ task with
      fileInfo := task.fileInfo.map generateEmptyFile
      recvFileProcessed := task.recvFileProcessed + empty.length },
    empty.map fun info => .receiveSuccess info.fileId)

def FileListTask.Ended : Prop := task.failed ∨ task.fileInfo.length ≤ task.recvFileProcessed
deriving Decidable

/-- The loop after the empty files: what the list holds at each time the task wakes up. -/
def recvTaskLoop : FileListTask → List (List FileDataFrame) → FileListTask × List FileMsg
  | task, [] => (task, [])
  | task, frames :: later =>
    if task.Ended then (task, [])
    else
      let (next, out) := writeBlockFrame task frames
      let (final, outs) := recvTaskLoop next later
      (final, out ++ outs)

def recvTaskProcess (wakeUps : List (List FileDataFrame)) : FileListTask × List FileMsg :=
  if task.Ended then (task, [])
  else
    let (created, out) := generateAllEmptyFiles task
    let (final, outs) := recvTaskLoop created wakeUps
    (final, out ++ outs)

def pushRecvBlockFrame (recvBlockList : List FileDataFrame) (frame : FileDataFrame) :
    List FileDataFrame :=
  if frame.isRetran then frame :: recvBlockList else recvBlockList ++ [frame]

/-- The receiver's task, given the frames handed to `FileManagerFileWrite` between one time it
wakes up and the next. -/
def fileManagerReceive (handed : List (List FileDataFrame)) : FileListTask × List FileMsg :=
  recvTaskProcess task (handed.map fun frames => frames.foldl pushRecvBlockFrame [])

end DSoftBus.DFile
