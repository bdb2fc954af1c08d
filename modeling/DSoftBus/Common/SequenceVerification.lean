import Mathlib.Data.BitVec
import DSoftBus.Lib.Execution

/-!
The sequence check of softbus_sequence_verification.c, branch by branch. An `int32_t` is a
`BitVec 32` compared through `toInt`; its arithmetic wraps. A shift of the bitmap by 64 or
more has no defined value in C and is reported as such. Every path that returns false
leaves the record as it was, so only an accepting path carries a new one.
-/
namespace DSoftBus.SequenceVerification

def maxSeqBias : Int := 60

structure SeqVerifyInfo where
  maxSeq : BitVec 32
  minSeq : BitVec 32
  recvBitmap : BitVec 64
deriving DecidableEq

/-- How a call ends. The paths commented as "can not reach here" return false like any
rejection. -/
inductive SeqOutcome where
  | pass (info : SeqVerifyInfo)
  | reject
  | canNotReachHere
  | badShift
deriving DecidableEq

def isDifferentSign (seqA seqB : BitVec 32) : Bool :=
  if (0 ≤ seqA.toInt ∧ 0 ≤ seqB.toInt) ∨ (seqA.toInt < 0 ∧ seqB.toInt < 0) then false
  else true

variable (info : SeqVerifyInfo) (recvSeq : BitVec 32)

/-- The bit test is stored in an `int32_t`, which keeps only its low 32 bits. -/
def isPassDuplicateCheck : SeqOutcome :=
  let offset := (info.maxSeq - recvSeq).toNat
  if 64 ≤ offset then .badShift
  else
    let isRepeat : BitVec 32 := (info.recvBitmap &&& (1#64 <<< offset)).setWidth 32
    if isRepeat ≠ 0#32 then .reject
    else .pass { info with recvBitmap := info.recvBitmap ||| (1#64 <<< offset) }

def isPassOverMaxCheck : SeqOutcome :=
  if (recvSeq - info.maxSeq).toInt < 0 then .reject
  else if maxSeqBias ≤ (recvSeq - info.minSeq).toInt then .reject
  else
    let seqOffset := (recvSeq - info.maxSeq + 1#32).toNat
    if 64 ≤ seqOffset then .badShift
    else .pass { info with
      maxSeq := recvSeq + 1#32
      recvBitmap := (info.recvBitmap <<< seqOffset) ||| (1#64 <<< 1) }

def isPassAllRangeCheck : SeqOutcome :=
  if recvSeq = info.minSeq then .pass { info with minSeq := recvSeq + 1#32 }
  else if recvSeq.toInt > info.minSeq.toInt then
    if recvSeq.toInt < info.maxSeq.toInt then isPassDuplicateCheck info recvSeq
    else isPassOverMaxCheck info recvSeq
  else .reject

def isPassNormalCheck : SeqOutcome :=
  if recvSeq = info.minSeq then
    .pass { info with minSeq := recvSeq + 1#32, maxSeq := recvSeq + 1#32 }
  else if !isDifferentSign recvSeq info.minSeq then
    if recvSeq.toInt > info.maxSeq.toInt then isPassOverMaxCheck info recvSeq
    else .reject
  else isPassOverMaxCheck info recvSeq

def isPassNoflipDisorderCheck : SeqOutcome :=
  if 0 ≤ info.minSeq.toInt then
    if 0 ≤ recvSeq.toInt then isPassAllRangeCheck info recvSeq
    else isPassOverMaxCheck info recvSeq
  else if info.maxSeq.toInt < 0 then
    if recvSeq.toInt < 0 then isPassAllRangeCheck info recvSeq
    else isPassOverMaxCheck info recvSeq
  else .canNotReachHere

def isPassFlipPositiveCheck : SeqOutcome :=
  if 0 ≤ recvSeq.toInt then
    if recvSeq.toInt < info.maxSeq.toInt then isPassDuplicateCheck info recvSeq
    else isPassOverMaxCheck info recvSeq
  else if recvSeq.toInt < 0 then
    if recvSeq = info.minSeq then .pass { info with minSeq := recvSeq + 1#32 }
    else if recvSeq.toInt > info.minSeq.toInt then isPassDuplicateCheck info recvSeq
    else .reject
  else .canNotReachHere

def isPassFlipNegativeCheck : SeqOutcome :=
  if 0 ≤ recvSeq.toInt then
    if recvSeq = info.minSeq then .pass { info with minSeq := recvSeq + 1#32 }
    else if recvSeq.toInt > info.minSeq.toInt then isPassDuplicateCheck info recvSeq
    else .reject
  else if recvSeq.toInt < 0 then
    if recvSeq.toInt < info.maxSeq.toInt then isPassDuplicateCheck info recvSeq
    else isPassOverMaxCheck info recvSeq
  else .canNotReachHere

def isPassSeqCheck : SeqOutcome :=
  let differentSign := isDifferentSign info.minSeq info.maxSeq
  if info.minSeq = info.maxSeq then isPassNormalCheck info recvSeq
  else if info.minSeq.toInt < info.maxSeq.toInt ∧ !differentSign then
    isPassNoflipDisorderCheck info recvSeq
  else if info.minSeq.toInt > info.maxSeq.toInt ∧ differentSign then
    isPassFlipNegativeCheck info recvSeq
  else if info.minSeq.toInt < info.maxSeq.toInt ∧ differentSign then
    isPassFlipPositiveCheck info recvSeq
  else .canNotReachHere

/-- One call as a step of the receiver, emitting the number it accepts. -/
def seqStep : Option (SeqVerifyInfo × List (BitVec 32)) :=
  match isPassSeqCheck info recvSeq with
  | .pass next => some (next, [recvSeq])
  | .reject | .canNotReachHere => some (info, [])
  | .badShift => none

def seqInit (s : BitVec 32) : SeqVerifyInfo := ⟨s, s, 0#64⟩

lemma seqStep_of_pass {info next r}
    (h : isPassSeqCheck info r = .pass next) : seqStep info r = some (next, [r]) := by
  simp [seqStep, h]

lemma seqStep_cases {info next r out} (h : seqStep info r = some (next, out)) :
    (isPassSeqCheck info r = .pass next ∧ out = [r]) ∨ (next = info ∧ out = []) := by
  unfold seqStep at h
  cases hc : isPassSeqCheck info r with
  | pass accepted =>
    simp only [hc, Option.some.injEq, Prod.mk.injEq] at h
    exact .inl ⟨by rw [h.1], h.2.symm⟩
  | reject | canNotReachHere =>
    simp only [hc, Option.some.injEq, Prod.mk.injEq] at h
    exact .inr ⟨h.1.symm, h.2.symm⟩
  | badShift => simp [hc] at h

end DSoftBus.SequenceVerification
