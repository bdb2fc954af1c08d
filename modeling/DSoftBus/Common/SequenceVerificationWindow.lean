import DSoftBus.Common.SequenceVerification

/-!
The sign-crossing branches of the sequence check, read as distances modulo 2^32. While the
window spans at most the bias, they decide by the distance of the number from the lower
bound alone, with one exception: the bias comparison is signed, so a number about 2^31
above a nonempty window passes. Those numbers are the ones called forged.
-/
namespace DSoftBus.SequenceVerification
open Execution

def span (info : SeqVerifyInfo) : Nat := (info.maxSeq - info.minSeq).toNat

variable (info : SeqVerifyInfo) (r : BitVec 32)

def dist : Nat := (r - info.minSeq).toNat

/-- A number whose wrapped difference from `minSeq` is negative while that from
`maxSeq` is not. On a window that crosses a sign boundary those with the sign of
`minSeq` are refused by the sign branches before the comparison. -/
def Forged : Prop :=
  2 ^ 31 ≤ dist info r ∧ dist info r < 2 ^ 31 + span info ∧
    ¬ (isDifferentSign info.minSeq info.maxSeq ∧ isDifferentSign r info.minSeq = false)
deriving Decidable

def windowCheck : SeqOutcome :=
  if dist info r = 0 then
    if span info = 0 then .pass { info with minSeq := r + 1#32, maxSeq := r + 1#32 }
    else .pass { info with minSeq := r + 1#32 }
  else if dist info r < span info then isPassDuplicateCheck info r
  else if dist info r < 60 then
    .pass { info with
      maxSeq := r + 1#32
      recvBitmap := (info.recvBitmap <<< (dist info r + 1 - span info)) ||| (1#64 <<< 1) }
  else if Forged info r then .badShift
  else .reject

lemma toInt_eq (x : BitVec 32) :
    x.toInt = if x.toNat < 2 ^ 31 then (x.toNat : Int) else x.toNat - 2 ^ 32 := by
  rw [BitVec.toInt_eq_toNat_cond]
  split <;> split <;> omega

lemma toInt_nonneg (x : BitVec 32) : 0 ≤ x.toInt ↔ x.toNat < 2 ^ 31 := by
  have bound := x.isLt
  rw [toInt_eq]
  split <;> omega

lemma toInt_neg (x : BitVec 32) : x.toInt < 0 ↔ 2 ^ 31 ≤ x.toNat := by
  have bound := x.isLt
  rw [toInt_eq]
  split <;> omega

lemma toInt_lt_of_same_sign {x y : BitVec 32}
    (same : x.toNat < 2 ^ 31 ↔ y.toNat < 2 ^ 31) : x.toInt < y.toInt ↔ x.toNat < y.toNat := by
  simp only [toInt_eq]
  split <;> split <;> omega

lemma isDifferentSign_iff (x y : BitVec 32) :
    isDifferentSign x y ↔ ¬ (x.toNat < 2 ^ 31 ↔ y.toNat < 2 ^ 31) := by
  simp only [isDifferentSign, toInt_nonneg, toInt_neg]
  split <;> simp <;> omega

lemma isDifferentSign_eq_false (x y) :
    isDifferentSign x y = false ↔ (x.toNat < 2 ^ 31 ↔ y.toNat < 2 ^ 31) := by
  rw [← Bool.not_eq_true, isDifferentSign_iff, not_not]

lemma span_eq_zero (info : SeqVerifyInfo) : span info = 0 ↔ info.minSeq = info.maxSeq := by
  unfold span
  bv_omega

lemma dist_eq_zero : dist info r = 0 ↔ r = info.minSeq := by
  unfold dist
  bv_omega

/-- `dist` and `span` as differences of the numbers, for `omega`. -/
lemma window_bounds : (info.minSeq.toNat < 2 ^ 32 ∧ info.maxSeq.toNat < 2 ^ 32 ∧ r.toNat < 2 ^ 32) ∧
    (dist info r < 2 ^ 32 ∧ span info < 2 ^ 32) ∧ (dist info r + info.minSeq.toNat = r.toNat ∨
      dist info r + info.minSeq.toNat = 2 ^ 32 + r.toNat) ∧
    (span info + info.minSeq.toNat = info.maxSeq.toNat ∨
      span info + info.minSeq.toNat = 2 ^ 32 + info.maxSeq.toNat) := by
  unfold span dist
  bv_omega

lemma maxSeq_sub_toNat {info r} (inside : dist info r < span info) :
    (info.maxSeq - r).toNat = span info - dist info r := by
  unfold span dist at *
  bv_omega

lemma sub_maxSeq_toNat {info r} (beyond : span info ≤ dist info r) :
    (r - info.maxSeq).toNat = dist info r - span info := by
  unfold span dist at *
  bv_omega

section
variable {info : SeqVerifyInfo} {r : BitVec 32}

/-- Past the window the two signed comparisons leave the bias interval and the
wrapped interval that follows 2^31. -/
lemma isPassOverMaxCheck_eq (narrow : span info ≤ 60) (beyond : span info ≤ dist info r) :
    isPassOverMaxCheck info r = if dist info r < 60 then .pass { info with
        maxSeq := r + 1#32
        recvBitmap := (info.recvBitmap <<< (dist info r + 1 - span info)) ||| (1#64 <<< 1) }
      else if 2 ^ 31 ≤ dist info r ∧ dist info r < 2 ^ 31 + span info then .badShift
      else .reject := by
  have fromMax := sub_maxSeq_toNat beyond
  have fromMin : (r - info.minSeq).toNat = dist info r := rfl
  have bounds := window_bounds info r
  simp only [isPassOverMaxCheck, toInt_eq, fromMax, fromMin, maxSeqBias, BitVec.toNat_add,
    BitVec.toNat_ofNat]
  by_cases far : 2 ^ 31 ≤ dist info r - span info
  · split_ifs <;> first | rfl | omega
  · have offset : (dist info r - span info + 1 % 2 ^ 32) % 2 ^ 32 =
        dist info r + 1 - span info := by omega
    simp only [offset]
    split_ifs <;> first | rfl | omega

lemma windowCheck_overMax (narrow : span info ≤ 60) (nonzero : dist info r ≠ 0)
    (beyond : span info ≤ dist info r)
    (sign : 2 ^ 31 ≤ dist info r → dist info r < 2 ^ 31 + span info →
      (info.minSeq.toNat < 2 ^ 31 ↔ info.maxSeq.toNat < 2 ^ 31) ∨
        ¬ (r.toNat < 2 ^ 31 ↔ info.minSeq.toNat < 2 ^ 31)) :
    isPassOverMaxCheck info r = windowCheck info r := by
  have outside : ¬ dist info r < span info := by omega
  have forged : Forged info r ↔ 2 ^ 31 ≤ dist info r ∧ dist info r < 2 ^ 31 + span info := by
    simp only [Forged, isDifferentSign_iff, isDifferentSign_eq_false]
    constructor
    · exact fun h => ⟨h.1, h.2.1⟩
    · exact fun h => ⟨h.1, h.2, fun refused =>
        (sign h.1 h.2).elim refused.1 (fun cross => cross refused.2)⟩
  rw [isPassOverMaxCheck_eq narrow beyond, windowCheck]
  simp [nonzero, outside, forged]

lemma windowCheck_duplicate (nonzero : dist info r ≠ 0) (inside : dist info r < span info) :
    isPassDuplicateCheck info r = windowCheck info r := by
  simp [windowCheck, nonzero, inside]

lemma windowCheck_reject (far : 60 ≤ dist info r) (beyond : span info ≤ dist info r)
    (honest : ¬ Forged info r) : SeqOutcome.reject = windowCheck info r := by
  simp [windowCheck, honest, show dist info r ≠ 0 by omega,
    show ¬ dist info r < span info by omega, show ¬ dist info r < 60 by omega]

lemma windowCheck_min (open_ : span info ≠ 0) (atMin : dist info r = 0) :
    SeqOutcome.pass { info with minSeq := r + 1#32 } = windowCheck info r := by
  simp [windowCheck, open_, atMin]

end

section
variable {info : SeqVerifyInfo} {r : BitVec 32}

lemma isPassNormalCheck_eq (empty : span info = 0) :
    isPassNormalCheck info r = windowCheck info r := by
  have same := (span_eq_zero info).mp empty
  have bounds := window_bounds info r
  simp only [isPassNormalCheck]
  by_cases atMin : r = info.minSeq
  · simp [atMin, windowCheck, empty, (dist_eq_zero info info.minSeq).mpr rfl]
  have nonzero : dist info r ≠ 0 := fun h => atMin ((dist_eq_zero info r).mp h)
  have above : isPassOverMaxCheck info r = windowCheck info r :=
    windowCheck_overMax (by omega) nonzero (by omega) (by omega)
  cases different : isDifferentSign r info.minSeq with
  | true => simp [atMin, above]
  | false =>
    have signs := (isDifferentSign_eq_false r info.minSeq).mp different
    have compare : r.toInt > info.maxSeq.toInt ↔ info.minSeq.toNat < r.toNat := by
      rw [← same]
      exact toInt_lt_of_same_sign signs.symm
    simp only [atMin, if_false, Bool.not_false, if_true, compare]
    split
    · exact above
    · refine windowCheck_reject (by omega) (by omega) fun h => ?_
      have := h.2.1
      have := h.1
      omega

section

variable (narrow : span info ≤ 60)
include narrow

lemma isPassAllRangeCheck_eq (open_ : span info ≠ 0)
    (signMax : info.maxSeq.toNat < 2 ^ 31 ↔ info.minSeq.toNat < 2 ^ 31)
    (signRecv : r.toNat < 2 ^ 31 ↔ info.minSeq.toNat < 2 ^ 31) :
    isPassAllRangeCheck info r = windowCheck info r := by
  have bounds := window_bounds info r
  have aboveMin : r.toInt > info.minSeq.toInt ↔ info.minSeq.toNat < r.toNat :=
    toInt_lt_of_same_sign signRecv.symm
  have belowMax : r.toInt < info.maxSeq.toInt ↔ r.toNat < info.maxSeq.toNat :=
    toInt_lt_of_same_sign (signRecv.trans signMax.symm)
  simp only [isPassAllRangeCheck, aboveMin, belowMax, ← dist_eq_zero]
  split
  · exact windowCheck_min open_ ‹_›
  next nonzero =>
    split
    · split
      · exact windowCheck_duplicate nonzero (by omega)
      · exact windowCheck_overMax narrow nonzero (by omega) fun _ _ => .inl signMax.symm
    · have past : 2 ^ 31 + span info ≤ dist info r := by omega
      exact windowCheck_reject (by omega) (by omega) (fun h => by have := h.2.1; omega)

lemma isPassNoflipDisorderCheck_eq (open_ : span info ≠ 0)
    (signMax : info.maxSeq.toNat < 2 ^ 31 ↔ info.minSeq.toNat < 2 ^ 31) :
    isPassNoflipDisorderCheck info r = windowCheck info r := by
  have bounds := window_bounds info r
  have across (h : ¬ (r.toNat < 2 ^ 31 ↔ info.minSeq.toNat < 2 ^ 31)) :
      isPassOverMaxCheck info r = windowCheck info r :=
    windowCheck_overMax narrow (by omega) (by omega) fun _ _ => .inl signMax.symm
  simp only [isPassNoflipDisorderCheck, toInt_nonneg, toInt_neg]
  split
  · split
    · exact isPassAllRangeCheck_eq narrow open_ signMax (by omega)
    · exact across (by omega)
  · split
    · split
      · exact isPassAllRangeCheck_eq narrow open_ signMax (by omega)
      · exact across (by omega)
    · omega

/-- On the side of `maxSeq` of a window that crosses a sign boundary. -/
lemma windowCheck_maxSide (cross : ¬ (info.minSeq.toNat < 2 ^ 31 ↔ info.maxSeq.toNat < 2 ^ 31))
    (side : r.toNat < 2 ^ 31 ↔ info.maxSeq.toNat < 2 ^ 31) :
    (if r.toInt < info.maxSeq.toInt then isPassDuplicateCheck info r
      else isPassOverMaxCheck info r) = windowCheck info r := by
  have bounds := window_bounds info r
  simp only [toInt_lt_of_same_sign side]
  split
  · apply windowCheck_duplicate <;> omega
  · exact windowCheck_overMax narrow (by omega) (by omega) fun _ _ => .inr (by omega)

lemma windowCheck_minSide (cross : ¬ (info.minSeq.toNat < 2 ^ 31 ↔ info.maxSeq.toNat < 2 ^ 31))
    (side : r.toNat < 2 ^ 31 ↔ info.minSeq.toNat < 2 ^ 31) :
    (if dist info r = 0 then SeqOutcome.pass { info with minSeq := r + 1#32 }
      else if r.toInt > info.minSeq.toInt then isPassDuplicateCheck info r
      else .reject) = windowCheck info r := by
  have bounds := window_bounds info r
  simp only [gt_iff_lt, toInt_lt_of_same_sign side.symm]
  split
  · exact windowCheck_min (by omega) ‹_›
  next nonzero =>
    split
    · exact windowCheck_duplicate nonzero (by omega)
    · refine windowCheck_reject (by omega) (by omega) fun h => h.2.2 ?_
      rw [isDifferentSign_iff, isDifferentSign_eq_false]
      exact ⟨cross, side⟩

lemma isPassFlipPositiveCheck_eq
    (negative : 2 ^ 31 ≤ info.minSeq.toNat) (positive : info.maxSeq.toNat < 2 ^ 31) :
    isPassFlipPositiveCheck info r = windowCheck info r := by
  simp only [isPassFlipPositiveCheck, toInt_nonneg, toInt_neg, ← dist_eq_zero]
  split
  · exact windowCheck_maxSide narrow (by omega) (by omega)
  · rw [if_pos (by omega)]
    exact windowCheck_minSide narrow (by omega) (by omega)

lemma isPassFlipNegativeCheck_eq
    (positive : info.minSeq.toNat < 2 ^ 31) (negative : 2 ^ 31 ≤ info.maxSeq.toNat) :
    isPassFlipNegativeCheck info r = windowCheck info r := by
  simp only [isPassFlipNegativeCheck, toInt_nonneg, toInt_neg, ← dist_eq_zero]
  split
  · exact windowCheck_minSide narrow (by omega) (by omega)
  · rw [if_pos (by omega)]
    exact windowCheck_maxSide narrow (by omega) (by omega)

lemma isPassSeqCheck_eq_windowCheck : isPassSeqCheck info r = windowCheck info r := by
  have bounds := window_bounds info r
  simp only [isPassSeqCheck]
  by_cases empty : info.minSeq = info.maxSeq
  · simp only [empty, if_true]
    exact isPassNormalCheck_eq ((span_eq_zero info).mpr empty)
  have open_ : span info ≠ 0 := fun h => empty ((span_eq_zero info).mp h)
  simp only [empty, if_false]
  by_cases signs : info.minSeq.toNat < 2 ^ 31 ↔ info.maxSeq.toNat < 2 ^ 31
  · have same := (isDifferentSign_eq_false _ _).mpr signs
    have ordered : info.minSeq.toInt < info.maxSeq.toInt := by
      rw [toInt_lt_of_same_sign signs]
      omega
    simp only [same, ordered, Bool.not_false, and_self, if_true]
    exact isPassNoflipDisorderCheck_eq narrow open_ signs.symm
  · have different := (isDifferentSign_iff _ _).mpr signs
    by_cases positive : info.minSeq.toNat < 2 ^ 31
    · have negative : 2 ^ 31 ≤ info.maxSeq.toNat := by omega
      have ordered : info.minSeq.toInt > info.maxSeq.toInt := by
        have := (toInt_nonneg info.minSeq).mpr positive
        have := (toInt_neg info.maxSeq).mpr negative
        omega
      simp only [different, ordered, Bool.not_true, Bool.false_eq_true, and_false, if_false,
        and_self, if_true]
      exact isPassFlipNegativeCheck_eq narrow positive negative
    · have above : info.maxSeq.toNat < 2 ^ 31 := by omega
      have ordered : info.minSeq.toInt < info.maxSeq.toInt := by
        have := (toInt_nonneg info.maxSeq).mpr above
        have := (toInt_neg info.minSeq).mpr (by omega)
        omega
      simp only [different, ordered, Bool.not_true, Bool.false_eq_true, and_false, if_false,
        and_self, if_true, show ¬ info.minSeq.toInt > info.maxSeq.toInt by omega, false_and]
      exact isPassFlipPositiveCheck_eq narrow (by omega) above

end

end

inductive WindowPass (info : SeqVerifyInfo) (r : BitVec 32) : SeqVerifyInfo → Prop where
  | slide : dist info r = 0 → span info = 0 →
      WindowPass info r { info with minSeq := r + 1#32, maxSeq := r + 1#32 }
  | advance : dist info r = 0 → span info ≠ 0 → WindowPass info r { info with minSeq := r + 1#32 }
  | fill : dist info r ≠ 0 → dist info r < span info →
      (info.recvBitmap &&& (1#64 <<< (span info - dist info r))).setWidth 32 = 0#32 →
      WindowPass info r { info with
        recvBitmap := info.recvBitmap ||| (1#64 <<< (span info - dist info r)) }
  | extend : dist info r ≠ 0 → span info ≤ dist info r → dist info r < 60 →
      WindowPass info r { info with
        maxSeq := r + 1#32
        recvBitmap := (info.recvBitmap <<< (dist info r + 1 - span info)) ||| (1#64 <<< 1) }

section
variable {info next : SeqVerifyInfo} {r : BitVec 32}

section

variable (narrow : span info ≤ 60)
include narrow

lemma isPassDuplicateCheck_inside (inside : dist info r < span info) : isPassDuplicateCheck info r =
      if (info.recvBitmap &&& (1#64 <<< (span info - dist info r))).setWidth 32 ≠ 0#32 then .reject
      else .pass { info with
        recvBitmap := info.recvBitmap ||| (1#64 <<< (span info - dist info r)) } := by
  simp [isPassDuplicateCheck, maxSeq_sub_toNat inside, show ¬ 64 ≤ span info - dist info r by omega]

lemma windowPass_of_pass (h : isPassSeqCheck info r = .pass next) : WindowPass info r next := by
  rw [isPassSeqCheck_eq_windowCheck narrow, windowCheck] at h
  split at h
  · split at h <;> cases h
    · exact .slide ‹_› ‹_›
    · exact .advance ‹_› ‹_›
  · split at h
    next nonzero inside =>
      rw [isPassDuplicateCheck_inside narrow inside] at h
      split at h <;> cases h
      rename_i unseen
      exact .fill nonzero inside (not_not.mp unseen)
    · split at h
      · cases h
        exact .extend ‹_› (by omega) ‹_›
      · split at h <;> cases h

lemma isPassSeqCheck_eq_badShift : isPassSeqCheck info r = .badShift ↔ Forged info r := by
  rw [isPassSeqCheck_eq_windowCheck narrow, windowCheck]
  constructor
  · intro h
    split at h
    · split at h <;> cases h
    split at h
    next inside =>
      rw [isPassDuplicateCheck_inside narrow inside] at h
      split at h <;> cases h
    · split at h
      · cases h
      · split at h
        · assumption
        · cases h
  · intro forged
    have far := forged.1
    simp [forged, show dist info r ≠ 0 by omega, show ¬ dist info r < span info by omega,
      show ¬ dist info r < 60 by omega]

lemma isPassSeqCheck_ne_canNotReachHere : isPassSeqCheck info r ≠ .canNotReachHere := by
  rw [isPassSeqCheck_eq_windowCheck narrow, windowCheck]
  split
  · split <;> simp
  · split
    next inside =>
      rw [isPassDuplicateCheck_inside narrow inside]
      split <;> simp
    · split
      · simp
      · split <;> simp

end

lemma WindowPass.dist_lt (h : WindowPass info r next) (narrow : span info ≤ 60) :
    dist info r < 60 := by
  cases h with
  | slide atMin _ | advance atMin _ => omega
  | fill _ inside _ => omega
  | extend _ _ near => exact near

lemma WindowPass.span_eq (h : WindowPass info r next) :
    span next = 0 ∧ span info = 0 ∨ span next + 1 = span info ∨ span next = span info ∨
      span next = dist info r + 1 := by
  cases h with
  | slide _ empty => exact .inl ⟨by simp [span], empty⟩
  | advance atMin open_ =>
    right; left
    unfold span dist at *
    bv_omega
  | fill _ _ _ => exact .inr (.inr (.inl rfl))
  | extend _ _ near =>
    right; right; right
    unfold span dist at *
    bv_omega

lemma WindowPass.narrow (h : WindowPass info r next) (narrow : span info ≤ 60) :
    span next ≤ 60 := by
  have near := h.dist_lt narrow
  have moved := h.span_eq
  omega

/-- An honest number always has a defined outcome, and the window stays within the
bias. -/
lemma seqStep_defined (narrow : span info ≤ 60) (honest : ¬ Forged info r) :
    ∃ next out, seqStep info r = some (next, out) ∧ span next ≤ 60 := by
  cases hc : isPassSeqCheck info r with
  | pass accepted =>
    exact ⟨accepted, [r], seqStep_of_pass hc, (windowPass_of_pass narrow hc).narrow narrow⟩
  | reject | canNotReachHere => exact ⟨info, [], by simp [seqStep, hc], narrow⟩
  | badShift => exact absurd ((isPassSeqCheck_eq_badShift narrow).mp hc) honest

end

open Execution in
/-- In every state along the run the window spans at most the bias, every accepted
number is less than the bias above the lower bound, no shift leaves the bitmap
undefined and no path commented as unreachable is taken. -/
def WindowInvariant (s : BitVec 32) (seqs : List (BitVec 32)) : Prop :=
  (∀ pre, pre <+: seqs → ∃ info out, run seqStep (seqInit s) pre = some (info, out) ∧
    (info.maxSeq - info.minSeq).toNat ≤ 60) ∧
  ∀ pre r, pre ++ [r] <+: seqs → ∀ info out, run seqStep (seqInit s) pre = some (info, out) →
    (∀ next, isPassSeqCheck info r = .pass next → (r - info.minSeq).toNat < 60) ∧
    isPassSeqCheck info r ≠ .canNotReachHere

lemma run_narrow {s seqs}
    (honest : Execution.AllSteps seqStep (fun info r => ¬ Forged info r) (seqInit s) seqs) :
    ∃ info out, run seqStep (seqInit s) seqs = some (info, out) ∧ span info ≤ 60 :=
  run_defined (fun _ _ narrow ok => seqStep_defined narrow ok)
    (by simp [seqInit, span]) honest

/-- The window invariant of a run fails exactly at forged numbers. -/
theorem windowInvariant_iff_honest (s : BitVec 32) (seqs : List (BitVec 32)) :
    WindowInvariant s seqs ↔
      Execution.AllSteps seqStep (fun info r => ¬ Forged info r) (seqInit s) seqs := by
  constructor
  · intro h pre r post split info out hPre forged
    have front : pre ++ [r] <+: seqs := ⟨post, by simp [split]⟩
    obtain ⟨_, _, hPre', narrow⟩ := h.1 pre ⟨r :: post, split.symm⟩
    obtain ⟨rfl, rfl⟩ := run_unique hPre hPre'
    obtain ⟨next, all, hNext, _⟩ := h.1 _ front
    obtain ⟨_, _, _, hPre', hStep, _⟩ := run_concat_eq_some.mp hNext
    obtain ⟨rfl, rfl⟩ := run_unique hPre hPre'
    simp [seqStep, (isPassSeqCheck_eq_badShift narrow).mpr forged] at hStep
  · intro honest
    refine ⟨?_, ?_⟩
    · intro pre isPrefix
      obtain ⟨post, rfl⟩ := isPrefix
      exact run_narrow honest.front
    · intro pre r isPrefix info out hPre
      obtain ⟨post, rfl⟩ := isPrefix
      obtain ⟨_, _, hPre', narrow⟩ := run_narrow honest.front.front
      obtain ⟨rfl, rfl⟩ := run_unique hPre hPre'
      refine ⟨?_, isPassSeqCheck_ne_canNotReachHere narrow⟩
      intro next accepted
      exact (windowPass_of_pass narrow accepted).dist_lt narrow

/-- After 1 has arrived ahead of 0 the number 2^31 + 1 passes the bias comparison,
and the bitmap is shifted by 2^31. -/
theorem forged_number_breaks_window : ¬ WindowInvariant 0#32 [1#32, 0x80000001#32] := by
  intro h
  obtain ⟨info, out, hRun, _⟩ := h.1 _ List.prefix_rfl
  have undefined : run seqStep (seqInit 0#32) [1#32, 0x80000001#32] = none := by decide
  simp [undefined] at hRun

end DSoftBus.SequenceVerification
