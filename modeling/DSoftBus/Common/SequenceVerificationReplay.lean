import DSoftBus.Lib.SlidingWindow
import DSoftBus.Common.SequenceVerificationWindow

/-!
The sequence check as a sliding window over the unwrapped numbers, counted from the first
expected one. The relation below ties the record to the window and to everything accepted
so far. It does not give that an accepted number was new: the lower bound is accepted
without a look at the bitmap, and the bitmap test loses the bits from 32 on.
-/
namespace DSoftBus.SequenceVerification
open SlidingWindow Execution List Nat

variable (s : BitVec 32)

def seqNumber (n : Nat) : BitVec 32 := s + BitVec.ofNat 32 n

structure Tracks (s : BitVec 32) (info : SeqVerifyInfo) (b : Bounds) (accepted : List Nat) :
    Prop where
  minSeq : info.minSeq = seqNumber s b.lo
  maxSeq : info.maxSeq = seqNumber s b.hi
  fits : b.Fits 60
  below : ∀ n, n < b.lo → n ∈ accepted
  above : ∀ n, n ∈ accepted → n < b.hi
  bits : ∀ n, b.lo ≤ n → n < b.hi → (info.recvBitmap.getLsbD (b.hi - n) ↔ n ∈ accepted)
  bitZero : info.recvBitmap.getLsbD 0 = false

lemma seqNumber_add (m n) : seqNumber s (m + n) = seqNumber s m + BitVec.ofNat 32 n := by
  simp [seqNumber, BitVec.ofNat_add, BitVec.add_assoc]

lemma seqNumber_eq_iff (m n) : seqNumber s m = seqNumber s n ↔ m ≡ n [MOD 2 ^ 32] := by
  simp [seqNumber, ← BitVec.toNat_inj, Nat.ModEq]

lemma tracks_init : Tracks s (seqInit s) ⟨0, 0⟩ [] where
  minSeq := by simp [seqInit, seqNumber]
  maxSeq := by simp [seqInit, seqNumber]
  fits := ⟨le_refl _, zero_le _⟩
  below := by intro n h; simp at h
  above := by intro n h; simp at h
  bits := by intro n _ h; simp at h
  bitZero := by simp [seqInit]

lemma getLsbD_setBit (bitmap i j) (inside : i < 64) :
    (bitmap ||| (1#64 <<< j)).getLsbD i = (bitmap.getLsbD i || decide (i = j)) := by
  by_cases h : i = j
  · subst h
    simp [inside]
  · by_cases lt : i < j
    · simp [h, lt]
    · simp [h, lt, show i - j ≠ 0 by omega]

lemma getLsbD_of_truncated_test {bitmap j} (low : j < 32)
    (clear : (bitmap &&& (1#64 <<< j)).setWidth 32 = 0#32) : bitmap.getLsbD j = false := by
  have h := congrArg (fun x => BitVec.getLsbD x j) clear
  simpa [low, show j < 64 by omega] using h

lemma and_setBit_eq_zero {bitmap j} (clear : bitmap.getLsbD j = false) :
    bitmap &&& (1#64 <<< j) = 0#64 := by
  apply BitVec.eq_of_getLsbD_eq
  intro i inside
  by_cases h : i = j
  · simp [h, clear]
  · by_cases lt : i < j
    · simp [lt]
    · simp [show i - j ≠ 0 by omega]

lemma getLsbD_shift_setBit (bitmap : BitVec 64) (i k : Nat) (inside : i < 64) :
    ((bitmap <<< k) ||| (1#64 <<< 1)).getLsbD i =
      ((decide (k ≤ i) && bitmap.getLsbD (i - k)) || decide (i = 1)) := by
  rw [getLsbD_setBit _ _ _ inside, BitVec.getLsbD_shiftLeft]
  by_cases h : k ≤ i
  · simp [inside, h, not_lt.mpr h]
  · simp [h, not_le.mp h]

section
variable {s : BitVec 32} {info next : SeqVerifyInfo} {b : Bounds} {accepted : List Nat}
  {r : BitVec 32}

section

variable (h : Tracks s info b accepted)
include h

lemma Tracks.span_eq : span info = b.hi - b.lo := by
  obtain ⟨ordered, bounded⟩ := h.fits
  have wrapped : info.maxSeq = info.minSeq + BitVec.ofNat 32 (b.hi - b.lo) := by
    rw [h.maxSeq, h.minSeq, ← seqNumber_add, Nat.add_sub_cancel' ordered]
  unfold span
  bv_omega

lemma Tracks.narrow : span info ≤ 60 := by
  have width := h.span_eq
  have bounded := h.fits.bounded
  omega

/-- The unwrapped number the receiver takes `r` for. -/
lemma Tracks.recv_eq (r) : r = seqNumber s (b.lo + dist info r) := by
  rw [seqNumber_add, ← h.minSeq, dist, BitVec.ofNat_toNat, BitVec.setWidth_eq,
    BitVec.add_comm, BitVec.sub_add_cancel]

lemma Tracks.recv_succ (r) : r + 1#32 = seqNumber s (b.lo + dist info r + 1) := by
  rw [seqNumber_add, ← h.recv_eq r]

lemma Tracks.below_concat (m : Nat) : ∀ n, n < b.lo → n ∈ accepted ++ [m] :=
  fun n low => mem_append_left _ (h.below n low)

lemma Tracks.below_advance : ∀ n, n < b.lo + 1 → n ∈ accepted ++ [b.lo] := by
  intro n low
  by_cases old : n < b.lo
  · exact h.below_concat b.lo n old
  · simp [show n = b.lo by omega]

lemma Tracks.above_concat {m hi} (grows : b.hi ≤ hi)
    (inside : m < hi) : ∀ n, n ∈ accepted ++ [m] → n < hi := by
  intro n mem
  cases mem_append.mp mem with
  | inl old => exact lt_of_lt_of_le (h.above n old) grows
  | inr new => exact mem_singleton.mp new ▸ inside

/-- Shifting the bitmap keeps what it says about the old window, and says of the
numbers above it that they are missing. -/
lemma Tracks.shifted_bit {n d} (low : b.lo ≤ n)
    (beyond : b.hi ≤ b.lo + d) : (decide (d + 1 - (b.hi - b.lo) ≤ b.lo + d + 1 - n) &&
      info.recvBitmap.getLsbD (b.lo + d + 1 - n - (d + 1 - (b.hi - b.lo)))) ↔ n ∈ accepted := by
  have ordered := h.fits.ordered
  by_cases old : n < b.hi
  · rw [show b.lo + d + 1 - n - (d + 1 - (b.hi - b.lo)) = b.hi - n by omega, ← h.bits n low old]
    simp only [Bool.and_eq_true, decide_eq_true_eq, and_iff_right_iff_imp]
    omega
  · have fresh : n ∉ accepted := fun mem => old (h.above n mem)
    by_cases atHi : n = b.hi
    · rw [show b.lo + d + 1 - n - (d + 1 - (b.hi - b.lo)) = 0 by omega, h.bitZero]
      simpa using fresh
    · simp [show ¬ d + 1 - (b.hi - b.lo) ≤ b.lo + d + 1 - n by omega, fresh]

lemma Tracks.pass (hp : isPassSeqCheck info r = .pass next) :
    ∃ c, Accept 60 b (b.lo + dist info r) c ∧
      Tracks s next c (accepted ++ [b.lo + dist info r]) := by
  have width := h.span_eq
  obtain ⟨ordered, bounded⟩ := h.fits
  have succ := h.recv_succ r
  cases windowPass_of_pass h.narrow hp with
  | slide atMin empty =>
    rw [atMin, add_zero] at succ ⊢
    refine ⟨⟨b.lo + 1, b.lo + 1⟩, .slide (by omega), succ, succ, ⟨le_refl _, by simp⟩,
      h.below_advance, h.above_concat (by simp only; omega) (by simp only; omega), ?_, h.bitZero⟩
    intro n low high
    simp only at low high
    omega
  | advance atMin open_ =>
    rw [atMin, add_zero] at succ ⊢
    refine ⟨⟨b.lo + 1, b.hi⟩, .advance (by omega), succ, h.maxSeq,
      ⟨by simp only; omega, by simp only; omega⟩, h.below_advance,
      h.above_concat (le_refl _) (by simp only; omega), ?_, h.bitZero⟩
    intro n low high
    simp only at low high
    rw [h.bits n (by omega) high, mem_append, mem_singleton]
    exact ⟨.inl, fun mem => mem.resolve_right (by omega)⟩
  | fill nonzero inside _ =>
    refine ⟨b, .fill (by omega) (by omega), h.minSeq, h.maxSeq, h.fits, h.below_concat _,
      h.above_concat (le_refl _) (by omega), ?_, ?_⟩
    · intro n low high
      rw [getLsbD_setBit _ _ _ (by omega), Bool.or_eq_true, decide_eq_true_eq,
        h.bits n low high, mem_append, mem_singleton]
      exact or_congr_right (by omega)
    · rw [getLsbD_setBit _ _ _ (by omega), h.bitZero]
      simp only [Bool.false_or, decide_eq_false_iff_not]
      omega
  | extend nonzero beyond near =>
    refine ⟨⟨b.lo, b.lo + dist info r + 1⟩, .extend (by omega) (by omega) (by omega),
      h.minSeq, succ, ⟨by simp only; omega, by simp only; omega⟩, h.below_concat _,
      h.above_concat (by simp only; omega) (by simp only; omega), ?_, ?_⟩
    · intro n low high
      simp only at low high
      rw [getLsbD_shift_setBit _ _ _ (by simp only; omega), Bool.or_eq_true, width,
        h.shifted_bit low (by omega), decide_eq_true_eq, mem_append, mem_singleton]
      exact or_congr_right (by simp only; omega)
    · rw [getLsbD_shift_setBit _ _ _ (by omega)]
      simp only [show ¬ dist info r + 1 - span info ≤ 0 by omega, decide_false, Bool.false_and,
        Bool.false_or, decide_eq_false_iff_not]
      omega

end

/-- The number is the lower bound of a nonempty window and has already arrived; the
check accepts it without consulting the bitmap. -/
def MinReceived (info : SeqVerifyInfo) (r : BitVec 32) : Prop :=
  dist info r = 0 ∧ span info ≠ 0 ∧ info.recvBitmap.getLsbD (span info)
deriving Decidable

/-- The number has already arrived, but its bit is lost when the test result is
stored in an `int32_t`. -/
def HiddenRepeat (info : SeqVerifyInfo) (r : BitVec 32) : Prop :=
  dist info r ≠ 0 ∧ dist info r < span info ∧ 32 ≤ span info - dist info r ∧
    info.recvBitmap.getLsbD (span info - dist info r)
deriving Decidable

def ReplayGuard (info : SeqVerifyInfo) (r : BitVec 32) : Prop :=
  ¬ Forged info r ∧ ¬ MinReceived info r ∧ ¬ HiddenRepeat info r
deriving Decidable

lemma Tracks.fresh (h : Tracks s info b accepted) (guard : ReplayGuard info r)
    (hp : isPassSeqCheck info r = .pass next) : b.lo + dist info r ∉ accepted := by
  have width := h.span_eq
  obtain ⟨ordered, bounded⟩ := h.fits
  have inWindow (inside : dist info r < span info)
      (clear : info.recvBitmap.getLsbD (span info - dist info r) ≠ true) :
      b.lo + dist info r ∉ accepted := by
    rw [← h.bits _ (le_add_right _ _) (by omega)]
    rwa [show b.hi - (b.lo + dist info r) = span info - dist info r by omega]
  cases windowPass_of_pass h.narrow hp with
  | slide atMin empty | extend nonzero beyond near =>
    exact fun mem => by have := h.above _ mem; omega
  | advance atMin open_ =>
    apply inWindow (by omega)
    rw [atMin, Nat.sub_zero]
    exact fun set => guard.2.1 ⟨atMin, open_, set⟩
  | fill nonzero inside clear =>
    apply inWindow inside
    intro set
    by_cases low : span info - dist info r < 32
    · simp [getLsbD_of_truncated_test low clear] at set
    · exact guard.2.2 ⟨nonzero, inside, by omega, set⟩

lemma Tracks.run {last seqs out}
    (h : Tracks s info b accepted) (hr : run seqStep info seqs = some (last, out)) :
    ∃ c ns, Accepts 60 b ns c ∧ out = ns.map (seqNumber s) ∧ Tracks s last c (accepted ++ ns) := by
  induction seqs generalizing info b accepted out with
  | nil =>
    cases hr
    exact ⟨b, [], .nil b, rfl, by simpa using h⟩
  | cons r seqs ih =>
    obtain ⟨mid, out₁, out₂, hStep, hRest, rfl⟩ := run_cons_eq_some.mp hr
    cases seqStep_cases hStep with
    | inl passed =>
      obtain ⟨hp, rfl⟩ := passed
      obtain ⟨c, accept, tracks⟩ := h.pass hp
      obtain ⟨d, ns, accepts, rfl, tracks'⟩ := ih tracks hRest
      refine ⟨d, (b.lo + dist info r) :: ns, .cons accept accepts, ?_, by simpa using tracks'⟩
      rw [map_cons, ← h.recv_eq r, singleton_append]
    | inr rejected =>
      obtain ⟨rfl, rfl⟩ := rejected
      exact ih h hRest

end

/-- No number is accepted a second time unless at least 2^31 distinct numbers have
been accepted in between. -/
def NoReplay (seqs : List (BitVec 32)) : Prop :=
  ∀ pre r mid post, seqs = pre ++ r :: (mid ++ r :: post) → ∀ before out first second between after,
      run seqStep (seqInit s) pre = some (before, out) → isPassSeqCheck before r = .pass first →
      run seqStep first mid = some (second, between) → isPassSeqCheck second r = .pass after →
      2 ^ 31 ≤ between.toFinset.card

lemma card_of_covered {s : BitVec 32} {m : Nat} {ns : List Nat}
    (covered : ∀ k, m < k → k ≤ m + (2 ^ 32 - 60) → k ∈ ns) :
    2 ^ 32 - 60 ≤ (ns.map (seqNumber s)).toFinset.card := by
  have injective : Set.InjOn (seqNumber s) (Finset.Ioc m (m + (2 ^ 32 - 60))) := by
    intro x hx y hy same
    rw [Finset.coe_Ioc, Set.mem_Ioc] at hx hy
    exact Nat.ModEq.eq_of_abs_lt ((seqNumber_eq_iff s x y).mp same) (by rw [abs_lt]; omega)
  have inside : (Finset.Ioc m (m + (2 ^ 32 - 60))).image (seqNumber s) ⊆
      (ns.map (seqNumber s)).toFinset := by
    intro x hx
    obtain ⟨k, hk, rfl⟩ := Finset.mem_image.mp hx
    rw [Finset.mem_Ioc] at hk
    rw [mem_toFinset]
    exact mem_map_of_mem (covered k hk.1 hk.2)
  calc 2 ^ 32 - 60 = ((Finset.Ioc m (m + (2 ^ 32 - 60))).image (seqNumber s)).card := by
        rw [Finset.card_image_of_injOn injective, Nat.card_Ioc, Nat.add_sub_cancel_left]
    _ ≤ _ := Finset.card_le_card inside

/-- A run that avoids the three wrong branches accepts no replay: a second acceptance is of an
unwrapped number a whole cycle above. -/
theorem noReplay_of_guarded (s : BitVec 32) (seqs : List (BitVec 32))
    (guarded : AllSteps seqStep ReplayGuard (seqInit s) seqs) : NoReplay s seqs := by
  intro pre r mid post hSeqs before out first second between after hPre hFirst hMid hSecond
  subst hSeqs
  have guardMid := (guarded.after hPre).tail (seqStep_of_pass hFirst)
  obtain ⟨b, ns, accepts, _, tracks⟩ := (tracks_init s).run hPre
  obtain ⟨c, accept, tracksFirst⟩ := tracks.pass hFirst
  obtain ⟨d, ks, accepts', rfl, tracksMid⟩ := tracksFirst.run hMid
  obtain ⟨e, accept', _⟩ := tracksMid.pass hSecond
  have fresh := tracksMid.fresh (guardMid.after hMid).head hSecond
  have fitsStart : Bounds.Fits 60 ⟨0, 0⟩ := ⟨le_refl _, zero_le _⟩
  have covered := Accepts.separation (accepts.fits fitsStart) (by decide) (by decide) accept
    accepts' accept'
    ((seqNumber_eq_iff s _ _).mp ((tracks.recv_eq r).symm.trans (tracksMid.recv_eq r)))
    (fun same => fresh (by simp [← same]))
  exact le_trans (by decide) (card_of_covered covered)

/-- The number 2, received a second time, is refused. -/
theorem noReplay_disordered_start : NoReplay 0#32 [1#32, 0#32, 2#32, 2#32] := by
  have first : seqStep (seqInit 0#32) 1#32 = some (⟨2#32, 0#32, 2#64⟩, [1#32]) := by decide
  have second : seqStep ⟨2#32, 0#32, 2#64⟩ 0#32 = some (⟨2#32, 1#32, 2#64⟩, [0#32]) := by decide
  have third : seqStep ⟨2#32, 1#32, 2#64⟩ 2#32 = some (⟨3#32, 1#32, 6#64⟩, [2#32]) := by decide
  have fourth : seqStep ⟨3#32, 1#32, 6#64⟩ 2#32 = some (⟨3#32, 1#32, 6#64⟩, []) := by decide
  exact noReplay_of_guarded _ _ (.cons (by decide) first (.cons (by decide) second
    (.cons (by decide) third (.cons (by decide) fourth (allSteps_nil _ _)))))

/-- The number 1, received ahead of 0, is accepted again once 0 has arrived: it is
then the lower bound. -/
theorem replay_of_lower_bound : ¬ NoReplay 0#32 [1#32, 0#32, 1#32] := by
  intro h
  have many := h [] 1#32 [0#32] [] rfl (seqInit 0#32) [] ⟨2#32, 0#32, 2#64⟩ ⟨2#32, 1#32, 2#64⟩
    [0#32] ⟨2#32, 2#32, 2#64⟩ rfl (by decide) (by decide) (by decide)
  exact absurd many (by decide)

section
variable {s : BitVec 32} {info next : SeqVerifyInfo} {b : Bounds} {order : List Nat} {x : Nat}

/-- Numbers are delivered at most once, each less than 60 above the smallest number
not delivered before it. -/
def Admissible (order : List Nat) : Prop :=
  ∀ pre x post, order = pre ++ x :: post →
    x ∉ pre ∧ ∀ m, m ∉ pre → (∀ k, k < m → k ∈ pre) → x < m + 60

def Early (order : List Nat) (x : Nat) : Prop :=
  ∃ pre post, order = pre ++ x :: post ∧ ∃ y, y < x ∧ y ∉ pre

def AllAccepted (s : BitVec 32) (order : List Nat) : Prop :=
  ∀ pre x post, order = pre ++ x :: post →
    ∃ info out next, run seqStep (seqInit s) (pre.map (seqNumber s)) = some (info, out) ∧
      isPassSeqCheck info (seqNumber s x) = .pass next

private lemma concat_eq_append_cons {order pre post} {x y : Nat}
    (split : order ++ [x] = pre ++ y :: post) :
    order = pre ∧ x = y ∨ ∃ rest, order = pre ++ y :: rest := by
  cases post using reverseRecOn with
  | nil =>
    obtain ⟨same, last⟩ := append_inj' split rfl
    exact .inl ⟨same, head_eq_of_cons_eq last⟩
  | append_singleton post z =>
    rw [← cons_append, ← append_assoc] at split
    exact .inr ⟨post, (append_inj' split rfl).1⟩

lemma admissible_concat {order} {x : Nat} (admissible : Admissible order)
    (new : x ∉ order) (close : ∀ m, m ∉ order → x < m + 60) : Admissible (order ++ [x]) := by
  intro pre y post split
  cases concat_eq_append_cons split with
  | inl last =>
    obtain ⟨rfl, rfl⟩ := last
    exact ⟨new, fun m gap _ => close m gap⟩
  | inr earlier =>
    obtain ⟨rest, before⟩ := earlier
    exact admissible pre y rest before

lemma early_concat (order n x) :
    Early (order ++ [x]) n ↔ Early order n ∨ n = x ∧ ∃ y, y < x ∧ y ∉ order := by
  constructor
  · intro h
    obtain ⟨pre, post, split, gap⟩ := h
    cases concat_eq_append_cons split with
    | inl last =>
      obtain ⟨rfl, rfl⟩ := last
      exact .inr ⟨rfl, gap⟩
    | inr earlier =>
      obtain ⟨rest, before⟩ := earlier
      exact .inl ⟨pre, rest, before, gap⟩
  · intro h
    cases h with
    | inl old =>
      obtain ⟨pre, post, rfl, gap⟩ := old
      exact ⟨pre, post ++ [x], by simp, gap⟩
    | inr new =>
      obtain ⟨rfl, gap⟩ := new
      exact ⟨order, [], rfl, gap⟩

/-- After an order that was accepted as a whole the lower bound is the first number that
arrived early. -/
structure Delivered (s : BitVec 32) (order : List Nat) (info : SeqVerifyInfo) (b : Bounds) :
    Prop where
  tracks : Tracks s info b order
  stuck : b.lo ∈ order → Early order b.lo
  inOrder : ∀ n, n < b.lo → ¬ Early order n

section

variable (h : Delivered s order info b)
include h

lemma Delivered.lo_le (new : x ∉ order) : b.lo ≤ x := by
  by_contra below
  exact new (h.tracks.below x (by omega))

lemma Delivered.dist_eq (new : x ∉ order)
    (near : x < b.lo + 2 ^ 32) : dist info (seqNumber s x) = x - b.lo := by
  have low := h.lo_le new
  have split : seqNumber s x = info.minSeq + BitVec.ofNat 32 (x - b.lo) := by
    rw [h.tracks.minSeq, ← seqNumber_add, Nat.add_sub_cancel' low]
  unfold dist
  bv_omega

lemma Delivered.pass_iff (new : x ∉ order) (near : x < b.lo + 2 ^ 32) :
    (∃ next, isPassSeqCheck info (seqNumber s x) = .pass next) ↔ x < b.lo + 60 := by
  have low := h.lo_le new
  have distance := h.dist_eq new near
  have width := h.tracks.span_eq
  have narrow := h.tracks.narrow
  have ordered := h.tracks.fits.ordered
  constructor
  · intro passed
    obtain ⟨next, hp⟩ := passed
    have := (windowPass_of_pass narrow hp).dist_lt narrow
    omega
  · intro close
    rw [isPassSeqCheck_eq_windowCheck narrow, windowCheck]
    split
    · split
      · exact ⟨_, rfl⟩
      · exact ⟨_, rfl⟩
    · split
      next inside =>
        have clear : info.recvBitmap.getLsbD (b.hi - x) ≠ true := by
          rw [Ne, h.tracks.bits x low (by omega)]
          exact new
        have masked : info.recvBitmap &&& (1#64 <<< (span info - dist info (seqNumber s x))) =
            0#64 := by
          rw [show span info - dist info (seqNumber s x) = b.hi - x by omega]
          exact and_setBit_eq_zero (by simpa using clear)
        rw [isPassDuplicateCheck_inside narrow inside, masked]
        exact ⟨_, by simp; rfl⟩
      · exact ⟨_, by rw [if_pos (by omega)]⟩

lemma Delivered.deliver (new : x ∉ order)
    (near : x < b.lo + 2 ^ 32) (hp : isPassSeqCheck info (seqNumber s x) = .pass next) :
    ∃ c, Delivered s (order ++ [x]) next c := by
  have low := h.lo_le new
  obtain ⟨c, accept, tracks⟩ := h.tracks.pass hp
  rw [h.dist_eq new near, Nat.add_sub_cancel' low] at accept tracks
  refine ⟨c, tracks, ?_, ?_⟩
  · intro mem
    rw [early_concat]
    cases accept.lo_cases with
    | inl same =>
      obtain ⟨above, same⟩ := same
      rw [same] at mem ⊢
      cases mem_append.mp mem with
      | inl old => exact .inl (h.stuck old)
      | inr last => have := mem_singleton.mp last; omega
    | inr moved =>
      obtain ⟨atLo, moved⟩ := moved
      have old : c.lo ∈ order := by
        cases mem_append.mp mem with
        | inl old => exact old
        | inr last => have := mem_singleton.mp last; omega
      obtain ⟨pre, post, split⟩ := append_of_mem old
      refine .inl ⟨pre, post, split, x, by omega, ?_⟩
      intro inPre
      exact new (by rw [split]; exact mem_append_left _ inPre)
  · intro n below early
    have moved := accept.lo_cases
    cases (early_concat order n x).mp early with
    | inl old =>
      by_cases passed : n < b.lo
      · exact h.inOrder n passed old
      · obtain ⟨pre, post, split, _⟩ := old
        exact new (by rw [split, show x = n by omega]; simp)
    | inr last =>
      obtain ⟨rfl, y, smaller, gap⟩ := last
      exact gap (h.tracks.below y (by omega))

/-- The next number of an admissible order is too close to the lower bound for the
counters to wrap in between. -/
lemma Delivered.near
    (close : ∀ m, m ∉ order → (∀ k, k < m → k ∈ order) → x < m + 60) : x < b.lo + 2 ^ 32 := by
  have outside : b.hi ∉ order := by
    intro mem
    exact lt_irrefl _ (h.tracks.above b.hi mem)
  have gap : ∃ m, m ∉ order := ⟨b.hi, outside⟩
  have first : Nat.find gap ≤ b.hi := Nat.find_min' gap outside
  have bound := close (Nat.find gap) (Nat.find_spec gap)
    (fun k below => not_not.mp (Nat.find_min gap below))
  have bounded := h.tracks.fits.bounded
  omega

end

/-- A part of an admissible order is delivered if each of its numbers is accepted in the state
before it. -/
lemma delivered_front (s front back) (admissible : Admissible (front ++ back))
    (accepted : ∀ pre x post, front = pre ++ x :: post → ∀ info b out,
      run seqStep (seqInit s) (pre.map (seqNumber s)) = some (info, out) →
      Delivered s pre info b → ∃ next, isPassSeqCheck info (seqNumber s x) = .pass next) :
    ∃ info b out, run seqStep (seqInit s) (front.map (seqNumber s)) = some (info, out) ∧
      Delivered s front info b := by
  induction front using reverseRecOn generalizing back with
  | nil => exact ⟨seqInit s, ⟨0, 0⟩, [], rfl, tracks_init s, by simp, by simp⟩
  | append_singleton front x ih =>
    rw [append_assoc] at admissible
    obtain ⟨info, b, out, hRun, h⟩ := ih ([x] ++ back) admissible (by
      intro pre y post split
      exact accepted pre y (post ++ [x]) (by simp [split]))
    obtain ⟨new, close⟩ := admissible front x back rfl
    obtain ⟨next, hp⟩ := accepted front x [] rfl info b out hRun h
    obtain ⟨c, h'⟩ := h.deliver new (h.near close) hp
    refine ⟨next, c, out ++ [seqNumber s x], ?_, h'⟩
    rw [map_append, map_singleton]
    exact run_concat_eq_some.mpr ⟨info, out, [seqNumber s x], hRun, seqStep_of_pass hp, rfl⟩

/-- Every delivered number is less than 60 above each number that arrived early. -/
def NearEarly (order : List Nat) : Prop := ∀ x, Early order x → ∀ r ∈ order, r < x + 60

lemma Delivered.pass_of_nearEarly (h : Delivered s order info b) {post}
    (admissible : Admissible (order ++ x :: post)) (near : NearEarly (order ++ x :: post)) :
    ∃ next, isPassSeqCheck info (seqNumber s x) = .pass next := by
  obtain ⟨new, close⟩ := admissible order x post rfl
  apply (h.pass_iff new (h.near close)).mpr
  by_cases received : b.lo ∈ order
  · obtain ⟨pre, rest, split, gap⟩ := h.stuck received
    exact near b.lo ⟨pre, rest ++ x :: post, by rw [split]; simp, gap⟩ x (by simp)
  · exact close b.lo received h.tracks.below

/-- The lower bound stays at the first number that arrived early, so exactly the orders that
stay within 60 of it are accepted. -/
theorem allAccepted_iff_nearEarly (s : BitVec 32) (order : List Nat)
    (admissible : Admissible order) : AllAccepted s order ↔ NearEarly order := by
  constructor
  · intro accepted x early r mem
    obtain ⟨info, b, out, _, h⟩ := delivered_front s order [] (by simpa using admissible) (by
      intro pre y post split info b out hRun _
      obtain ⟨info', out', next, hRun', hp⟩ := accepted pre y post split
      rw [hRun] at hRun'
      cases hRun'
      exact ⟨next, hp⟩)
    have low : b.lo ≤ x := by
      by_contra below
      exact h.inOrder x (by omega) early
    have high := h.tracks.above r mem
    have bounded := h.tracks.fits.bounded
    omega
  · intro near pre x post split
    subst split
    obtain ⟨info, b, out, hRun, h⟩ := delivered_front s pre (x :: post) admissible (by
      intro front y rest split info b out _ h
      rw [split, append_assoc, cons_append] at admissible near
      exact h.pass_of_nearEarly admissible near)
    obtain ⟨next, hp⟩ := h.pass_of_nearEarly admissible near
    exact ⟨info, out, next, hRun, hp⟩

private lemma admissible_one_zero : Admissible ([] ++ [1] ++ [0]) :=
  admissible_concat (admissible_concat (by simp [Admissible]) (by decide) (by omega)) (by decide)
    (by omega)

/-- The disordered start next to the wrap from the greatest to the least number. -/
theorem allAccepted_disordered_start :
    Admissible [1, 0, 2] ∧ (AllAccepted 0x7FFFFFFF#32 [1, 0, 2] ↔ NearEarly [1, 0, 2]) := by
  have admissible : Admissible [1, 0, 2] :=
    admissible_concat admissible_one_zero (by decide) (by omega)
  exact ⟨admissible, allAccepted_iff_nearEarly 0x7FFFFFFF#32 [1, 0, 2] admissible⟩

/-- With 1 received ahead of 0, the number 61 is less than 60 above 2, the smallest
missing one, and still refused. -/
theorem refused_after_early_arrival : Admissible [1, 0, 61] ∧ ¬ AllAccepted 0#32 [1, 0, 61] := by
  refine ⟨admissible_concat admissible_one_zero (by decide) ?_, ?_⟩
  · intro m missing
    simp only [nil_append, cons_append, mem_cons, not_mem_nil] at missing
    omega
  · intro accepted
    obtain ⟨info, out, next, hRun, hp⟩ := accepted [1, 0] 61 [] rfl
    have reached : run seqStep (seqInit 0#32) ([1, 0].map (seqNumber 0#32)) =
        some (⟨2#32, 1#32, 2#64⟩, [1#32, 0#32]) := by decide
    rw [reached] at hRun
    cases hRun
    have refused : isPassSeqCheck ⟨2#32, 1#32, 2#64⟩ (seqNumber 0#32 61) = .reject := by decide
    simp [refused] at hp

end
end DSoftBus.SequenceVerification
