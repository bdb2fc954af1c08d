import DSoftBus.Lib.Execution
import Mathlib.Data.BitVec

/-!
Ids that are the sum of a type prefix and a signed counter of 16 bits. A scan of the ids in
use moves the counter on at every hit but does not compute its candidate again. Whatever ids
are in use, those given out are fresh and of their type exactly until the counter gets negative.
-/
namespace IdCounter
open Execution List

variable (type : BitVec 32)

def candidate (next : BitVec 16) : BitVec 32 := type <<< 16 + next.signExtend 32

/-- The counter after the scan. -/
def scan (candidate : BitVec 32) : BitVec 16 → List (BitVec 32) → BitVec 16
  | next, [] => next
  | next, id :: rest => scan candidate (if id = candidate then next + 1 else next) rest

lemma scan_of_not_mem {id ids} (free : id ∉ ids) (next) : scan id next ids = next := by
  induction ids with
  | nil => rfl
  | cons other rest ih =>
    rw [mem_cons, not_or] at free
    rw [scan, if_neg (Ne.symm free.1), ih free.2]

variable {type}

lemma candidate_ofNat {k} (small : k < 2 ^ 15) :
    candidate type (BitVec.ofNat 16 k) = BitVec.ofNat 32 (type.toNat * 2 ^ 16 + k) := by
  have positive : (BitVec.ofNat 16 k).msb = false := by
    rw [BitVec.msb_eq_false_iff_two_mul_lt, BitVec.toNat_ofNat]
    omega
  apply BitVec.eq_of_toNat_eq
  rw [candidate, BitVec.signExtend_eq_setWidth_of_msb_false positive]
  simp [Nat.shiftLeft_eq]
  omega

lemma candidate_type (wide : type.toNat < 2 ^ 15) {k} (small : k < 2 ^ 15) :
    candidate type (BitVec.ofNat 16 k) >>> 16 = type := by
  apply BitVec.eq_of_toNat_eq
  rw [candidate_ofNat small]
  simp [Nat.shiftRight_eq_div_pow]
  omega

lemma candidate_injective {j k} (smallJ : j < 2 ^ 15) (smallK : k < 2 ^ 15)
    (same : candidate type (BitVec.ofNat 16 j) = candidate type (BitVec.ofNat 16 k)) : j = k := by
  rw [candidate_ofNat smallJ, candidate_ofNat smallK] at same
  have values := congrArg BitVec.toNat same
  simp only [BitVec.toNat_ofNat] at values
  omega

/-- The first negative value of the counter borrows from the type. -/
lemma candidate_negative : candidate type 0x8000#16 >>> 16 ≠ type := by
  have negative : (0x8000#16).signExtend 32 = 0xffff8000#32 := by decide
  rw [candidate, negative]
  bv_omega

variable (type) {σ ι : Type*} (next : σ → BitVec 16) (ids : σ → List (BitVec 32))

/-- A step gives out one id or none. -/
inductive Allocates (s t : σ) : List (BitVec 32) → Prop
  | one (id : BitVec 32) : id = candidate type (next s + 1) →
      next t = scan id (next s + 1) (ids s) → ids t ⊆ id :: ids s → Allocates s t [id]
  | none : next t = next s → ids t ⊆ ids s → Allocates s t []

def Fresh (s : σ) (_ : ι) (_ : σ) (out : List (BitVec 32)) : Prop :=
  ∀ id ∈ out, id ∉ ids s ∧ id >>> 16 = type

/-- After `n` allocations the counter is at `n`, and the ids in use are among those of its
values so far. -/
structure Counted (n : Nat) (s : σ) : Prop where
  next : next s = BitVec.ofNat 16 n
  ids : ∀ id ∈ ids s, ∃ k ≤ n, id = candidate type (BitVec.ofNat 16 k)

variable {type next ids} {step : σ → ι → Option (σ × List (BitVec 32))} {n : Nat} {s t : σ}
  {out : List (BitVec 32)}

namespace Counted
variable (counted : Counted type next ids n s)
include counted

lemma next_value : next s + 1 = BitVec.ofNat 16 (n + 1) := by
  rw [counted.next, BitVec.ofNat_add]
  rfl

lemma candidate_free (small : n + 1 < 2 ^ 15) : candidate type (next s + 1) ∉ ids s := by
  rw [counted.next_value]
  intro mem
  obtain ⟨k, atMost, isK⟩ := counted.ids _ mem
  have := candidate_injective small (by omega) isK
  omega

lemma given (wide : type.toNat < 2 ^ 15) (small : n + out.length < 2 ^ 15)
    (allocates : Allocates type next ids s t out) :
    Counted type next ids (n + out.length) t ∧ Fresh type ids s () s out := by
  cases allocates with
  | none same sub =>
    exact ⟨⟨same.trans counted.next, fun id mem => counted.ids id (sub mem)⟩, by simp [Fresh]⟩
  | one id isId same sub =>
    have free := isId ▸ counted.candidate_free small
    have value : id = candidate type (BitVec.ofNat 16 (n + 1)) := counted.next_value ▸ isId
    refine ⟨⟨?_, fun old mem => ?_⟩, fun new mem => ?_⟩
    · rw [same, scan_of_not_mem free, counted.next_value]
      rfl
    · rcases mem_cons.mp (sub mem) with rfl | inRest
      · exact ⟨n + 1, le_rfl, value⟩
      · obtain ⟨k, atMost, isK⟩ := counted.ids old inRest
        exact ⟨k, Nat.le_succ_of_le atMost, isK⟩
    · rw [mem_singleton.mp mem]
      exact ⟨free, value ▸ candidate_type wide small⟩

lemma fresh_iff {P : σ → ι → Prop} (wide : type.toNat < 2 ^ 15)
    (one : ∀ s i t out, P s i → step s i = some (t, out) → Allocates type next ids s t out)
    (small : n < 2 ^ 15) {inputs} (guarded : AllSteps step P s inputs)
    (ran : run step s inputs = some (t, out)) :
    AllResults step (Fresh type ids) s inputs ↔ n + out.length < 2 ^ 15 := by
  induction inputs generalizing n s out with
  | nil =>
    cases ran
    exact iff_of_true (fun pre i post split => by simp at split) small
  | cons i rest ih =>
    obtain ⟨u, first, later, done, ran', rfl⟩ := run_cons_eq_some.mp ran
    have single (R : σ → ι → σ → List (BitVec 32) → Prop) : AllResults step R s (i :: rest) ↔
        R s i u first ∧ AllResults step R u rest := by
      rw [allResults_cons, done]
      simp
    rw [single, length_append, ← add_assoc]
    have allocates := one _ _ _ _ guarded.head done
    by_cases last : n + first.length < 2 ^ 15
    · obtain ⟨counted', fresh⟩ := counted.given wide last allocates
      rw [ih counted' last (guarded.tail done) ran']
      exact and_iff_right fresh
    · refine iff_of_false (fun all => ?_) (by omega)
      cases allocates with
      | none => exact last small
      | one id isId =>
        have atLimit : n + 1 = 0x8000 := by
          rw [length_singleton] at last
          omega
        have kept := (all.1 id (mem_singleton_self id)).2
        rw [isId, counted.next_value, atLimit] at kept
        exact candidate_negative kept

end Counted

end IdCounter
