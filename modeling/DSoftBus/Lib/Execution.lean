import Mathlib.Algebra.Order.Ring.Nat
import Mathlib.Data.List.Basic

/-!
Executions of a partial step function that also emits outputs. A step without a result
stands for an input on which the modelled code has no defined behaviour, and an execution
that meets one has no result either. The rules lift one-step facts to whole runs.
-/
namespace Execution
open List
universe u v w
variable {σ : Type u} {ι : Type v} {ο : Type w} (step : σ → ι → Option (σ × List ο))

/-- Feeds the inputs one after another and concatenates what the steps emit. -/
def run : σ → List ι → Option (σ × List ο)
  | s, [] => some (s, [])
  | s, i :: rest =>
    match step s i with
    | none => none
    | some (t, out) =>
      match run t rest with
      | none => none
      | some (u, outs) => some (u, out ++ outs)

/-- Every step taken along the execution meets the condition `P`, which speaks of
the state before the step and of its input. -/
def AllSteps (P : σ → ι → Prop) (s : σ) (inputs : List ι) : Prop :=
  ∀ pre i post, inputs = pre ++ i :: post → ∀ t outs, run step s pre = some (t, outs) → P t i

/-- Every step taken along the execution meets the condition `R`, which also speaks of the state
after the step and of its outputs. -/
def AllResults (R : σ → ι → σ → List ο → Prop) (s : σ) (inputs : List ι) : Prop :=
  ∀ pre i post, inputs = pre ++ i :: post → ∀ t outs, run step s pre = some (t, outs) →
    ∀ u out, step t i = some (u, out) → R t i u out

/-- Every state along the execution, the first and the last included, meets `P`. -/
def AllStates (P : σ → Prop) (s : σ) (inputs : List ι) : Prop :=
  ∀ pre post, inputs = pre ++ post → ∀ t outs, run step s pre = some (t, outs) → P t

/-- Every output of the trace meets `G`, which also speaks of the outputs before it. -/
def Justified (G : List ο → ο → Prop) (trace : List ο) : Prop :=
  ∀ before o after, trace = before ++ o :: after → G before o

lemma justified_nil (G : List ο → ο → Prop) : Justified G [] := by
  intro before o after h
  simp at h

lemma justified_concat {G : List ο → ο → Prop} {trace o} :
    Justified G (trace ++ [o]) ↔ Justified G trace ∧ G trace o := by
  constructor
  · intro h
    refine ⟨fun before p after split => ?_, h trace o [] rfl⟩
    exact h before p (after ++ [o]) (by rw [split, append_assoc, cons_append])
  · rintro ⟨front, last⟩ before p after split
    rcases eq_nil_or_concat after with rfl | ⟨rest, q, rfl⟩
    · obtain ⟨rfl, hLast⟩ := append_inj' split rfl
      cases hLast
      exact last
    · rw [concat_eq_append, ← cons_append, ← append_assoc] at split
      exact front before p rest (append_inj' split rfl).1

def Followed (R : ο → List ο → Prop) (trace : List ο) : Prop :=
  ∀ before o since, trace = before ++ o :: since → R o since

lemma followed_nil (R : ο → List ο → Prop) : Followed R [] := by
  intro before o since h
  simp at h

lemma followed_cons {R : ο → List ο → Prop} {o rest} :
    Followed R (o :: rest) ↔ R o rest ∧ Followed R rest := by
  constructor
  · intro h
    refine ⟨h [] o rest rfl, fun before p since split => h (o :: before) p since ?_⟩
    rw [split, cons_append]
  · rintro ⟨head, tail⟩ before p since split
    cases before with
    | nil =>
      cases split
      exact head
    | cons q before =>
      cases split
      exact tail before p since rfl

lemma followed_concat {R S : ο → List ο → Prop} {trace o}
    (old : Followed R trace) (longer : ∀ p since, R p since → S p (since ++ [o]))
    (last : S o []) : Followed S (trace ++ [o]) := by
  intro before p since split
  rcases eq_nil_or_concat since with rfl | ⟨rest, q, rfl⟩
  · obtain ⟨rfl, hLast⟩ := append_inj' split rfl
    cases hLast
    exact last
  · rw [concat_eq_append, ← cons_append, ← append_assoc] at split
    obtain ⟨hFront, hLast⟩ := append_inj' split rfl
    cases hLast
    rw [concat_eq_append]
    exact longer p rest (old before p rest hFront)

variable {step}

variable {R : σ → ι → σ → List ο → Prop} {rest inputs : List ι} {s : σ} {out outs : List ο} {i : ι}
  {P : σ → ι → Prop}

variable {t : σ} {all : List ο} {back : List ι}

lemma run_unique {u} (h : run step s inputs = some (t, out))
    (h' : run step s inputs = some (u, outs)) : t = u ∧ out = outs := by
  rw [h] at h'
  simpa using h'

lemma run_cons_eq_some {u} : run step s (i :: rest) = some (u, all) ↔
      ∃ t out outs, step s i = some (t, out) ∧ run step t rest = some (u, outs) ∧
        all = out ++ outs := by
  constructor
  · intro h
    unfold run at h
    split at h
    · cases h
    next t out hStep =>
      split at h
      · cases h
      next v outs hRest =>
        cases h
        exact ⟨t, out, outs, hStep, hRest, rfl⟩
  · rintro ⟨t, out, outs, hStep, hRest, rfl⟩
    simp [run, hStep, hRest]

lemma run_append_eq_some {u front} : run step s (front ++ back) = some (u, all) ↔
      ∃ t out outs, run step s front = some (t, out) ∧ run step t back = some (u, outs) ∧
        all = out ++ outs := by
  induction front generalizing s all with
  | nil => simp [run]
  | cons i front ih =>
    rw [cons_append, run_cons_eq_some]
    constructor
    · rintro ⟨t, out, outs, hStep, hRest, rfl⟩
      obtain ⟨v, out', outs', hFront, hBack, rfl⟩ := ih.mp hRest
      exact ⟨v, out ++ out', outs', run_cons_eq_some.mpr ⟨t, out, out', hStep, hFront, rfl⟩,
        hBack, (append_assoc _ _ _).symm⟩
    · rintro ⟨v, out, outs, hFront, hBack, rfl⟩
      obtain ⟨t, out₁, out₂, hStep, hRest, rfl⟩ := run_cons_eq_some.mp hFront
      exact ⟨t, out₁, out₂ ++ outs, hStep, ih.mpr ⟨v, out₂, outs, hRest, hBack, rfl⟩,
        append_assoc _ _ _⟩

lemma run_singleton : run step s [i] = step s i := by
  cases h : step s i <;> simp [run, h]

lemma run_concat_eq_some {u front} : run step s (front ++ [i]) = some (u, all) ↔
      ∃ t out outs, run step s front = some (t, out) ∧ step t i = some (u, outs) ∧
        all = out ++ outs := by
  simp only [run_append_eq_some, run_singleton]

lemma allSteps_nil (P : σ → ι → Prop) (s : σ) : AllSteps step P s [] := by
  intro pre i post h
  simp at h

lemma AllSteps.head (h : AllSteps step P s (i :: rest)) : P s i := h [] i rest rfl s [] rfl

lemma allSteps_cons : AllSteps step P s (i :: rest) ↔
      P s i ∧ ∀ t out, step s i = some (t, out) → AllSteps step P t rest := by
  constructor
  · intro h
    refine ⟨h.head, fun t out hStep pre j post hRest u outs hPre => ?_⟩
    refine h (i :: pre) j post (by rw [hRest, cons_append]) u (out ++ outs) ?_
    exact run_cons_eq_some.mpr ⟨t, out, outs, hStep, hPre, rfl⟩
  · rintro ⟨head, tail⟩ pre j post hSplit u outs hPre
    cases pre with
    | nil =>
      cases hSplit
      cases hPre
      exact head
    | cons k pre =>
      cases hSplit
      obtain ⟨v, out₁, out₂, hFirst, hRest, _⟩ := run_cons_eq_some.mp hPre
      exact tail v out₁ hFirst pre j post rfl u out₂ hRest

lemma allResults_cons : AllResults step R s (i :: rest) ↔
      ∀ t out, step s i = some (t, out) → R s i t out ∧ AllResults step R t rest := by
  have cons := @allSteps_cons σ ι ο step rest s i fun s i =>
    ∀ t out, step s i = some (t, out) → R s i t out
  exact cons.trans ⟨fun h t out hStep => ⟨h.1 t out hStep, h.2 t out hStep⟩, fun h =>
    ⟨fun t out hStep => (h t out hStep).1, fun t out hStep => (h t out hStep).2⟩⟩

lemma allStates_cons {P} : AllStates step P s (i :: rest) ↔
      P s ∧ ∀ t out, step s i = some (t, out) → AllStates step P t rest := by
  constructor
  · intro h
    refine ⟨h [] (i :: rest) rfl s [] rfl, fun t out hStep pre post hRest u outs hPre => ?_⟩
    refine h (i :: pre) post (by rw [hRest, cons_append]) u (out ++ outs) ?_
    exact run_cons_eq_some.mpr ⟨t, out, outs, hStep, hPre, rfl⟩
  · rintro ⟨head, tail⟩ pre post hSplit u outs hPre
    cases pre with
    | nil =>
      cases hPre
      exact head
    | cons k pre =>
      cases hSplit
      obtain ⟨v, out₁, out₂, hFirst, hRest, _⟩ := run_cons_eq_some.mp hPre
      exact tail v out₁ hFirst pre post rfl u out₂ hRest

lemma allStates_nil {P} : AllStates step P s [] ↔ P s := by
  constructor
  · exact fun h => h [] [] rfl s [] rfl
  · rintro start pre post hSplit u outs hPre
    have empty : pre = [] := (append_eq_nil_iff.mp hSplit.symm).1
    subst empty
    cases hPre
    exact start

lemma AllSteps.cons {P s t i rest out}
    (head : P s i) (hStep : step s i = some (t, out)) (tail : AllSteps step P t rest) :
    AllSteps step P s (i :: rest) := by
  refine allSteps_cons.mpr ⟨head, fun u out' hStep' => ?_⟩
  rw [hStep] at hStep'
  cases hStep'
  exact tail

scoped instance decidableResult {result : Option (σ × List ο)} {p : σ → Prop} [DecidablePred p] :
    Decidable (∀ t out, result = some (t, out) → p t) :=
  match result with
  | none => isTrue nofun
  | some (t, out) => decidable_of_iff (p t) (by simp)

instance decidableAllSteps {P : σ → ι → Prop} [∀ s i, Decidable (P s i)] :
    ∀ s inputs, Decidable (AllSteps step P s inputs)
  | s, [] => isTrue (allSteps_nil P s)
  | _, _ :: rest =>
    have (u : σ) : Decidable (AllSteps step P u rest) := decidableAllSteps u rest
    decidable_of_iff _ allSteps_cons.symm

instance decidableAllStates {P : σ → Prop} [∀ s, Decidable (P s)] :
    ∀ s inputs, Decidable (AllStates step P s inputs)
  | s, [] => decidable_of_iff (P s) allStates_nil.symm
  | _, _ :: rest =>
    have (u : σ) : Decidable (AllStates step P u rest) := decidableAllStates u rest
    decidable_of_iff _ allStates_cons.symm

lemma AllSteps.results (guarded : AllSteps step P s inputs)
    (one : ∀ t i u out, P t i → step t i = some (u, out) → R t i u out) :
    AllResults step R s inputs :=
  fun pre i post split t outs hPre u out => one t i u out (guarded pre i post split t outs hPre)

lemma allResults_iff_allSteps {u} (hRun : run step s inputs = some (u, outs))
    (one : ∀ t i v out, step t i = some (v, out) → (R t i v out ↔ P t i)) :
    AllResults step R s inputs ↔ AllSteps step P s inputs := by
  constructor
  · intro results pre i post split t out hPre
    rw [split] at hRun
    obtain ⟨t', out', back, hPre', hBack, -⟩ := run_append_eq_some.mp hRun
    obtain ⟨rfl, -⟩ := run_unique hPre hPre'
    obtain ⟨v, next, _, hStep, -, -⟩ := run_cons_eq_some.mp hBack
    exact (one t i v next hStep).mp (results pre i post split t out hPre v next hStep)
  · intro steps
    exact steps.results fun t i v out ok hStep => (one t i v out hStep).mpr ok

/-- The same for facts that need an invariant, which the steps that meet `P` keep. -/
lemma allResults_iff_allSteps_of_inv {I : σ → Prop}
    (one : ∀ t i v out, I t → step t i = some (v, out) → (R t i v out ↔ P t i))
    (keeps : ∀ t i v out, I t → P t i → step t i = some (v, out) → I v) {u} (init : I s)
    (hRun : run step s inputs = some (u, outs)) :
    AllResults step R s inputs ↔ AllSteps step P s inputs := by
  induction inputs generalizing s outs with
  | nil => exact ⟨fun _ => allSteps_nil P s, fun _ pre i post split => by simp at split⟩
  | cons i rest ih =>
    obtain ⟨t, out, outs', hStep, hRest, -⟩ := run_cons_eq_some.mp hRun
    rw [allResults_cons, allSteps_cons]
    constructor
    · intro results
      obtain ⟨head, tail⟩ := results t out hStep
      have ok := (one s i t out init hStep).mp head
      refine ⟨ok, fun t' out' hStep' => ?_⟩
      obtain ⟨rfl, rfl⟩ : t = t' ∧ out = out' := by simpa using hStep.symm.trans hStep'
      exact (ih (keeps s i t out init ok hStep) hRest).mp tail
    · rintro ⟨ok, tail⟩ t' out' hStep'
      obtain ⟨rfl, rfl⟩ : t = t' ∧ out = out' := by simpa using hStep.symm.trans hStep'
      exact ⟨(one s i t out init hStep).mpr ok,
        (ih (keeps s i t out init ok hStep) hRest).mpr (tail t out hStep)⟩

lemma AllSteps.after {front} (h : AllSteps step P s (front ++ back))
    (hFront : run step s front = some (t, out)) : AllSteps step P t back := by
  intro pre i post hBack u outs hPre
  apply h (front ++ pre) i post (by rw [hBack, append_assoc]) u (out ++ outs)
  exact run_append_eq_some.mpr ⟨t, out, outs, hFront, hPre, rfl⟩

lemma AllSteps.tail (h : AllSteps step P s (i :: rest)) (hStep : step s i = some (t, out)) :
    AllSteps step P t rest := (allSteps_cons.mp h).2 t out hStep

lemma AllSteps.front {front} (h : AllSteps step P s (front ++ back)) : AllSteps step P s front := by
  intro pre i post hFront
  exact h pre i (post ++ back) (by simp [hFront])

/-- The invariant rule: what every guarded step preserves holds after the run. The
invariant may speak of all outputs so far. -/
lemma run_invariant {P : σ → ι → Prop} {Inv : σ → List ο → Prop}
    (preserve : ∀ s past i t out, Inv s past → P s i → step s i = some (t, out) →
      Inv t (past ++ out)) {s t past inputs outs} (init : Inv s past)
    (guarded : AllSteps step P s inputs) (h : run step s inputs = some (t, outs)) :
    Inv t (past ++ outs) := by
  induction inputs generalizing s past outs with
  | nil =>
    cases h
    rwa [append_nil]
  | cons i rest ih =>
    obtain ⟨u, out, outs', hStep, hRest, rfl⟩ := run_cons_eq_some.mp h
    rw [← append_assoc]
    exact ih (preserve s past i u out init guarded.head hStep) (guarded.tail hStep) hRest

lemma run_state_invariant {Inv : σ → Prop}
    (preserve : ∀ s i t out, Inv s → P s i → step s i = some (t, out) → Inv t) (init : Inv s)
    (guarded : AllSteps step P s inputs) (h : run step s inputs = some (t, outs)) : Inv t :=
  @run_invariant σ ι ο step P (fun s _ => Inv s) (fun s _ i t out => preserve s i t out) s t []
    inputs outs init guarded h

lemma AllSteps.results_of_inv {I : σ → Prop}
    (one : ∀ s i t out, I s → P s i → step s i = some (t, out) → I t ∧ R s i t out) (init : I s)
    (guarded : AllSteps step P s inputs) : AllResults step R s inputs := by
  intro pre i post split t outs hPre u out hStep
  have preserve (s : σ) (i : ι) (t : σ) (out inv ok)
      (hStep : step s i = some (t, out)) : I t := (one s i t out inv ok hStep).1
  have front : AllSteps step P s pre := AllSteps.front (split ▸ guarded)
  have inv := run_state_invariant preserve init front hPre
  exact (one t i u out inv (guarded pre i post split t outs hPre) hStep).2

lemma run_defined_past {P : σ → ι → Prop} {Inv : σ → List ο → Prop}
    (defined : ∀ s past i, Inv s past → P s i →
      ∃ t out, step s i = some (t, out) ∧ Inv t (past ++ out)) {s past inputs} (init : Inv s past)
    (guarded : AllSteps step P s inputs) :
    ∃ t outs, run step s inputs = some (t, outs) ∧ Inv t (past ++ outs) := by
  induction inputs generalizing s past with
  | nil => exact ⟨s, [], rfl, by rwa [append_nil]⟩
  | cons i rest ih =>
    obtain ⟨u, out, hStep, hInv⟩ := defined s past i init guarded.head
    obtain ⟨t, outs, hRest, hEnd⟩ := ih hInv (guarded.tail hStep)
    exact ⟨t, out ++ outs, run_cons_eq_some.mpr ⟨u, out, outs, hStep, hRest, rfl⟩,
      by rwa [← append_assoc]⟩

lemma run_defined {P : σ → ι → Prop} {Inv : σ → Prop}
    (defined : ∀ s i, Inv s → P s i → ∃ t out, step s i = some (t, out) ∧ Inv t)
    {s inputs} (init : Inv s) (guarded : AllSteps step P s inputs) :
    ∃ t outs, run step s inputs = some (t, outs) ∧ Inv t := by
  exact @run_defined_past σ ι ο step P (fun s _ => Inv s) (fun s _ i => defined s i) s [] inputs
    init guarded

lemma run_silent (silent : ∀ s i, i ∈ inputs → ∃ t, step s i = some (t, [])) (s : σ) :
    ∃ t, run step s inputs = some (t, []) := by
  induction inputs generalizing s with
  | nil => exact ⟨s, rfl⟩
  | cons i rest ih =>
    obtain ⟨t, hStep⟩ := silent s i mem_cons_self
    obtain ⟨u, hRest⟩ := ih (fun s j mem => silent s j (mem_cons_of_mem i mem)) t
    exact ⟨u, run_cons_eq_some.mpr ⟨t, [], [], hStep, hRest, rfl⟩⟩

/-- The step on inputs that carry a mark, which the machine does not see and its outputs
inherit. -/
def markedStep (step : σ → ι → Option (σ × List ο)) (s : σ) (i : Bool × ι) :
    Option (σ × List (Bool × ο)) :=
  (step s i.2).map fun result => (result.1, result.2.map (Prod.mk i.1))

def marked {α : Type*} (items : List (Bool × α)) : List α :=
  items.filterMap fun item => if item.1 then some item.2 else none

lemma marked_append {α : Type*} (front back : List (Bool × α)) :
    marked (front ++ back) = marked front ++ marked back := filterMap_append

lemma marked_map {α : Type*} (mark : Bool) (items : List α) :
    marked (items.map (Prod.mk mark)) = if mark then items else [] := by
  cases mark <;> simp [marked, filterMap_map]

lemma markedStep_eq_some (mark) (h : step s i = some (t, out)) :
    markedStep step s (mark, i) = some (t, out.map (Prod.mk mark)) := by
  simp [markedStep, h]

/-- The interleaving rule. The marked inputs are `own`, of which `k` have been consumed; the
others keep `R k` while their cost stays below the budget. Then the marked inputs cause exactly
the expected outputs. -/
lemma run_interleaved {own : List ι} {expected : Nat → List ο} {cost : ι → Nat} {budget : Nat}
    {R : Nat → Nat → σ → Prop} {Other : σ → ι → Prop}
    (other : ∀ k c s i, c + cost i < budget → R k c s → Other s i →
      ∃ t out, step s i = some (t, out) ∧ R k (c + cost i) t)
    (mine : ∀ k c s i, own[k]? = some i → R k c s →
      ∃ t out, step s i = some (t, out) ∧ R (k + 1) c t ∧ expected k = out ++ expected (k + 1))
    (done : expected own.length = []) {inputs : List (Bool × ι)} {k c : Nat} (related : R k c s)
    (mineLeft : marked inputs = own.drop k) (started : k ≤ own.length)
    (cheap : c + (inputs.map fun i => if i.1 then 0 else cost i.2).sum < budget)
    (others : AllSteps (markedStep step) (fun s i => i.1 = false → Other s i.2) s inputs) :
    ∃ t outs, run (markedStep step) s inputs = some (t, outs) ∧ marked outs = expected k := by
  induction inputs generalizing s k c with
  | nil =>
    have last : k = own.length := by
      have short := congrArg length mineLeft
      simp only [marked, filterMap_nil, length_nil, length_drop] at short
      omega
    exact ⟨s, [], rfl, by rw [last, done]; rfl⟩
  | cons input rest ih =>
    obtain ⟨mark, i⟩ := input
    cases mark with
    | false =>
      simp only [map_cons, sum_cons, Bool.false_eq_true, if_false] at cheap
      obtain ⟨t, out, hStep, next⟩ := other k c s i (by omega) related (others.head rfl)
      have hMarked := markedStep_eq_some false hStep
      obtain ⟨u, outs, hRest, same⟩ := ih next mineLeft started (by omega) (others.tail hMarked)
      refine ⟨u, _, run_cons_eq_some.mpr ⟨t, _, outs, hMarked, hRest, rfl⟩, ?_⟩
      rw [marked_append, marked_map, same]
      rfl
    | true =>
      have left : i :: marked rest = own.drop k := mineLeft
      have inside : k < own.length := by
        by_contra beyond
        rw [drop_of_length_le (by omega)] at left
        cases left
      rw [drop_eq_getElem_cons inside] at left
      injection left with first remaining
      obtain ⟨t, out, hStep, next, split⟩ :=
        mine k c s i (by rw [getElem?_eq_getElem inside, first]) related
      have hMarked := markedStep_eq_some true hStep
      simp only [map_cons, sum_cons, if_true] at cheap
      obtain ⟨u, outs, hRest, same⟩ := ih next remaining inside (by omega) (others.tail hMarked)
      refine ⟨u, _, run_cons_eq_some.mpr ⟨t, _, outs, hMarked, hRest, rfl⟩, ?_⟩
      rw [marked_append, marked_map, same, split]
      rfl

end Execution
