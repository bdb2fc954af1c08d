import DSoftBus.Lib.Execution

/-!
Stateful computations that emit outputs and may have no result, which stands for an access
the modelled code must not make, such as the use of freed memory.

`Triple P x Q` is partial correctness; the conditions speak of the state and of all
outputs so far, so that an invariant may relate the two. `Safe` also says when a
computation may have no result. `Delivers` is total correctness for a fixed result and
fixed visible outputs.
-/
namespace Effect
open List Option
universe u v
variable {σ ο α β : Type u}

def Act (σ ο α : Type u) : Type u := σ → Option (α × σ × List ο)

instance : Monad (Act σ ο) where
  pure a := fun s => some (a, s, [])
  bind x f := fun s =>
    match x s with
    | none => none
    | some (a, t, out) =>
      match f a t with
      | none => none
      | some (b, w, outs) => some (b, w, out ++ outs)

def get : Act σ ο σ := fun s => some (s, s, [])
def modify (f : σ → σ) : Act σ ο PUnit := fun s => some (⟨⟩, f s, [])
def emit (o : ο) : Act σ ο PUnit := fun s => some (⟨⟩, s, [o])
def fault : Act σ ο α := fun _ => none

/-- The state and outputs a computation leaves, as one step of an execution. -/
def Act.step (x : Act σ ο PUnit) (s : σ) : Option (σ × List ο) := (x s).map Prod.snd

def when (c : Prop) [Decidable c] (x : Act σ ο PUnit) : Act σ ο PUnit :=
  if c then x else pure ⟨⟩

def each (f : α → Act σ ο PUnit) : List α → Act σ ο PUnit
  | [] => pure ⟨⟩
  | a :: rest => do
      f a
      each f rest

def Returns (x : Act σ ο α) (s : σ) (a : α) (t : σ) (out : List ο) : Prop := x s = some (a, t, out)

lemma Returns.pure (a : α) (s : σ) : Returns (pure a : Act σ ο α) s a s [] := rfl

variable {f : α → Act σ ο β}

lemma bind_apply (x : Act σ ο α) (f : α → Act σ ο β) (s) : (x >>= f) s = (x s).bind fun one =>
    (f one.1 one.2.1).map fun two => (two.1, two.2.1, one.2.2 ++ two.2.2) := by
  change (match x s with
    | none => none
    | some (a, t, out) =>
      match f a t with
      | none => none
      | some (b, w, outs) => some (b, w, out ++ outs)) = _
  cases x s with
  | none => rfl
  | some one =>
    dsimp only [bind_some]
    cases f one.1 one.2.1 <;> rfl

lemma Returns.bind {x s t w a b out outs}
    (first : Returns x s a t out) (next : Returns (f a) t b w outs) :
    Returns (x >>= f) s b w (out ++ outs) := by
  rw [Returns, bind_apply, first, bind_some, next]
  rfl

lemma Returns.bind_apply {x s t a} (first : Returns x s a t [])
    (f : α → Act σ ο β) : (x >>= f) s = f a t := by
  rw [Effect.bind_apply, first, bind_some]
  exact map_id' ..

def Triple (P : σ → List ο → Prop) (x : Act σ ο α) (Q : α → σ → List ο → Prop) : Prop :=
  ∀ s past, P s past → ∀ a t out, x s = some (a, t, out) → Q a t (past ++ out)

def Keeps (P : σ → List ο → Prop) (x : Act σ ο α) : Prop := Triple P x fun _ => P

variable {P R : σ → List ο → Prop} {Q : β → σ → List ο → Prop}

lemma Triple.pure {Q : α → σ → List ο → Prop} {a} (h : ∀ s past, P s past → Q a s past) :
    Triple P (pure a) Q := by
  rintro s past hP _ _ _ ⟨⟩
  rw [append_nil]
  exact h s past hP

lemma Triple.bind {M x} (first : Triple P x M)
    (next : ∀ a, Triple (M a) (f a) Q) : Triple P (x >>= f) Q := by
  intro s past hP b w all h
  rw [bind_apply, bind_eq_some_iff] at h
  obtain ⟨⟨a, t, out⟩, hx, h⟩ := h
  obtain ⟨⟨b, w, outs⟩, hf, ⟨⟩⟩ := map_eq_some_iff.mp h
  rw [← append_assoc]
  exact next a t (past ++ out) (first s past hP a t out hx) b w outs hf

variable {x : Act σ ο β} {P' : σ → List ο → Prop}

lemma Triple.consequence {Q'} (h : Triple P x Q)
    (pre : ∀ s past, P' s past → P s past) (post : ∀ b s past, Q b s past → Q' b s past) :
    Triple P' x Q' :=
  fun s past hP b t out hx => post b t _ (h s past (pre s past hP) b t out hx)

lemma Triple.weaken (h : Triple P x Q) (pre : ∀ s past, P' s past → P s past) : Triple P' x Q :=
  h.consequence pre fun _ _ _ hQ => hQ

lemma Triple.get {f} (next : ∀ s, Triple (fun t past => t = s ∧ P t past) (f s) Q) :
    Triple P (Effect.get >>= f) Q := by
  have first : Triple P Effect.get fun s t past => t = s ∧ P t past := by
    rintro s past hP _ _ _ ⟨⟩
    rw [append_nil]
    exact ⟨rfl, hP⟩
  exact first.bind next

lemma Triple.get_of_eq {s f} (next : Triple (fun t _ => t = s) (f s) Q) :
    Triple (fun t _ => t = s) (Effect.get >>= f) Q := by
  refine .get fun t => ?_
  rintro u past ⟨rfl, rfl⟩
  exact next u past rfl

lemma Triple.modify {f Q}
    (h : ∀ s past, P s past → Q ⟨⟩ (f s) past) : Triple P (Effect.modify f) Q := by
  rintro s past hP _ _ _ ⟨⟩
  rw [append_nil]
  exact h s past hP

lemma Triple.emit {o Q}
    (h : ∀ s past, P s past → Q ⟨⟩ s (past ++ [o])) : Triple P (Effect.emit o) Q := by
  rintro s past hP _ _ _ ⟨⟩
  exact h s past hP

lemma Triple.fault : Triple P (Effect.fault : Act σ ο β) Q := by
  rintro s past _ _ _ _ ⟨⟩

lemma Triple.ite {c : Prop} [Decidable c] {y} (yes : c → Triple P x Q)
    (no : ¬c → Triple P y Q) : Triple P (if c then x else y) Q := by
  split
  next hc => exact yes hc
  next hc => exact no hc

lemma Triple.when {c : Prop} [Decidable c] {x} {Q : PUnit → σ → List ο → Prop}
    (yes : c → Triple P x Q) (no : ¬c → ∀ s past, P s past → Q ⟨⟩ s past) : Triple P (when c x) Q :=
  Triple.ite yes fun hc => Triple.pure (no hc)

lemma Triple.and {Q'} (h : Triple P x Q) (h' : Triple P' x Q') :
    Triple (fun s past => P s past ∧ P' s past) x fun b s past => Q b s past ∧ Q' b s past :=
  fun s past hP b t out hx => ⟨h s past hP.1 b t out hx, h' s past hP.2 b t out hx⟩

/-- A fact that does not depend on the state can be moved out of the precondition. -/
lemma Triple.assume {p : Prop} (h : p → Triple P x Q) : Triple (fun s past => p ∧ P s past) x Q :=
  fun s past hP => h hP.1 s past hP.2

lemma Keeps.pure (a : α) : Keeps P (Pure.pure a) := Triple.pure fun _ _ h => h

lemma Keeps.bind {x} (first : Keeps P x) (next : ∀ a, Keeps P (f a)) :
    Keeps P (x >>= f) := Triple.bind first next

lemma Keeps.when {c : Prop} [Decidable c] {x} (h : c → Keeps P x) :
    Keeps P (when c x) := Triple.ite h fun _ => Keeps.pure _

lemma Keeps.get {f : σ → Act σ ο β} (next : ∀ s, Keeps P (f s)) : Keeps P (Effect.get >>= f) :=
  Triple.get fun s => (next s).weaken fun _ _ h => h.2

lemma Keeps.each {f : α → Act σ ο PUnit} {items} (h : ∀ a ∈ items, Keeps P (f a)) :
    Keeps P (each f items) := by
  induction items with
  | nil => exact .pure _
  | cons a rest ih =>
    refine .bind (h a mem_cons_self) fun _ => ih fun b mem => ?_
    exact h b (mem_cons_of_mem a mem)

lemma Triple.step {x Q} (h : Triple P x Q)
    {s t out} (past : List ο) (hP : P s past) (hStep : x.step s = some (t, out)) :
    Q ⟨⟩ t (past ++ out) := by
  obtain ⟨⟨_, _, _⟩, hx, hEnd⟩ := map_eq_some_iff.mp hStep
  cases hEnd
  exact h s past hP _ _ _ hx

/-- Like a triple, and the computation has no result only if `F`. -/
def Safe (F : Prop) (P : σ → List ο → Prop) (x : Act σ ο α) (Q : α → σ → List ο → Prop) : Prop :=
  ∀ s past, P s past → (x s = none → F) ∧ ∀ a t out, x s = some (a, t, out) → Q a t (past ++ out)

section
variable {F : Prop}

lemma Safe.pure {Q : α → σ → List ο → Prop} {a} (h : ∀ s past, P s past → Q a s past) :
    Safe F P (Pure.pure a) Q :=
  fun s past hP => ⟨nofun, Triple.pure h s past hP⟩

lemma Safe.bind {M : α → σ → List ο → Prop} {x} {f : α → Act σ ο β}
    (first : Safe F P x M) (next : ∀ a, Safe F (M a) (f a) Q) : Safe F P (x >>= f) Q := by
  intro s past hP
  refine ⟨fun stuck => ?_, ?_⟩
  · rw [bind_apply] at stuck
    cases hx : x s with
    | none => exact (first s past hP).1 hx
    | some one =>
      rw [hx, bind_some, map_eq_none_iff] at stuck
      exact (next _ _ _ ((first s past hP).2 _ _ _ hx)).1 stuck
  · have triple : Triple (fun t front => t = s ∧ front = past) x M := by
      rintro t front ⟨rfl, rfl⟩
      exact (first t front hP).2
    exact triple.bind (fun a t front hM => (next a t front hM).2) s past ⟨rfl, rfl⟩

lemma Safe.consequence {P' Q' x} (h : Safe F P x Q) (pre : ∀ s past, P' s past → P s past)
    (post : ∀ b s past, Q b s past → Q' b s past) : Safe F P' x Q' :=
  fun s past hP => ⟨(h s past (pre s past hP)).1,
    fun b t out hx => post b t _ ((h s past (pre s past hP)).2 b t out hx)⟩

lemma Safe.weaken {P' x} (h : Safe F P x Q)
    (pre : ∀ s past, P' s past → P s past) : Safe F P' x Q := h.consequence pre fun _ _ _ hQ => hQ

lemma Safe.imp {Q' x} (h : Safe F P x Q)
    (post : ∀ b s past, Q b s past → Q' b s past) : Safe F P x Q' :=
  h.consequence (fun _ _ hP => hP) post

lemma Safe.get {f : σ → Act σ ο β} (next : ∀ s, Safe F (fun t past => t = s ∧ P t past) (f s) Q) :
    Safe F P (Effect.get >>= f) Q := by
  have first : Safe F P Effect.get fun s t past => t = s ∧ P t past := by
    refine fun s past hP => ⟨nofun, ?_⟩
    rintro _ _ _ ⟨⟩
    rw [append_nil]
    exact ⟨rfl, hP⟩
  exact first.bind next

lemma Safe.get_of_eq {s f} (next : Safe F (fun t past => t = s ∧ P t past) (f s) Q) :
    Safe F (fun t past => t = s ∧ P t past) (Effect.get >>= f) Q := by
  refine .get fun t => ?_
  rintro u past ⟨rfl, rfl, hP⟩
  exact next u past ⟨rfl, hP⟩

lemma Safe.modify {f Q} (h : ∀ s past, P s past → Q ⟨⟩ (f s) past) : Safe F P (Effect.modify f) Q :=
  fun s past hP => ⟨nofun, Triple.modify h s past hP⟩

lemma Safe.emit {o Q}
    (h : ∀ s past, P s past → Q ⟨⟩ s (past ++ [o])) : Safe F P (Effect.emit o) Q :=
  fun s past hP => ⟨nofun, Triple.emit h s past hP⟩

variable {c : Prop}

lemma Safe.ite [Decidable c] {x y} (yes : c → Safe F P x Q) (no : ¬c → Safe F P y Q) :
    Safe F P (if c then x else y) Q := by
  split
  next hc => exact yes hc
  next hc => exact no hc

variable {x : Act σ ο PUnit}

lemma Safe.when [Decidable c] {Q : PUnit → σ → List ο → Prop} (yes : c → Safe F P x Q)
    (no : ¬c → ∀ s past, P s past → Q ⟨⟩ s past) : Safe F P (when c x) Q :=
  Safe.ite yes fun hc => Safe.pure (no hc)

lemma Safe.skip [Decidable c] {y} (no : ¬c) (next : Safe F P y Q) :
    Safe F P (Effect.when c x >>= fun _ => y) Q := by
  rw [Effect.when, if_neg no]
  exact .bind (M := fun _ => P) (Safe.pure fun _ _ hP => hP) fun _ => next

lemma Safe.either {d : Prop} [Decidable c] [Decidable d] {y}
    {Q : PUnit → σ → List ο → Prop} (exclusive : c → ¬d) (first : c → Safe F P x Q)
    (second : d → Safe F P y Q) (neither : ∀ s past, P s past → Q ⟨⟩ s past) :
    Safe F P (Effect.when c x >>= fun _ => Effect.when d y) Q := by
  by_cases hc : c
  · rw [Effect.when, if_pos hc, Effect.when, if_neg (exclusive hc)]
    exact (first hc).bind fun _ => Safe.pure fun _ _ hQ => hQ
  · exact .skip hc (Safe.when second fun _ => neither)

lemma Safe.assume {p : Prop} {x} (h : p → Safe F P x Q) : Safe F (fun s past => p ∧ P s past) x Q :=
  fun s past hP => h hP.1 s past hP.2

lemma Safe.each {f : α → Act σ ο PUnit} {items}
    (h : ∀ a ∈ items, Safe F P (f a) fun _ => P) : Safe F P (each f items) fun _ => P := by
  induction items with
  | nil => exact .pure fun _ _ hP => hP
  | cons a rest ih =>
    refine .bind (h a mem_cons_self) fun _ => ih fun b mem => ?_
    exact h b (mem_cons_of_mem a mem)

lemma Safe.step {Q} (h : Safe F P x Q) {s t out}
    (past : List ο) (hP : P s past) (hStep : x.step s = some (t, out)) : Q ⟨⟩ t (past ++ out) := by
  obtain ⟨⟨_, _, _⟩, hx, hEnd⟩ := map_eq_some_iff.mp hStep
  cases hEnd
  exact (h s past hP).2 _ _ _ hx

lemma Safe.defined {Q} (h : Safe F P x Q) {s} (past : List ο)
    (hP : P s past) (sound : ¬F) : ∃ t out, x.step s = some (t, out) := by
  cases hx : x s with
  | none => exact absurd ((h s past hP).1 hx) sound
  | some result => exact ⟨result.2.1, result.2.2, by rw [Act.step, hx]; rfl⟩

end

/-- Total correctness: from every state with `P` the computation returns `a` and ends with `Q`,
and its outputs that satisfy `p` are `seen`. -/
def Delivers (p : ο → Bool) (P : σ → Prop) (x : Act σ ο α) (a : α) (Q : σ → Prop)
    (seen : List ο) : Prop := ∀ s, P s → ∃ t out, Returns x s a t out ∧ Q t ∧ out.filter p = seen

section
variable {p : ο → Bool} {P Q R : σ → Prop} {seen more : List ο} {a : α} {b : β}

lemma Delivers.pure (h : ∀ s, P s → Q s) : Delivers p P (Pure.pure a) a Q [] :=
  fun s hP => ⟨s, [], Returns.pure a s, h s hP, rfl⟩

lemma Delivers.bind {x f} (first : Delivers p P x a R seen)
    (next : Delivers p R (f a) b Q more) : Delivers p P (x >>= f) b Q (seen ++ more) := by
  intro s hP
  obtain ⟨t, out, hx, hR, rfl⟩ := first s hP
  obtain ⟨w, outs, hf, hQ, rfl⟩ := next t hR
  exact ⟨w, out ++ outs, hx.bind hf, hQ, filter_append ..⟩

lemma Delivers.bind_silent {x f} (first : Delivers p P x a R [])
    (next : Delivers p R (f a) b Q seen) : Delivers p P (x >>= f) b Q seen := first.bind next

lemma Delivers.get {f} (next : ∀ s, P s → Delivers p (· = s) (f s) b Q seen) :
    Delivers p P (Effect.get >>= f) b Q seen := by
  intro s hP
  obtain ⟨t, out, hf, hQ, hSeen⟩ := next s hP s rfl
  have read : Returns (Effect.get : Act σ ο σ) s s s [] := rfl
  exact ⟨t, out, read.bind hf, hQ, hSeen⟩

lemma Delivers.weaken {x} (h : Delivers p R x a Q seen) (pre : ∀ s, P s → R s) :
    Delivers p P x a Q seen :=
  fun s hP => h s (pre s hP)

lemma Delivers.modify {f} (h : ∀ s, P s → Q (f s)) : Delivers p P (Effect.modify f) ⟨⟩ Q [] :=
  fun s hP => ⟨f s, [], rfl, h s hP, rfl⟩

lemma Delivers.emit {o} (h : ∀ s, P s → Q s) : Delivers p P (Effect.emit o) ⟨⟩ Q ([o].filter p) :=
  fun s hP => ⟨s, [o], rfl, h s hP, rfl⟩

lemma Delivers.when_neg {c : Prop} [Decidable c] {x} (no : ¬c) :
    Delivers p P (when c x) ⟨⟩ P [] := by
  rw [when, if_neg no]
  exact .pure fun _ hP => hP

lemma Delivers.when_pos {c : Prop} [Decidable c] {x} (yes : c)
    (h : Delivers p P x ⟨⟩ Q seen) : Delivers p P (when c x) ⟨⟩ Q seen := by
  rw [when, if_pos yes]
  exact h

lemma Delivers.step {x} (h : Delivers p P x ⟨⟩ Q seen) {s} (hP : P s) :
    ∃ t out, x.step s = some (t, out) ∧ Q t ∧ out.filter p = seen := by
  obtain ⟨t, out, hx, rest⟩ := h s hP
  exact ⟨t, out, by rw [Act.step, hx]; rfl, rest⟩

end

/-- Symbolic execution: in the state `s`, after the outputs `past`, the computation has a
result, and `Q` holds of it. -/
def Ends (Q : α → σ → List ο → Prop) (x : Act σ ο α) (s : σ) (past : List ο) : Prop :=
  ∃ a t out, Returns x s a t out ∧ Q a t (past ++ out)

section
variable {Q : β → σ → List ο → Prop} {s : σ} {past : List ο}

lemma Ends.pure {b} (h : Q b s past) : Ends Q (Pure.pure b) s past :=
  ⟨b, s, [], rfl, by rwa [append_nil]⟩

lemma Ends.bind {x} {f : α → Act σ ο β}
    (h : Ends (fun a t past => Ends Q (f a) t past) x s past) : Ends Q (x >>= f) s past := by
  obtain ⟨a, t, out, first, b, w, outs, next, hQ⟩ := h
  exact ⟨b, w, out ++ outs, first.bind next, by rwa [← append_assoc]⟩

lemma Ends.imp {R x} (h : Ends R x s past)
    (post : ∀ b t past, R b t past → Q b t past) : Ends Q x s past := by
  obtain ⟨b, t, out, returns, hR⟩ := h
  exact ⟨b, t, out, returns, post b t _ hR⟩

lemma Ends.get {f : σ → Act σ ο β} (h : Ends Q (f s) s past) : Ends Q (Effect.get >>= f) s past :=
  Ends.bind ⟨s, s, [], rfl, by rwa [append_nil]⟩

lemma Ends.modify {Q g} (h : Q ⟨⟩ (g s) past) :
    Ends Q (Effect.modify g) s past := ⟨⟨⟩, g s, [], rfl, by rwa [append_nil]⟩

lemma Ends.emit {Q o} (h : Q ⟨⟩ s (past ++ [o])) :
    Ends Q (Effect.emit o) s past := ⟨⟨⟩, s, [o], rfl, h⟩

lemma Ends.when {Q} {c : Prop} [Decidable c] {x}
    (yes : c → Ends Q x s past) (no : ¬c → Q ⟨⟩ s past) : Ends Q (when c x) s past := by
  unfold Effect.when
  split
  next hc => exact yes hc
  next hc => exact .pure (no hc)

/-- `I` speaks of the items that are left. -/
lemma Ends.each {I : List α → σ → List ο → Prop} {f : α → Act σ ο PUnit} {items}
    (one : ∀ a rest s past, I (a :: rest) s past → Ends (fun _ => I rest) (f a) s past)
    (init : I items s past) : Ends (fun _ => I []) (each f items) s past := by
  induction items generalizing s past with
  | nil => exact .pure init
  | cons a rest ih => exact .bind ((one a rest s past init).imp fun _ _ _ => ih)

lemma Ends.each_emit {Q : PUnit → σ → List ο → Prop} {f : α → Act σ ο PUnit}
    {out : α → List ο} {items} (one : ∀ a, Returns (f a) s ⟨⟩ s (out a))
    (h : Q ⟨⟩ s (past ++ items.flatMap out)) : Ends Q (Effect.each f items) s past := by
  have all : Returns (Effect.each f items) s ⟨⟩ s (items.flatMap out) := by
    clear h
    induction items with
    | nil => rfl
    | cons a rest ih => exact (one a).bind ih
  exact ⟨⟨⟩, s, _, all, h⟩

lemma Ends.step {Q : PUnit → σ → List ο → Prop} {x t out}
    (h : Ends Q x s []) (hStep : x.step s = some (t, out)) : Q ⟨⟩ t out := by
  obtain ⟨_, u, outs, returns, hQ⟩ := h
  rw [Act.step, returns] at hStep
  cases hStep
  exact hQ

end

end Effect
