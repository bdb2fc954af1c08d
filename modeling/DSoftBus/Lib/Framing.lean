import Mathlib.Data.List.Basic

/-!
A stream made of frames and a receiver that holds a part of it. The held bytes
and those still on the way are together the frames not yet taken out; what is
held tells the beginning of the first frame whatever the chunks it came in.
-/
namespace Framing
open List
variable {α : Type*} {frame held coming : List α} {frames : List (List α)}

def Stalled (frames : List (List α)) (held : List α) : Prop :=
  ∀ frame rest, frames = frame :: rest → held.length < frame.length

lemma take_held (stream : held ++ coming = (frame :: frames).flatten) {n}
    (inHeld : n ≤ held.length) (inFrame : n ≤ frame.length) : held.take n = frame.take n := by
  have front := congrArg (take n) stream
  rwa [flatten_cons, take_append_of_le_length inHeld, take_append_of_le_length inFrame] at front

lemma take_frame (stream : held ++ coming = (frame :: frames).flatten)
    (complete : frame.length ≤ held.length) : held = frame ++ held.drop frame.length ∧
      held.drop frame.length ++ coming = frames.flatten := by
  have front := take_held stream complete (Nat.le_refl _)
  rw [take_length] at front
  have split : held = frame ++ held.drop frame.length := by
    conv_lhs => rw [← take_append_drop frame.length held, front]
  refine ⟨split, ?_⟩
  rw [split, flatten_cons, append_assoc] at stream
  exact append_cancel_left stream

lemma all_taken (stream : held ++ [] = frames.flatten) (stalled : Stalled frames held) :
    frames = [] := by
  cases frames with
  | nil => rfl
  | cons frame rest =>
    have short := stalled frame rest rfl
    have total := congrArg length stream
    rw [append_nil, flatten_cons, length_append] at total
    omega

/-- The number of frames that are complete in the first `n` bytes. -/
def completed : List (List α) → Nat → Nat
  | [], _ => 0
  | frame :: rest, n =>
    if frame.length ≤ n then completed rest (n - frame.length) + 1 else 0

lemma completed_le (frames : List (List α)) (n : Nat) : completed frames n ≤ frames.length := by
  induction frames generalizing n with
  | nil => exact Nat.le_refl 0
  | cons frame rest ih =>
    rw [completed]
    split
    · exact Nat.succ_le_succ (ih _)
    · exact Nat.zero_le _

lemma completed_cons (frame : List α) (rest : List (List α)) (n : Nat) :
    completed (frame :: rest) (frame.length + n) = completed rest n + 1 := by
  rw [completed, if_pos (Nat.le_add_right _ _), Nat.add_sub_cancel_left]

lemma completed_append (front rest : List (List α)) (n : Nat) :
    completed (front ++ rest) (front.flatten.length + n) = front.length + completed rest n := by
  induction front with
  | nil => simp
  | cons frame front ih =>
    rw [cons_append, flatten_cons, length_append, Nat.add_assoc, completed_cons, ih, length_cons]
    omega

lemma stalled_iff_completed : Stalled frames held ↔ completed frames held.length = 0 := by
  cases frames with
  | nil => exact ⟨fun _ => rfl, fun _ _ _ none => by cases none⟩
  | cons frame rest =>
    rw [completed]
    constructor
    · intro stalled
      exact if_neg (Nat.not_le.mpr (stalled frame rest rfl))
    · intro none first others same
      cases same
      by_contra complete
      simp [if_pos (Nat.not_lt.mp complete)] at none

/-- No chunk completes more than one frame, if `n` bytes are there already. -/
def OneAtATime (frames : List (List α)) : Nat → List (List α) → Prop
  | _, [] => True
  | n, chunk :: rest =>
    completed frames (n + chunk.length) ≤ completed frames n + 1 ∧
      OneAtATime frames (n + chunk.length) rest

instance (frames : List (List α)) : (n : Nat) → (chunks : List (List α)) →
    Decidable (OneAtATime frames n chunks)
  | _, [] => isTrue trivial
  | n, chunk :: rest =>
    have : Decidable (OneAtATime frames (n + chunk.length) rest) :=
      instDecidableOneAtATime frames (n + chunk.length) rest
    inferInstanceAs (Decidable (_ ∧ _))

lemma oneAtATime_append {front rest : List (List α)} {n : Nat} {chunks : List (List α)}
    (once : OneAtATime (front ++ rest) (front.flatten.length + n) chunks) :
    OneAtATime rest n chunks := by
  induction chunks generalizing n with
  | nil => trivial
  | cons chunk chunks ih =>
    obtain ⟨first, later⟩ := once
    rw [Nat.add_assoc, completed_append, completed_append] at first
    rw [Nat.add_assoc] at later
    exact ⟨by omega, ih later⟩

lemma oneAtATime_of_prefixes {chunks n} (each : ∀ pre chunk post, chunks = pre ++ chunk :: post →
      completed frames (n + (pre ++ [chunk]).flatten.length) ≤
        completed frames (n + pre.flatten.length) + 1) : OneAtATime frames n chunks := by
  induction chunks generalizing n with
  | nil => trivial
  | cons chunk rest ih =>
    refine ⟨by simpa using each [] chunk rest rfl, ih fun pre next post split => ?_⟩
    have later := each (chunk :: pre) next post (by rw [split, cons_append])
    simpa only [cons_append, flatten_cons, length_append, ← Nat.add_assoc]
      using later

end Framing
