import Mathlib.Data.List.Basic
import Mathlib.Data.Nat.ModEq

/-!
A ring of `n` slots between producers and consumers that take tickets. A ticket is claimed
on one side, the slot of its number is filled or read, and tickets are finished in the
order of their numbers. At most `n - 1` tickets are in use, so no two share a slot.
-/
namespace TicketRing
open Function List

inductive Side where
  | producer
  | consumer
deriving DecidableEq

def Side.other : Side → Side
  | .producer => .consumer
  | .consumer => .producer

/-- The values of the finished tickets of a side stand in the order of their numbers. -/
structure Ring (T V : Type*) where
  claims : Side → Nat
  finished : Side → List V
  slots : Nat → V
  ticket : T → Option (Side × Nat)

namespace Ring
variable {T V : Type*} (n : Nat) (r : Ring T V) (side : Side)

def served : Nat := (r.finished side).length

/-- How far the claims of a side may run ahead of the other side. -/
def slack (n : Nat) : Side → Nat
  | .producer => n - 1
  | .consumer => 0

def Held (i : Nat) : Prop := r.served side ≤ i ∧ i < r.claims side

def Accessed (i : Nat) (v : V) : Side → Prop
  | .producer => r.slots (i % n) = v
  | .consumer => (r.finished .producer)[i]? = some v

structure Sound : Prop where
  sized : 0 < n
  started : ∀ side, r.served side ≤ r.claims side
  bounded : ∀ side, r.claims side ≤ r.served side.other + slack n side
  fifo : r.finished .consumer <+: r.finished .producer
  stored : ∀ i v, r.served .consumer ≤ i → (r.finished .producer)[i]? = some v → r.slots (i % n) = v
  held : ∀ t side i, r.ticket t = some (side, i) → r.Held side i
  distinct : ∀ t u held, r.ticket t = some held → r.ticket u = some held → t = u

def store (i : Nat) (v : V) : Ring T V :=
  { r with slots := update r.slots (i % n) v }

section
variable [DecidableEq T] (t : T)

def claim : Ring T V :=
  { r with
    claims := update r.claims side (r.claims side + 1)
    ticket := update r.ticket t (some (side, r.claims side)) }

def finish (v : V) : Ring T V :=
  { r with
    finished := update r.finished side (r.finished side ++ [v])
    ticket := update r.ticket t none }

end

variable {n r side} {i j : Nat} {v w : V} {σ : Side}

lemma isPrefix_concat {front all} (isFront : front <+: all)
    (next : all[front.length]? = some v) : front ++ [v] <+: all := by
  obtain ⟨back, rfl⟩ := isFront
  rw [getElem?_append_right le_rfl, Nat.sub_self] at next
  cases back with
  | nil => cases next
  | cons first rest =>
    cases next
    exact ⟨rest, by rw [append_assoc]; rfl⟩

lemma getElem?_concat_cases {front} (found : (front ++ [v])[j]? = some w) :
    front[j]? = some w ∨ j = front.length ∧ w = v := by
  by_cases old : j < front.length
  · exact .inl (getElem?_append_left old ▸ found)
  · have last : j < (front ++ [v]).length := (List.getElem?_eq_some_iff.mp found).1
    have here : j = front.length := by
      rw [length_append, length_singleton] at last
      omega
    rw [here, getElem?_concat_length] at found
    exact .inr ⟨here, (Option.some.inj found).symm⟩

lemma eq_of_mod_eq {base} (hi : base ≤ i ∧ i < base + n) (hj : base ≤ j ∧ j < base + n)
    (same : i % n = j % n) : i = j := by
  have ordered : ∀ a b : Nat, a ≤ b → b < a + n → a % n = b % n → a = b := by
    intro a b le lt eq
    have zero := Nat.eq_zero_of_dvd_of_lt ((Nat.modEq_iff_dvd' le).mp eq) (by omega)
    omega
  cases Nat.le_total i j with
  | inl le => exact ordered i j le (by omega) same
  | inr le => exact (ordered j i le (by omega) same.symm).symm

lemma Sound.window (sound : r.Sound n) :
    r.served .consumer ≤ r.claims .consumer ∧ r.claims .consumer ≤ r.served .producer ∧
      r.served .producer ≤ r.claims .producer ∧ r.claims .producer < r.served .consumer + n := by
  have positive := sound.sized
  have reading := sound.bounded .consumer
  have writing := sound.bounded .producer
  simp only [Side.other, slack] at reading writing
  exact ⟨sound.started _, reading, sound.started _, by omega⟩

lemma Sound.claims_lt (sound : r.Sound n) (side) : r.claims side < r.served side + n := by
  obtain ⟨h₁, h₂, h₃, h₄⟩ := sound.window
  cases side <;> omega

lemma Sound.accessed_slot (sound : r.Sound n) (held : r.Held .consumer i) :
    r.Accessed n i (r.slots (i % n)) .consumer := by
  obtain ⟨_, reading, _, _⟩ := sound.window
  have inside : i < (r.finished .producer).length := lt_of_lt_of_le held.2 reading
  have found := getElem?_eq_getElem inside
  rw [Accessed, sound.stored i _ held.1 found]
  exact found

lemma Sound.ne_served {t u} (sound : r.Sound n) (mine : r.ticket t = some (side, r.served side))
    (other : u ≠ t) (held : r.ticket u = some (σ, i)) (same : σ = side) : i ≠ r.served side := by
  intro first
  rw [same, first] at held
  exact other (sound.distinct u t _ held mine)

section

lemma Sound.slots_store_of_ne (sound : r.Sound n) (held : r.Held .producer i)
    (low : r.served .consumer ≤ j) (high : j < r.claims .producer) (other : j ≠ i) :
    (r.store n i v).slots (j % n) = r.slots (j % n) := by
  obtain ⟨h₁, h₂, h₃, h₄⟩ := sound.window
  have h₅ := held.1
  have h₆ := held.2
  exact update_of_ne
    (fun same => other (eq_of_mod_eq ⟨low, by omega⟩ ⟨by omega, by omega⟩ same)) ..

/-- The slot of a claimed producer ticket holds nothing that is still to be read. -/
lemma Sound.store (sound : r.Sound n) (held : r.Held .producer i) : (r.store n i v).Sound n where
  sized := sound.sized
  started := sound.started
  bounded := sound.bounded
  fifo := sound.fifo
  stored j w low found := by
    have published : j < r.served .producer := (List.getElem?_eq_some_iff.mp found).1
    have unclaimed := sound.started .producer
    have other : j ≠ i := ne_of_lt (lt_of_lt_of_le published held.1)
    rw [sound.slots_store_of_ne held low (by omega) other]
    exact sound.stored j w low found
  held := sound.held
  distinct := sound.distinct

lemma Sound.accessed_store (sound : r.Sound n) (held : r.Held .producer i)
    (others : r.Held σ j) (other : σ = .producer → j ≠ i) (accessed : r.Accessed n j w σ) :
    (r.store n i v).Accessed n j w σ := by
  cases σ with
  | consumer => exact accessed
  | producer =>
    obtain ⟨h₁, h₂, _, _⟩ := sound.window
    have h₃ := others.1
    exact (sound.slots_store_of_ne held (by omega) others.2 (other rfl)).trans accessed

end

variable [DecidableEq T] {t u : T}

section

lemma claims_claim_self : (r.claim side t).claims side = r.claims side + 1 := update_self ..

lemma claims_claim_of_ne (other : σ ≠ side) : (r.claim side t).claims σ = r.claims σ :=
  update_of_ne other ..

lemma le_claims_claim : r.claims σ ≤ (r.claim side t).claims σ := by
  by_cases same : σ = side
  · rw [same, claims_claim_self]
    exact Nat.le_succ _
  · exact le_of_eq (claims_claim_of_ne same).symm

lemma ticket_claim_self : (r.claim side t).ticket t = some (side, r.claims side) := update_self ..

lemma ticket_claim_of_ne (other : u ≠ t) : (r.claim side t).ticket u = r.ticket u :=
  update_of_ne other ..

lemma held_claim (held : r.Held σ i) : (r.claim side t).Held σ i :=
  ⟨held.1, lt_of_lt_of_le held.2 le_claims_claim⟩

lemma Sound.held_claimed (sound : r.Sound n) : (r.claim side t).Held side (r.claims side) :=
  ⟨sound.started side, by rw [claims_claim_self]; exact Nat.lt_succ_self _⟩

lemma Sound.claim (sound : r.Sound n)
    (room : r.claims side < r.served side.other + slack n side) : (r.claim side t).Sound n where
  sized := sound.sized
  started σ := le_trans (sound.started σ) le_claims_claim
  bounded σ := by
    by_cases same : σ = side
    · rw [same, claims_claim_self]
      exact room
    · rw [claims_claim_of_ne same]
      exact sound.bounded σ
  fifo := sound.fifo
  stored := sound.stored
  held u σ i h := by
    by_cases same : u = t
    · rw [same, ticket_claim_self] at h
      cases h
      exact sound.held_claimed
    · rw [ticket_claim_of_ne same] at h
      exact held_claim (sound.held u σ i h)
  distinct u w held hu hw := by
    have new : ∀ u, r.ticket u ≠ some (side, r.claims side) :=
      fun u old => lt_irrefl _ (sound.held u side _ old).2
    by_cases ut : u = t
    · by_cases wt : w = t
      · rw [ut, wt]
      · rw [ut, ticket_claim_self] at hu
        rw [ticket_claim_of_ne wt, ← hu] at hw
        exact absurd hw (new w)
    · rw [ticket_claim_of_ne ut] at hu
      by_cases wt : w = t
      · rw [wt, ticket_claim_self] at hw
        rw [← hw] at hu
        exact absurd hu (new u)
      · rw [ticket_claim_of_ne wt] at hw
        exact sound.distinct u w held hu hw

end

section

lemma finished_finish_self : (r.finish side t v).finished side = r.finished side ++ [v] :=
  update_self ..

lemma finished_finish_of_ne (other : σ ≠ side) : (r.finish side t v).finished σ = r.finished σ :=
  update_of_ne other ..

lemma finished_prefix_finish : r.finished σ <+: (r.finish side t v).finished σ := by
  by_cases same : σ = side
  · rw [same, finished_finish_self]
    exact prefix_append ..
  · simp [finished_finish_of_ne same]

lemma served_finish_self : (r.finish side t v).served side = r.served side + 1 := by
  simp [served, finished_finish_self]

lemma served_finish_of_ne (other : σ ≠ side) : (r.finish side t v).served σ = r.served σ := by
  rw [served, finished_finish_of_ne other, served]

lemma le_served_finish : r.served σ ≤ (r.finish side t v).served σ :=
  finished_prefix_finish.length_le

lemma ticket_finish_self : (r.finish side t v).ticket t = none := update_self ..

lemma ticket_finish_of_ne (other : u ≠ t) : (r.finish side t v).ticket u = r.ticket u :=
  update_of_ne other ..

lemma accessed_finish (accessed : r.Accessed n i w σ) : (r.finish side t v).Accessed n i w σ := by
  cases σ with
  | producer => exact accessed
  | consumer =>
    obtain ⟨inside, here⟩ := List.getElem?_eq_some_iff.mp accessed
    rw [Accessed, ← here]
    exact prefix_iff_getElem?.mp finished_prefix_finish i inside

lemma held_finish (held : r.Held σ i) (other : σ = side → i ≠ r.served side) :
    (r.finish side t v).Held σ i := by
  refine ⟨?_, held.2⟩
  by_cases same : σ = side
  · have later := other same
    have low := held.1
    subst same
    rw [served_finish_self]
    omega
  · rw [served_finish_of_ne same]
    exact held.1

lemma Sound.finish (sound : r.Sound n) (mine : r.ticket t = some (side, r.served side))
    (accessed : r.Accessed n (r.served side) v side) : (r.finish side t v).Sound n where
  sized := sound.sized
  started σ := by
    by_cases same : σ = side
    · rw [same, served_finish_self]
      exact (sound.held t side _ mine).2
    · rw [served_finish_of_ne same]
      exact sound.started σ
  bounded σ := le_trans (sound.bounded σ) (Nat.add_le_add_right le_served_finish _)
  fifo := by
    cases side with
    | producer =>
      rw [finished_finish_of_ne (fun h => by cases h)]
      exact sound.fifo.trans finished_prefix_finish
    | consumer =>
      rw [finished_finish_self, finished_finish_of_ne (fun h => by cases h)]
      exact isPrefix_concat sound.fifo accessed
  stored j w low found := by
    cases side with
    | consumer =>
      rw [served_finish_self] at low
      rw [finished_finish_of_ne (fun h => by cases h)] at found
      exact sound.stored j w (by omega) found
    | producer =>
      rw [served_finish_of_ne (fun h => by cases h)] at low
      rw [finished_finish_self] at found
      cases getElem?_concat_cases found with
      | inl old => exact sound.stored j w low old
      | inr new =>
        obtain ⟨rfl, rfl⟩ := new
        exact accessed
  held u σ i h := by
    by_cases same : u = t
    · simp [same, ticket_finish_self] at h
    · rw [ticket_finish_of_ne same] at h
      exact held_finish (sound.held u σ i h) (sound.ne_served mine same h)
  distinct u w held hu hw := by
    by_cases ut : u = t
    · simp [ut, ticket_finish_self] at hu
    · by_cases wt : w = t
      · simp [wt, ticket_finish_self] at hw
      · rw [ticket_finish_of_ne ut] at hu
        rw [ticket_finish_of_ne wt] at hw
        exact sound.distinct u w held hu hw

end
end Ring
end TicketRing
