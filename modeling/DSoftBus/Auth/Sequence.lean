import DSoftBus.Auth.Manager

/-!
The sequence numbers of the authentication manager. The receiver reads the side that
GetSeq was told off the number's parity. But the numbers are all even: only those of the
client side are read back as meant. They do repeat as late as they can, after every even
value of the counter has been used once.
-/
namespace DSoftBus.Auth
open Effect Nat List

def AuthSideFlag.opposite : AuthSideFlag → AuthSideFlag
  | .client => .server
  | .server => .client

def getSeqs (ctx : AuthContext) : List AuthSideFlag → AuthM (List (BitVec 64))
  | [] => pure []
  | _ :: flags => do
      let seq ← getSeq ctx
      let seqs ← getSeqs ctx flags
      pure (seq :: seqs)

def seqPeriod : Nat := 0x7FFFFF

/-- A number made for one side is read back as the other, and as many calls as the counter has
values give different numbers. -/
def SeqContract (ctx : AuthContext) (flag : AuthSideFlag) (s : AuthState) : Prop :=
  (∀ seq t out, getSeqs ctx [flag] s = some ([seq], t, out) →
    authGetSideByRemoteSeq seq = flag.opposite) ∧
  ∀ flags seqs t out, flags.length = seqPeriod → getSeqs ctx flags s = some (seqs, t, out) →
    seqs.Nodup

def nextInteger (integer : BitVec 64) : BitVec 64 :=
  (if integer = intMaxValue then 0 else integer) + 2

def seqValue (ctx : AuthContext) (integer : BitVec 64) : BitVec 64 :=
  (ctx.uniqueId <<< 24) ||| (integer &&& low24Bits)

lemma getSeq_returns (ctx s) : Returns (getSeq ctx) s (seqValue ctx (nextInteger s.integer))
      { s with integer := nextInteger s.integer } [] := rfl

lemma nextInteger_double {idx} (small : idx ≤ seqPeriod) :
    nextInteger (BitVec.ofNat 64 (2 * idx)) = BitVec.ofNat 64 (2 * (idx % seqPeriod + 1)) := by
  unfold seqPeriod at *
  have wrap : BitVec.ofNat 64 (2 * idx) = intMaxValue ↔ idx = 0x7FFFFF := by
    rw [← BitVec.toNat_inj, BitVec.toNat_ofNat, mod_eq_of_lt (by omega)]
    change 2 * idx = 0xFFFFFE ↔ _
    omega
  unfold nextInteger
  by_cases last : idx = 0x7FFFFF
  · rw [if_pos (wrap.mpr last), last]
    rfl
  · rw [if_neg fun top => last (wrap.mp top), mod_eq_of_lt (by omega), mul_add, BitVec.ofNat_add]
    rfl

lemma seqValue_mod (ctx) {integer} (small : integer < 2 ^ 24) :
    (seqValue ctx (BitVec.ofNat 64 integer)).toNat % 2 ^ 24 = integer := by
  have high : (ctx.uniqueId <<< 24).toNat % 2 ^ 24 = 0 := by
    rw [BitVec.toNat_shiftLeft, shiftLeft_eq, mod_mod_of_dvd _ (by decide)]
    exact mul_mod_left _ _
  have low : (BitVec.ofNat 64 integer &&& low24Bits).toNat = integer := by
    rw [BitVec.toNat_and, BitVec.toNat_ofNat, mod_eq_of_lt (by omega)]
    change integer &&& (2 ^ 24 - 1) = integer
    rw [and_two_pow_sub_one_eq_mod, mod_eq_of_lt small]
  rw [seqValue, BitVec.toNat_or, or_mod_two_pow, high, low, zero_or, mod_eq_of_lt small]

lemma authGetSideByRemoteSeq_even {seq} (even : seq.toNat % 2 = 0) :
    authGetSideByRemoteSeq seq = .server := by
  refine if_pos (Int.tmod_eq_zero_of_dvd ?_)
  rw [BitVec.toInt_eq_toNat_cond]
  split <;> omega

def CounterAt (idx : Nat) (s : AuthState) : Prop :=
  idx ≤ seqPeriod ∧ s.integer = BitVec.ofNat 64 (2 * idx)

def seqsFrom (ctx : AuthContext) (idx count : Nat) : List (BitVec 64) :=
  (range count).map fun k => seqValue ctx (BitVec.ofNat 64 (2 * ((idx + k) % seqPeriod + 1)))

lemma getSeqs_returns (ctx flags) {s idx} (at' : CounterAt idx s) : ∃ t idx', CounterAt idx' t ∧
      Returns (getSeqs ctx flags) s (seqsFrom ctx idx flags.length) t [] := by
  induction flags generalizing s idx with
  | nil => exact ⟨s, idx, at', Returns.pure _ _⟩
  | cons flag flags ih =>
    have next : nextInteger s.integer = BitVec.ofNat 64 (2 * (idx % seqPeriod + 1)) := by
      rw [at'.2, nextInteger_double at'.1]
    have moved : CounterAt (idx % seqPeriod + 1) { s with integer := nextInteger s.integer } :=
      ⟨mod_lt idx (by decide), next⟩
    obtain ⟨t, idx', hEnd, hRest⟩ := ih moved
    refine ⟨t, idx', hEnd, ?_⟩
    have shift : ∀ k, (idx % seqPeriod + 1 + k) % seqPeriod = (idx + (k + 1)) % seqPeriod := by
      intro k
      rw [add_assoc, mod_add_mod, add_comm 1 k]
    have split : seqsFrom ctx idx (flags.length + 1) = seqValue ctx (nextInteger s.integer) ::
        seqsFrom ctx (idx % seqPeriod + 1) flags.length := by
      simp [seqsFrom, range_succ_eq_map, next, shift]
    rw [length_cons, split]
    exact (getSeq_returns ctx s).bind (hRest.bind (Returns.pure _ _))

variable (ctx : AuthContext) (idx : Nat)

lemma seqValue_double :
    (seqValue ctx (BitVec.ofNat 64 (2 * (idx % seqPeriod + 1)))).toNat % 2 ^ 24 =
      2 * (idx % seqPeriod + 1) := by
  have below := mod_lt idx (show 0 < seqPeriod by decide)
  unfold seqPeriod at *
  exact seqValue_mod ctx (by omega)

lemma seqsFrom_nodup : (seqsFrom ctx idx seqPeriod).Nodup := by
  refine List.Nodup.map_on ?_ nodup_range
  intro i hi j hj same
  have low := congrArg (fun seq : BitVec 64 => seq.toNat % 2 ^ 24) same
  simp only [seqValue_double] at low
  have equal : (idx + i) % seqPeriod = (idx + j) % seqPeriod := by omega
  have congruent : i ≡ j [MOD seqPeriod] := Nat.ModEq.add_left_cancel' idx equal
  exact Nat.ModEq.eq_of_lt_of_lt congruent (mem_range.mp hi) (mem_range.mp hj)

lemma authGetSideByRemoteSeq_seqsFrom {seq}
    (mem : seq ∈ seqsFrom ctx idx 1) : authGetSideByRemoteSeq seq = .server := by
  obtain ⟨k, _, rfl⟩ := mem_map.mp mem
  apply authGetSideByRemoteSeq_even
  have low := seqValue_double ctx (idx + k)
  omega

/-- In every state the calls of GetSeq lead to, the contract holds for the client side
and only for it. -/
theorem seqContract_iff {ctx : AuthContext} {history : List AuthSideFlag}
    {seqs : List (BitVec 64)} {s : AuthState} {out : List Event}
    (reached : getSeqs ctx history .init = some (seqs, s, out)) (flag : AuthSideFlag) :
    SeqContract ctx flag s ↔ flag = .client := by
  have start : CounterAt 0 .init := ⟨zero_le _, rfl⟩
  obtain ⟨t, idx, counter, hRun⟩ := getSeqs_returns ctx history start
  rw [Returns, reached] at hRun
  cases hRun
  constructor
  · intro contract
    obtain ⟨t, _, _, hCall⟩ := getSeqs_returns ctx [flag] counter
    have meant := contract.1 _ t [] hCall
    rw [authGetSideByRemoteSeq_seqsFrom ctx idx (mem_singleton.mpr rfl)] at meant
    cases flag with
    | client => rfl
    | server => cases meant
  · intro client
    subst client
    constructor
    · intro seq t out hCall
      obtain ⟨u, _, _, hSeq⟩ := getSeqs_returns ctx [.client] counter
      rw [Returns, hCall] at hSeq
      have only := (Prod.mk.inj (Option.some.inj hSeq)).1
      exact authGetSideByRemoteSeq_seqsFrom ctx idx (only ▸ mem_singleton.mpr rfl)
    · intro flags seqs t out long hCalls
      obtain ⟨u, _, _, hSeq⟩ := getSeqs_returns ctx flags counter
      rw [Returns, hCalls, long] at hSeq
      rw [(Prod.mk.inj (Option.some.inj hSeq)).1]
      exact seqsFrom_nodup ctx idx

/-- A device on which no module registered anything. -/
def bareContext : AuthContext where
  cJSONParse _ := none
  cJSONPrintUnformatted _ := []
  localUuid := []
  localUdid := []
  uniqueId := 1
  authIsSupportServerSide := false
  verifyCallbacks := []
  transUdpDataRecv := []
  authChannelClose := []

theorem seqContract_iff_init : SeqContract bareContext .client .init := by
  have reached : getSeqs bareContext [] .init = some ([], .init, []) := rfl
  exact (seqContract_iff reached .client).mpr rfl

/-- The first number of the server side is read back as the server's own side. -/
theorem server_seq_not_opposite : ¬ SeqContract bareContext .server .init := by
  intro contract
  have meant := contract.1 0x1000002 { AuthState.init with integer := 2 } [] (by rfl)
  exact absurd meant (by decide)

end DSoftBus.Auth
