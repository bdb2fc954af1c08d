import DSoftBus.Lnn.NodeInfo

/-!
The identity of connection addresses (lnn_connection_addr_utils.c). The comparison of two IP
strings ends where the first one does, so it also holds for a longer second one.
-/
namespace DSoftBus.Lnn

/-- What of `addr` is not written keeps its value. -/
def lnnConvertOptionToAddr (addr : ConnectionAddr) (option : ConnectOption)
    (hintType : ConnectionAddrType) : Option ConnectionAddr :=
  match option with
  | .br brMac => (strncpyS btMacLen brMac).map ({ addr with type := .br, text := · })
  | .ble bleMac => (strncpyS btMacLen bleMac).map ({ addr with type := .ble, text := · })
  | .tcp ip port => (strncpyS ipLen ip).map (⟨hintType, ·, port⟩)

namespace ConnectionAddr

def IsIp (addr : ConnectionAddr) : Prop := addr.type = .wlan ∨ addr.type = .eth

/-- The string ends inside its member of the union. -/
def WellFormed (addr : ConnectionAddr) : Prop :=
  match addr.type with
  | .br | .ble => addr.text.strlen < btMacLen
  | .wlan | .eth => addr.text.strlen < ipLen
  | .mix | .max => False

def Same (a b : ConnectionAddr) : Prop :=
  a.type = b.type ∧ a.text = b.text ∧ (a.IsIp → a.port = b.port)

/-- Among the addresses of `A` the comparison is right, and each survives the conversion. -/
structure Identified (A : Set ConnectionAddr) : Prop where
  exactly : ∀ a ∈ A, ∀ b ∈ A, lnnIsSameConnectionAddr a b ↔ a.Same b
  equivalence : Equivalence fun a b : A => lnnIsSameConnectionAddr a b = true
  restored : ∀ a ∈ A, ∀ old, ∃ option ∈ lnnConvertAddrToOption a,
    ∃ b ∈ lnnConvertOptionToAddr old option a.type, lnnIsSameConnectionAddr a b

variable {a b : ConnectionAddr}

lemma equivalence_same : Equivalence Same where
  refl _ := ⟨rfl, rfl, fun _ => rfl⟩
  symm := fun ⟨type, text, port⟩ =>
    ⟨type.symm, text.symm, fun ip => (port (by rwa [IsIp, type])).symm⟩
  trans := fun ⟨type, text, port⟩ ⟨type', text', port'⟩ =>
    ⟨type.trans type', text.trans text', fun ip => (port ip).trans (port' (by rwa [IsIp, ← type]))⟩

lemma isSame_iff (wa : a.WellFormed) (wb : b.WellFormed) : lnnIsSameConnectionAddr a b ↔
    a.type = b.type ∧ (a.IsIp → a.port = b.port) ∧ a.text.bytes <+: b.text.bytes ∧
      (a.IsIp ∨ a.text = b.text) := by
  obtain ⟨type, s, p⟩ := a
  obtain ⟨type', t, q⟩ := b
  by_cases same : type = type'
  · subst same
    cases type with
    | wlan | eth =>
      simp [lnnIsSameConnectionAddr, IsIp, sameUpTo_strlen_iff, and_comm]
    | br | ble =>
      have whole : CString.sameUpTo btMacLen s t ↔ s = t := by
        rw [CString.sameUpTo, List.take_of_length_le (le_of_lt wa),
          List.take_of_length_le (le_of_lt wb), decide_eq_true_iff]
        exact ⟨CString.ext_bytes, congrArg _⟩
      have agree : s = t → s.bytes <+: t.bytes := fun eq => eq ▸ List.prefix_rfl
      simpa [lnnIsSameConnectionAddr, IsIp] using whole.trans (and_iff_right_of_imp agree).symm
    | mix | max => exact wa.elim
  · simp [lnnIsSameConnectionAddr, same]

lemma isSame_of_same (wa : a.WellFormed) (same : a.Same b) : lnnIsSameConnectionAddr a b := by
  have wb : b.WellFormed := by rwa [WellFormed, ← same.1, ← same.2.1]
  exact (isSame_iff wa wb).mpr ⟨same.1, same.2.2, same.2.1 ▸ List.prefix_rfl, .inr same.2.1⟩

lemma convert_restores (wa : a.WellFormed) (old) : ∃ option ∈ lnnConvertAddrToOption a,
    ∃ b ∈ lnnConvertOptionToAddr old option a.type, a.Same b := by
  obtain ⟨type, s, p⟩ := a
  cases type with
  | wlan | eth | br | ble =>
    have copied : strncpyS _ s = some s := if_pos wa
    simp [lnnConvertAddrToOption, lnnConvertOptionToAddr, copied, Same, IsIp]
  | mix | max => exact wa.elim

theorem identified_iff {A : Set ConnectionAddr} (wf : ∀ a ∈ A, a.WellFormed) :
    Identified A ↔ ∀ a ∈ A, ∀ b ∈ A, a.IsIp → a.type = b.type → a.port = b.port →
      a.text.bytes <+: b.text.bytes → a.text = b.text := by
  constructor
  · intro h a ha b hb ip type port isPrefix
    have same := (isSame_iff (wf a ha) (wf b hb)).mpr ⟨type, fun _ => port, isPrefix, .inl ip⟩
    exact ((h.exactly a ha b hb).mp same).2.1
  · intro unlike
    have exactly : ∀ a ∈ A, ∀ b ∈ A, lnnIsSameConnectionAddr a b ↔ a.Same b := by
      refine fun a ha b hb => ⟨fun same => ?_, isSame_of_same (wf a ha)⟩
      obtain ⟨type, port, isPrefix, ip | text⟩ := (isSame_iff (wf a ha) (wf b hb)).mp same
      · exact ⟨type, unlike a ha b hb ip type (port ip) isPrefix, port⟩
      · exact ⟨type, text, port⟩
    refine ⟨exactly, ?_, fun a ha old => ?_⟩
    · simpa only [fun a b : A => exactly a a.2 b b.2] using equivalence_same.comap Subtype.val
    · obtain ⟨option, ho, b, hb, same⟩ := convert_restores (wf a ha) old
      exact ⟨option, ho, b, hb, isSame_of_same (wf a ha) same⟩

theorem identified_wlan_length : Identified {a | a.type = .wlan ∧ a.text.strlen = 11} := by
  refine (identified_iff fun a ha => ?_).mpr fun a ha b hb _ _ _ isPrefix => ?_
  · simp [WellFormed, ha.1, ha.2, ipLen]
  · exact CString.ext_bytes (isPrefix.eq_of_length (ha.2.trans hb.2.symm))

/-- `10.0.0.1` followed by `last`. -/
def host (last : Bytes) (noNul : 0 ∉ last) : ConnectionAddr where
  type := .wlan
  text := ⟨[0x31, 0x30, 0x2e, 0x30, 0x2e, 0x30, 0x2e, 0x31] ++ last, by simpa using noNul⟩
  port := 0

theorem not_identified_wellFormed : ¬ Identified {a | a.WellFormed} := by
  intro h
  let short : {a // WellFormed a} := ⟨host [] (by decide), by simp [WellFormed, host]; decide⟩
  let long : {a // WellFormed a} := ⟨host [0x32] (by decide), by simp [WellFormed, host]; decide⟩
  have there : lnnIsSameConnectionAddr short long := by decide
  exact absurd (h.equivalence.symm (x := short) (y := long) there) (by decide)

end ConnectionAddr
end DSoftBus.Lnn
