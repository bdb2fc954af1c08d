import DSoftBus.Lnn.DistributedLedger
import DSoftBus.Lib.Execution

/-!
The connection codes of the ledger against the BR connections of its nodes. The code of a
uuid should be there exactly while a node with that uuid is online over BR. But an added
node may take the place of a BR connection whose code stays; a node that is set offline
loses its code even when the call then leaves it online; a removed node keeps its code.
-/
namespace DSoftBus.Lnn

open Execution Option Function

def BrLive (info : NodeInfo) : Prop :=
  lnnIsNodeOnline info ∧ lnnHasDiscoveryType info .br
deriving Decidable

variable (old new : NodeInfo)

/-- A BR connection of a node that is added stays, or is new. -/
def keepsBr : Bool :=
  lnnHasDiscoveryType new .br || lnnHasDiscoveryType new .wifi ||
    (lnnHasDiscoveryType old .wifi && lnnHasDiscoveryType new .ble)

namespace DistributedLedger

variable (ledger : DistributedLedger)

def HasBr (uuid : CString) : Prop :=
  ∃ udid info, ledger.udidMap udid = some info ∧ BrLive info ∧ info.uuid = uuid

def OtherHasBr (udid uuid : CString) : Prop :=
  ∃ other, other ≠ udid ∧ ∃ info, ledger.udidMap other = some info ∧ BrLive info ∧ info.uuid = uuid

def Coded (uuid : CString) : Prop := (ledger.lnnGetCnnCode uuid .br).isSome

def CodesMatch : Prop :=
  ∀ uuid : CString, uuid.strlen < uuidBufLen → (ledger.Coded uuid ↔ ledger.HasBr uuid)

def ShortUuids : Prop :=
  ∀ udid info, ledger.udidMap udid = some info → info.uuid.strlen < uuidBufLen

def CodesKept : LedgerEvent → Prop
  | .addOnlineNode info _ =>
    ∀ old, ledger.udidMap info.deviceUdid = some old → BrLive old →
      (old.uuid = info.uuid ∧ keepsBr old info ∨ ledger.OtherHasBr info.deviceUdid old.uuid) ∧
      (keepsBr old info → lnnHasDiscoveryType info .br ∨ old.uuid = info.uuid ∨
        ledger.OtherHasBr info.deviceUdid info.uuid)
  | .setNodeOffline udid authId =>
    ∀ info, ledger.udidMap udid = some info → lnnHasDiscoveryType info .br →
      ¬ledger.OtherHasBr udid info.uuid ∧ (lnnIsNodeOnline info → lnnHasDiscoveryType info .wifi →
          info.authChannelId = authId)
  | .removeNode udid =>
    ∀ info, ledger.udidMap udid = some info → BrLive info → ledger.OtherHasBr udid info.uuid

structure CodesStep (ledger : DistributedLedger) (event : LedgerEvent)
    (ledger' : DistributedLedger) : Prop where
  codes : ledger'.CodesMatch
  refused : ∀ udid authId info, event = .setNodeOffline udid authId →
    ledger.udidMap udid = some info → lnnHasDiscoveryType info .wifi →
      info.authChannelId ≠ authId → ledger' = ledger

end DistributedLedger

open DistributedLedger

lemma lnnHasDiscoveryType_eq (info type) :
    lnnHasDiscoveryType info type = info.discoveryType.getLsbD type.number := by
  have mask : type.bit = BitVec.twoPow 32 type.number := by cases type <;> rfl
  rw [lnnHasDiscoveryType, mask, BitVec.and_twoPow]
  cases bit : info.discoveryType.getLsbD type.number with
  | false => simp
  | true => cases type <;> decide

/-- The types of a node are merged with those of the new description. -/
def merges : Bool :=
  (lnnHasDiscoveryType old .ble || lnnHasDiscoveryType old .br) && lnnHasDiscoveryType new .wifi ||
    lnnHasDiscoveryType old .wifi && (lnnHasDiscoveryType new .ble || lnnHasDiscoveryType new .br)

lemma getLsbD_mergeOnline (k) :
    (mergeOnline old new).discoveryType.getLsbD k = (new.discoveryType.getLsbD k ||
      merges old new && old.discoveryType.getLsbD k) := by
  simp only [mergeOnline, merges]
  split
  next h => simp [h, newWifiDiscovered]
  rename_i h
  rw [Bool.not_eq_true] at h
  split
  next h' => simp [h, h', newBrBleDiscovered]
  next h' =>
    rw [Bool.not_eq_true] at h'
    simp [h, h']

lemma uuid_mergeOnline : (mergeOnline old new).uuid = new.uuid := by
  simp only [mergeOnline]
  split
  · rfl
  · split <;> rfl

lemma createCnnCodeKey_eq_some {uuid key type}
    (h : createCnnCodeKey uuid type = some key) : key.bytes.tail = uuid.bytes := by
  simp only [createCnnCodeKey] at h
  split at h
  · cases h
  · cases h
    rfl

lemma createCnnCodeKey_eq_iff {uuid uuid' key key' type}
    (h : createCnnCodeKey uuid type = some key) (h' : createCnnCodeKey uuid' type = some key') :
    key = key' ↔ uuid = uuid' := by
  constructor
  · rintro rfl
    exact CString.ext_bytes ((createCnnCodeKey_eq_some h).symm.trans (createCnnCodeKey_eq_some h'))
  · rintro rfl
    exact Option.some.inj (h.symm.trans h')

lemma createCnnCodeKey_short {uuid} (short : uuid.strlen < uuidBufLen)
    (type) : ∃ key, createCnnCodeKey uuid type = some key := by
  refine ⟨_, if_neg (not_le.mpr short)⟩

namespace DistributedLedger
variable {l : DistributedLedger} {uuid uuid' udid : CString}

lemma coded_addCnnCode (short : uuid.strlen < uuidBufLen) (short' : uuid'.strlen < uuidBufLen)
    (authSeqNum) :
    (l.addCnnCode uuid' .br authSeqNum).Coded uuid ↔ l.Coded uuid ∨ uuid = uuid' := by
  obtain ⟨key, here⟩ := createCnnCodeKey_short short .br
  obtain ⟨key', here'⟩ := createCnnCodeKey_short short' .br
  simp only [Coded, lnnGetCnnCode, addCnnCode, here, here', bind_some]
  simp only [update_apply, createCnnCodeKey_eq_iff here here']
  split <;> simp [*]

lemma coded_removeCnnCode (short : uuid.strlen < uuidBufLen) (uuid') :
    (l.removeCnnCode uuid' .br).Coded uuid ↔ l.Coded uuid ∧ uuid ≠ uuid' := by
  obtain ⟨key, here⟩ := createCnnCodeKey_short short .br
  simp only [Coded, lnnGetCnnCode, removeCnnCode, here, bind_some]
  split
  next none =>
    have other : uuid ≠ uuid' := fun eq => by
      simp [eq, none] at here
    simp [other]
  next key' here' =>
    simp only [update_apply, createCnnCodeKey_eq_iff here here']
    split <;> simp [*]

lemma hasBr_iff (l : DistributedLedger) (udid uuid : CString) :
    l.HasBr uuid ↔ l.OtherHasBr udid uuid ∨
      ∃ info, l.udidMap udid = some info ∧ BrLive info ∧ info.uuid = uuid := by
  constructor
  · intro has
    obtain ⟨other, info, here, live, same⟩ := has
    by_cases eq : other = udid
    · exact .inr ⟨info, eq ▸ here, live, same⟩
    · exact .inl ⟨other, eq, info, here, live, same⟩
  · intro has
    cases has with
    | inl other =>
      obtain ⟨other, -, info, found⟩ := other
      exact ⟨other, info, found⟩
    | inr own =>
      obtain ⟨info, found⟩ := own
      exact ⟨udid, info, found⟩

variable {ledger' : DistributedLedger} {info : NodeInfo} {event : LedgerEvent}

lemma otherHasBr_congr (same : ∀ other, other ≠ udid → ledger'.udidMap other = l.udidMap other) :
    ledger'.OtherHasBr udid uuid ↔ l.OtherHasBr udid uuid := by
  refine exists_congr fun other => and_congr_right fun ne => ?_
  rw [same other ne]

lemma hasBr_update (nodes : ledger'.udidMap = update l.udidMap udid (some info)) :
    ledger'.HasBr uuid ↔ l.OtherHasBr udid uuid ∨ BrLive info ∧ info.uuid = uuid := by
  have others : ∀ other, other ≠ udid → ledger'.udidMap other = l.udidMap other :=
    fun other ne => by rw [nodes, update_of_ne ne]
  rw [hasBr_iff ledger' udid, otherHasBr_congr others, nodes]
  simp

lemma hasBr_removed : (l.lnnRemoveNode udid).HasBr uuid ↔ l.OtherHasBr udid uuid := by
  have others : ∀ other, other ≠ udid → (l.lnnRemoveNode udid).udidMap other = l.udidMap other :=
    fun other ne => update_of_ne ne _ _
  rw [hasBr_iff _ udid, otherHasBr_congr others]
  simp [lnnRemoveNode]

lemma onlineNode_eq_some {old} : l.onlineNode udid = some old ↔ l.udidMap udid = some old ∧
      lnnIsNodeOnline old := filter_eq_some_iff

lemma uuid_mergedNode (l : DistributedLedger) (info : NodeInfo) :
    (l.mergedNode info).uuid = info.uuid := by
  simp only [mergedNode]
  split
  · rfl
  · exact uuid_mergeOnline _ _

lemma brLive_online (info) :
    BrLive { info with status := .online } ↔ lnnHasDiscoveryType info .br :=
  ⟨And.right, fun br => ⟨rfl, br⟩⟩

lemma brLive_mergedNode (l : DistributedLedger) (info : NodeInfo) :
    BrLive (l.mergedNode info) ↔ lnnHasDiscoveryType info .br ∨
      ∃ old, l.udidMap info.deviceUdid = some old ∧ BrLive old ∧ keepsBr old info := by
  simp only [mergedNode]
  split
  next absent =>
    have none (old) (here : l.udidMap info.deviceUdid = some old) : ¬BrLive old := fun live =>
      some_ne_none _ ((onlineNode_eq_some.mpr ⟨here, live.1⟩).symm.trans absent)
    refine (brLive_online info).trans ⟨.inl, fun found => found.elim id fun kept => ?_⟩
    obtain ⟨old, here, live, -⟩ := kept
    exact absurd live (none old here)
  next old found =>
    obtain ⟨here, online⟩ := onlineNode_eq_some.mp found
    refine (brLive_online (mergeOnline old info)).trans ?_
    rw [lnnHasDiscoveryType_eq, getLsbD_mergeOnline, ← lnnHasDiscoveryType_eq,
      ← lnnHasDiscoveryType_eq]
    simp only [here, some.injEq, exists_eq_left', BrLive, online, true_and, keepsBr, merges]
    cases lnnHasDiscoveryType info .br <;> cases lnnHasDiscoveryType info .wifi <;>
      cases lnnHasDiscoveryType info .ble <;> cases lnnHasDiscoveryType old .br <;> simp

lemma codesMatch_congr {coded has : CString → Prop}
    (codes : ∀ uuid : CString, uuid.strlen < uuidBufLen → (ledger'.Coded uuid ↔ coded uuid))
    (nodes : ∀ uuid, ledger'.HasBr uuid ↔ has uuid) :
    ledger'.CodesMatch ↔ ∀ uuid : CString, uuid.strlen < uuidBufLen → (coded uuid ↔ has uuid) :=
  forall₂_congr fun uuid short => by rw [codes uuid short, nodes uuid]

lemma codesMatch_addOnlineNode_iff (codes : l.CodesMatch) (shorts : l.ShortUuids)
    (short : info.uuid.strlen < uuidBufLen) : (l.lnnAddOnlineNode info).1.CodesMatch ↔
      l.CodesKept (.addOnlineNode info short) := by
  have coded (uuid) (h : uuid.strlen < uuidBufLen) : (l.lnnAddOnlineNode info).1.Coded uuid ↔
        l.HasBr uuid ∨ lnnHasDiscoveryType info .br ∧ uuid = info.uuid := by
    rw [← codes uuid h]
    change (if lnnHasDiscoveryType info .br then l.addCnnCode info.uuid .br info.authSeqNum
      else l).Coded uuid ↔ _
    split
    next br => rw [coded_addCnnCode h short, and_iff_right br]
    next br => simp [br]
  have nodes (uuid) : (l.lnnAddOnlineNode info).1.HasBr uuid ↔
      l.OtherHasBr info.deviceUdid uuid ∨ BrLive (l.mergedNode info) ∧ info.uuid = uuid := by
    rw [← uuid_mergedNode l info]
    exact hasBr_update rfl
  rw [codesMatch_congr coded nodes]
  simp only [hasBr_iff l info.deviceUdid, brLive_mergedNode, CodesKept]
  constructor
  · intro equal old here live
    have atOld := (equal old.uuid (shorts _ _ here)).mp (.inl (.inr ⟨old, here, live, rfl⟩))
    refine ⟨?_, fun keeps => ?_⟩
    · cases atOld with
      | inl other => exact .inr other
      | inr own =>
        refine .inl ⟨own.2.symm, ?_⟩
        cases own.1 with
        | inl br => simp [keepsBr, br]
        | inr kept =>
          obtain ⟨old', here', -, keeps⟩ := kept
          cases here.symm.trans here'
          exact keeps
    · have atNew := (equal info.uuid short).mpr (.inr ⟨.inr ⟨old, here, live, keeps⟩, rfl⟩)
      cases atNew with
      | inr br => exact .inl br.1
      | inl before =>
        cases before with
        | inl other => exact .inr (.inr other)
        | inr own =>
          obtain ⟨old', here', -, same⟩ := own
          cases here.symm.trans here'
          exact .inr (.inl same)
  · intro kept uuid _
    constructor
    · intro before
      cases before with
      | inr br => exact .inr ⟨.inl br.1, br.2.symm⟩
      | inl before =>
        cases before with
        | inl other => exact .inl other
        | inr own =>
          obtain ⟨old, here, live, same⟩ := own
          cases (kept old here live).1 with
          | inl keeps => exact .inr ⟨.inr ⟨old, here, live, keeps.2⟩, keeps.1.symm.trans same⟩
          | inr other => exact .inl (same ▸ other)
    · intro after
      cases after with
      | inl other => exact .inl (.inl other)
      | inr own =>
        obtain ⟨br | ⟨old, here, live, keeps⟩, rfl⟩ := own
        · exact .inr ⟨br, rfl⟩
        · cases (kept old here live).2 keeps with
          | inl br => exact .inr ⟨br, rfl⟩
          | inr rest =>
            cases rest with
            | inl same => exact .inl (.inr ⟨old, here, live, same⟩)
            | inr other => exact .inl (.inl other)

section
variable {authId : BitVec 32} (here : l.udidMap udid = some info)
include here

lemma lnnSetNodeOffline_refused
    (wifi : lnnHasDiscoveryType info .wifi) (other : info.authChannelId ≠ authId) :
    (l.lnnSetNodeOffline udid authId).1 =
      if lnnHasDiscoveryType info .br then l.removeCnnCode info.uuid .br else l := by
  simp [lnnSetNodeOffline, here, wifi, other]

lemma lnnSetNodeOffline_done
    (fits : lnnHasDiscoveryType info .wifi → info.authChannelId = authId) :
    (l.lnnSetNodeOffline udid authId).1.udidMap =
        update l.udidMap udid (some { info with status := .offline }) := by
  cases wifi : lnnHasDiscoveryType info .wifi with
  | false => simp [lnnSetNodeOffline, here, wifi]
  | true => simp [lnnSetNodeOffline, here, fits wifi]

lemma coded_lnnSetNodeOffline (short : uuid.strlen < uuidBufLen) :
    (l.lnnSetNodeOffline udid authId).1.Coded uuid ↔
      l.Coded uuid ∧ ¬(lnnHasDiscoveryType info .br ∧ uuid = info.uuid) := by
  have codes : (l.lnnSetNodeOffline udid authId).1.connectionCode =
      (if lnnHasDiscoveryType info .br then l.removeCnnCode info.uuid .br
        else l).connectionCode := by
    simp only [lnnSetNodeOffline, here]
    split <;> rfl
  simp only [Coded, lnnGetCnnCode, codes]
  split
  next br =>
    rw [and_iff_right br]
    exact coded_removeCnnCode short info.uuid
  next br => simp [br]

/-- The node after the call: still there when it was refused, offline otherwise. -/
lemma hasBr_lnnSetNodeOffline :
    (l.lnnSetNodeOffline udid authId).1.HasBr uuid ↔ l.OtherHasBr udid uuid ∨
      (lnnHasDiscoveryType info .wifi ∧ info.authChannelId ≠ authId) ∧ BrLive info ∧
        info.uuid = uuid := by
  by_cases refused : lnnHasDiscoveryType info .wifi ∧ info.authChannelId ≠ authId
  · have nodes : (l.lnnSetNodeOffline udid authId).1.udidMap = l.udidMap := by
      rw [lnnSetNodeOffline_refused here refused.1 refused.2]
      split
      · exact udidMap_removeCnnCode ..
      · rfl
    have others : ∀ other, other ≠ udid →
        (l.lnnSetNodeOffline udid authId).1.udidMap other = l.udidMap other :=
      fun other _ => congrFun nodes other
    rw [and_iff_right refused, hasBr_iff _ udid, otherHasBr_congr others, nodes]
    simp [here]
  · simp only [not_and, not_not] at refused
    have nodes := lnnSetNodeOffline_done here refused
    have off : ¬BrLive { info with status := .offline } := fun live => by
      simp [BrLive, lnnIsNodeOnline] at live
    rw [hasBr_update nodes]
    simp only [off, false_and, or_false]
    refine ⟨.inl, fun has => has.elim id fun stays => ?_⟩
    exact absurd (refused stays.1.1) stays.1.2

end

lemma removeCnnCode_of_not_coded (absent : ¬l.Coded uuid) : l.removeCnnCode uuid .br = l := by
  simp only [Coded, lnnGetCnnCode] at absent
  simp only [removeCnnCode]
  split
  · rfl
  next key here =>
    simp only [here, bind_some, not_isSome_iff_eq_none] at absent
    rw [← absent, update_eq_self]

lemma codesStep_setNodeOffline_iff (codes : l.CodesMatch) (shorts : l.ShortUuids)
    (udid : CString) (authId : BitVec 32) :
    l.CodesStep (.setNodeOffline udid authId) (l.lnnSetNodeOffline udid authId).1 ↔
      l.CodesKept (.setNodeOffline udid authId) := by
  cases here : l.udidMap udid with
  | none =>
    have same : (l.lnnSetNodeOffline udid authId).1 = l := by
      simp [lnnSetNodeOffline, here]
    rw [same]
    exact ⟨fun _ info there => absurd (here.symm.trans there) (some_ne_none info).symm,
      fun _ => ⟨codes, fun _ _ _ _ _ _ _ => rfl⟩⟩
  | some info =>
    have short := shorts udid info here
    constructor
    · intro step other there br
      cases here.symm.trans there
      have equal := (coded_lnnSetNodeOffline here short).symm.trans
        ((step.codes info.uuid short).trans (hasBr_lnnSetNodeOffline here))
      have gone : ¬(l.OtherHasBr udid info.uuid ∨
          (lnnHasDiscoveryType info .wifi ∧ info.authChannelId ≠ authId) ∧ BrLive info ∧
            info.uuid = info.uuid) :=
        fun has => (equal.mpr has).2 ⟨br, rfl⟩
      simp only [not_or, and_true] at gone
      refine ⟨gone.1, fun online wifi => ?_⟩
      by_contra apart
      exact gone.2 ⟨⟨wifi, apart⟩, online, br⟩
    · intro kept
      refine ⟨fun uuid short' => ?_, fun udid' authId' info' same there wifi apart => ?_⟩
      · rw [coded_lnnSetNodeOffline here short', hasBr_lnnSetNodeOffline here,
          codes uuid short', hasBr_iff l udid]
        constructor
        · intro before
          obtain ⟨other | ⟨info', there, live, same⟩, gone⟩ := before
          · exact .inl other
          · cases here.symm.trans there
            exact absurd ⟨live.2, same.symm⟩ gone
        · intro after
          cases after with
          | inl other => exact ⟨.inl other, fun own => (kept info here own.1).1 (own.2 ▸ other)⟩
          | inr stays =>
            obtain ⟨⟨wifi, apart⟩, live, -⟩ := stays
            exact absurd ((kept info here live.2).2 live.1 wifi) apart
      · cases same
        cases here.symm.trans there
        rw [lnnSetNodeOffline_refused here wifi apart]
        split
        next br =>
          obtain ⟨noOther, fits⟩ := kept info here br
          refine removeCnnCode_of_not_coded fun coded => ?_
          rw [codes info.uuid short, hasBr_iff l udid] at coded
          cases coded with
          | inl other => exact noOther other
          | inr own =>
            obtain ⟨info', there, live, -⟩ := own
            cases here.symm.trans there
            exact apart (fits live.1 wifi)
        · rfl

lemma codesMatch_removeNode_iff (codes : l.CodesMatch) (shorts : l.ShortUuids) (udid : CString) :
    (l.lnnRemoveNode udid).CodesMatch ↔ l.CodesKept (.removeNode udid) := by
  have coded (uuid) (short : uuid.strlen < uuidBufLen) :
      (l.lnnRemoveNode udid).Coded uuid ↔ l.HasBr uuid := codes uuid short
  rw [codesMatch_congr coded fun _ => hasBr_removed]
  simp only [hasBr_iff l udid, CodesKept]
  constructor
  · intro equal info here live
    exact (equal info.uuid (shorts udid info here)).mp (.inr ⟨info, here, live, rfl⟩)
  · intro kept uuid _
    refine ⟨fun has => has.elim id fun own => ?_, .inl⟩
    obtain ⟨info, here, live, rfl⟩ := own
    exact kept info here live

lemma CodesStep.of_codes (other : ∀ udid authId, event ≠ .setNodeOffline udid authId) :
    l.CodesStep event ledger' ↔ ledger'.CodesMatch :=
  ⟨CodesStep.codes, fun codes => ⟨codes, fun _ _ _ same => absurd same (other _ _)⟩⟩

lemma codesStep_iff {out} (codes : l.CodesMatch)
    (shorts : l.ShortUuids) (done : ledgerStep l event = some (ledger', out)) :
    l.CodesStep event ledger' ↔ l.CodesKept event := by
  cases event with
  | addOnlineNode info short =>
    cases done
    exact .trans (CodesStep.of_codes nofun) (codesMatch_addOnlineNode_iff codes shorts short)
  | setNodeOffline udid authId =>
    cases done
    exact codesStep_setNodeOffline_iff codes shorts udid authId
  | removeNode udid =>
    cases done
    exact .trans (CodesStep.of_codes nofun) (codesMatch_removeNode_iff codes shorts udid)

lemma ShortUuids.update {node} (shorts : l.ShortUuids)
    (short : ∀ info, node = some info → info.uuid.strlen < uuidBufLen)
    (nodes : ledger'.udidMap = update l.udidMap udid node) : ledger'.ShortUuids := by
  intro other info here
  rw [nodes] at here
  by_cases same : other = udid
  · rw [same, update_self] at here
    exact short info here
  · rw [update_of_ne same] at here
    exact shorts other info here

lemma ledgerStep_shortUuids {out} (shorts : l.ShortUuids)
    (done : ledgerStep l event = some (ledger', out)) : ledger'.ShortUuids := by
  cases event with
  | addOnlineNode info short =>
    cases done
    refine shorts.update (fun node here => ?_) rfl
    cases here
    rw [uuid_mergedNode]
    exact short
  | removeNode udid =>
    cases done
    exact shorts.update (fun info none => absurd none.symm (some_ne_none info)) rfl
  | setNodeOffline udid authId =>
    cases done
    cases here : l.udidMap udid with
    | none => simpa [lnnSetNodeOffline, here] using shorts
    | some info =>
      by_cases refused : lnnHasDiscoveryType info .wifi ∧ info.authChannelId ≠ authId
      · rw [lnnSetNodeOffline_refused here refused.1 refused.2]
        split
        · simpa [ShortUuids, udidMap_removeCnnCode] using shorts
        · exact shorts
      · simp only [not_and, not_not] at refused
        refine shorts.update (fun node same => ?_) (lnnSetNodeOffline_done here refused)
        cases same
        exact shorts udid info here

end DistributedLedger

lemma ledger_run_defined (ledger events) :
    ∃ ledger' outs, run ledgerStep ledger events = some (ledger', outs) := by
  have defined (t : DistributedLedger) (event : LedgerEvent) (_ _ : True) :
      ∃ t' out, ledgerStep t event = some (t', out) ∧ True := by
    cases event <;> exact ⟨_, _, rfl, trivial⟩
  obtain ⟨ledger', outs, hRun, -⟩ := @run_defined _ _ _ _ _ _ defined ledger events trivial
    fun _ _ _ _ _ _ _ => trivial
  exact ⟨ledger', outs, hRun⟩

/-- After every call the codes are those of the live BR connections, and a call refused for its
authentication changes nothing, if and only if every call meets the condition. -/
theorem ledger_codes_iff (events : List LedgerEvent) :
    AllResults ledgerStep (fun ledger event ledger' _ => ledger.CodesStep event ledger')
        .init events ↔ AllSteps ledgerStep DistributedLedger.CodesKept .init events := by
  have one (t event t') (out : List ReportCategory) (inv : t.CodesMatch ∧ t.ShortUuids)
      (done : ledgerStep t event = some (t', out)) : t.CodesStep event t' ↔ t.CodesKept event :=
    codesStep_iff inv.1 inv.2 done
  have codes : init.CodesMatch := fun uuid short => by
    obtain ⟨key, here⟩ := createCnnCodeKey_short short .br
    simp [DistributedLedger.Coded, lnnGetCnnCode, here, init,
      DistributedLedger.HasBr]
  have shorts : init.ShortUuids := by
    simp [DistributedLedger.ShortUuids, init]
  obtain ⟨ledger, outs, hRun⟩ := ledger_run_defined .init events
  refine allResults_iff_allSteps_of_inv one (fun t event t' out inv ok done => ?_) ⟨codes, shorts⟩
    hRun
  exact ⟨((one t event t' out inv done).mpr ok).codes,
    ledgerStep_shortUuids inv.2 done⟩

def codeAndNode (ledger : DistributedLedger) : Option (BitVec 16) × Option Bool :=
  (ledger.lnnGetCnnCode (ledgerNode .br 0).uuid .br,
    (ledger.udidMap (ledgerNode .br 0).deviceUdid).map fun info => decide (BrLive info))

/-- The WiFi connection's offline call is refused, but the code of the BR connection is gone;
and a removed node leaves its code. -/
theorem code_lost_or_left : ((run ledgerStep .init [.addOnlineNode (ledgerNode .wifi 1) (by decide),
        .addOnlineNode (ledgerNode .br 2) (by decide)]).map fun result =>
          (codeAndNode result.1, result.2)) = some ((some 2, some true), [.online, .none]) ∧
    ((run ledgerStep .init [.addOnlineNode (ledgerNode .wifi 1) (by decide),
        .addOnlineNode (ledgerNode .br 2) (by decide),
        .setNodeOffline (ledgerNode .wifi 1).deviceUdid 1]).map fun result =>
          (codeAndNode result.1, result.2)) = some ((none, some true), [.online, .none, .none]) ∧
    ((run ledgerStep .init [.addOnlineNode (ledgerNode .br 2) (by decide),
        .removeNode (ledgerNode .br 2).deviceUdid]).map fun result => codeAndNode result.1) =
      some (some 2, none) := by
  refine ⟨?_, ?_, ?_⟩ <;> decide +kernel

end DSoftBus.Lnn
