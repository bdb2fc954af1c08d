import DSoftBus.Trans.ProxyRefinement

/-!
What the application hears of a channel: that it was opened and then that it was closed,
or only that it could not be opened, and the last word before the channel is gone. Notices
that wait in the loop count as heard.

Three handlers do not ask for the state of the channel: an ack opens a channel once more,
a reset closes one that was never opened, and a handshake that cannot be sent fails one
that is open.
-/
namespace DSoftBus.Proxy
open List Option
open Execution RecordHeap

def heard (h : Nat) (notes : List (Nat × Notice)) : List Notice :=
  (notes.filter fun note => note.1 = h).map Prod.snd

section
variable {h g : Nat} {notice : Notice}

lemma heard_append (front back) : heard h (front ++ back) = heard h front ++ heard h back := by
  rw [heard, filter_append, map_append]
  rfl

@[simp] lemma heard_self (notices) : heard h (notices.map fun notice => (h, notice)) = notices := by
  induction notices with
  | nil => rfl
  | cons notice rest ih =>
    rw [map_cons, heard, filter_cons_of_pos (by simp), map_cons]
    exact congrArg (notice :: ·) ih

@[simp] lemma heard_other (other : g ≠ h) (notices : List Notice) :
    heard g (notices.map fun notice => (h, notice)) = [] := by
  have none : (notices.map fun notice => (h, notice)).filter (fun note => note.1 = g) = [] := by
    refine filter_eq_nil_iff.mpr fun note mem same => other ?_
    obtain ⟨_, _, rfl⟩ := mem_map.mp mem
    exact (of_decide_eq_true same).symm
  rw [heard, none]
  rfl

lemma heard_all {heap : RecordHeap Role} {p : Role → Bool} {f : Role → Notice} :
    heard h ((heap.all p).map fun item => (item.1, f item.2)) =
      ((heap.get? h).filter p).toList.map f := by
  rw [heard, List.filter_map, List.map_map]
  change ((heap.all p).filter fun cell => cell.1 = h).map _ = _
  rw [filter_all, List.map_map]
  rfl

end

/-- What was heard of a live channel; none is ever in one of the other states. -/
def Role.heard (role : Role) : Option (List Notice) :=
  match role.stage with
  | .connecting | .shaking => some []
  | .opened => some [.opened]
  | .over => none

/-- The causes of which the application is told. -/
def RemovalCause.notifies : RemovalCause → Bool
  | .timeout | .reset | .connectionLost | .connectFailed | .handshakeFailed => true
  | .closedLocally | .applicationDied | .connectRefused => false

structure WholeLife (word : List Notice) (removals : List (Nat × RemovalCause)) (h : Nat) :
    Prop where
  order : word <+: [.opened, .closed] ∨ word <+: [.openFailed]
  last : ∀ cause, (h, cause) ∈ removals → cause.notifies →
    word = [.opened, .closed] ∨ word = [.openFailed]

def untimelyForbidden : Permits :=
  { Permits.everything with
    acks := fun role told => role.stage ≠ .opened && told
    resets := fun role _ => role.stage ≠ .connecting
    shakes := fun found => found.all fun role => role.stage ≠ .opened }

section
variable {role : Role} {word : List Notice} {removals : List (Nat × RemovalCause)} {h : Nat}

lemma WholeLife.complete (whole : word = [.opened, .closed] ∨ word = [.openFailed]) :
    WholeLife word removals h where
  order := by
    rcases whole with rfl | rfl
    · exact .inl (prefix_refl _)
    · exact .inr (prefix_refl _)
  last := fun _ _ _ => whole

lemma WholeLife.silent (order : word <+: [.opened, .closed])
    (silent : ∀ cause, (h, cause) ∈ removals → cause.notifies = false) :
    WholeLife word removals h where
  order := .inl order
  last := by
    intro cause mem notifies
    simp [silent cause mem] at notifies

section

variable (said : role.heard = some word)
include said

lemma prefix_of_heard : word <+: [.opened, .closed] := by
  unfold Role.heard at said
  split at said <;> cases said
  · exact nil_prefix
  · exact nil_prefix
  · exact ⟨[.closed], rfl⟩

lemma whole_of_endNotice :
    word ++ [role.endNotice] = [.opened, .closed] ∨ word ++ [role.endNotice] = [.openFailed] := by
  rw [Role.heard] at said
  rw [Role.endNotice]
  cases stage : role.stage with
  | connecting | shaking =>
    rw [stage] at said
    cases said
    exact .inr rfl
  | opened =>
    rw [stage] at said
    cases said
    exact .inl rfl
  | _ =>
    simp [stage] at said

lemma whole_of_failed (notYet : role.stage ≠ .opened) :
    word ++ [.openFailed] = [.opened, .closed] ∨ word ++ [.openFailed] = [.openFailed] := by
  unfold Role.heard at said
  split at said <;> cases said
  · exact .inr rfl
  · exact .inr rfl
  next stage => exact absurd stage notYet

lemma whole_of_reset (begun : role.stage ≠ .connecting) :
    word ++ [role.resetNotice] = [.opened, .closed] ∨
      word ++ [role.resetNotice] = [.openFailed] := by
  unfold Role.heard at said
  unfold Role.resetNotice
  split at said <;> cases said
  all_goals rename_i stage
  · exact absurd stage begun
  · rw [if_pos stage]
    exact .inr rfl
  · rw [stage, if_neg nofun]
    exact .inl rfl

end

end

/-- A live channel is heard of as its state says; nothing of it waits in the loop. -/
structure Alive (l : Ledger) (past : Told) (h : Nat) (role : Role) : Prop where
  said : role.heard = some (heard h past.notes)
  idle : heard h l.notes = []
  kept : ∀ cause, (h, cause) ∉ past.removals

structure Life (l : Ledger) (past : Told) (h : Nat) : Prop where
  alive : ∀ role, l.channels.get? h = some role → Alive l past h role
  gone : l.channels.get? h = none → WholeLife (heard h (past.notes ++ l.notes)) past.removals h
  unborn : l.channels.next ≤ h →
    heard h (past.notes ++ l.notes) = [] ∧ ∀ cause, (h, cause) ∉ past.removals

namespace Life
variable {l l' : Ledger} {past told : Told} {h : Nat} {role : Role}

lemma word_eq : heard h ((past ++ told).notes ++ l'.notes) =
    heard h past.notes ++ (heard h told.notes ++ heard h l'.notes) := by
  rw [Told.notes_append, heard_append, heard_append, append_assoc]

lemma not_mem_removals {cause} (before : (h, cause) ∉ past.removals)
    (now : (h, cause) ∉ told.removals) : (h, cause) ∉ (past ++ told).removals := by
  rw [Told.removals_append, mem_append]
  exact not_or.mpr ⟨before, now⟩

lemma of_alive (here : l.channels.get? h = some role) (alive : Alive l past h role) :
    Life l past h := by
  refine ⟨?_, ?_, fun above => absurd (lt_next here) (not_lt.mpr above)⟩
  · intro other found
    rw [here] at found
    cases found
    exact alive
  · intro none
    simp [here] at none

section

variable (life : Life l past h)
include life

lemma keeps (next : l.channels.next ≤ l'.channels.next)
    (same : (l'.channels.get? h).map Role.heard = (l.channels.get? h).map Role.heard)
    (order : heard h told.notes ++ heard h l'.notes = heard h l.notes)
    (kept : ∀ cause, (h, cause) ∉ told.removals) : Life l' (past ++ told) h := by
  have word : heard h ((past ++ told).notes ++ l'.notes) = heard h (past.notes ++ l.notes) := by
    rw [word_eq, order, heard_append]
  have removals : ∀ cause, (h, cause) ∈ (past ++ told).removals → (h, cause) ∈ past.removals := by
    intro cause mem
    rw [Told.removals_append, mem_append] at mem
    exact mem.resolve_right (kept cause)
  refine ⟨?_, ?_, ?_⟩
  · intro role here
    rw [here, map_some] at same
    obtain ⟨old, before, heardSame⟩ := map_eq_some_iff.mp same.symm
    obtain ⟨said, idle, absent⟩ := life.alive old before
    rw [idle] at order
    obtain ⟨quiet, idle'⟩ := append_eq_nil_iff.mp order
    refine ⟨?_, idle', fun cause mem => absent cause (removals cause mem)⟩
    rw [← heardSame, said, Told.notes_append, heard_append, quiet, append_nil]
  · intro none
    rw [none, map_none] at same
    have old := life.gone (map_eq_none_iff.mp same.symm)
    rw [word]
    exact ⟨old.order, fun cause mem => old.last cause (removals cause mem)⟩
  · intro above
    obtain ⟨silent, absent⟩ := life.unborn (le_trans next above)
    rw [word]
    exact ⟨silent, fun cause mem => absent cause (removals cause mem)⟩

lemma changes {role'} (before : l.channels.get? h = some role)
    (here : l'.channels.get? h = some role') (notes : l'.notes = l.notes)
    (removals : told.removals = [])
    (said : ∀ word, role.heard = some word → role'.heard = some (word ++ heard h told.notes)) :
    Life l' (past ++ told) h := by
  obtain ⟨said', idle, absent⟩ := life.alive role before
  refine of_alive here
    ⟨?_, notes ▸ idle, fun cause => not_mem_removals (absent cause) (by simp [removals])⟩
  rw [Told.notes_append, heard_append]
  exact said _ said'

lemma begins (new : l.channels.next ≤ h)
    (here : l'.channels.get? h = some role) (notes : l'.notes = l.notes)
    (removals : told.removals = []) (said : role.heard = some (heard h told.notes)) :
    Life l' (past ++ told) h := by
  obtain ⟨silent, absent⟩ := life.unborn new
  rw [heard_append, append_eq_nil_iff] at silent
  refine of_alive here
    ⟨?_, notes ▸ silent.2, fun cause => not_mem_removals (absent cause) (by simp [removals])⟩
  rw [Told.notes_append, heard_append, silent.1, nil_append, said]

lemma passes (new : l.channels.next ≤ h) (old : h < l'.channels.next)
    (absent : l'.channels.get? h = none) (notes : l'.notes = l.notes)
    (whole : WholeLife (heard h told.notes) told.removals h) : Life l' (past ++ told) h := by
  obtain ⟨silent, unknown⟩ := life.unborn new
  rw [heard_append, append_eq_nil_iff] at silent
  refine ⟨?_, ?_, fun above => absurd old (not_lt.mpr above)⟩
  · intro role found
    simp [absent] at found
  · intro _
    rw [word_eq, notes, silent.1, silent.2, append_nil, nil_append]
    refine ⟨whole.order, fun cause mem => whole.last cause ?_⟩
    rw [Told.removals_append, mem_append] at mem
    exact mem.resolve_left (unknown cause)

lemma ends (before : l.channels.get? h = some role)
    (absent : l'.channels.get? h = none) (next : l'.channels.next = l.channels.next)
    (whole : ∀ word, role.heard = some word → heard h l.notes = [] →
      WholeLife (word ++ (heard h told.notes ++ heard h l'.notes)) told.removals h) :
    Life l' (past ++ told) h := by
  obtain ⟨said, idle, unknown⟩ := life.alive role before
  refine ⟨?_, ?_, ?_⟩
  · intro role found
    simp [absent] at found
  · intro _
    have end' := whole _ said idle
    rw [word_eq]
    refine ⟨end'.order, fun cause mem => end'.last cause ?_⟩
    rw [Told.removals_append, mem_append] at mem
    exact mem.resolve_left (unknown cause)
  · intro above
    rw [next] at above
    exact absurd (lt_next before) (not_lt.mpr above)

end

end Life

def Lives (l : Ledger) (past : Told) : Prop := ∀ h, Life l past h

namespace Lives
variable {l l' : Ledger} {past told : Told} {role : Role}

section
variable (lives : Lives l past)
include lives

lemma same (next : l.channels.next ≤ l'.channels.next)
    (chans : ∀ h, (l'.channels.get? h).map Role.heard = (l.channels.get? h).map Role.heard)
    (order : told.notes ++ l'.notes = l.notes) (kept : told.removals = []) :
    Lives l' (past ++ told) := by
  intro h
  refine (lives h).keeps next (chans h) ?_ (by simp [kept])
  rw [← heard_append, order]

lemma adds (word : List Notice)
    (chans : l'.channels = l.channels.alloc role) (notes : l'.notes = l.notes)
    (told_eq : told.notes = word.map fun notice => (l.channels.next, notice))
    (kept : told.removals = []) (said : role.heard = some word) : Lives l' (past ++ told) := by
  intro h
  by_cases new : h = l.channels.next
  · subst new
    refine (lives _).begins le_rfl (chans ▸ get?_alloc_next) notes kept ?_
    rw [told_eq, heard_self, said]
  · refine (lives h).keeps (chans ▸ Nat.le_succ _) ?_ ?_ (by simp [kept])
    · rw [chans, get?_alloc_of_ne new]
    · rw [told_eq, heard_other new, notes, nil_append]

lemma passes (word : List Notice) (causes : List RemovalCause)
    (chans : l'.channels = l.channels.reserve) (notes : l'.notes = l.notes)
    (told_notes : told.notes = word.map fun notice => (l.channels.next, notice))
    (told_removals : told.removals = causes.map fun cause => (l.channels.next, cause))
    (whole : WholeLife word told.removals l.channels.next) : Lives l' (past ++ told) := by
  intro h
  by_cases new : h = l.channels.next
  · subst new
    have absent : l'.channels.get? l.channels.next = none := by
      rw [chans, get?_reserve]
      cases found : l.channels.get? l.channels.next with
      | none => rfl
      | some role => exact absurd (lt_next found) (lt_irrefl _)
    refine (lives _).passes le_rfl (chans ▸ lt_add_one _) absent notes ?_
    rw [told_notes, heard_self]
    exact whole
  · refine (lives h).keeps (chans ▸ Nat.le_succ _) (by rw [chans, get?_reserve]) ?_ ?_
    · rw [told_notes, heard_other new, notes, nil_append]
    · intro cause mem
      rw [told_removals] at mem
      obtain ⟨_, _, same⟩ := mem_map.mp mem
      exact new (congrArg Prod.fst same).symm

variable {cause : RemovalCause}

lemma drops {g} (here : l.channels.get? g = some role)
    (chans : l'.channels = l.channels.free g)
    (others : ∀ h, h ≠ g → heard h told.notes ++ heard h l'.notes = heard h l.notes)
    (removals : told.removals = [(g, cause)])
    (whole : ∀ word, role.heard = some word → heard g l.notes = [] →
      WholeLife (word ++ (heard g told.notes ++ heard g l'.notes)) told.removals g) :
    Lives l' (past ++ told) := by
  intro h
  by_cases same : h = g
  · subst same
    exact (lives _).ends here (chans ▸ get?_free_self) (chans ▸ rfl) whole
  · refine (lives h).keeps (chans ▸ le_refl _) ?_ (others h same) ?_
    · rw [chans, get?_free_of_ne same]
    · intro cause mem
      rw [removals, mem_singleton] at mem
      exact same (congrArg Prod.fst mem)

lemma dropsAll {p f} (chans : l'.channels = l.channels.freeAll p)
    (notes : ∀ h, heard h l.notes = [] ∨ (l.channels.get? h).filter p = none →
      heard h told.notes ++ heard h l'.notes =
        heard h l.notes ++ ((l.channels.get? h).filter p).toList.map f)
    (removals : told.removals = (l.channels.all p).map fun item => (item.1, cause))
    (whole : ∀ role word, p role → role.heard = some word →
      word ++ [f role] = [.opened, .closed] ∨ word ++ [f role] = [.openFailed]) :
    Lives l' (past ++ told) := by
  intro h
  have get : l'.channels.get? h = (l.channels.get? h).filter fun role => !p role :=
    chans ▸ get?_freeAll_eq
  cases found : (l.channels.get? h).filter p with
  | none =>
    have kept : (l.channels.get? h).filter (fun role => !p role) = l.channels.get? h := by
      cases before : l.channels.get? h with
      | none => rfl
      | some role =>
        rw [before, filter_eq_none_iff] at found
        simpa [filter] using found role rfl
    refine (lives h).keeps (chans ▸ le_refl _) (by rw [get, kept]) ?_ ?_
    · rw [notes h (.inr found), found]
      exact append_nil _
    · intro cause' mem
      rw [removals] at mem
      obtain ⟨⟨_, role⟩, mem', eq⟩ := mem_map.mp mem
      cases eq
      obtain ⟨before, holds⟩ := mem_all.mp mem'
      rw [before, filter_eq_none_iff] at found
      exact found role rfl holds
  | some role =>
    obtain ⟨before, holds⟩ := filter_eq_some_iff.mp found
    have gone : l'.channels.get? h = none := by
      rw [get, before]
      simp [holds]
    refine (lives h).ends before gone (chans ▸ rfl) fun word said idle => .complete ?_
    rw [notes h (.inl idle), found, idle]
    exact whole role word holds said

end

lemma heard_connectAll (reqId connId : BitVec 32) (h : Nat) :
    ((l.connectAll reqId connId).channels.get? h).map Role.heard =
      (l.channels.get? h).map Role.heard := by
  rw [Ledger.connectAll, get?_map, Option.map_map]
  refine congrArg (Option.map · (l.channels.get? h)) (funext fun role => ?_)
  rw [Function.comp_apply, Role.connect]
  split
  next waits =>
    have stage : role.stage = .connecting := by
      simp only [Role.waitsFor, Bool.and_eq_true, decide_eq_true_eq] at waits
      exact waits.2
    simp [Role.heard, stage]
  · rfl

lemma heard_of_stage {stage} (is : role.stage = stage)
    (early : stage = .connecting ∨ stage = .shaking) : role.heard = some [] := by
  rw [Role.heard, is]
  rcases early with rfl | rfl <;> rfl

lemma acked {g} (lives : Lives l past) (here : l.channels.get? g = some role)
    (notYet : role.stage ≠ .opened) : Lives { l with channels := l.channels.modify g Role.open_ }
      (past ++ { notes := [(g, .opened)] }) := by
  intro h
  by_cases same : h = g
  · subst same
    have now : (l.channels.modify h Role.open_).get? h = some role.open_ := by
      rw [get?_modify_self, here]
      rfl
    refine (lives h).changes here now rfl rfl fun word said => ?_
    have silent : word = [] := by
      unfold Role.heard at said
      split at said <;> cases said
      · rfl
      · rfl
      next stage => exact absurd stage notYet
    rw [silent]
    exact congrArg some (heard_self [.opened]).symm
  · refine (lives h).keeps (le_refl _) ?_ ?_ nofun
    · exact congrArg (Option.map Role.heard) (get?_modify_of_ne same)
    · exact congrArg (· ++ _) (heard_other same [.opened])

lemma released {g : Nat} {connId notice} {calls connections} (lives : Lives l past)
    (here : l.channels.get? g = some role)
    (released : Released untimelyForbidden role connId cause notice) :
    Lives { l.drop g with connections := connections }
      (past ++ { notes := notice.toList.map fun notice => (g, notice)
                 removals := [(g, cause)]
                 calls := calls }) := by
  refine lives.drops here rfl (fun h other => ?_) rfl fun word said idle => ?_
  · exact congrArg (· ++ _) (heard_other other _)
  · rw [heard_self]
    change WholeLife (word ++ (notice.toList ++ heard g l.notes)) _ g
    rw [idle, append_nil]
    cases released with
    | reset ok =>
      exact .complete (whole_of_reset said (of_decide_eq_true ok))
    | handshakeFailed ok =>
      exact .complete (whole_of_failed said (of_decide_eq_true ok))
    | died =>
      refine .silent ?_ fun cause mem => ?_
      · rw [toList_none, append_nil]
        exact prefix_of_heard said
      · cases mem_singleton.mp mem
        rfl

lemma move (lives : Lives l past) (move : Move untimelyForbidden l told l') :
    Lives l' (past ++ told) := by
  cases move with
  | quiet | orphan | releasedLater => exact lives.same (le_refl _) (fun _ => rfl) rfl rfl
  | acked here ok =>
    obtain ⟨notYet, rfl⟩ := Bool.and_eq_true_iff.mp ok
    exact lives.acked here (of_decide_eq_true notYet)
  | waits _ _ stage | requested _ _ stage | stranded _ _ stage =>
    exact lives.adds [] rfl rfl rfl rfl (heard_of_stage stage (.inl rfl))
  | attached _ _ stage => exact lives.adds [] rfl rfl rfl rfl (heard_of_stage stage (.inr rfl))
  | woken | connected => exact lives.same (le_refl _) (heard_connectAll _ _) rfl rfl
  | @admitted _ _ role _ _ stage =>
    have said : role.heard = some [.opened] := by rw [Role.heard, stage]
    exact lives.adds [.opened] rfl rfl rfl rfl said
  | refused _ told =>
    cases told with
    | true => exact lives.passes [.opened] [] rfl rfl rfl rfl (.silent ⟨[.closed], rfl⟩ (by simp))
    | false => exact lives.passes [] [] rfl rfl rfl rfl (.silent nil_prefix (by simp))
  | turnedAway =>
    exact lives.passes [.opened, .closed] [.handshakeFailed] rfl rfl rfl rfl
      (.complete (.inl rfl))
  | connectRefused =>
    refine lives.passes [] [.connectRefused] rfl rfl rfl rfl ?_
    refine .silent nil_prefix fun cause mem => ?_
    cases mem_singleton.mp mem
    rfl
  | lost =>
    refine lives.dropsAll rfl (fun h quiet => ?_) rfl fun _ _ _ said => whole_of_endNotice said
    rw [heard_all]
    rcases quiet with idle | none
    · change _ ++ heard h l.notes = _
      rw [idle, append_nil, nil_append]
    · rw [none]
      exact (append_nil _).symm
  | failed reqId =>
    refine lives.dropsAll (f := fun _ => .openFailed) rfl (fun h _ => ?_) rfl
      fun role word waits said => whole_of_failed said ?_
    · rw [heard_append, heard_all (f := fun _ => .openFailed)]
      rfl
    · simp only [Role.waitsFor, Bool.and_eq_true, decide_eq_true_eq] at waits
      rw [waits.2]
      simp
  | @closed g role here =>
    refine lives.drops here rfl (fun _ _ => rfl) rfl fun word said idle => ?_
    refine .silent ?_ fun cause mem => ?_
    · change word ++ heard g l.notes <+: _
      rw [idle, append_nil]
      exact prefix_of_heard said
    · cases mem_singleton.mp mem
      rfl
  | @timedOut g role here =>
    have self : heard g [(g, role.endNotice)] = [role.endNotice] := heard_self [_]
    refine lives.drops here rfl (fun h other => ?_) rfl fun word said idle => ?_
    · have none : heard h [(g, role.endNotice)] = [] := heard_other other [_]
      rw [heard_append, none, append_nil]
      rfl
    · rw [heard_append, idle, self]
      exact .complete (whole_of_endNotice said)
  | released here released => exact lives.released here released
  | noticed first => exact lives.same (le_refl _) (fun _ => rfl) first.symm rfl

lemma init : Lives ProxyManager.init.ledger {} := by
  intro h
  refine ⟨fun _ => nofun, fun _ => .silent nil_prefix nofun, fun _ => ⟨rfl, fun _ => nofun⟩⟩

end Lives

def LifeCycles (s : ProxyManager) (out : List ProxyEvent) : Prop :=
  ∀ h, WholeLife (heard h ((toldBy out).notes ++ s.ledger.notes)) (toldBy out).removals h

lemma Lives.lifeCycles {s out} (lives : Lives s.ledger (toldBy out)) : LifeCycles s out := by
  intro h
  cases found : s.ledger.channels.get? h with
  | none => exact (lives h).gone found
  | some role =>
    obtain ⟨said, idle, kept⟩ := (lives h).alive role found
    rw [heard_append, idle, append_nil]
    exact .silent (prefix_of_heard said) fun cause mem => absurd mem (kept cause)

theorem run_lifeCycles {inputs : List (Env × ManagerInput)} {s : ProxyManager}
    {out : List ProxyEvent}
    (timely : AllSteps managerStep (fun s input => guarded untimelyForbidden s input)
      .init inputs)
    (result : run managerStep .init inputs = some (s, out)) : LifeCycles s out := by
  have moves := run_moves timely result
  have lives := moves.invariant (fun _ _ _ _ lives move => Lives.move lives move) Lives.init
  rw [Told.nil_append] at lives
  exact lives.lifeCycles

def lostChannel : List (Env × ManagerInput) := openedChannel ++ [(.good, .disconnected 7)]

theorem run_lifeCycles_lostChannel :
    AllSteps managerStep (fun s input => guarded untimelyForbidden s input) .init
        lostChannel ∧ ∃ s out, run managerStep .init lostChannel = some (s, out) ∧
        (toldBy out).notes = [(0, .opened), (0, .closed)] ∧
        (toldBy out).removals = [(0, .connectionLost)] ∧ LifeCycles s out := by
  have timely : AllSteps managerStep (fun s input => guarded untimelyForbidden s input) .init
      lostChannel := by
    decide +kernel
  have reached : ∃ r ∈ run managerStep .init lostChannel,
      (toldBy r.2).notes = [(0, .opened), (0, .closed)] ∧
        (toldBy r.2).removals = [(0, .connectionLost)] := by
    decide +kernel
  obtain ⟨⟨s, out⟩, result, notes, removals⟩ := reached
  exact ⟨timely, s, out, result, notes, removals, run_lifeCycles timely result⟩

def ackedTwice : List (Env × ManagerInput) :=
  openedChannel ++ [(.good, .message (plainMessage .handshakeAck 0x200 0x500 7))]

/-- The application is told twice that the channel is open. -/
theorem ackedTwice_not_lifeCycles :
    ∃ s out, run managerStep .init ackedTwice = some (s, out) ∧ ¬ LifeCycles s out := by
  have reached : ∃ r ∈ run managerStep .init ackedTwice,
      heard 0 ((toldBy r.2).notes ++ r.1.ledger.notes) = [.opened, .opened] := by
    decide +kernel
  obtain ⟨⟨s, out⟩, result, twice⟩ := reached
  refine ⟨s, out, result, fun holds => ?_⟩
  have order := (holds 0).order
  rw [twice] at order
  exact absurd order (by decide)

end DSoftBus.Proxy
