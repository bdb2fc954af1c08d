import DSoftBus.Adapter

/-!
The permission check of a session name (permission_entry.c). The first entry whose pattern
is that of the name decides: a DBinder name is granted, any other one if an app info of
the entry admits the caller. No entry and no app info mean denied.

The package name of an app info is not compared if the caller has none.
-/
namespace DSoftBus.Permission

def systemApp : Int := 0
def nativeApp : Int := 1
def selfApp : Int := 2
def normalApp : Int := 3
def grantedApp : Int := 4

def actionCreate : BitVec 32 := 0x1
def actionOpen : BitVec 32 := 0x2

def invalidParam : Int := -998
def permissionDenied : Int := -992

structure SoftBusPermissionItem where
  permType : Int
  uid : Int
  pid : Int
  pkgName : Option Bytes
  actions : BitVec 32

structure SoftBusAppInfo where
  type : Int
  pkgName : Bytes
  actions : BitVec 32
  uid : Int
  pid : Int

structure SoftBusPermissionEntry where
  sessionName : Bytes
  regexp : Bool
  appInfo : List SoftBusAppInfo

def strIsEmpty (string : Option Bytes) : Bool := string = none || string = some []

/-- `regMatch pattern name` says that the pattern compiles and matches. -/
def compareString (regMatch : Bytes → Bytes → Bool) (src : Bytes)
    (dest : Option Bytes) (regexp : Bool) : Bool :=
  match dest with
  | none => false
  | some dest => if regexp then regMatch src dest else src = dest

def getPermType (appInfo : SoftBusAppInfo) (pItem : SoftBusPermissionItem) : Int :=
  let ofSystem := pItem.permType = systemApp ∨ pItem.permType = nativeApp
  if appInfo.type = nativeApp ∨ appInfo.type = systemApp then
    if ofSystem then pItem.permType else permissionDenied
  else if appInfo.type = grantedApp then
    if pItem.actions = actionCreate then
      if ofSystem ∨ pItem.permType = normalApp then pItem.permType else permissionDenied
    else if pItem.actions = actionOpen ∧ pItem.permType = grantedApp then appInfo.type
    else permissionDenied
  else if appInfo.type = normalApp then
    if ofSystem ∨ pItem.permType = normalApp then pItem.permType else permissionDenied
  else if appInfo.type = selfApp ∧ pItem.permType = selfApp then selfApp
  else permissionDenied

section
variable (regMatch : Bytes → Bytes → Bool)

/-- No test of the loop body goes on to the next app info. -/
def SoftBusAppInfo.passes (pItem : SoftBusPermissionItem) (appInfo : SoftBusAppInfo) : Bool :=
  appInfo.actions &&& pItem.actions = pItem.actions && 0 ≤ getPermType appInfo pItem &&
    (appInfo.uid < 0 || appInfo.uid = pItem.uid) && (appInfo.pid < 0 || appInfo.pid = pItem.pid) &&
    (strIsEmpty (some appInfo.pkgName) || strIsEmpty pItem.pkgName ||
      compareString regMatch appInfo.pkgName pItem.pkgName false)

def checkPermissionAppInfo (pe : SoftBusPermissionEntry) (pItem : SoftBusPermissionItem) : Int :=
  if pItem.actions = 0 then permissionDenied
  else match pe.appInfo.find? (·.passes regMatch pItem) with
    | some appInfo => getPermType appInfo pItem
    | none => permissionDenied

def checkDBinder (sessionName : Bytes) : Bool :=
  sessionName = cString "DBinderService" || cString "DBinder" <+: sessionName

def firstEntry (entries : List SoftBusPermissionEntry) (sessionName : Bytes) :
    Option SoftBusPermissionEntry :=
  entries.find? fun pe => compareString regMatch pe.sessionName (some sessionName) pe.regexp

/-- With ENFORCING set, every branch behind the loop denies. -/
def checkPermissionEntry (entries : Option (List SoftBusPermissionEntry))
    (sessionName : Option Bytes) (pItem : Option SoftBusPermissionItem) : Int :=
  match entries, sessionName, pItem with
  | some entries, some sessionName, some pItem =>
    match firstEntry regMatch entries sessionName with
    | some pe =>
      if checkDBinder sessionName then grantedApp
      else
        let permType := checkPermissionAppInfo regMatch pe pItem
        if permType < 0 then permissionDenied else permType
    | none => permissionDenied
  | _, _, _ => invalidParam

end

/-- The app info admits the caller, whatever its package. -/
structure SoftBusAppInfo.AdmitsCaller (pItem : SoftBusPermissionItem) (appInfo : SoftBusAppInfo) :
    Prop where
  requested : pItem.actions ≠ 0
  actions : appInfo.actions &&& pItem.actions = pItem.actions
  type : 0 ≤ getPermType appInfo pItem
  uid : appInfo.uid < 0 ∨ appInfo.uid = pItem.uid
  pid : appInfo.pid < 0 ∨ appInfo.pid = pItem.pid

structure SoftBusAppInfo.Admits (pItem : SoftBusPermissionItem) (appInfo : SoftBusAppInfo) :
    Prop where
  caller : appInfo.AdmitsCaller pItem
  package : appInfo.pkgName = [] ∨ pItem.pkgName = some appInfo.pkgName

section
variable (regMatch : Bytes → Bytes → Bool)
  (entries : Option (List SoftBusPermissionEntry)) (sessionName : Option Bytes)
  (pItem : Option SoftBusPermissionItem)

/-- The first entry for the name speaks for the caller if the check grants anything. -/
def DefaultDeny : Prop :=
  0 ≤ checkPermissionEntry regMatch entries sessionName pItem →
    ∃ list ∈ entries, ∃ name ∈ sessionName, ∃ item ∈ pItem, ∃ pe ∈ firstEntry regMatch list name,
      checkDBinder name ∨ ∃ appInfo ∈ pe.appInfo, appInfo.Admits item

/-- Where a caller without package name would be admitted, it is so by an app info that
asks for none. -/
def PackageGiven : Prop :=
  ∀ list ∈ entries, ∀ name ∈ sessionName, ∀ item ∈ pItem, ∀ pe ∈ firstEntry regMatch list name,
    strIsEmpty item.pkgName → checkDBinder name = false →
      (∃ appInfo ∈ pe.appInfo, appInfo.AdmitsCaller item) →
        ∃ appInfo ∈ pe.appInfo, appInfo.AdmitsCaller item ∧ appInfo.pkgName = []

end

section
variable {regMatch : Bytes → Bytes → Bool} {item : SoftBusPermissionItem}
  {pe : SoftBusPermissionEntry} {appInfo : SoftBusAppInfo}

lemma strIsEmpty_iff {string} : strIsEmpty string ↔ string = none ∨ string = some [] := by
  simp [strIsEmpty]

lemma passes_iff (requested : item.actions ≠ 0) :
    appInfo.passes regMatch item ↔ appInfo.AdmitsCaller item ∧
      (strIsEmpty item.pkgName ∨ appInfo.pkgName = [] ∨ item.pkgName = some appInfo.pkgName) := by
  have package : compareString regMatch appInfo.pkgName item.pkgName false ↔
      item.pkgName = some appInfo.pkgName := by
    cases item.pkgName with
    | none => simp [compareString]
    | some name => simp [compareString, eq_comm]
  simp only [SoftBusAppInfo.passes, Bool.and_eq_true, Bool.or_eq_true, decide_eq_true_eq,
    strIsEmpty_iff, package, reduceCtorEq, false_or, Option.some.injEq]
  constructor
  · intro ⟨⟨⟨⟨actions, type⟩, uid⟩, pid⟩, named⟩
    exact ⟨⟨requested, actions, type, uid, pid⟩, by tauto⟩
  · intro ⟨⟨_, actions, type, uid, pid⟩, named⟩
    exact ⟨⟨⟨⟨actions, type⟩, uid⟩, pid⟩, by tauto⟩

lemma checkPermissionAppInfo_granted (granted : 0 ≤ checkPermissionAppInfo regMatch pe item) :
    ∃ appInfo ∈ pe.appInfo, appInfo.AdmitsCaller item ∧ (strIsEmpty item.pkgName ∨
      appInfo.pkgName = [] ∨ item.pkgName = some appInfo.pkgName) := by
  rw [checkPermissionAppInfo] at granted
  split at granted
  · exact absurd granted (by decide)
  rename_i requested
  split at granted
  next appInfo found =>
    exact ⟨appInfo, List.mem_of_find?_eq_some found,
      (passes_iff requested).mp (List.find?_some found)⟩
  · exact absurd granted (by decide)

lemma checkPermissionAppInfo_of_admits (mem : appInfo ∈ pe.appInfo)
    (caller : appInfo.AdmitsCaller item) (empty : strIsEmpty item.pkgName) :
    0 ≤ checkPermissionAppInfo regMatch pe item := by
  have passes : appInfo.passes regMatch item :=
    (passes_iff caller.requested).mpr ⟨caller, .inl empty⟩
  rw [checkPermissionAppInfo, if_neg caller.requested]
  split
  next found => exact ((passes_iff caller.requested).mp (List.find?_some found)).1.type
  next none => exact absurd passes (by simpa using List.find?_eq_none.mp none appInfo mem)

/-- What the check grants, as one statement about the first entry for the name. -/
lemma checkPermissionEntry_granted_iff {entries sessionName pItem} :
    0 ≤ checkPermissionEntry regMatch entries sessionName pItem ↔
      ∃ list ∈ entries, ∃ name ∈ sessionName, ∃ item ∈ pItem, ∃ pe ∈ firstEntry regMatch list name,
        checkDBinder name ∨ 0 ≤ checkPermissionAppInfo regMatch pe item := by
  cases entries with
  | none => simp [checkPermissionEntry, invalidParam]
  | some list =>
  cases sessionName with
  | none => simp [checkPermissionEntry, invalidParam]
  | some name =>
  cases pItem with
  | none => simp [checkPermissionEntry, invalidParam]
  | some item =>
  cases first : firstEntry regMatch list name with
  | none => simp [checkPermissionEntry, first, permissionDenied]
  | some pe =>
    cases binder : checkDBinder name with
    | true => simp [checkPermissionEntry, first, binder, grantedApp]
    | false =>
      by_cases denied : checkPermissionAppInfo regMatch pe item < 0
      · simp [checkPermissionEntry, first, binder, denied, permissionDenied]
      · simp [checkPermissionEntry, first, binder, denied, not_lt.mp denied]

end

theorem permission_default_deny_iff (regMatch : List UInt8 → List UInt8 → Bool)
    (entries : Option (List SoftBusPermissionEntry)) (sessionName : Option (List UInt8))
    (pItem : Option SoftBusPermissionItem) : DefaultDeny regMatch entries sessionName pItem ↔
      PackageGiven regMatch entries sessionName pItem := by
  rw [DefaultDeny, checkPermissionEntry_granted_iff]
  constructor
  · intro denies list inList name inName item inItem pe inPe empty plain admitted
    obtain ⟨appInfo, mem, caller⟩ := admitted
    obtain ⟨list', inList', name', inName', item', inItem', pe', inPe', speaks⟩ :=
      denies ⟨list, inList, name, inName, item, inItem, pe, inPe,
        .inr (checkPermissionAppInfo_of_admits mem caller empty)⟩
    cases Option.mem_unique inList inList'
    cases Option.mem_unique inName inName'
    cases Option.mem_unique inItem inItem'
    cases Option.mem_unique inPe inPe'
    cases speaks with
    | inl binder => exact absurd binder (by simp [plain])
    | inr speaker =>
      obtain ⟨other, there, admits⟩ := speaker
      refine ⟨other, there, admits.caller, admits.package.elim id fun same => ?_⟩
      cases strIsEmpty_iff.mp empty with
      | inl none => simp [none] at same
      | inr blank => simpa [blank, eq_comm] using same
  · intro given granted
    obtain ⟨list, inList, name, inName, item, inItem, pe, inPe, grounds⟩ := granted
    refine ⟨list, inList, name, inName, item, inItem, pe, inPe, ?_⟩
    cases binder : checkDBinder name with
    | true => exact .inl rfl
    | false =>
      obtain ⟨appInfo, mem, caller, named⟩ :=
        checkPermissionAppInfo_granted (grounds.resolve_left (by simp [binder]))
      refine .inr ?_
      cases named with
      | inr named => exact ⟨appInfo, mem, caller, named⟩
      | inl empty =>
        obtain ⟨other, there, admits, free⟩ := given list inList name inName item inItem pe inPe
          empty binder ⟨appInfo, mem, caller⟩
        exact ⟨other, there, admits, .inl free⟩

/-- A package may open sessions of a name; so may a caller that gives no package name. -/
theorem unnamed_package_granted :
    let item : SoftBusPermissionItem := ⟨systemApp, 1000, 1, none, actionOpen⟩
    let app : SoftBusAppInfo := ⟨systemApp, cString "com.a", actionOpen, -1, -1⟩
    let check := checkPermissionEntry (fun _ _ => false)
      (some [⟨cString "com.a.s", false, [app]⟩]) (some (cString "com.a.s")) (some item)
    check = systemApp ∧ checkDBinder (cString "com.a.s") = false ∧ ¬ app.Admits item := by
  refine ⟨by decide, by decide, fun admits => ?_⟩
  cases admits.package with
  | inl empty => exact absurd empty (by decide)
  | inr same => cases same

end DSoftBus.Permission
