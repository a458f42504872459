import Mathlib.Data.List.Chain
import Tr069Manager.Subscriptions.DataModel

/-!
# Value changes of a subscribed object

The bus notifies the changes of an object all at once, in a hash table of its changed
parameters, and `DM_ENG_Device_ACSConnectionHandleNotification`
(`dmdeviceadapter/amx/adapter/DM_AmxACSConnection.c`) goes through the table in whatever
order it has. Every parameter that has a subscription should be processed, with its own id,
path, value and mode, and every other one should be passed over.

The loop passes nothing over: where a parameter is not to be processed, the jump leaves the
whole loop. And the id it looks up outlives the round, so that a parameter without a
subscription takes the id of the one before it. For which tables the outcome is right all
the same is `handleNotification_eq_iff`.
-/

namespace Tr069

/-! ### The source -/

/-- `DM_ENG_NotificationMode`. -/
inductive NotificationMode
  | off | passive | active | forced
  deriving DecidableEq

/-- A changed parameter, with its new value. -/
structure ChangedParameter where
  key : CString
  newValue : Option CString

/-- What the handler reads: the access rules, the cache of the attributes, and the values of
the device. -/
structure NotificationEnv where
  /-- `amxa_filter_notif` keeps the parameters for which this holds -/
  notifAllowed : CString → Bool
  /-- `DM_ENG_GetParameterAttributesCacheEllementPath` -/
  ellementPath : Int → Option CString
  /-- `DM_ENG_GetParameterAttributesCacheEllement` -/
  ellementMode : CString → NotificationMode
  /-- `DM_ENG_ValueWasCachedInParameterAttributesCache` -/
  valueWasCached : CString → Option CString → Bool
  /-- `DM_ENG_Device_GetParameterValues_GetValues` -/
  getValues : CString → Option (List (CString × CString))

/-- What is done for a parameter: its value is set in the entry of the path, and, unless the
ACS wrote it itself, the values of the path are reported with the mode. -/
structure ProcessedParameter where
  parameter : CString
  id : Int
  path : CString
  value : Option CString
  reported : Option (NotificationMode × List (CString × CString))
  deriving DecidableEq

/-- An address of an interface that is gone. -/
def emptyAddress (acsPath : CString) (value : Option CString) : Bool :=
  "Device.IP.Interface.".toList.isPrefixOf acsPath ∧ value.getD [] = []

/-- A round that comes to the set: what it does, and whether the loop goes on. -/
def processParameter (env : NotificationEnv) (c : ChangedParameter) (id : Int)
    (acsPath : CString) : ProcessedParameter × Bool :=
  if env.valueWasCached acsPath c.newValue then (⟨c.key, id, acsPath, c.newValue, none⟩, true)
  else
    match env.getValues acsPath with
    | none => (⟨c.key, id, acsPath, c.newValue, none⟩, false)
    | some pvsList =>
      (⟨c.key, id, acsPath, c.newValue, some (env.ellementMode acsPath, pvsList)⟩, true)

/-- The search for the subscription of a parameter. -/
def subscriptionOf (infos : List SubscriptionInfo) (c : ChangedParameter) :
    Option SubscriptionInfo :=
  infos.find? fun info => info.parameter = c.key

/-- The loop over the table, with the id of the round before. -/
def notificationLoop (env : NotificationEnv) (infos : List SubscriptionInfo) :
    Int → List ChangedParameter → List ProcessedParameter
  | _, [] => []
  | id, c :: rest =>
    let id := ((subscriptionOf infos c).map SubscriptionInfo.uniqueID).getD id
    if id = -1 then []
    else
      match env.ellementPath id with
      | none => []
      | some acsPath =>
        if emptyAddress acsPath c.newValue then []
        else
          let r := processParameter env c id acsPath
          r.1 :: if r.2 then notificationLoop env infos id rest else []

/-- The informations of an object. -/
def infosOf (slist : List Subscription) (path : CString) : Option (List SubscriptionInfo) :=
  (slist.find? fun sub => sub.objectpath = path).map Subscription.subscriptionInfoList

/-- `DM_ENG_Device_ACSConnectionHandleNotification`: what is processed of the table. -/
def handleNotification (env : NotificationEnv) (slist : List Subscription) (path : CString)
    (parameters : List ChangedParameter) : List ProcessedParameter :=
  match infosOf slist path with
  | none => []
  | some infos =>
    notificationLoop env infos (-1) (parameters.filter fun c => env.notifAllowed c.key)

/-! ### What should be processed -/

/-- With an id, nothing is done for a parameter: the path is missing, or the value is an
empty address. -/
def skipped (env : NotificationEnv) (id : Int) (c : ChangedParameter) : Bool :=
  match env.ellementPath id with
  | none => true
  | some acsPath => emptyAddress acsPath c.newValue

/-- What is done for a parameter with an id. -/
def roundOf (env : NotificationEnv) (id : Int) (c : ChangedParameter) :
    ProcessedParameter × Bool :=
  processParameter env c id ((env.ellementPath id).getD [])

/-- What should be done for a parameter: with its own id, if it has a subscription and is not
to be passed over. -/
def ownRecord (env : NotificationEnv) (infos : List SubscriptionInfo) (c : ChangedParameter) :
    Option ProcessedParameter :=
  (subscriptionOf infos c).bind fun info =>
    if skipped env info.uniqueID c then none else some (roundOf env info.uniqueID c).1

/-- **What should be processed** of a table: every parameter for itself. -/
def processedParameters (env : NotificationEnv) (slist : List Subscription) (path : CString)
    (parameters : List ChangedParameter) : List ProcessedParameter :=
  (parameters.filter fun c => env.notifAllowed c.key).filterMap
    (ownRecord env ((infosOf slist path).getD []))

/-! ### Where the loop is left -/

variable {env : NotificationEnv} {infos : List SubscriptionInfo} {c : ChangedParameter}
variable {rest : List ChangedParameter} {id : Int} {info : SubscriptionInfo}

/-- With an id, the loop is left at a parameter before anything is done for it. -/
def StopsAt (env : NotificationEnv) (id : Int) (c : ChangedParameter) : Prop :=
  id = -1 ∨ skipped env id c = true

/-- A parameter is processed with its own id, and the loop goes on. -/
def GoesOn (env : NotificationEnv) (infos : List SubscriptionInfo) (c : ChangedParameter) :
    Prop :=
  ∃ info, subscriptionOf infos c = some info ∧ ¬StopsAt env info.uniqueID c ∧
    (roundOf env info.uniqueID c).2 = true

/-- A parameter is to be processed. -/
def ToBeProcessed (env : NotificationEnv) (infos : List SubscriptionInfo)
    (c : ChangedParameter) : Prop :=
  (ownRecord env infos c).isSome = true

/-- **The tables for which the outcome is right**: before a parameter that is to be processed
the loop goes on at every one, no id is the one that stands for none, and where a parameter
without a subscription follows one at which the loop goes on, the loop is left with the id
of that one. -/
structure RightOrder (env : NotificationEnv) (infos : List SubscriptionInfo)
    (parameters : List ChangedParameter) : Prop where
  goesOn : parameters.Pairwise fun c d => ToBeProcessed env infos d → GoesOn env infos c
  isId : ∀ c ∈ parameters, ToBeProcessed env infos c →
    ∀ info, subscriptionOf infos c = some info → info.uniqueID ≠ -1
  stops : parameters.IsChain fun c d => GoesOn env infos c → subscriptionOf infos d = none →
    ∀ info, subscriptionOf infos c = some info → StopsAt env info.uniqueID d

instance (env : NotificationEnv) (id : Int) (c : ChangedParameter) :
    Decidable (StopsAt env id c) :=
  inferInstanceAs (Decidable (_ ∨ _))

/-- One round of the loop, with the id it comes to. -/
theorem notificationLoop_cons {next : Int}
    (hnext : ((subscriptionOf infos c).map SubscriptionInfo.uniqueID).getD id = next) :
    notificationLoop env infos id (c :: rest) =
      if StopsAt env next c then []
      else (roundOf env next c).1 ::
        if (roundOf env next c).2 then notificationLoop env infos next rest else [] := by
  rw [notificationLoop]
  dsimp only
  rw [hnext, roundOf]
  by_cases hid : next = -1
  · have hstop : StopsAt env next c := Or.inl hid
    rw [if_pos hid, if_pos hstop]
  · rw [if_neg hid]
    rcases hpath : env.ellementPath next with - | acsPath
    · have hstop : StopsAt env next c := Or.inr (by rw [skipped, hpath])
      rw [if_pos hstop]
    · have hskip : skipped env next c = emptyAddress acsPath c.newValue := by
        rw [skipped, hpath]
      by_cases hempty : emptyAddress acsPath c.newValue = true
      · have hstop : StopsAt env next c := Or.inr (hskip.trans hempty)
        rw [if_pos hstop]
        exact if_pos hempty
      · have hstop : ¬StopsAt env next c :=
          fun h => h.elim hid fun h => hempty (hskip.symm.trans h)
        rw [if_neg hstop]
        exact if_neg hempty

/-- What is processed carries the name of the parameter. -/
theorem roundOf_parameter : (roundOf env id c).1.parameter = c.key := by
  rw [roundOf, processParameter]
  split
  · rfl
  · split <;> rfl

theorem goesOn_toBeProcessed (h : GoesOn env infos c) : ToBeProcessed env infos c := by
  obtain ⟨info, hsub, hstop, -⟩ := h
  rw [ToBeProcessed, ownRecord, hsub, Option.bind_some, if_neg fun hskip => hstop (Or.inr hskip)]
  rfl

/-- Where nothing is to be processed any more, the order of the rest does not matter. -/
theorem rightOrder_of_forall (h : ∀ d ∈ rest, ¬ToBeProcessed env infos d) :
    RightOrder env infos rest where
  goesOn := by
    refine List.pairwise_iff_forall_sublist.mpr fun {c d} hsub hd => ?_
    exact absurd hd (h d (hsub.subset (by simp)))
  isId := fun c hc hproc => absurd hproc (h c hc)
  stops := by
    refine (List.pairwise_iff_forall_sublist.mpr fun {c d} hsub hgoes => ?_).isChain
    exact absurd (goesOn_toBeProcessed hgoes) (h c (hsub.subset (by simp)))

/-- The loop is left at the first parameter, and the rest of the table with it. -/
theorem rightOrder_cons_of_not_goesOn (hc : ¬GoesOn env infos c) :
    RightOrder env infos (c :: rest) ↔
      (ToBeProcessed env infos c → ∀ info, subscriptionOf infos c = some info →
        info.uniqueID ≠ -1) ∧ ∀ d ∈ rest, ¬ToBeProcessed env infos d := by
  constructor
  · intro h
    refine ⟨h.isId c List.mem_cons_self, fun d hd hproc => ?_⟩
    exact hc ((List.pairwise_cons.mp h.goesOn).1 d hd hproc)
  · rintro ⟨hid, hrest⟩
    have hright := rightOrder_of_forall hrest
    refine ⟨List.pairwise_cons.mpr ⟨fun d hd hproc => absurd hproc (hrest d hd), hright.goesOn⟩,
      fun d hd => ?_, ?_⟩
    · rcases List.mem_cons.mp hd with rfl | hd
      · exact hid
      · exact hright.isId d hd
    · refine List.isChain_cons.mpr ⟨fun d _ hgoes => absurd hgoes hc, hright.stops⟩

/-- The loop goes on with the id of the first parameter. -/
theorem rightOrder_cons_of_goesOn (hsub : subscriptionOf infos c = some info)
    (hc : GoesOn env infos c) :
    RightOrder env infos (c :: rest) ↔
      (∀ d ∈ rest.head?, subscriptionOf infos d = none → StopsAt env info.uniqueID d) ∧
        RightOrder env infos rest := by
  constructor
  · intro h
    obtain ⟨hhead, htail⟩ := List.isChain_cons.mp h.stops
    exact ⟨fun d hd hnone => hhead d hd hc hnone info hsub, (List.pairwise_cons.mp h.goesOn).2,
      fun d hd => h.isId d (List.mem_cons_of_mem _ hd), htail⟩
  · rintro ⟨hhead, h⟩
    refine ⟨List.pairwise_cons.mpr ⟨fun _ _ _ => hc, h.goesOn⟩, fun d hd hproc info' hinfo => ?_,
      List.isChain_cons.mpr ⟨fun d hd _ hnone info' hinfo => ?_, h.stops⟩⟩
    · rcases List.mem_cons.mp hd with rfl | hd
      · obtain ⟨other, hother, hstop, -⟩ := hc
        obtain rfl := Option.some.inj (hother.symm.trans hinfo)
        exact fun hid => hstop (Or.inl hid)
      · exact h.isId d hd hproc info' hinfo
    · obtain rfl := Option.some.inj (hsub.symm.trans hinfo)
      exact hhead d hd hnone

theorem filterMap_eq_nil_iff :
    rest.filterMap (ownRecord env infos) = [] ↔ ∀ d ∈ rest, ¬ToBeProcessed env infos d := by
  rw [List.filterMap_eq_nil_iff]
  refine forall₂_congr fun d _ => ?_
  rw [ToBeProcessed, Option.not_isSome_iff_eq_none]

/-- A round without a subscription has the id of the round before: it is right only if that one
stops the loop. -/
theorem notificationLoop_cons_of_none {c : ChangedParameter}
    (hsub : subscriptionOf infos c = none) :
    notificationLoop env infos id (c :: rest) = (c :: rest).filterMap (ownRecord env infos) ↔
      StopsAt env id c ∧ RightOrder env infos (c :: rest) := by
  have hown : ownRecord env infos c = none := by rw [ownRecord, hsub, Option.bind_none]
  have hgoes : ¬GoesOn env infos c := by
    rintro ⟨info, hinfo, -⟩
    rw [hsub] at hinfo
    cases hinfo
  rw [notificationLoop_cons (by rw [hsub, Option.map_none, Option.getD_none]),
    List.filterMap_cons_none hown, rightOrder_cons_of_not_goesOn hgoes]
  by_cases hstop : StopsAt env id c
  · rw [if_pos hstop, eq_comm, filterMap_eq_nil_iff]
    refine ⟨fun h => ⟨hstop, fun hproc => ?_, h⟩, fun h => h.2.2⟩
    rw [ToBeProcessed, hown] at hproc
    cases hproc
  · rw [if_neg hstop]
    refine ⟨fun heq => ?_, fun h => absurd h.1 hstop⟩
    -- what was done carries a name that has no subscription
    have hmem : (roundOf env id c).1 ∈ rest.filterMap (ownRecord env infos) :=
      heq ▸ List.mem_cons_self
    obtain ⟨d, -, hd⟩ := List.mem_filterMap.mp hmem
    obtain ⟨info, hinfo, hrec⟩ := Option.bind_eq_some_iff.mp hd
    split_ifs at hrec
    have hkey : d.key = c.key := by
      have hparam := congrArg ProcessedParameter.parameter (Option.some.inj hrec)
      rwa [roundOf_parameter, roundOf_parameter] at hparam
    rw [subscriptionOf, hkey, ← subscriptionOf, hsub] at hinfo
    cases hinfo

/-- A round with a subscription does what it should; if it goes on, so must the rest. -/
theorem notificationLoop_cons_of_some {c : ChangedParameter} {info : SubscriptionInfo}
    (hsub : subscriptionOf infos c = some info)
    (ih : notificationLoop env infos info.uniqueID rest = rest.filterMap (ownRecord env infos) ↔
      (∀ d ∈ rest.head?, subscriptionOf infos d = none → StopsAt env info.uniqueID d) ∧
        RightOrder env infos rest) :
    notificationLoop env infos id (c :: rest) = (c :: rest).filterMap (ownRecord env infos) ↔
      RightOrder env infos (c :: rest) := by
  have hown : ownRecord env infos c =
      if skipped env info.uniqueID c then none else some (roundOf env info.uniqueID c).1 := by
    rw [ownRecord, hsub, Option.bind_some]
  have hgoes : GoesOn env infos c ↔
      ¬StopsAt env info.uniqueID c ∧ (roundOf env info.uniqueID c).2 = true := by
    constructor
    · rintro ⟨other, hother, h⟩
      obtain rfl := Option.some.inj (hother.symm.trans hsub)
      exact h
    · exact fun h => ⟨info, hsub, h⟩
  have hids : (∀ other, subscriptionOf infos c = some other → other.uniqueID ≠ -1) ↔
      info.uniqueID ≠ -1 := by simp [hsub]
  rw [notificationLoop_cons (by rw [hsub, Option.map_some, Option.getD_some])]
  by_cases hstop : StopsAt env info.uniqueID c
  · rw [if_pos hstop, eq_comm, rightOrder_cons_of_not_goesOn (fun h => (hgoes.mp h).1 hstop),
      hids, ToBeProcessed, hown]
    by_cases hskip : skipped env info.uniqueID c = true
    · rw [List.filterMap_cons_none (hown.trans (if_pos hskip)), filterMap_eq_nil_iff,
        if_pos hskip]
      exact ⟨fun h => ⟨fun hfalse => absurd hfalse (by simp), h⟩, fun h => h.2⟩
    · -- its id is the one that stands for none
      rw [List.filterMap_cons_some (hown.trans (if_neg hskip)), if_neg hskip]
      exact ⟨fun h => absurd h (by simp), fun h => absurd (hstop.resolve_right hskip) (h.1 rfl)⟩
  · have hskip : ¬skipped env info.uniqueID c = true := fun h => hstop (Or.inr h)
    rw [if_neg hstop, List.filterMap_cons_some (hown.trans (if_neg hskip)), List.cons_inj_right]
    by_cases hon : (roundOf env info.uniqueID c).2 = true
    · rw [if_pos hon, ih, rightOrder_cons_of_goesOn hsub (hgoes.mpr ⟨hstop, hon⟩)]
    · rw [if_neg hon, eq_comm, filterMap_eq_nil_iff,
        rightOrder_cons_of_not_goesOn (fun h => hon (hgoes.mp h).2), hids]
      exact ⟨fun h => ⟨fun _ hid => hstop (Or.inl hid), h⟩, fun h => h.2⟩

/-- **The loop, from any id on**: it does what should be done exactly if the order is right,
and the loop is left at once when the first parameter has no subscription. -/
theorem notificationLoop_eq_iff {parameters : List ChangedParameter} :
    notificationLoop env infos id parameters = parameters.filterMap (ownRecord env infos) ↔
      (∀ c ∈ parameters.head?, subscriptionOf infos c = none → StopsAt env id c) ∧
        RightOrder env infos parameters := by
  induction parameters generalizing id with
  | nil => exact ⟨fun _ => ⟨by simp, rightOrder_of_forall (by simp)⟩, fun _ => rfl⟩
  | cons c rest ih =>
    have hhead : (∀ d ∈ (c :: rest).head?, subscriptionOf infos d = none → StopsAt env id d) ↔
        (subscriptionOf infos c = none → StopsAt env id c) := by simp
    rw [hhead]
    rcases hsub : subscriptionOf infos c with - | info
    · rw [notificationLoop_cons_of_none hsub, imp_iff_right rfl]
    · rw [notificationLoop_cons_of_some hsub ih]
      exact (and_iff_right fun hnone => absurd hnone (by simp)).symm

/-- **What is processed is what should be, exactly for the tables in a right order**: for
every list of subscriptions, every notification and every order of its table. -/
theorem handleNotification_eq_iff (env : NotificationEnv) (slist : List Subscription)
    (path : CString) (parameters : List ChangedParameter) :
    handleNotification env slist path parameters =
        processedParameters env slist path parameters ↔
      ∀ infos, infosOf slist path = some infos →
        RightOrder env infos (parameters.filter fun c => env.notifAllowed c.key) := by
  rw [handleNotification, processedParameters]
  rcases infosOf slist path with - | infos
  · have hnone : ∀ c, ownRecord env [] c = none := fun _ => rfl
    simp [hnone]
  · rw [Option.getD_some]
    have hstart : ∀ c ∈ (parameters.filter fun c => env.notifAllowed c.key).head?,
        subscriptionOf infos c = none → StopsAt env (-1) c := fun _ _ _ => Or.inl rfl
    refine (notificationLoop_eq_iff.trans (and_iff_right hstart)).trans ?_
    exact ⟨fun h infos' hinfos => Option.some.inj hinfos ▸ h, fun h => h infos rfl⟩

/-- The notification of two changed parameters of an object of which the first one is
subscribed. -/
theorem changed_under_other_path :
    ¬∀ (env : NotificationEnv) (slist : List Subscription) (path : CString)
      (parameters : List ChangedParameter),
      handleNotification env slist path parameters =
        processedParameters env slist path parameters := by
  intro h
  -- the new value of `Status` is set as the one of `Enable`
  exact absurd (h
    { notifAllowed := fun _ => true, ellementPath := fun _ => some "Device.Time.Enable".toList
      ellementMode := fun _ => .active, valueWasCached := fun _ _ => false
      getValues := fun path => some [(path, "1".toList)] }
    [⟨"Device.Time.".toList, [⟨7, "Enable".toList⟩]⟩] "Device.Time.".toList
    [⟨"Enable".toList, some "1".toList⟩, ⟨"Status".toList, some "Synchronized".toList⟩])
    (by decide)

end Tr069
