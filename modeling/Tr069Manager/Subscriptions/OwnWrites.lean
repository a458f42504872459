import Tr069Manager.Lib.Runs
import Tr069Manager.SetParameterValues.Outcome
import Tr069Manager.Subscriptions.Notification

/-!
# A change that the ACS made itself

The ACS is not told of a change that it made itself. What it sets is handed to the cache of the
attributes before it is sent to the bus (`DM_ENG_Device_SetParameterValues_SetValues`), so is the
address when a session is opened (`DM_ENG_Device_OpenSession` of
`dmdeviceadapter/amx/adapter/DM_DeviceAdapter_prpl.c`), and when a change is notified the cache is
asked whether the new value is the one it holds (`DM_ENG_Device_ACSConnectionHandleNotification`).

Between these there is nothing that would tell whose change it is. In every run, a change is left out
exactly if its value is the one that was handed to the cache last for its path, or its values cannot
be read (`ValueStore.reported_iff_of_run`): also if the set was refused and somebody else makes
the change, however long after it, and not if the ACS sets a value and then another one before the
first change is notified.
-/

namespace Tr069

open Runs

variable {C : Type*}

/-! ### The opening of a session -/

/-- What the daemon was started with: the prefix of the ACS, `DM_ENG_getDatamodelPrefix`, and
`inet_pton`. -/
structure SessionEnv where
  acsPrefix : Option CString
  datamodelPrefix : CString
  isAddressIpV6 : CString → Bool

/-- What is read when a session is opened: `ConnRequestHost`, and the interface of an address, as the
key of the first object the bus has for a path, if it has any. -/
structure AddressAnswers where
  connRequestHost : Option CString
  whoHas : Bool
  get : CString → Option CString

/-- The path the interface of an address is searched with. -/
def interfacePath (env : SessionEnv) (ipAddress : CString) : CString :=
  "IP.Interface.*.".toList ++
    (if env.isAddressIpV6 ipAddress then "IPv6Address".toList else "IPv4Address".toList) ++
    ".[IPAddress=='".toList ++ ipAddress ++ "']".toList

/-- `DM_ENG_Device_ACSConnectionHandleGetwaninterface`: the path of the address, if there is one. -/
def handleGetWanInterface (env : SessionEnv) (bus : AddressAnswers) (ipAddress : Option CString) :
    Option CString :=
  let ip := ipAddress.getD []
  if ip = [] ∨ ip = "0.0.0.0".toList then none
  else if ¬bus.whoHas then none
  else
    match bus.get (interfacePath env ip) with
    | none => none
    | some key => if key = [] then none else some (env.datamodelPrefix ++ key ++ "IPAddress".toList)

/-- What is handed to the cache: the values of a list, one after the other. -/
def addCachedValues (ops : AttributesCache C) (cache : C) (handed : List (CString × CString)) : C :=
  handed.foldl (fun c e => ops.addCachedValue c e.1 e.2) cache

/-- The address that `DM_ENG_Device_OpenSession` hands to the cache, if it does.
`DM_ENG_Device_GetConfigValue` never returns the -1 that is checked for. -/
def openSessionAddress (env : SessionEnv) (bus : AddressAnswers) : List (CString × CString) :=
  if env.acsPrefix = some "Device.".toList then
    match handleGetWanInterface env bus bus.connRequestHost with
    | none => []
    | some paramName => [(paramName, bus.connRequestHost.getD [])]
  else []

/-! ### The system -/

/-- The values of the device with the cache, and `externalIPAddress`. -/
structure ValueStore (C : Type*) where
  world : SetWorld C
  externalIpAddress : Option CString

/-- What can happen. -/
inductive ValueEvent where
  /-- the ACS sends a SetParameterValues request -/
  | setParameterValues (env : SetEnv) (answers : ℕ → BusAnswer) (list : List ParameterValueStruct)
    (status : ParameterStatus)
  /-- a session is opened -/
  | openSession (bus : AddressAnswers)
  /-- the device changes its values -/
  | deviceChanges (values : CString → CString)

namespace ValueStore

/-- `DM_ENG_Device_OpenSession`. -/
def openSession (ops : AttributesCache C) (env : SessionEnv) (bus : AddressAnswers)
    (s : ValueStore C) : ValueStore C :=
  if env.acsPrefix = some "InternetGatewayDevice.".toList then { s with externalIpAddress := none }
  else if env.acsPrefix = some "Device.".toList then
    { world := { s.world with
        cache := match handleGetWanInterface env bus bus.connRequestHost with
          | none => s.world.cache
          | some paramName =>
            ops.addCachedValue s.world.cache paramName (bus.connRequestHost.getD []) }
      externalIpAddress := bus.connRequestHost }
  else s

/-- One event. -/
def step (ops : AttributesCache C) (env : SessionEnv) (s : ValueStore C) :
    ValueEvent → Option (ValueStore C)
  | .setParameterValues setEnv answers list status =>
    (setParameterValues setEnv ops answers list status s.world).map fun r =>
      { s with world := r.world }
  | .openSession bus => some (s.openSession ops env bus)
  | .deviceChanges values => some { s with world := { s.world with values := values } }

/-- What an event hands to the cache: the whole list of a request that passes the validation,
whatever the bus answers to its sets, and the address of a session. -/
def handed (env : SessionEnv) : ValueEvent → List (CString × CString)
  | .setParameterValues setEnv _ list _ =>
    if PassesValidation setEnv list then list.map fun p => (p.parameterName, p.value) else []
  | .openSession bus => openSessionAddress env bus
  | .deviceChanges _ => []

/-- The value that was handed to the cache last for a path. -/
def lastHanded (env : SessionEnv) (es : List ValueEvent) (path : CString) : Option CString :=
  ((es.flatMap (handed env)).reverse.find? fun e => e.1 = path).map Prod.snd

/-- The handler of a notification asks the cache there is. -/
def Asks (ops : AttributesCache C) (s : ValueStore C) (env : NotificationEnv) : Prop :=
  ∀ path value, env.valueWasCached path (some value) =
    ops.valueWasCached s.world.cache path value

/-! ### The cache -/

variable {ops : AttributesCache C} {watched : CString → Bool} {env : SessionEnv}
  {s t : ValueStore C} {e : ValueEvent} {path value : CString}

theorem addCachedValues_append (cache : C) (handed handed' : List (CString × CString)) :
    addCachedValues ops cache (handed ++ handed') =
      addCachedValues ops (addCachedValues ops cache handed) handed' :=
  List.foldl_append

/-- **What has been handed to the cache last is what it holds**, for a path it watches. -/
theorem valueWasCached_addCachedValues (hops : ops.Lawful watched) (hwatched : watched path = true)
    (cache : C) (handed : List (CString × CString)) :
    ops.valueWasCached (addCachedValues ops cache handed) path value =
      (((handed.reverse.find? fun e => e.1 = path).map fun e => decide (value = e.2)).getD
        (ops.valueWasCached cache path value)) := by
  induction handed using List.reverseRecOn with
  | nil => rfl
  | append_singleton handed e ih =>
    have hlast : addCachedValues ops cache (handed ++ [e]) =
        ops.addCachedValue (addCachedValues ops cache handed) e.1 e.2 :=
      addCachedValues_append cache handed [e]
    rw [hlast, hops.valueWasCached_add, List.reverse_append, List.reverse_singleton,
      List.singleton_append, List.find?_cons]
    by_cases hpath : e.1 = path
    · rw [if_pos ⟨hpath.symm, hpath ▸ hwatched⟩, decide_eq_true hpath]
      rfl
    · rw [if_neg fun h => hpath h.1.symm, decide_eq_false hpath]
      exact ih

/-- **One event** hands to the cache what it is said to. -/
theorem cache_of_step (h : s.step ops env e = some t) :
    t.world.cache = addCachedValues ops s.world.cache (handed env e) := by
  cases e with
  | setParameterValues setEnv answers list status =>
    obtain ⟨r, hr, rfl⟩ := Option.map_eq_some_iff.mp h
    by_cases hvalid : PassesValidation setEnv list
    · obtain ⟨faults, hresult⟩ := setParameterValues_of_passes ops answers status s.world hvalid
      obtain rfl := Option.some.inj (hresult.symm.trans hr)
      rw [handed, if_pos hvalid, addCachedValues, List.foldl_map]
      exact cache_applied_eq
    · obtain ⟨error, faults, hresult, -⟩ :=
        setParameterValues_of_not_passes ops answers status s.world hvalid
      obtain rfl := Option.some.inj (hresult.symm.trans hr)
      rw [handed, if_neg hvalid]
      rfl
  | openSession bus =>
    obtain rfl := Option.some.inj h
    rw [openSession, handed, openSessionAddress]
    by_cases hdevice : env.acsPrefix = some "Device.".toList
    · rw [if_neg (by rw [hdevice]; decide), if_pos hdevice, if_pos hdevice]
      rcases handleGetWanInterface env bus bus.connRequestHost with - | paramName
      · rfl
      · rfl
    · rw [if_neg hdevice, if_neg hdevice]
      split <;> rfl
  | deviceChanges values =>
    obtain rfl := Option.some.inj h
    rfl

/-- **A run** has handed to the cache what its events have. -/
theorem cache_of_run {es : List ValueEvent} (h : exec (step ops env) s es = some t) :
    t.world.cache = addCachedValues ops s.world.cache (es.flatMap (handed env)) := by
  induction es generalizing s with
  | nil =>
    obtain rfl := Option.some.inj h
    rfl
  | cons e es ih =>
    obtain ⟨u, hu, hrest⟩ := Option.bind_eq_some_iff.mp h
    rw [ih hrest, cache_of_step hu, List.flatMap_cons, addCachedValues_append]

/-! ### What is reported -/

/-- What is processed is what one round does. -/
theorem exists_round_of_mem {env : NotificationEnv} {infos : List SubscriptionInfo} {id : ℤ}
    {parameters : List ChangedParameter} {r : ProcessedParameter}
    (hr : r ∈ notificationLoop env infos id parameters) :
    ∃ c id acsPath, r = (processParameter env c id acsPath).1 := by
  induction parameters generalizing id with
  | nil => cases hr
  | cons c rest ih =>
    rw [notificationLoop_cons rfl] at hr
    split at hr
    · cases hr
    · rcases List.mem_cons.mp hr with rfl | hr
      · exact ⟨c, _, _, rfl⟩
      · split at hr
        · exact ih hr
        · cases hr

/-- A round reports, unless the value was cached or the values cannot be read. -/
theorem processParameter_reported (env : NotificationEnv) (c : ChangedParameter) (id : ℤ)
    (acsPath : CString) :
    (processParameter env c id acsPath).1.path = acsPath ∧
      (processParameter env c id acsPath).1.value = c.newValue ∧
      ((processParameter env c id acsPath).1.reported = none ↔
        env.valueWasCached acsPath c.newValue = true ∨ env.getValues acsPath = none) := by
  rw [processParameter]
  split
  · next hcached => exact ⟨rfl, rfl, iff_of_true rfl (Or.inl hcached)⟩
  · next hnot =>
    split
    · next hvalues => exact ⟨rfl, rfl, iff_of_true rfl (Or.inr hvalues)⟩
    · next pvsList hvalues =>
      refine ⟨rfl, rfl, iff_of_false (Option.some_ne_none _) ?_⟩
      rintro (hcached | hnone)
      · exact hnot hcached
      · exact absurd (hvalues.symm.trans hnone) (Option.some_ne_none _)

/-- **A change is left out exactly if its value is the one handed to the cache last**, or its values
cannot be read: after every run of requests, sessions and changes of the device, for every
notification and every change that is processed of it under a path the cache watches. -/
theorem reported_iff_of_run {w : SetWorld C} {external : Option CString} {es : List ValueEvent}
    {notificationEnv : NotificationEnv} {slist : List Subscription} {object : CString}
    {parameters : List ChangedParameter} {r : ProcessedParameter} (hops : ops.Lawful watched)
    (hempty : ∀ name value, ops.valueWasCached w.cache name value = false)
    (hrun : exec (step ops env) ⟨w, external⟩ es = some s) (hasks : s.Asks ops notificationEnv)
    (hr : r ∈ handleNotification notificationEnv slist object parameters)
    (hvalue : r.value = some value) (hwatched : watched r.path = true) :
    r.reported = none ↔
      lastHanded env es r.path = some value ∨ notificationEnv.getValues r.path = none := by
  obtain ⟨c, id, acsPath, rfl⟩ : ∃ c id acsPath,
      r = (processParameter notificationEnv c id acsPath).1 := by
    rw [handleNotification] at hr
    split at hr
    · cases hr
    · exact exists_round_of_mem hr
  obtain ⟨hpath, hnew, hreported⟩ := processParameter_reported notificationEnv c id acsPath
  rw [hpath] at hwatched ⊢
  rw [hnew] at hvalue
  rw [hreported, hvalue, hasks, cache_of_run hrun, valueWasCached_addCachedValues hops hwatched,
    lastHanded]
  refine or_congr_left ?_
  rcases (es.flatMap (handed env)).reverse.find?
    fun e : CString × CString => decide (e.1 = acsPath) with - | last
  · -- nothing has been handed for the path
    refine iff_of_false (fun hcached => ?_) fun hnone => Option.some_ne_none value hnone.symm
    exact Bool.false_ne_true ((hempty acsPath value).symm.trans hcached)
  · refine decide_eq_true_iff.trans ⟨fun heq => ?_, fun heq => ?_⟩
    · exact congrArg some heq.symm
    · exact (Option.some.inj heq).symm

/-- A daemon of the `Device.` model. -/
def deviceEnv : SessionEnv := ⟨some "Device.".toList, "Device.".toList, fun _ => false⟩

/-- A request to switch on two objects of which the bus refuses the second one. -/
def secondRefused : List ValueEvent :=
  [.setParameterValues plainEnv (refuses 1) enableBoth .undefined]

/-- The handler of the notifications after that. -/
def afterSecondRefused (s : ValueStore (CString → Option CString)) : NotificationEnv where
  notifAllowed := fun _ => true
  ellementPath := fun _ => some "Device.UPnP.Enable".toList
  ellementMode := fun _ => .active
  valueWasCached := fun path value => plainCache.valueWasCached s.world.cache path (value.getD [])
  getValues := fun path => some [(path, "1".toList)]

/-- Somebody else switches on the object that the ACS was refused to: it is not reported. -/
theorem reported_iff_of_run_secondRefused :
    ∃ s, exec (step plainCache deviceEnv) ⟨allOff, none⟩ secondRefused = some s ∧
      s.world.values "Device.UPnP.Enable".toList = "0".toList ∧
      ∃ r ∈ handleNotification (afterSecondRefused s)
          [⟨"Device.UPnP.".toList, [⟨7, "Enable".toList⟩]⟩] "Device.UPnP.".toList
          [⟨"Enable".toList, some "1".toList⟩],
        r.reported = none ∧
          (r.reported = none ↔
            lastHanded deviceEnv secondRefused r.path = some "1".toList ∨
              (afterSecondRefused s).getValues r.path = none) := by
  obtain ⟨s, hs⟩ : ∃ s, exec (step plainCache deviceEnv) ⟨allOff, none⟩ secondRefused = some s :=
    Option.isSome_iff_exists.mp (by decide)
  have hrun : (exec (step plainCache deviceEnv) ⟨allOff, none⟩ secondRefused).map (fun s =>
      (s.world.values "Device.UPnP.Enable".toList,
        handleNotification (afterSecondRefused s)
          [⟨"Device.UPnP.".toList, [⟨7, "Enable".toList⟩]⟩] "Device.UPnP.".toList
          [⟨"Enable".toList, some "1".toList⟩])) =
      some ("0".toList,
        [⟨"Enable".toList, 7, "Device.UPnP.Enable".toList, some "1".toList, none⟩]) := by
    decide
  rw [hs] at hrun
  obtain ⟨hvalue, hdone⟩ := Prod.mk.inj (Option.some.inj hrun)
  have hmem : (⟨"Enable".toList, 7, "Device.UPnP.Enable".toList, some "1".toList, none⟩ :
      ProcessedParameter) ∈ handleNotification (afterSecondRefused s)
        [⟨"Device.UPnP.".toList, [⟨7, "Enable".toList⟩]⟩] "Device.UPnP.".toList
        [⟨"Enable".toList, some "1".toList⟩] := by
    rw [hdone]
    exact List.mem_singleton_self _
  refine ⟨s, hs, hvalue, _, hmem, rfl, ?_⟩
  exact reported_iff_of_run plainCache_lawful (fun _ _ => rfl) hs (fun _ _ => rfl) hmem rfl rfl

end ValueStore

end Tr069
