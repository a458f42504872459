import Tr069Manager.Subscriptions.Notification

/-!
# What adding a notification tells

`DM_ENG_Device_ACSConnectionAddSubscription` (`DM_AmxACSConnection.c`) puts a notification in
place: for the modes that are to be told at once it subscribes the object of the path on the
bus, and for all but the forced mode it sees to it that the data model has an entry of
`ManagementServer.Subscription` with the path and the type of the mode. What it returns
should say whether the notification is in place, and false should mean that a step has
failed.

It mostly does not. The status with which an entry is written, where 0 is success, is handed
on as a truth value; an entry that has the type already, and the forced mode, leave the false
that the functions begin with; and whether an entry was added is not looked at. What is right is
the addition of an entry that goes well, and the early refusals
(`Tr069.AcsConnection.tellsOutcome_iff`).

An entry is searched for by its path, and the type that is read is that of the first one
found. The answers of the bus are arguments, and so is the text of a mode.
-/

namespace Tr069

/-! ### The state -/

/-- `ManagementServer.Subscription.{i}.`, as far as the daemon writes it. -/
structure SubscriptionEntry where
  path : CString
  type : Option CString
  value : Option CString
  deriving DecidableEq

/-- The list of the subscriptions with the objects that are subscribed on the bus, which has all
of the list, and the entries of the data model. -/
structure AcsConnection where
  slist : List Subscription
  bus : List CString
  listed : ∀ sub ∈ slist, sub.objectpath ∈ bus
  entries : List SubscriptionEntry

/-- What the code has from its libraries: the hash of an id, the filter of the subscriptions, and
the text of a mode. -/
structure AcsConnectionEnv where
  hash : Hash
  filter : CString
  notificationModeString : NotificationMode → CString

/-- What is answered while a notification is added: by the access rules, to the subscription, to
the search for an entry, to the reading of the value, and to the two writes. -/
structure AddNotificationAnswers where
  allowed : Bool
  subscribe : Int
  get : Bool
  value : Option CString
  add : Bool
  set : Bool

/-- What is returned, the id that was written, and what is left. -/
structure AddNotificationResult where
  ret : Bool
  subscriptionID : Option Int
  connection : AcsConnection

/-- The modes that are subscribed on the bus. -/
def NotificationMode.Subscribes (mode : NotificationMode) : Prop :=
  mode = .forced ∨ mode = .active

instance instDecidableSubscribes (mode : NotificationMode) : Decidable mode.Subscribes :=
  inferInstanceAs (Decidable (_ ∨ _))

section

variable {hash : Hash} {filter path : CString} {slist : List Subscription} {bus : List CString}
variable {rv : Int}

/-- An object that is found in the list is one of it. -/
theorem mem_of_findSubscription {i : Nat} (h : findSubscription slist path = some i) :
    ∃ sub ∈ slist, sub.objectpath = path := by
  obtain ⟨pre, sub, post, rfl, -, hsub, -⟩ := exists_split_of_findIdx? h
  exact ⟨sub, List.mem_append_right _ List.mem_cons_self, of_decide_eq_true hsub⟩

/-- All of the list stays subscribed. -/
theorem listed_addSubscription (hlisted : ∀ sub ∈ slist, sub.objectpath ∈ bus) :
    ∀ sub ∈ (addSubscription hash filter slist bus path rv).slist,
      sub.objectpath ∈ (addSubscription hash filter slist bus path rv).bus := by
  rw [addSubscription]
  dsimp only
  split
  · exact hlisted
  · split
    · next i hfind =>
      -- the entry that is noted in keeps its object
      intro sub hsub
      obtain ⟨j, hj⟩ := List.mem_iff_getElem?.mp hsub
      rw [List.getElem?_modify] at hj
      obtain ⟨sub', hsub', hj⟩ := Option.map_eq_some_iff.mp hj
      have hmem := hlisted sub' (List.mem_of_getElem? hsub')
      split at hj
      · exact hj ▸ hmem
      · exact hj ▸ hmem
    · split
      · exact hlisted
      · intro sub hsub
        rcases List.mem_append.mp hsub with hsub | hsub
        · exact List.mem_append_left _ (hlisted sub hsub)
        · obtain rfl := List.mem_singleton.mp hsub
          exact List.mem_append_right _ List.mem_cons_self

/-- A subscription that fails changes nothing. -/
theorem addSubscription_failed (h : (addSubscription hash filter slist bus path rv).error ≠ 0) :
    (addSubscription hash filter slist bus path rv).slist = slist ∧
      (addSubscription hash filter slist bus path rv).bus = bus := by
  rw [addSubscription] at h ⊢
  dsimp only at h ⊢
  split
  · exact ⟨rfl, rfl⟩
  · next hroot =>
    rw [if_neg hroot] at h
    split
    · next hfind =>
      rw [hfind] at h
      exact absurd rfl h
    · next hfind =>
      rw [hfind] at h
      split
      · exact ⟨rfl, rfl⟩
      · next hrv =>
        dsimp only at h
        rw [if_neg hrv] at h
        exact absurd rfl h

/-- A subscription that does not fail has its object on the bus. -/
theorem mem_bus_addSubscription (hlisted : ∀ sub ∈ slist, sub.objectpath ∈ bus)
    (h : (addSubscription hash filter slist bus path rv).error = 0) :
    objectPath path ∈ (addSubscription hash filter slist bus path rv).bus := by
  rw [addSubscription] at h ⊢
  dsimp only at h ⊢
  split
  · next hroot =>
    rw [if_pos hroot] at h
    cases h
  · next hroot =>
    rw [if_neg hroot] at h
    split
    · next i hfind =>
      obtain ⟨sub, hsub, hobject⟩ := mem_of_findSubscription hfind
      exact hobject ▸ hlisted sub hsub
    · next hfind =>
      rw [hfind] at h
      split
      · next hrv =>
        dsimp only at h
        rw [if_pos hrv] at h
        cases h
      · exact List.mem_append_right _ List.mem_cons_self

end

namespace AcsConnection

variable (env : AcsConnectionEnv)

/-! ### The source -/

/-- `find_subscription_by_path`; of what it finds only the first entry is read. -/
def findSubscriptionByPath (s : AcsConnection) (get : Bool) (path : CString) :
    Option SubscriptionEntry :=
  if get then s.entries.find? (·.path = path) else none

/-- `add_subscription_to_dm`, which returns nothing. -/
def addSubscriptionToDm (s : AcsConnection) (bus : AddNotificationAnswers) (path : CString)
    (mode : NotificationMode) : AcsConnection :=
  if bus.add then
    { s with entries :=
        s.entries ++ [⟨path, some (env.notificationModeString mode), bus.value⟩] }
  else s

/-- `update_subscription_in_dm`: what it returns is the status of the write, as a truth
value. -/
def updateSubscriptionInDm (s : AcsConnection) (set : Bool) (path notificationMode : CString)
    (mode : NotificationMode) : Bool × AcsConnection :=
  if notificationMode ≠ env.notificationModeString mode then
    if set then
      (false, { s with entries := s.entries.map fun e =>
          if e.path = path then { e with type := some (env.notificationModeString mode) } else e })
    else (true, s)
  else (false, s)

/-- `DM_ENG_Device_Common_AddSubscription`, on the list of the ACS. -/
def commonAddSubscription (s : AcsConnection) (rv : Int) (path : CString) : AcsConnection where
  slist := (addSubscription env.hash env.filter s.slist s.bus path rv).slist
  bus := (addSubscription env.hash env.filter s.slist s.bus path rv).bus
  listed := listed_addSubscription s.listed
  entries := s.entries

/-- The part for the data model, of a mode that is not forced. -/
def addToDataModel (s : AcsConnection) (bus : AddNotificationAnswers) (path : CString)
    (mode : NotificationMode) : Bool × AcsConnection :=
  match s.findSubscriptionByPath bus.get path with
  | none => (true, s.addSubscriptionToDm env bus path mode)
  | some sub =>
    match sub.type with
    | none => (false, s)
    | some notificationMode => s.updateSubscriptionInDm env bus.set path notificationMode mode

/-- `DM_ENG_Device_ACSConnectionAddSubscription`. -/
def acsConnectionAddSubscription (s : AcsConnection) (bus : AddNotificationAnswers)
    (path : CString) (mode : NotificationMode) : AddNotificationResult :=
  if isValidPath path = false then ⟨false, none, s⟩
  else if bus.allowed = false then ⟨false, none, s⟩
  else
    let r := addSubscription env.hash env.filter s.slist s.bus path bus.subscribe
    let id := if mode.Subscribes then r.subscriptionID else none
    let s' := if mode.Subscribes then s.commonAddSubscription env bus.subscribe path else s
    if mode.Subscribes ∧ r.error ≠ 0 then ⟨false, id, s'⟩
    else if mode ≠ .forced then
      ⟨(s'.addToDataModel env bus path mode).1, id, (s'.addToDataModel env bus path mode).2⟩
    else ⟨false, id, s'⟩

/-! ### The property and the condition -/

/-- The data model has an entry of the path with the type of the mode. -/
def HasEntry (s : AcsConnection) (path : CString) (mode : NotificationMode) : Prop :=
  ∃ e ∈ s.entries, e.path = path ∧ e.type = some (env.notificationModeString mode)

/-- **A notification that is in place.** -/
structure InPlace (s : AcsConnection) (path : CString) (mode : NotificationMode) : Prop where
  subscribed : mode.Subscribes → objectPath path ∈ s.bus
  entry : mode ≠ .forced → s.HasEntry env path mode

/-- The call is refused: by the path, by the access rules, or by the bus, for a mode that is to
be subscribed. -/
def Refused (s : AcsConnection) (bus : AddNotificationAnswers) (path : CString)
    (mode : NotificationMode) : Prop :=
  isValidPath path = false ∨ bus.allowed = false ∨
    (mode.Subscribes ∧
      (addSubscription env.hash env.filter s.slist s.bus path bus.subscribe).error ≠ 0)

/-- A step that the data model needs fails: the search, the addition of an entry where there is
none, the reading of its type where there is one, or the write of another type. -/
def DataModelFails (s : AcsConnection) (bus : AddNotificationAnswers) (path : CString)
    (mode : NotificationMode) : Prop :=
  bus.get = false ∨
    match s.entries.find? (·.path = path) with
    | none => bus.add = false
    | some e =>
      e.type = none ∨ (e.type ≠ some (env.notificationModeString mode) ∧ bus.set = false)

/-- **A call that tells its outcome**: true exactly when the notification is in place
afterwards, and false only when a step has failed that was needed. -/
structure TellsOutcome (s : AcsConnection) (bus : AddNotificationAnswers) (path : CString)
    (mode : NotificationMode) : Prop where
  true_iff : (s.acsConnectionAddSubscription env bus path mode).ret = true ↔
    InPlace env (s.acsConnectionAddSubscription env bus path mode).connection path mode
  false_only : (s.acsConnectionAddSubscription env bus path mode).ret = false →
    s.Refused env bus path mode ∨ (mode ≠ .forced ∧ s.DataModelFails env bus path mode)

/-- The entry makes the call tell its outcome: none is found, and one is added or was there; or
it has no type to be read, and there is no other; or the write of its type fails, and another
entry has the type. -/
def EntryTells (s : AcsConnection) (bus : AddNotificationAnswers) (path : CString)
    (mode : NotificationMode) : Prop :=
  match s.findSubscriptionByPath bus.get path with
  | none => bus.add = true ∨ s.HasEntry env path mode
  | some e =>
    match e.type with
    | none => ¬ s.HasEntry env path mode
    | some type =>
      type ≠ env.notificationModeString mode ∧ bus.set = false ∧ s.HasEntry env path mode

/-- **The condition**: the call is refused, and the notification was not in place; or it is not
refused, the mode is not forced, and the entry makes it tell its outcome. -/
def Tells (s : AcsConnection) (bus : AddNotificationAnswers) (path : CString)
    (mode : NotificationMode) : Prop :=
  (s.Refused env bus path mode ∧ ¬ InPlace env s path mode) ∨
    (¬ s.Refused env bus path mode ∧ mode ≠ .forced ∧ s.EntryTells env bus path mode)

/-! ### The steps of a call -/

variable {env} {s s₁ : AcsConnection} {bus : AddNotificationAnswers} {path : CString}
variable {mode : NotificationMode}

/-- A refused call returns false and writes nothing. -/
theorem of_refused (h : s.Refused env bus path mode) :
    (s.acsConnectionAddSubscription env bus path mode).ret = false ∧
      (s.acsConnectionAddSubscription env bus path mode).connection.bus = s.bus ∧
      (s.acsConnectionAddSubscription env bus path mode).connection.entries = s.entries := by
  rw [acsConnectionAddSubscription]
  split
  · exact ⟨rfl, rfl, rfl⟩
  · next hpath =>
    split
    · exact ⟨rfl, rfl, rfl⟩
    · next hallowed =>
      obtain ⟨hmode, herror⟩ := (h.resolve_left hpath).resolve_left hallowed
      have hcommon := (addSubscription_failed herror).2
      dsimp only
      rw [if_pos (And.intro hmode herror)]
      dsimp only
      rw [if_pos hmode]
      exact ⟨rfl, hcommon, rfl⟩

/-- **A call that is not refused** comes to the data model with the object on the bus. -/
theorem of_not_refused (h : ¬ s.Refused env bus path mode) : ∃ s₁ : AcsConnection,
    s₁.entries = s.entries ∧ (mode.Subscribes → objectPath path ∈ s₁.bus) ∧
      ((s.acsConnectionAddSubscription env bus path mode).ret,
        (s.acsConnectionAddSubscription env bus path mode).connection) =
        if mode ≠ .forced then s₁.addToDataModel env bus path mode else (false, s₁) := by
  obtain ⟨hpath, hrest⟩ := not_or.mp h
  obtain ⟨hallowed, hsubscribe⟩ := not_or.mp hrest
  refine ⟨if mode.Subscribes then s.commonAddSubscription env bus.subscribe path else s, ?_, ?_, ?_⟩
  · split <;> rfl
  · intro hmode
    rw [if_pos hmode]
    have herror :
        (addSubscription env.hash env.filter s.slist s.bus path bus.subscribe).error = 0 :=
      by_contra fun herror => hsubscribe ⟨hmode, herror⟩
    exact mem_bus_addSubscription s.listed herror
  · rw [acsConnectionAddSubscription, if_neg hpath, if_neg hallowed]
    dsimp only
    rw [if_neg hsubscribe]
    split <;> rfl

/-- The part for the data model does not touch the bus. -/
theorem addToDataModel_bus : (s.addToDataModel env bus path mode).2.bus = s.bus := by
  rw [addToDataModel]
  split
  · rw [addSubscriptionToDm]
    split <;> rfl
  · split
    · rfl
    · rw [updateSubscriptionInDm]
      split
      · split <;> rfl
      · rfl

theorem hasEntry_congr (h : s₁.entries = s.entries) :
    s₁.HasEntry env path mode ↔ s.HasEntry env path mode := by
  rw [HasEntry, HasEntry, h]

theorem dataModelFails_congr (h : s₁.entries = s.entries) :
    s₁.DataModelFails env bus path mode ↔ s.DataModelFails env bus path mode := by
  rw [DataModelFails, DataModelFails, h]

theorem entryTells_congr (h : s₁.entries = s.entries) :
    s₁.EntryTells env bus path mode ↔ s.EntryTells env bus path mode := by
  simp only [EntryTells, findSubscriptionByPath, HasEntry, h]

/-- Where no entry is found true is returned, and the notification has an entry if one was
added or was there. -/
theorem addToDataModel_none (h : s.findSubscriptionByPath bus.get path = none) :
    (s.addToDataModel env bus path mode).1 = true ∧
      ((s.addToDataModel env bus path mode).2.HasEntry env path mode ↔
        bus.add = true ∨ s.HasEntry env path mode) := by
  rw [addToDataModel, h]
  refine ⟨rfl, ?_⟩
  dsimp only
  rw [addSubscriptionToDm]
  split
  · next hadd =>
    exact iff_of_true ⟨_, List.mem_append_right _ List.mem_cons_self, rfl, rfl⟩ (Or.inl hadd)
  · next hadd => exact (or_iff_right hadd).symm

/-- An entry without a type is left alone. -/
theorem addToDataModel_noType {e : SubscriptionEntry}
    (h : s.findSubscriptionByPath bus.get path = some e) (htype : e.type = none) :
    s.addToDataModel env bus path mode = (false, s) := by
  rw [addToDataModel, h]
  dsimp only
  rw [htype]

/-- What is found is an entry of the path. -/
theorem mem_of_findSubscriptionByPath {e : SubscriptionEntry} {get : Bool}
    (h : s.findSubscriptionByPath get path = some e) :
    get = true ∧ s.entries.find? (·.path = path) = some e ∧ e ∈ s.entries ∧ e.path = path := by
  rw [findSubscriptionByPath] at h
  split at h
  · next hget =>
    exact ⟨hget, h, List.mem_of_find?_eq_some h, by simpa using List.find?_some h⟩
  · cases h

/-- **An entry with a type**: false means that the type is there, before or by the write; true
means that the write has failed. -/
theorem addToDataModel_type {e : SubscriptionEntry} {type : CString}
    (h : s.findSubscriptionByPath bus.get path = some e) (htype : e.type = some type) :
    ((s.addToDataModel env bus path mode).1 = true ↔
        type ≠ env.notificationModeString mode ∧ bus.set = false) ∧
      ((s.addToDataModel env bus path mode).2.HasEntry env path mode ↔
        (type = env.notificationModeString mode ∨ bus.set = true) ∨
          s.HasEntry env path mode) := by
  obtain ⟨-, -, hmem, hpath⟩ := mem_of_findSubscriptionByPath h
  rw [addToDataModel, h]
  dsimp only
  rw [htype]
  dsimp only
  rw [updateSubscriptionInDm]
  by_cases hsame : type = env.notificationModeString mode
  · rw [if_neg (not_not.mpr hsame)]
    refine ⟨iff_of_false Bool.false_ne_true fun hne => hne.1 hsame, ?_⟩
    exact iff_of_true ⟨e, hmem, hpath, hsame ▸ htype⟩ (Or.inl (Or.inl hsame))
  · rw [if_pos hsame]
    by_cases hset : bus.set = true
    · rw [if_pos hset]
      refine ⟨iff_of_false Bool.false_ne_true fun hne => ?_, ?_⟩
      · rw [hset] at hne
        exact Bool.false_ne_true hne.2.symm
      · refine iff_of_true ⟨_, List.mem_map.mpr ⟨e, hmem, rfl⟩, ?_, ?_⟩ (Or.inl (Or.inr hset))
        · rw [if_pos hpath]
          exact hpath
        · rw [if_pos hpath]
    · rw [if_neg hset]
      refine ⟨iff_of_true rfl ⟨hsame, Bool.not_eq_true _ ▸ hset⟩, ?_⟩
      exact (or_iff_right fun hone => hone.elim hsame hset).symm

/-- **When the part for the data model tells its outcome.** -/
theorem entryTells_iff :
    (((s.addToDataModel env bus path mode).1 = true ↔
          (s.addToDataModel env bus path mode).2.HasEntry env path mode) ∧
        ((s.addToDataModel env bus path mode).1 = false → s.DataModelFails env bus path mode)) ↔
      s.EntryTells env bus path mode := by
  rw [EntryTells]
  rcases hfind : s.findSubscriptionByPath bus.get path with - | e
  · obtain ⟨hret, hentry⟩ := @addToDataModel_none env s bus path mode hfind
    rw [hret, hentry]
    exact ⟨fun h => h.1.mp rfl, fun h => ⟨iff_of_true rfl h, nofun⟩⟩
  · obtain ⟨-, hfirst, -, -⟩ := mem_of_findSubscriptionByPath hfind
    dsimp only
    rcases htype : e.type with - | type
    · rw [addToDataModel_noType hfind htype]
      have hfails : s.DataModelFails env bus path mode := by
        rw [DataModelFails, hfirst]
        exact Or.inr (Or.inl htype)
      exact ⟨fun h hentry => Bool.false_ne_true (h.1.mpr hentry),
        fun h => ⟨iff_of_false Bool.false_ne_true h, fun _ => hfails⟩⟩
    · obtain ⟨hret, hentry⟩ := @addToDataModel_type env s bus path mode e type hfind htype
      rw [hret, hentry, ← Bool.not_eq_true (s.addToDataModel env bus path mode).1, hret]
      dsimp only
      by_cases hwrong : type ≠ env.notificationModeString mode ∧ bus.set = false
      · -- the write fails, and true is returned for an entry that another one may be
        have hno : ¬ (type = env.notificationModeString mode ∨ bus.set = true) := by
          rintro (h | h)
          · exact hwrong.1 h
          · exact Bool.false_ne_true (hwrong.2.symm.trans h)
        rw [or_iff_right hno]
        exact ⟨fun h => ⟨hwrong.1, hwrong.2, h.1.mp hwrong⟩,
          fun h => ⟨iff_of_true hwrong h.2.2, fun hne => absurd hwrong hne⟩⟩
      · have hyes : type = env.notificationModeString mode ∨ bus.set = true := by
          by_contra hno
          obtain ⟨hne, hset⟩ := not_or.mp hno
          exact hwrong ⟨hne, Bool.not_eq_true _ ▸ hset⟩
        exact ⟨fun h => absurd (h.1.mpr (Or.inl hyes)) hwrong,
          fun h => absurd ⟨h.1, h.2.1⟩ hwrong⟩

/-! ### When a call tells its outcome -/

/-- A refused call tells its outcome when the notification was not in place. -/
theorem tellsOutcome_of_refused (h : s.Refused env bus path mode) :
    TellsOutcome env s bus path mode ↔ ¬ InPlace env s path mode := by
  obtain ⟨hret, hbus, hentries⟩ := of_refused h
  have hplace : InPlace env (s.acsConnectionAddSubscription env bus path mode).connection path
      mode ↔ InPlace env s path mode := by
    constructor
    · intro hplace
      exact ⟨fun hmode => hbus ▸ hplace.subscribed hmode,
        fun hmode => (hasEntry_congr hentries).mp (hplace.entry hmode)⟩
    · intro hplace
      exact ⟨fun hmode => hbus.symm ▸ hplace.subscribed hmode,
        fun hmode => (hasEntry_congr hentries).mpr (hplace.entry hmode)⟩
  constructor
  · intro htells hbefore
    exact Bool.false_ne_true (hret.symm.trans (htells.true_iff.mpr (hplace.mpr hbefore)))
  · intro hbefore
    refine ⟨iff_of_false ?_ fun hafter => hbefore (hplace.mp hafter), fun _ => Or.inl h⟩
    rw [hret]
    exact Bool.false_ne_true

/-- A call that is not refused, of a forced mode, has subscribed the object and returns
false. -/
theorem not_tellsOutcome_forced (h : ¬ s.Refused env bus path .forced) :
    ¬ TellsOutcome env s bus path .forced := by
  obtain ⟨s₁, -, hsubscribed, hcall⟩ := of_not_refused h
  rw [if_neg (fun hne => hne rfl)] at hcall
  have hret : (s.acsConnectionAddSubscription env bus path .forced).ret = false :=
    congrArg Prod.fst hcall
  have hconnection : (s.acsConnectionAddSubscription env bus path .forced).connection = s₁ :=
    congrArg Prod.snd hcall
  intro htells
  have hplace := htells.true_iff.mpr (by
    rw [hconnection]
    exact ⟨hsubscribed, fun hne => absurd rfl hne⟩)
  exact Bool.false_ne_true (hret.symm.trans hplace)

/-- A call that is not refused, of a mode that is not forced, comes down to the entry. -/
theorem tellsOutcome_of_not_refused (h : ¬ s.Refused env bus path mode) (hmode : mode ≠ .forced) :
    ∃ s₁ : AcsConnection, s₁.entries = s.entries ∧
      (TellsOutcome env s bus path mode ↔
        ((s₁.addToDataModel env bus path mode).1 = true ↔
            (s₁.addToDataModel env bus path mode).2.HasEntry env path mode) ∧
          ((s₁.addToDataModel env bus path mode).1 = false →
            s.DataModelFails env bus path mode)) := by
  obtain ⟨s₁, hentries, hsubscribed, hcall⟩ := of_not_refused h
  rw [if_pos hmode] at hcall
  have hret : (s.acsConnectionAddSubscription env bus path mode).ret =
      (s₁.addToDataModel env bus path mode).1 := congrArg Prod.fst hcall
  have hconnection : (s.acsConnectionAddSubscription env bus path mode).connection =
      (s₁.addToDataModel env bus path mode).2 := congrArg Prod.snd hcall
  have hplace : InPlace env (s.acsConnectionAddSubscription env bus path mode).connection path
      mode ↔ (s₁.addToDataModel env bus path mode).2.HasEntry env path mode := by
    rw [hconnection]
    refine ⟨fun hplace => hplace.entry hmode, fun hentry => ⟨fun hsub => ?_, fun _ => hentry⟩⟩
    rw [addToDataModel_bus]
    exact hsubscribed hsub
  refine ⟨s₁, hentries, ?_⟩
  constructor
  · rintro ⟨htrue, hfalse⟩
    rw [hret, hplace] at htrue
    rw [hret] at hfalse
    exact ⟨htrue, fun hret => ((hfalse hret).resolve_left h).2⟩
  · rintro ⟨htrue, hfalse⟩
    refine ⟨?_, fun hret' => Or.inr ⟨hmode, hfalse (hret ▸ hret')⟩⟩
    rw [hret, hplace]
    exact htrue

/-- **When adding a notification tells its outcome**, for every path and mode, every state of
the list and the data model, and all answers of the bus. -/
theorem tellsOutcome_iff (env : AcsConnectionEnv) (s : AcsConnection)
    (bus : AddNotificationAnswers) (path : CString) (mode : NotificationMode) :
    TellsOutcome env s bus path mode ↔ s.Tells env bus path mode := by
  by_cases hrefused : s.Refused env bus path mode
  · rw [tellsOutcome_of_refused hrefused, Tells]
    exact ⟨fun h => Or.inl ⟨hrefused, h⟩, fun h => h.elim And.right fun h => absurd hrefused h.1⟩
  by_cases hmode : mode = .forced
  · subst hmode
    refine iff_of_false (not_tellsOutcome_forced hrefused) ?_
    rintro (h | h)
    · exact hrefused h.1
    · exact h.2.1 rfl
  obtain ⟨s₁, hentries, hiff⟩ := tellsOutcome_of_not_refused hrefused hmode
  rw [hiff, ← dataModelFails_congr hentries, entryTells_iff, entryTells_congr hentries, Tells]
  exact ⟨fun h => Or.inr ⟨hrefused, hmode, h⟩,
    fun h => h.elim (fun h => absurd h.1 hrefused) fun h => h.2.2⟩

/-- The libraries, with one hash for all texts. -/
def oneHashEnv : AcsConnectionEnv where
  hash := fun _ => 0
  filter := []
  notificationModeString
    | .off => "Off".toList
    | .passive => "Passive".toList
    | .active => "Active".toList
    | .forced => "Forced".toList

/-- The data model has an entry of a path that is switched off. -/
def switchedOff : AcsConnection :=
  ⟨[], [], fun _ h => absurd h List.not_mem_nil, [⟨"Device.A".toList, some "Off".toList, none⟩]⟩

/-- The type of an entry is written, and false is returned. -/
theorem switchedOff_not_tellsOutcome :
    ¬ ∀ (env : AcsConnectionEnv) (s : AcsConnection) (bus : AddNotificationAnswers)
      (path : CString) (mode : NotificationMode), TellsOutcome env s bus path mode := by
  intro h
  have htells := h oneHashEnv switchedOff ⟨true, 0, true, none, true, true⟩ "Device.A".toList
    .passive
  have hret : (acsConnectionAddSubscription oneHashEnv switchedOff
      ⟨true, 0, true, none, true, true⟩ "Device.A".toList .passive).ret = false := by
    decide +kernel
  have hentry : ⟨"Device.A".toList, some "Passive".toList, none⟩ ∈
      (acsConnectionAddSubscription oneHashEnv switchedOff
        ⟨true, 0, true, none, true, true⟩ "Device.A".toList .passive).connection.entries := by
    decide +kernel
  have hplace := htells.true_iff.mpr ⟨fun hmode => absurd hmode (by decide),
    fun _ => ⟨_, hentry, rfl, rfl⟩⟩
  exact Bool.false_ne_true (hret.symm.trans hplace)

end AcsConnection

end Tr069
