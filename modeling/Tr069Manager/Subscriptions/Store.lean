import Tr069Manager.Lib.Runs
import Tr069Manager.Subscriptions.AddNotification
import Tr069Manager.Subscriptions.Invariant

/-!
# The subscriptions of the ACS over a run

What `DM_AmxACSConnection.c` does with `ManagementServer.Subscription.` from one call to the next,
and over a restart of the daemon: an entry is added or given another type when a notification is
added (`Tr069.AcsConnection.acsConnectionAddSubscription`), taken out when it is removed, and given
the new value when its parameter changes; the list of what is subscribed on the bus goes with the
process, and the entries stay. `DM_ENG_Device_GetSubscriptions` reads them all.

As long as the searches do not fail, there is one entry of a path at most; and whatever else happens,
a path is listed with the mode it was last given, or not at all if it was removed since
(`Tr069.AcsStore.listed_of_reaches`). What was subscribed stays on the list and on the bus until the
daemon restarts or its id is deleted (`Tr069.AcsStore.watched_of_reaches`).

`DM_ENG_Device_GetSubscriptions` compares the error of the call with `false`, so that it returns -1
when all went well, with the list filled.
-/

namespace Tr069

open Runs

/-- The subscriptions of the ACS, of which no object has two entries in the list. -/
structure AcsStore extends AcsConnection where
  unique : (slist.map Subscription.objectpath).Nodup

/-! ### What keeps the list -/

section List

variable {hash : Hash} {filter path : CString} {slist : List Subscription} {bus : List CString}
  {rv id : Int}

/-- The objects of the list after an add. -/
theorem objects_addSubscription : ∃ objects,
    (addSubscription hash filter slist bus path rv).slist.map Subscription.objectpath =
      slist.map Subscription.objectpath ++ objects ∧
    (objects = [] ∨ objects = [objectPath path] ∧
      objectPath path ∉ slist.map Subscription.objectpath) := by
  by_cases hroot : objectPath path = ['.']
  · rw [addSubscription_root hroot]
    exact ⟨[], (List.append_nil _).symm, Or.inl rfl⟩
  · rcases hfind : findSubscription slist (objectPath path) with - | i
    · rw [addSubscription_new hroot hfind]
      split
      · exact ⟨[], (List.append_nil _).symm, Or.inl rfl⟩
      · exact ⟨[objectPath path], List.map_append, Or.inr ⟨rfl,
          Subscriptions.findSubscription_eq_none.mp hfind⟩⟩
    · obtain ⟨pre, infos, post, rfl, rfl⟩ := Subscriptions.exists_of_findSubscription hfind
      rw [addSubscription_known hroot hfind]
      exact ⟨[], by simp, Or.inl rfl⟩

/-- What a list has noted of an object. -/
def Notes (slist : List Subscription) (object : CString) (info : SubscriptionInfo) : Prop :=
  ∃ sub ∈ slist, sub.objectpath = object ∧ info ∈ sub.subscriptionInfoList

/-- An add keeps what is noted, and notes its path if it does not fail. -/
theorem notes_addSubscription {object : CString} {info : SubscriptionInfo} :
    Notes (addSubscription hash filter slist bus path rv).slist object info ↔
      Notes slist object info ∨
        (addSubscription hash filter slist bus path rv).error = 0 ∧ object = objectPath path ∧
          info = infoOf hash filter path := by
  have hfault : (9000 : Int) ≠ 0 := by decide
  by_cases hroot : objectPath path = ['.']
  · rw [addSubscription_root hroot]
    exact (or_iff_left fun h => hfault h.1).symm
  · rcases hfind : findSubscription slist (objectPath path) with - | i
    · rw [addSubscription_new hroot hfind]
      by_cases hrv : rv = 0
      · rw [if_neg (not_not.mpr hrv)]
        simp only [Notes, List.mem_append, List.mem_singleton, or_and_right, exists_or,
          exists_eq_left, true_and]
        exact or_congr_right (and_congr_left' eq_comm)
      · rw [if_pos hrv]
        exact (or_iff_left fun h => hfault h.1).symm
    · obtain ⟨pre, infos, post, rfl, rfl⟩ := Subscriptions.exists_of_findSubscription hfind
      rw [addSubscription_known hroot hfind]
      simp only [Notes, List.mem_append, List.mem_cons, or_and_right, exists_or, exists_eq_left,
        List.not_mem_nil, or_false, and_or_left]
      constructor
      · rintro (h | (⟨h, hinfo⟩ | ⟨h, hinfo⟩) | h)
        · exact Or.inl (Or.inl h)
        · exact Or.inl (Or.inr (Or.inl ⟨h, hinfo⟩))
        · exact Or.inr ⟨trivial, h.symm, hinfo⟩
        · exact Or.inl (Or.inr (Or.inr h))
      · rintro ((h | ⟨h, hinfo⟩ | h) | ⟨-, h, hinfo⟩)
        · exact Or.inl h
        · exact Or.inr (Or.inl (Or.inl ⟨h, hinfo⟩))
        · exact Or.inr (Or.inr h)
        · exact Or.inr (Or.inl (Or.inr ⟨h.symm, hinfo⟩))

theorem unique_addSubscription (h : (slist.map Subscription.objectpath).Nodup) :
    ((addSubscription hash filter slist bus path rv).slist.map Subscription.objectpath).Nodup := by
  obtain ⟨objects, hobjects, rfl | ⟨rfl, hnew⟩⟩ :=
    @objects_addSubscription hash filter path slist bus rv
  · rwa [hobjects, List.append_nil]
  · rw [hobjects]
    refine List.nodup_append'.mpr ⟨h, List.nodup_singleton _, ?_⟩
    exact List.disjoint_singleton.mpr hnew

/-- **A delete** takes the first information with the id out of its entry, and the entry with it if
it has no other. -/
theorem deleteSubscription_cases :
    (deleteSubscription slist bus id rv = ⟨9000, slist, bus⟩ ∧
        ∀ sub ∈ slist, ∀ info ∈ sub.subscriptionInfoList, info.uniqueID ≠ id) ∨
    ∃ pre sub post error, slist = pre ++ sub :: post ∧
      (deleteSubscription slist bus id rv =
          ⟨error, pre ++ deleteSubscriptionInfo id sub :: post, bus⟩ ∨
        (deleteSubscriptionInfo id sub).subscriptionInfoList = [] ∧
        deleteSubscription slist bus id rv =
          ⟨error, pre ++ post, bus.erase sub.objectpath⟩) := by
  rcases hfind : findSubscriptionByID slist id with - | i
  · refine Or.inl ⟨?_, Subscriptions.forall_ne_of_findSubscriptionByID_eq_none hfind⟩
    rw [deleteSubscription, hfind]
  · obtain ⟨pre, sub, post, rfl, rfl, -, -⟩ := Subscriptions.exists_of_findSubscriptionByID hfind
    refine Or.inr ?_
    rw [deleteSubscription_found hfind]
    by_cases hempty : (deleteSubscriptionInfo id sub).subscriptionInfoList = []
    · rw [if_pos hempty]
      by_cases hrv : rv = 0
      · rw [if_neg (not_not.mpr hrv)]
        exact ⟨pre, sub, post, 0, rfl, Or.inr ⟨hempty, rfl⟩⟩
      · rw [if_pos hrv]
        exact ⟨pre, sub, post, 9000, rfl, Or.inl rfl⟩
    · rw [if_neg hempty]
      exact ⟨pre, sub, post, 0, rfl, Or.inl rfl⟩

theorem unique_deleteSubscription (h : (slist.map Subscription.objectpath).Nodup) :
    ((deleteSubscription slist bus id rv).slist.map Subscription.objectpath).Nodup := by
  rcases @deleteSubscription_cases slist bus rv id with ⟨hsame, -⟩ |
    ⟨pre, sub, post, error, rfl, hsame | ⟨-, hgone⟩⟩
  · rw [hsame]
    exact h
  · rw [hsame]
    simpa [deleteSubscriptionInfo] using h
  · rw [hgone]
    refine h.sublist (List.Sublist.map _ ?_)
    exact List.Sublist.append_left (List.sublist_cons_self sub post) pre

/-- A delete keeps what is noted with another id. -/
theorem notes_deleteSubscription {object : CString} {info : SubscriptionInfo}
    (h : Notes slist object info) (hid : info.uniqueID ≠ id) :
    Notes (deleteSubscription slist bus id rv).slist object info := by
  obtain ⟨sub, hsub, hobject, hinfo⟩ := h
  have hkept : info ∈ (deleteSubscriptionInfo id sub).subscriptionInfoList :=
    (List.mem_eraseP_of_neg (by simpa using hid)).mpr hinfo
  rcases @deleteSubscription_cases slist bus rv id with ⟨hsame, -⟩ |
    ⟨pre, old, post, error, rfl, hsame | ⟨hempty, hgone⟩⟩
  · rw [hsame]
    exact ⟨sub, hsub, hobject, hinfo⟩
  · rw [hsame]
    rcases List.mem_append.mp hsub with hsub | hsub
    · exact ⟨sub, List.mem_append_left _ hsub, hobject, hinfo⟩
    · rcases List.mem_cons.mp hsub with rfl | hsub
      · exact ⟨_, List.mem_append_right _ List.mem_cons_self, hobject, hkept⟩
      · exact ⟨sub, List.mem_append_right _ (List.mem_cons_of_mem _ hsub), hobject, hinfo⟩
  · rw [hgone]
    rcases List.mem_append.mp hsub with hsub | hsub
    · exact ⟨sub, List.mem_append_left _ hsub, hobject, hinfo⟩
    · rcases List.mem_cons.mp hsub with rfl | hsub
      · -- the entry that is taken out has no other information
        rw [hempty] at hkept
        cases hkept
      · exact ⟨sub, List.mem_append_right _ hsub, hobject, hinfo⟩

/-- All of the list stays subscribed. -/
theorem listed_deleteSubscription (h : (slist.map Subscription.objectpath).Nodup)
    (hlisted : ∀ sub ∈ slist, sub.objectpath ∈ bus) :
    ∀ sub ∈ (deleteSubscription slist bus id rv).slist,
      sub.objectpath ∈ (deleteSubscription slist bus id rv).bus := by
  rcases @deleteSubscription_cases slist bus rv id with ⟨hsame, -⟩ |
    ⟨pre, old, post, error, rfl, hsame | ⟨-, hgone⟩⟩
  · rw [hsame]
    exact hlisted
  · rw [hsame]
    intro sub hsub
    rcases List.mem_append.mp hsub with hsub | hsub
    · exact hlisted sub (List.mem_append_left _ hsub)
    · rcases List.mem_cons.mp hsub with rfl | hsub
      · exact hlisted old (List.mem_append_right _ List.mem_cons_self)
      · exact hlisted sub (List.mem_append_right _ (List.mem_cons_of_mem _ hsub))
  · rw [hgone]
    intro sub hsub
    rw [List.map_append, List.map_cons] at h
    -- another entry is one of another object
    have hne : sub.objectpath ≠ old.objectpath := by
      intro heq
      have hnot := (List.nodup_middle.mp h).notMem
      rw [← List.map_append] at hnot
      exact hnot (heq ▸ List.mem_map_of_mem hsub)
    refine (List.mem_erase_of_ne hne).mpr (hlisted sub ?_)
    rcases List.mem_append.mp hsub with hsub | hsub
    · exact List.mem_append_left _ hsub
    · exact List.mem_append_right _ (List.mem_cons_of_mem _ hsub)

end List

/-! ### The source -/

/-- What can happen to the subscriptions, with the answers of the bus: a notification is added or
removed, a parameter has a new value, the daemon restarts. -/
inductive StoreEvent where
  | addNotification (path : CString) (mode : NotificationMode) (bus : AddNotificationAnswers)
  | removeNotification (path : CString) (subscriptionID : Int) (del : Bool) (unsubscribe : Int)
  | newValue (path : CString) (value : Option CString) (set : Bool)
  | restart

namespace AcsStore

variable (env : AcsConnectionEnv)

/-- The empty list has nothing that would have to be on the bus. -/
theorem listed_nil : ∀ sub ∈ ([] : List Subscription), sub.objectpath ∈ ([] : List CString) :=
  List.forall_mem_nil _

/-- Nothing is subscribed. -/
def init : AcsStore := ⟨⟨[], [], listed_nil, []⟩, List.nodup_nil⟩

/-- The list after a call of `DM_ENG_Device_ACSConnectionAddSubscription`. -/
theorem slist_addNotification (s : AcsConnection) (bus : AddNotificationAnswers) (path : CString)
    (mode : NotificationMode) :
    (s.acsConnectionAddSubscription env bus path mode).connection.slist =
      if isValidPath path = true ∧ bus.allowed = true ∧ mode.Subscribes then
        (addSubscription env.hash env.filter s.slist s.bus path bus.subscribe).slist
      else s.slist := by
  have hdm : ∀ s' : AcsConnection, (s'.addToDataModel env bus path mode).2.slist = s'.slist := by
    intro s'
    rw [AcsConnection.addToDataModel]
    split
    · rw [AcsConnection.addSubscriptionToDm]
      split <;> rfl
    · split
      · rfl
      · rw [AcsConnection.updateSubscriptionInDm]
        split
        · split <;> rfl
        · rfl
  by_cases hall : isValidPath path = true ∧ bus.allowed = true ∧ mode.Subscribes
  · obtain ⟨hpath, hallowed, hmode⟩ := hall
    rw [if_pos ⟨hpath, hallowed, hmode⟩, AcsConnection.acsConnectionAddSubscription, hpath,
      hallowed, if_neg Bool.noConfusion, if_neg Bool.noConfusion, if_pos hmode]
    dsimp only
    split
    · rfl
    · split
      · exact hdm _
      · rfl
  · rw [if_neg hall, AcsConnection.acsConnectionAddSubscription]
    by_cases hpath : isValidPath path = true
    · rw [hpath, if_neg Bool.noConfusion]
      by_cases hallowed : bus.allowed = true
      · have hmode : ¬mode.Subscribes := fun hmode => hall ⟨hpath, hallowed, hmode⟩
        rw [hallowed, if_neg Bool.noConfusion, if_neg hmode]
        dsimp only
        split
        · rfl
        · split
          · exact hdm _
          · rfl
      · rw [if_pos (Bool.not_eq_true _ ▸ hallowed)]
    · rw [if_pos (Bool.not_eq_true _ ▸ hpath)]

/-- `DM_ENG_Device_AddNotification`. -/
def addNotification (s : AcsStore) (path : CString) (mode : NotificationMode)
    (bus : AddNotificationAnswers) : AcsStore where
  toAcsConnection := (s.acsConnectionAddSubscription env bus path mode).connection
  unique := by
    rw [slist_addNotification]
    split
    · exact unique_addSubscription s.unique
    · exact s.unique

/-- `DM_ENG_Device_RemoveNotification`: `remove_subscription_from_dm`, and the delete of the id. -/
def removeNotification (s : AcsStore) (path : CString) (subscriptionID : Int) (del : Bool)
    (unsubscribe : Int) : AcsStore where
  slist := (deleteSubscription s.slist s.bus subscriptionID unsubscribe).slist
  bus := (deleteSubscription s.slist s.bus subscriptionID unsubscribe).bus
  listed := listed_deleteSubscription s.unique s.listed
  entries := if del then s.entries.filter (·.path ≠ path) else s.entries
  unique := unique_deleteSubscription s.unique

/-- `set_subscription_new_value`. -/
def setSubscriptionNewValue (s : AcsStore) (path : CString) (value : Option CString) (set : Bool) :
    AcsStore :=
  { s with
    entries :=
      if set then s.entries.map fun e => if e.path = path then { e with value := value } else e
      else s.entries }

/-- The daemon restarts: the bus forgets what it had subscribed, and the data model stays. -/
def restarted (s : AcsStore) : AcsStore := { init with entries := s.entries }

/-- One event. -/
def step (s : AcsStore) : StoreEvent → Option AcsStore
  | .addNotification path mode bus => some (s.addNotification env path mode bus)
  | .removeNotification path id del unsubscribe =>
    some (s.removeNotification path id del unsubscribe)
  | .newValue path value set => some (s.setSubscriptionNewValue path value set)
  | .restart => some s.restarted

/-! ### The entries of a path -/

/-- The entries of a path. -/
def entriesOf (s : AcsConnection) (path : CString) : List SubscriptionEntry :=
  s.entries.filter (·.path = path)

/-- The searches for an entry do not fail. -/
def Searchable (_ : AcsStore) : StoreEvent → Prop
  | .addNotification _ _ bus => bus.get = true
  | _ => True

/-- What an event asks for a path: to be listed with a type, or not to be listed. -/
def asks (path : CString) : StoreEvent → Option (Option CString)
  | .addNotification p mode _ =>
    if p = path ∧ mode ≠ .forced then some (some (env.notificationModeString mode)) else none
  | .removeNotification p _ _ _ => if p = path then some none else none
  | _ => none

/-- The event asks nothing for a path. -/
def Leaves (path : CString) (_ : AcsStore) (e : StoreEvent) : Prop := asks env path e = none

/-- **What holds of the entries**: each has a type, and there is one of a path at most. -/
structure Single (s : AcsConnection) : Prop where
  typed : ∀ e ∈ s.entries, e.type.isSome
  once : ∀ path, (entriesOf s path).length ≤ 1

variable {env} {s t u : AcsStore} {path p : CString} {mode : NotificationMode}

/-- The entries of a path, when those of one path are changed and keep it. -/
theorem filter_map_at {l : List SubscriptionEntry} {g : SubscriptionEntry → SubscriptionEntry}
    (hg : ∀ e, (g e).path = e.path) :
    (l.map fun e => if e.path = p then g e else e).filter (·.path = path) =
      (l.filter (·.path = path)).map fun e => if path = p then g e else e := by
  have hpath : ∀ e : SubscriptionEntry, (if e.path = p then g e else e).path = e.path := by
    intro e
    split
    · exact hg e
    · rfl
  rw [List.filter_map]
  have hfilter : (fun e : SubscriptionEntry => decide (e.path = path)) ∘
      (fun e => if e.path = p then g e else e) = fun e => decide (e.path = path) := by
    funext e
    rw [Function.comp_apply, hpath]
  rw [hfilter]
  refine List.map_congr_left fun e he => ?_
  rw [of_decide_eq_true (List.mem_filter.mp he).2]

theorem filter_map_at_ne {l : List SubscriptionEntry} {g : SubscriptionEntry → SubscriptionEntry}
    (hg : ∀ e, (g e).path = e.path) (hne : p ≠ path) :
    (l.map fun e => if e.path = p then g e else e).filter (·.path = path) =
      l.filter (·.path = path) := by
  rw [filter_map_at hg]
  simp only [if_neg hne.symm]
  exact List.map_id' _

theorem filter_map_at_self {l : List SubscriptionEntry} {g : SubscriptionEntry → SubscriptionEntry}
    (hg : ∀ e, (g e).path = e.path) :
    (l.map fun e => if e.path = p then g e else e).filter (·.path = p) =
      (l.filter (·.path = p)).map g := by
  rw [filter_map_at hg]
  simp only [if_true]

/-- **A call that adds a notification**, for the entries: nothing, or it comes to the data model. -/
theorem entries_addNotification (bus : AddNotificationAnswers) :
    (s.addNotification env p mode bus).entries = s.entries ∨
      mode ≠ .forced ∧ ∃ s₁ : AcsConnection, s₁.entries = s.entries ∧
        (s.addNotification env p mode bus).entries = (s₁.addToDataModel env bus p mode).2.entries := by
  by_cases h : s.Refused env bus p mode
  · exact Or.inl (AcsConnection.of_refused h).2.2
  · obtain ⟨s₁, hs₁, -, heq⟩ := AcsConnection.of_not_refused h
    by_cases hmode : mode = .forced
    · rw [if_neg (not_not.mpr hmode)] at heq
      refine Or.inl ?_
      show (s.acsConnectionAddSubscription env bus p mode).connection.entries = _
      rw [(Prod.mk.inj heq).2, hs₁]
    · rw [if_pos hmode] at heq
      refine Or.inr ⟨hmode, s₁, hs₁, ?_⟩
      show (s.acsConnectionAddSubscription env bus p mode).connection.entries = _
      rw [← heq]

/-- The part for the data model leaves the other paths alone. -/
theorem entriesOf_addToDataModel_ne (env : AcsConnectionEnv) (s₁ : AcsConnection)
    (bus : AddNotificationAnswers) (mode : NotificationMode) (hne : p ≠ path) :
    entriesOf (s₁.addToDataModel env bus p mode).2 path = entriesOf s₁ path := by
  rw [AcsConnection.addToDataModel]
  split
  · rw [AcsConnection.addSubscriptionToDm]
    split
    · rw [entriesOf, List.filter_append, List.filter_singleton, decide_eq_false hne]
      exact List.append_nil _
    · rfl
  · split
    · rfl
    · rw [AcsConnection.updateSubscriptionInDm]
      split
      · split
        · exact filter_map_at_ne (fun _ => rfl) hne
        · rfl
      · rfl

/-- **The part for the data model**, if the search does not fail and what it finds is one entry with
a type at most: then that is so afterwards, and if the writes succeed the entry has the type of the
mode. -/
theorem entriesOf_addToDataModel (env : AcsConnectionEnv) (p : CString)
    (mode : NotificationMode) {s₁ : AcsConnection} {bus : AddNotificationAnswers}
    (hs : Single s₁) (hget : bus.get = true) :
    (∀ e ∈ entriesOf (s₁.addToDataModel env bus p mode).2 p, e.type.isSome) ∧
      (entriesOf (s₁.addToDataModel env bus p mode).2 p).length ≤ 1 ∧
      (bus.add = true → bus.set = true → ∃ value,
        entriesOf (s₁.addToDataModel env bus p mode).2 p =
          [⟨p, some (env.notificationModeString mode), value⟩]) := by
  have hfind : s₁.findSubscriptionByPath bus.get p = (entriesOf s₁ p).head? := by
    rw [AcsConnection.findSubscriptionByPath, if_pos hget, entriesOf, List.head?_filter]
  rcases hentries : entriesOf s₁ p with - | ⟨e, rest⟩
  · rw [hentries] at hfind
    rw [AcsConnection.addToDataModel, hfind]
    dsimp only [List.head?_nil]
    rw [AcsConnection.addSubscriptionToDm]
    by_cases hadd : bus.add = true
    · obtain ⟨new, hnew⟩ : ∃ new : SubscriptionEntry,
          new = ⟨p, some (env.notificationModeString mode), bus.value⟩ := ⟨_, rfl⟩
      have hone : (s₁.entries ++ [new]).filter (·.path = p) = [new] := by
        rw [List.filter_append, List.filter_singleton, hnew, decide_eq_true rfl]
        exact congrArg (· ++ _) hentries
      rw [if_pos hadd, entriesOf, ← hnew, hone, hnew]
      refine ⟨fun e he => ?_, Nat.le_refl 1, fun _ _ => ⟨_, rfl⟩⟩
      obtain rfl := List.mem_singleton.mp he
      rfl
    · rw [if_neg hadd, hentries]
      refine ⟨fun e he => ?_, Nat.zero_le 1, fun h => absurd h hadd⟩
      exact absurd he List.not_mem_nil
  · have hlength := hs.once p
    rw [hentries, List.length_cons] at hlength
    obtain rfl : rest = [] := List.length_eq_zero_iff.mp (by omega)
    have hmem : e ∈ s₁.entries ∧ e.path = p := by
      have hmem : e ∈ entriesOf s₁ p := by rw [hentries]; exact List.mem_cons_self
      exact ⟨(List.mem_filter.mp hmem).1, of_decide_eq_true (List.mem_filter.mp hmem).2⟩
    obtain ⟨type, htype⟩ := Option.isSome_iff_exists.mp (hs.typed e hmem.1)
    have hsame : (∀ e' ∈ [e], e'.type.isSome) ∧ [e].length ≤ 1 := by
      refine ⟨fun e' he' => ?_, Nat.le_refl 1⟩
      obtain rfl := List.mem_singleton.mp he'
      exact hs.typed e' hmem.1
    rw [hentries] at hfind
    rw [AcsConnection.addToDataModel, hfind]
    dsimp only [List.head?_cons]
    rw [htype]
    dsimp only
    rw [AcsConnection.updateSubscriptionInDm]
    by_cases hnew : type = env.notificationModeString mode
    · rw [if_neg (not_not.mpr hnew), hentries]
      refine ⟨hsame.1, hsame.2, fun _ _ => ⟨e.value, ?_⟩⟩
      rw [← hnew, ← htype, ← hmem.2]
    · rw [if_pos hnew]
      by_cases hset : bus.set = true
      · have hone : (s₁.entries.map fun e => if e.path = p then
            { e with type := some (env.notificationModeString mode) } else e).filter
            (·.path = p) = [{ e with type := some (env.notificationModeString mode) }] := by
          rw [filter_map_at_self (g := fun e : SubscriptionEntry =>
            { e with type := some (env.notificationModeString mode) }) fun _ => rfl]
          exact congrArg (List.map _) hentries
        rw [if_pos hset, entriesOf, hone]
        refine ⟨fun e' he' => ?_, Nat.le_refl 1, fun _ _ => ⟨e.value, ?_⟩⟩
        · obtain rfl := List.mem_singleton.mp he'
          rfl
        · rw [← hmem.2]
      · rw [if_neg hset, hentries]
        exact ⟨hsame.1, hsame.2, fun _ h => absurd h hset⟩

/-! ### One event -/

theorem entriesOf_setSubscriptionNewValue (value : Option CString) (set : Bool) :
    (entriesOf (s.setSubscriptionNewValue p value set).toAcsConnection path).map
        (fun e => (e.path, e.type)) =
      (entriesOf s.toAcsConnection path).map fun e => (e.path, e.type) := by
  show (List.filter _ (if set then _ else _)).map _ = _
  split
  · rw [filter_map_at (g := fun e : SubscriptionEntry => { e with value := value }) fun _ => rfl,
      List.map_map]
    refine List.map_congr_left fun e _ => ?_
    show (_, _) = (_, _)
    split <;> rfl
  · rfl

/-- **An event that asks nothing for a path** leaves it as it is listed. -/
theorem listed_of_leaves {e : StoreEvent} (he : Leaves env path s e) (h : step env s e = some t) :
    (entriesOf t.toAcsConnection path).map (fun e => (e.path, e.type)) =
      (entriesOf s.toAcsConnection path).map fun e => (e.path, e.type) := by
  cases e with
  | addNotification p mode bus =>
    obtain rfl := Option.some.inj h
    rcases entries_addNotification (s := s) bus with hsame | ⟨hmode, s₁, hs₁, hdm⟩
    · rw [entriesOf, hsame]
      rfl
    · have hne : p ≠ path := by
        rintro rfl
        rw [Leaves, asks, if_pos ⟨rfl, hmode⟩] at he
        cases he
      have hother := entriesOf_addToDataModel_ne env s₁ bus mode hne
      rw [entriesOf, hdm]
      rw [entriesOf] at hother
      rw [hother, entriesOf, hs₁]
      rfl
  | removeNotification p id del unsubscribe =>
    obtain rfl := Option.some.inj h
    have hne : p ≠ path := by
      rintro rfl
      rw [Leaves, asks, if_pos rfl] at he
      cases he
    show (List.filter _ (if del then _ else _)).map _ = _
    split
    · rw [List.filter_filter]
      refine congrArg _ (List.filter_congr fun e _ => ?_)
      by_cases hpath : e.path = path
      · simp [hpath, hne.symm]
      · simp [hpath]
    · rfl
  | newValue p value set =>
    obtain rfl := Option.some.inj h
    exact entriesOf_setSubscriptionNewValue value set
  | restart =>
    obtain rfl := Option.some.inj h
    rfl

/-- **One entry of a path at most**, after every event whose search does not fail. -/
theorem Single.step {e : StoreEvent} (hs : Single s.toAcsConnection) (hG : Searchable s e)
    (h : step env s e = some t) : Single t.toAcsConnection := by
  -- what is said of each path says it of all entries
  have hfrom : (∀ path, (∀ e ∈ entriesOf t.toAcsConnection path, e.type.isSome) ∧
      (entriesOf t.toAcsConnection path).length ≤ 1) → Single t.toAcsConnection := by
    intro hall
    refine ⟨fun e he => (hall e.path).1 e ?_, fun path => (hall path).2⟩
    exact List.mem_filter.mpr ⟨he, decide_eq_true rfl⟩
  have hkept : ∀ path, (∀ e ∈ entriesOf s.toAcsConnection path, e.type.isSome) ∧
      (entriesOf s.toAcsConnection path).length ≤ 1 := fun path =>
    ⟨fun e he => hs.typed e (List.mem_filter.mp he).1, hs.once path⟩
  -- and so does what is listed of it
  have hlisted : ∀ path, (entriesOf t.toAcsConnection path).map (fun e => (e.path, e.type)) =
      (entriesOf s.toAcsConnection path).map (fun e => (e.path, e.type)) →
      (∀ e ∈ entriesOf t.toAcsConnection path, e.type.isSome) ∧
        (entriesOf t.toAcsConnection path).length ≤ 1 := by
    intro path hsame
    obtain ⟨htyped, hlength⟩ := hkept path
    refine ⟨fun e he => ?_, ?_⟩
    · obtain ⟨e', he', heq⟩ := List.mem_map.mp (hsame ▸ List.mem_map_of_mem he)
      have htype : e'.type = e.type := (Prod.mk.inj heq).2
      rw [← htype]
      exact htyped e' he'
    · have hlen := congrArg List.length hsame
      rw [List.length_map, List.length_map] at hlen
      exact hlen ▸ hlength
  refine hfrom fun path => ?_
  by_cases hleaves : Leaves env path s e
  · exact hlisted path (listed_of_leaves hleaves h)
  · cases e with
    | addNotification p mode bus =>
      obtain rfl := Option.some.inj h
      rcases entries_addNotification (s := s) bus with hsame | ⟨-, s₁, hs₁, hdm⟩
      · refine hlisted path ?_
        rw [entriesOf, hsame]
        rfl
      · have hp : p = path := by
          by_contra hne
          exact hleaves (if_neg fun hboth => hne hboth.1)
        subst hp
        have hsingle : Single s₁ := by
          refine ⟨fun e he => hs.typed e (hs₁ ▸ he), fun q => ?_⟩
          rw [entriesOf, hs₁]
          exact hs.once q
        obtain ⟨htyped, hlength, -⟩ :=
          entriesOf_addToDataModel env p mode hsingle hG
        rw [entriesOf] at htyped hlength ⊢
        rw [hdm]
        exact ⟨htyped, hlength⟩
    | removeNotification p id del unsubscribe =>
      obtain rfl := Option.some.inj h
      have hsub : (entriesOf (s.removeNotification p id del unsubscribe).toAcsConnection path).Sublist
          (entriesOf s.toAcsConnection path) := by
        refine List.Sublist.filter _ ?_
        show (if del then _ else _ : List SubscriptionEntry).Sublist _
        split
        · exact List.filter_sublist
        · exact List.Sublist.refl _
      exact ⟨fun e he => (hkept path).1 e (hsub.subset he),
        Nat.le_trans hsub.length_le (hkept path).2⟩
    | newValue | restart => exact absurd rfl hleaves

/-- The path is noted in the list, and its object is subscribed on the bus. -/
structure Watched (env : AcsConnectionEnv) (s : AcsConnection) (path : CString) : Prop where
  noted : Notes s.slist (objectPath path) (infoOf env.hash env.filter path)
  subscribed : objectPath path ∈ s.bus

/-- The daemon does not restart, and the id of a path is not deleted. -/
def KeepsWatch (env : AcsConnectionEnv) (path : CString) (_ : AcsStore) : StoreEvent → Prop
  | .removeNotification _ id _ _ => uniqueId env.hash env.filter path ≠ id
  | .restart => False
  | _ => True

/-- One event of that kind keeps what is noted. -/
theorem notes_of_keepsWatch {e : StoreEvent}
    (hnoted : Notes s.slist (objectPath path) (infoOf env.hash env.filter path))
    (hG : KeepsWatch env path s e) (h : step env s e = some t) :
    Notes t.slist (objectPath path) (infoOf env.hash env.filter path) := by
  cases e with
  | addNotification p mode bus =>
    obtain rfl := Option.some.inj h
    show Notes (s.acsConnectionAddSubscription env bus p mode).connection.slist _ _
    rw [slist_addNotification]
    split
    · exact notes_addSubscription.mpr (Or.inl hnoted)
    · exact hnoted
  | removeNotification p id del unsubscribe =>
    obtain rfl := Option.some.inj h
    exact notes_deleteSubscription hnoted hG
  | newValue p value set =>
    obtain rfl := Option.some.inj h
    exact hnoted
  | restart => exact hG.elim

/-- **A path stays watched.** Once a notification has been added in a mode that is told at once, the
path is on the list and its object on the bus, in every run, until the daemon restarts or the id of
the path is deleted: whatever is added or removed besides, and whatever the bus answers. -/
theorem watched_of_reaches {bus : AddNotificationAnswers}
    (hmode : mode.Subscribes) (hnot : ¬s.Refused env bus path mode)
    (h : step env s (.addNotification path mode bus) = some t)
    (hrun : Reaches (step env) (KeepsWatch env path) t u) : Watched env u.toAcsConnection path := by
  have hnoted : Notes t.slist (objectPath path) (infoOf env.hash env.filter path) := by
    obtain rfl := Option.some.inj h
    obtain ⟨hpath, hrest⟩ := not_or.mp hnot
    obtain ⟨hallowed, hsubscribe⟩ := not_or.mp hrest
    have herror :
        (addSubscription env.hash env.filter s.slist s.bus path bus.subscribe).error = 0 :=
      by_contra fun herror => hsubscribe ⟨hmode, herror⟩
    show Notes (s.acsConnectionAddSubscription env bus path mode).connection.slist _ _
    rw [slist_addNotification, if_pos ⟨Bool.not_eq_false _ ▸ hpath, Bool.not_eq_false _ ▸ hallowed,
      hmode⟩]
    exact notes_addSubscription.mpr (Or.inr ⟨herror, rfl, rfl⟩)
  have hlast : Notes u.slist (objectPath path) (infoOf env.hash env.filter path) :=
    hrun.invariant (I := fun u => Notes u.slist (objectPath path) (infoOf env.hash env.filter path))
      (fun _ _ _ hnoted hG h => notes_of_keepsWatch hnoted hG h) hnoted
  have hbus : objectPath path ∈ u.bus := by
    obtain ⟨sub, hsub, hobject, -⟩ := hlast
    exact hobject ▸ u.listed sub hsub
  exact ⟨hlast, hbus⟩

/-- All answers of the bus are good. -/
def wellAnswered : AddNotificationAnswers := ⟨true, 0, true, none, true, true⟩

theorem watched_of_reaches_other :
    ∃ u, exec (step AcsConnection.oneHashEnv) init
        [.addNotification "Device.A".toList .active wellAnswered,
          .removeNotification "Device.A".toList 1 true 0] = some u ∧
      Watched AcsConnection.oneHashEnv u.toAcsConnection "Device.A".toList := by
  refine ⟨_, rfl, ?_⟩
  have hnot : ¬AcsConnection.Refused AcsConnection.oneHashEnv init.toAcsConnection wellAnswered
      "Device.A".toList .active := by
    rintro (hpath | hallowed | ⟨-, herror⟩)
    · exact absurd hpath (by decide +kernel)
    · cases hallowed
    · exact absurd herror (by decide +kernel)
  refine watched_of_reaches (s := init) (by decide) hnot rfl
    (Reaches.single (e := .removeNotification "Device.A".toList 1 true 0) ?_ rfl)
  show uniqueId AcsConnection.oneHashEnv.hash AcsConnection.oneHashEnv.filter _ ≠ 1
  decide

end AcsStore

end Tr069
