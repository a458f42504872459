import Tr069Manager.Lib.Runs
import Tr069Manager.Subscriptions.DataModel

/-!
# The list and the bus

Over any run of adds and deletes the list should say what is subscribed: its objects are
distinct, an object is subscribed on the bus exactly once if it stands in the list with
some path, an add that fails changes nothing, and a delete takes away the path its id was
returned for, and no other.

Three things break this. Two paths with one hash share an id, and a delete takes the one it
finds first. A path that was added twice is noted twice, and one delete leaves it
subscribed. And an unsubscribe that fails leaves the object subscribed, in an entry without
paths, that no later delete finds. In runs without these the list is right
(`Subscriptions.correct_of_reaches`).
-/

namespace Tr069

/-- The list, the objects the bus has subscribed, and the ids that were returned so far with
the paths they were returned for, which are nowhere kept. -/
structure Subscriptions where
  slist : List Subscription
  bus : List CString
  returned : List (CString × Int)
  deriving DecidableEq

/-- The calls, with the answers of the bus. -/
inductive SubscriptionEvent
  | add (path : CString) (rv : Int)
  | delete (id rv : Int)

namespace Subscriptions

/-- One call. -/
def step (hash : Hash) (filter : CString) (s : Subscriptions) :
    SubscriptionEvent → Option Subscriptions
  | .add path rv =>
    let r := addSubscription hash filter s.slist s.bus path rv
    some
      { slist := r.slist, bus := r.bus
        returned := s.returned ++
          (r.subscriptionID.toList.filter fun _ => r.error = 0).map fun id => (path, id) }
  | .delete id rv =>
    let r := deleteSubscription s.slist s.bus id rv
    some { s with slist := r.slist, bus := r.bus }

/-- No subscription. -/
def init : Subscriptions := ⟨[], [], []⟩

/-! ### What should hold -/

/-- The path an information stands for. -/
def infoPath (objectpath : CString) (info : SubscriptionInfo) : CString :=
  if info.parameter.getLast? = some '.' then info.parameter else objectpath ++ info.parameter

/-- The paths that are subscribed, in the order of the list. -/
def subscribedPaths (slist : List Subscription) : List CString :=
  slist.flatMap fun sub => sub.subscriptionInfoList.map (infoPath sub.objectpath)

/-- **A list that says what is subscribed.** -/
structure Correct (s : Subscriptions) : Prop where
  unique : (s.slist.map Subscription.objectpath).Nodup
  subscribed_iff : ∀ object,
    (∃ sub ∈ s.slist, sub.objectpath = object ∧ sub.subscriptionInfoList ≠ []) ↔
      s.bus.count object = 1

/-- **A call that does what it should**: an add releases no entry of the list, and does not
change the list when it fails; a delete takes away the path its id was returned for, and no
other. -/
def CorrectCall (hash : Hash) (filter : CString) (s : Subscriptions) : SubscriptionEvent → Prop
  | .add path rv =>
    (addSubscription hash filter s.slist s.bus path rv).released = none ∧
      ((addSubscription hash filter s.slist s.bus path rv).error ≠ 0 →
        (addSubscription hash filter s.slist s.bus path rv).slist = s.slist)
  | .delete id rv =>
    ∀ path, (path, id) ∈ s.returned →
      subscribedPaths (deleteSubscription s.slist s.bus id rv).slist =
        (subscribedPaths s.slist).filter (· ≠ path)

/-- All informations of a list. -/
def allInfos (slist : List Subscription) : List SubscriptionInfo :=
  slist.flatMap Subscription.subscriptionInfoList

/-- **The calls after which all is well**: an add gives its path an id that was not returned
for another one; the id of a delete stands in the list once at most; and if it belongs to
the only path of an object, the unsubscribe succeeds. -/
def Safe (hash : Hash) (filter : CString) (s : Subscriptions) : SubscriptionEvent → Prop
  | .add path _ => ∀ e ∈ s.returned, e.2 = uniqueId hash filter path → e.1 = path
  | .delete id rv =>
    (allInfos s.slist).countP (fun info => info.uniqueID = id) ≤ 1 ∧
      ∀ sub ∈ s.slist, (∃ info ∈ sub.subscriptionInfoList, info.uniqueID = id) →
        sub.subscriptionInfoList.length = 1 → rv = 0

instance (hash : Hash) (filter : CString) (s : Subscriptions) :
    (e : SubscriptionEvent) → Decidable (Safe hash filter s e)
  | .add path _ => inferInstanceAs (Decidable (∀ e ∈ s.returned, e.2 = _ → e.1 = path))
  | .delete _ _ => inferInstanceAs (Decidable (_ ∧ _))

/-! ### The invariant -/

/-- What the calls keep. -/
structure Invariant (hash : Hash) (filter : CString) (s : Subscriptions) : Prop where
  unique : (s.slist.map Subscription.objectpath).Nodup
  nonempty : ∀ sub ∈ s.slist, sub.subscriptionInfoList ≠ []
  bus : ∀ object,
    s.bus.count object = if object ∈ s.slist.map Subscription.objectpath then 1 else 0
  infos : ∀ sub ∈ s.slist, ∀ info ∈ sub.subscriptionInfoList, ∃ path,
    objectPath path = sub.objectpath ∧ info = infoOf hash filter path ∧
      (path, info.uniqueID) ∈ s.returned
  ids : ∀ path id, (path, id) ∈ s.returned →
    id = uniqueId hash filter path ∧ objectPath path ≠ ['.']
  distinct : ∀ path other id, (path, id) ∈ s.returned → (other, id) ∈ s.returned → path = other

variable {hash : Hash} {filter path : CString} {s t : Subscriptions} {id rv : Int}
variable {sub : Subscription} {info : SubscriptionInfo} {slist pre post : List Subscription}
variable {infos : List SubscriptionInfo}

theorem invariant_init : Invariant hash filter init where
  unique := List.nodup_nil
  nonempty := fun _ h => by cases h
  bus := fun _ => rfl
  infos := fun _ h => by cases h
  ids := fun _ _ h => by cases h
  distinct := fun _ _ _ h => by cases h

/-- No entry is one of root parameters. -/
theorem Invariant.not_root (hI : Invariant hash filter s) (hsub : sub ∈ s.slist) :
    sub.objectpath ≠ ['.'] := by
  obtain ⟨info, hinfo⟩ := List.exists_mem_of_ne_nil _ (hI.nonempty sub hsub)
  obtain ⟨path, hpath, -, hret⟩ := hI.infos sub hsub info hinfo
  rw [← hpath]
  exact (hI.ids path _ hret).2

theorem Invariant.correct (hI : Invariant hash filter s) : Correct s where
  unique := hI.unique
  subscribed_iff := by
    intro object
    rw [hI.bus]
    constructor
    · rintro ⟨sub, hsub, rfl, -⟩
      exact if_pos (List.mem_map_of_mem hsub)
    · intro h
      have hmem : object ∈ s.slist.map Subscription.objectpath := by
        by_contra hnot
        rw [if_neg hnot] at h
        exact Nat.zero_ne_one h
      obtain ⟨sub, hsub, rfl⟩ := List.mem_map.mp hmem
      exact ⟨sub, hsub, rfl, hI.nonempty sub hsub⟩

theorem findSubscription_eq_none :
    findSubscription slist path = none ↔ path ∉ slist.map Subscription.objectpath := by
  rw [findSubscription, List.findIdx?_eq_none_iff, List.mem_map, not_exists]
  simp only [decide_eq_false_iff_not, not_and]

/-- The entry of an object that is in the list, with what stands before and after it. -/
theorem exists_of_findSubscription {i : Nat} (h : findSubscription slist path = some i) :
    ∃ pre infos post, slist = pre ++ ⟨path, infos⟩ :: post ∧ pre.length = i := by
  obtain ⟨pre, sub, post, rfl, hi, hsub, -⟩ := exists_split_of_findIdx? h
  obtain ⟨object, infos⟩ := sub
  obtain rfl : object = path := of_decide_eq_true hsub
  exact ⟨pre, infos, post, rfl, hi⟩

/-! ### What an add keeps -/

/-- The ids returned stay those of their paths when a new one is returned. -/
theorem Invariant.returned_append (hI : Invariant hash filter s)
    (hroot : objectPath path ≠ ['.'])
    (hnew : ∀ other, (other, uniqueId hash filter path) ∈ s.returned → other = path) :
    (∀ p i, (p, i) ∈ s.returned ++ [(path, uniqueId hash filter path)] →
        i = uniqueId hash filter p ∧ objectPath p ≠ ['.']) ∧
      ∀ p q i, (p, i) ∈ s.returned ++ [(path, uniqueId hash filter path)] →
        (q, i) ∈ s.returned ++ [(path, uniqueId hash filter path)] → p = q := by
  simp only [List.mem_append, List.mem_singleton, Prod.mk.injEq]
  constructor
  · rintro p i (h | ⟨rfl, rfl⟩)
    · exact hI.ids p i h
    · exact ⟨rfl, hroot⟩
  · rintro p q i (hp | ⟨rfl, rfl⟩) (hq | ⟨rfl, hi⟩)
    · exact hI.distinct p q i hp hq
    · exact hnew p (hi ▸ hp)
    · exact (hnew q hq).symm
    · rfl

/-- What is returned later has been returned. -/
theorem Invariant.infos_append (hI : Invariant hash filter s) (path : CString)
    (hsub : sub ∈ s.slist) (hinfo : info ∈ sub.subscriptionInfoList) :
    ∃ q, objectPath q = sub.objectpath ∧ info = infoOf hash filter q ∧
      (q, info.uniqueID) ∈ s.returned ++ [(path, uniqueId hash filter path)] := by
  obtain ⟨q, hq, hinfoq, hret⟩ := hI.infos sub hsub info hinfo
  exact ⟨q, hq, hinfoq, List.mem_append_left _ hret⟩

/-- The first path of an object comes with a subscription on the bus. -/
theorem Invariant.addNew (hI : Invariant hash filter s) (hroot : objectPath path ≠ ['.'])
    (hnew : ∀ other, (other, uniqueId hash filter path) ∈ s.returned → other = path)
    (hfind : findSubscription s.slist (objectPath path) = none) :
    Invariant hash filter
      { slist := s.slist ++ [⟨objectPath path, [infoOf hash filter path]⟩]
        bus := s.bus ++ [objectPath path]
        returned := s.returned ++ [(path, uniqueId hash filter path)] } := by
  obtain ⟨hids, hdistinct⟩ := hI.returned_append hroot hnew
  have hout := findSubscription_eq_none.mp hfind
  refine ⟨?_, fun sub hsub => ?_, fun object => ?_, fun sub hsub info hinfo => ?_, hids,
    hdistinct⟩
  · rw [List.map_append]
    refine List.nodup_append.mpr ⟨hI.unique, List.nodup_singleton _, fun o ho o' ho' => ?_⟩
    obtain rfl := List.mem_singleton.mp ho'
    rintro rfl
    exact hout ho
  · rcases List.mem_append.mp hsub with hsub | hsub
    · exact hI.nonempty sub hsub
    · obtain rfl := List.mem_singleton.mp hsub
      exact List.cons_ne_nil _ _
  · rw [List.count_append, hI.bus, List.map_append, List.map_singleton]
    by_cases hobj : object = objectPath path
    · subst hobj
      simp [hout]
    · simp [hobj, Ne.symm hobj]
  · rcases List.mem_append.mp hsub with hsub | hsub
    · exact hI.infos_append path hsub hinfo
    · obtain rfl := List.mem_singleton.mp hsub
      obtain rfl := List.mem_singleton.mp hinfo
      exact ⟨path, rfl, rfl, List.mem_append_right _ (List.mem_singleton_self _)⟩

/-- One more path of an object of the list leaves the bus alone. -/
theorem Invariant.addKnown {bus : List CString} {returned : List (CString × Int)}
    (hI : Invariant hash filter ⟨pre ++ ⟨objectPath path, infos⟩ :: post, bus, returned⟩)
    (hroot : objectPath path ≠ ['.'])
    (hnew : ∀ other, (other, uniqueId hash filter path) ∈ returned → other = path) :
    Invariant hash filter
      { slist := pre ++ ⟨objectPath path, infos ++ [infoOf hash filter path]⟩ :: post
        bus := bus
        returned := returned ++ [(path, uniqueId hash filter path)] } := by
  obtain ⟨hids, hdistinct⟩ := hI.returned_append hroot hnew
  have hobjects : (pre ++ ⟨objectPath path, infos ++ [infoOf hash filter path]⟩ :: post).map
      Subscription.objectpath =
        (pre ++ ⟨objectPath path, infos⟩ :: post).map Subscription.objectpath := by
    simp
  have hmem : ∀ sub ∈ pre ++ ⟨objectPath path, infos ++ [infoOf hash filter path]⟩ :: post,
      sub ∈ pre ++ ⟨objectPath path, infos⟩ :: post ∨
        sub = ⟨objectPath path, infos ++ [infoOf hash filter path]⟩ := by
    intro sub hsub
    simp only [List.mem_append, List.mem_cons] at hsub ⊢
    tauto
  refine ⟨hobjects ▸ hI.unique, fun sub hsub => ?_, fun object => ?_,
    fun sub hsub info hinfo => ?_, hids, hdistinct⟩
  · rcases hmem sub hsub with hsub | rfl
    · exact hI.nonempty sub hsub
    · simp
  · rw [hobjects]
    exact hI.bus object
  · rcases hmem sub hsub with hsub | rfl
    · exact hI.infos_append path hsub hinfo
    · rcases List.mem_append.mp hinfo with hinfo | hinfo
      · have hold : (⟨objectPath path, infos⟩ : Subscription) ∈
            pre ++ ⟨objectPath path, infos⟩ :: post := by simp
        obtain ⟨q, hq⟩ := hI.infos_append path hold hinfo
        exact ⟨q, hq⟩
      · obtain rfl := List.mem_singleton.mp hinfo
        exact ⟨path, rfl, rfl, List.mem_append_right _ (List.mem_singleton_self _)⟩

/-- An add that returns an id puts the information of its path into the list. -/
theorem Invariant.add (hI : Invariant hash filter s)
    (hnew : ∀ other, (other, uniqueId hash filter path) ∈ s.returned → other = path)
    (h : step hash filter s (.add path rv) = some t) : Invariant hash filter t := by
  obtain rfl := Option.some.inj h
  by_cases hroot : objectPath path = ['.']
  · simp only [addSubscription_root hroot]
    simpa using hI
  rcases hfind : findSubscription s.slist (objectPath path) with - | i
  · rw [addSubscription_new hroot hfind]
    by_cases hrv : rv ≠ 0
    · simpa [if_pos hrv] using hI
    · simp only [if_neg hrv]
      exact hI.addNew hroot hnew hfind
  · obtain ⟨slist, bus, returned⟩ := s
    obtain ⟨pre, infos, post, rfl, rfl⟩ := exists_of_findSubscription hfind
    simp only [addSubscription_known hroot hfind]
    exact hI.addKnown hroot hnew

/-! ### What a delete keeps -/

/-- The entry that has an id, with what stands before and after it. -/
theorem exists_of_findSubscriptionByID {i : Nat} (h : findSubscriptionByID slist id = some i) :
    ∃ pre sub post, slist = pre ++ sub :: post ∧ pre.length = i ∧
      (∃ info ∈ sub.subscriptionInfoList, info.uniqueID = id) ∧
      ∀ sub ∈ pre, ∀ info ∈ sub.subscriptionInfoList, info.uniqueID ≠ id := by
  obtain ⟨pre, sub, post, rfl, hi, hsub, hpre⟩ := exists_split_of_findIdx? h
  refine ⟨pre, sub, post, rfl, hi, by simpa using hsub, fun sub hsub info hinfo => ?_⟩
  simpa using List.any_eq_false.mp (hpre sub hsub) info hinfo

theorem forall_ne_of_findSubscriptionByID_eq_none (h : findSubscriptionByID slist id = none) :
    ∀ sub ∈ slist, ∀ info ∈ sub.subscriptionInfoList, info.uniqueID ≠ id := by
  intro sub hsub info hinfo
  simpa using List.any_eq_false.mp (List.findIdx?_eq_none_iff.mp h sub hsub) info hinfo

/-- A list in which every entry is an entry of the list before, without some of its
informations. -/
theorem Invariant.of_sublist (hI : Invariant hash filter s)
    (hobjects : slist.map Subscription.objectpath = s.slist.map Subscription.objectpath)
    (hmem : ∀ sub ∈ slist, sub.subscriptionInfoList ≠ [] ∧ ∃ old ∈ s.slist,
      old.objectpath = sub.objectpath ∧
        sub.subscriptionInfoList ⊆ old.subscriptionInfoList) :
    Invariant hash filter { s with slist := slist } where
  unique := hobjects ▸ hI.unique
  nonempty := fun sub hsub => (hmem sub hsub).1
  bus := fun object => by
    dsimp only
    rw [hobjects]
    exact hI.bus object
  infos := fun sub hsub info hinfo => by
    obtain ⟨-, old, hold, hobj, hsubset⟩ := hmem sub hsub
    rw [← hobj]
    exact hI.infos old hold info (hsubset hinfo)
  ids := hI.ids
  distinct := hI.distinct

/-- A delete that does not leave an entry without informations behind. -/
theorem Invariant.delete (hI : Invariant hash filter s)
    (hrv : ∀ sub ∈ s.slist, (∃ info ∈ sub.subscriptionInfoList, info.uniqueID = id) →
      sub.subscriptionInfoList.length = 1 → rv = 0)
    (h : step hash filter s (.delete id rv) = some t) : Invariant hash filter t := by
  obtain rfl := Option.some.inj h
  obtain ⟨slist, bus, returned⟩ := s
  rcases hfind : findSubscriptionByID slist id with - | i
  · simpa [deleteSubscription, hfind] using hI
  obtain ⟨pre, sub, post, rfl, rfl, ⟨info, hinfo, hid⟩, -⟩ := exists_of_findSubscriptionByID hfind
  have hmid : sub ∈ pre ++ sub :: post := List.mem_append_right _ List.mem_cons_self
  simp only [deleteSubscription_found hfind]
  by_cases hempty : (deleteSubscriptionInfo id sub).subscriptionInfoList = []
  · -- the only path of its object
    have hlen : sub.subscriptionInfoList.length = 1 := by
      have hadd : (deleteSubscriptionInfo id sub).subscriptionInfoList.length + 1 =
          sub.subscriptionInfoList.length :=
        List.length_eraseP_add_one hinfo (decide_eq_true hid)
      rw [hempty] at hadd
      exact hadd.symm
    obtain rfl := hrv sub hmid ⟨info, hinfo, hid⟩ hlen
    rw [if_pos hempty, if_neg (fun hne => hne rfl)]
    have hnodup := hI.unique
    rw [List.map_append, List.map_cons] at hnodup
    have hsplit := List.nodup_middle.mp hnodup
    obtain ⟨hout, hrest⟩ := List.nodup_cons.mp hsplit
    rw [← List.map_append] at hout hrest
    have hold : ∀ other ∈ pre ++ post, other ∈ pre ++ sub :: post := by
      intro other hother
      simp only [List.mem_append, List.mem_cons] at hother ⊢
      tauto
    refine ⟨hrest, fun other hother => hI.nonempty other (hold other hother), fun object => ?_,
      fun other hother => hI.infos other (hold other hother), hI.ids, hI.distinct⟩
    have hcount := hI.bus object
    rw [List.map_append, List.map_cons] at hcount
    dsimp only at hcount ⊢
    by_cases hobj : object = sub.objectpath
    · subst hobj
      rw [if_neg hout, List.count_erase_self, hcount, if_pos (by simp)]
    · rw [List.count_erase_of_ne (fun heq => hobj heq), hcount, List.map_append]
      simp [hobj]
  · rw [if_neg hempty]
    refine hI.of_sublist (by simp [deleteSubscriptionInfo]) fun other hother => ?_
    have hcases : other ∈ pre ++ sub :: post ∨ other = deleteSubscriptionInfo id sub := by
      simp only [List.mem_append, List.mem_cons] at hother ⊢
      tauto
    rcases hcases with hother | rfl
    · exact ⟨hI.nonempty other hother, other, hother, rfl, fun _ h => h⟩
    · exact ⟨hempty, sub, hmid, rfl, List.eraseP_subset⟩

/-! ### Runs -/

theorem Invariant.step (hI : Invariant hash filter s) {e : SubscriptionEvent}
    (hsafe : Safe hash filter s e) (h : step hash filter s e = some t) :
    Invariant hash filter t := by
  cases e with
  | add path rv => exact hI.add (fun other hret => hsafe (other, _) hret rfl) h
  | delete id rv => exact hI.delete hsafe.2 h

/-- The path of an information can be told from it. -/
theorem infoPath_infoOf (hroot : objectPath path ≠ ['.']) :
    infoPath (objectPath path) (infoOf hash filter path) = path := by
  rw [infoPath, infoOf]
  dsimp only
  by_cases hdot : path.getLast? = some '.'
  · rw [parameterOf, if_pos hdot, if_pos hdot]
  · have hne : amxdPathGet path ≠ [] := by
      intro hnil
      rw [objectPath, if_pos hnil] at hroot
      exact hroot rfl
    have hparam : (amxdPathGetParam path).getLast? ≠ some '.' := by
      intro hlast
      have hmem := List.mem_of_getLast? hlast
      rw [amxdPathGetParam, List.mem_reverse] at hmem
      simpa using List.mem_takeWhile_imp hmem
    rw [parameterOf, if_neg hdot, if_neg hparam, objectPath, if_neg hne, amxdPathGet_append]

/-- The informations with the id of a path are those of the path. -/
theorem Invariant.infoPath_eq_iff (hI : Invariant hash filter s) (hret : (path, id) ∈ s.returned)
    (hsub : sub ∈ s.slist) (hinfo : info ∈ sub.subscriptionInfoList) :
    infoPath sub.objectpath info = path ↔ info.uniqueID = id := by
  obtain ⟨q, hq, rfl, hretq⟩ := hI.infos sub hsub info hinfo
  rw [← hq, infoPath_infoOf (hI.ids q _ hretq).2]
  constructor
  · rintro rfl
    exact (hI.ids q id hret).1.symm
  · intro hid
    exact hI.distinct q path id (hid ▸ hretq) hret

/-- Erasing the first element with a property erases all, if there is one at most. -/
theorem eraseP_eq_filter {α : Type*} {p : α → Bool} {l : List α} (h : l.countP p ≤ 1) :
    l.eraseP p = l.filter fun a => !p a := by
  induction l with
  | nil => rfl
  | cons a l ih =>
    by_cases ha : p a = true
    · rw [List.countP_cons_of_pos ha] at h
      have hl : l.countP p = 0 := by omega
      have hnone := List.countP_eq_zero.mp hl
      rw [List.eraseP_cons_of_pos ha, List.filter_cons_of_neg (by simp [ha])]
      exact (List.filter_eq_self.mpr fun b hb => by simpa using hnone b hb).symm
    · rw [List.countP_cons_of_neg ha] at h
      rw [List.eraseP_cons_of_neg ha, List.filter_cons_of_pos (by simpa using ha), ih h]

/-- What a delete leaves of the paths: those of the informations with other ids. -/
theorem subscribedPaths_delete (hcount : (allInfos slist).countP (fun info => info.uniqueID = id)
      ≤ 1) {bus : List CString} :
    subscribedPaths (deleteSubscription slist bus id rv).slist =
      slist.flatMap fun sub =>
        (sub.subscriptionInfoList.filter fun info => info.uniqueID ≠ id).map
          (infoPath sub.objectpath) := by
  have hkeep : ∀ l : List Subscription,
      (∀ sub ∈ l, ∀ info ∈ sub.subscriptionInfoList, info.uniqueID ≠ id) →
        (l.flatMap fun sub => (sub.subscriptionInfoList.filter fun info =>
          info.uniqueID ≠ id).map (infoPath sub.objectpath)) = subscribedPaths l := by
    intro l hl
    refine List.flatMap_congr fun sub hsub => ?_
    rw [List.filter_eq_self.mpr fun info hinfo => decide_eq_true (hl sub hsub info hinfo)]
  rcases hfind : findSubscriptionByID slist id with - | i
  · rw [hkeep slist (forall_ne_of_findSubscriptionByID_eq_none hfind)]
    simp [deleteSubscription, hfind]
  · obtain ⟨pre, sub, post, rfl, rfl, ⟨info, hinfo, hid⟩, hpre⟩ :=
      exists_of_findSubscriptionByID hfind
    rw [allInfos, List.flatMap_append, List.flatMap_cons, List.countP_append,
      List.countP_append] at hcount
    have hpos : 0 < sub.subscriptionInfoList.countP fun info => info.uniqueID = id :=
      List.countP_pos_iff.mpr ⟨info, hinfo, decide_eq_true hid⟩
    -- the id is in this entry, and so in none after it
    have hpost : ∀ other ∈ post, ∀ info ∈ other.subscriptionInfoList, info.uniqueID ≠ id := by
      intro other hother info hinfo hid
      have : 0 < (post.flatMap Subscription.subscriptionInfoList).countP fun info =>
          info.uniqueID = id :=
        List.countP_pos_iff.mpr
          ⟨info, List.mem_flatMap.mpr ⟨other, hother, hinfo⟩, decide_eq_true hid⟩
      omega
    have herase : (deleteSubscriptionInfo id sub).subscriptionInfoList =
        sub.subscriptionInfoList.filter fun info => info.uniqueID ≠ id := by
      rw [deleteSubscriptionInfo]
      dsimp only
      rw [eraseP_eq_filter (by omega)]
      exact List.filter_congr fun info _ => by simp
    have hafter : subscribedPaths (deleteSubscription (pre ++ sub :: post) bus id rv).slist =
        subscribedPaths pre ++ (deleteSubscriptionInfo id sub).subscriptionInfoList.map
          (infoPath sub.objectpath) ++ subscribedPaths post := by
      rw [deleteSubscription_found hfind]
      split_ifs with hempty
      · simp [subscribedPaths, deleteSubscriptionInfo]
      · rw [hempty]
        simp [subscribedPaths]
      · simp [subscribedPaths, deleteSubscriptionInfo]
    rw [hafter, herase, List.flatMap_append, List.flatMap_cons, hkeep pre hpre, hkeep post hpost,
      List.append_assoc]

/-- Every safe call does what it should. -/
theorem Invariant.correctCall (hI : Invariant hash filter s) {e : SubscriptionEvent}
    (hsafe : Safe hash filter s e) : CorrectCall hash filter s e := by
  cases e with
  | add path rv =>
    by_cases hroot : objectPath path = ['.']
    · have hnone : findSubscription s.slist ['.'] = none := by
        refine findSubscription_eq_none.mpr fun hmem => ?_
        obtain ⟨sub, hsub, hdot⟩ := List.mem_map.mp hmem
        exact hI.not_root hsub hdot
      rw [CorrectCall, addSubscription_root hroot]
      exact ⟨hnone, fun _ => rfl⟩
    · rcases hfind : findSubscription s.slist (objectPath path) with - | i
      · rw [CorrectCall, addSubscription_new hroot hfind]
        split_ifs
        · exact ⟨rfl, fun _ => rfl⟩
        · exact ⟨rfl, fun herr => absurd rfl herr⟩
      · obtain ⟨slist, bus, returned⟩ := s
        obtain ⟨pre, infos, post, rfl, rfl⟩ := exists_of_findSubscription hfind
        rw [CorrectCall, addSubscription_known hroot hfind]
        exact ⟨rfl, fun herr => absurd rfl herr⟩
  | delete id rv =>
    intro path hret
    rw [subscribedPaths_delete hsafe.1, subscribedPaths, List.filter_flatMap]
    refine List.flatMap_congr fun sub hsub => ?_
    rw [List.filter_map]
    refine congrArg _ (List.filter_congr fun info hinfo => ?_)
    exact decide_eq_decide.mpr (not_congr (hI.infoPath_eq_iff hret hsub hinfo)).symm

/-- **In every run of safe calls the list says what is subscribed, and every safe call does
what it should**, for every hash and every answer of the bus that the calls allow. -/
theorem correct_of_reaches (hash : Hash) (filter : CString) (s : Subscriptions)
    (h : Runs.Reaches (step hash filter) (Safe hash filter) init s) :
    Correct s ∧ ∀ e, Safe hash filter s e → CorrectCall hash filter s e := by
  have hI : Invariant hash filter s :=
    h.invariant (fun _ _ _ hI hsafe hstep => hI.step hsafe hstep) invariant_init
  exact ⟨hI.correct, fun _ hsafe => hI.correctCall hsafe⟩

/-- A hash that tells the paths below apart. -/
def lengthHash : Hash := fun text => BitVec.ofNat 32 text.length

/-- Two parameters of an object are subscribed, and one of them is deleted again. -/
theorem correct_of_reaches_oneOfTwo :
    ∃ s, Runs.Reaches (step lengthHash []) (Safe lengthHash []) init s ∧
      s.bus = ["Device.Time.".toList] ∧ Correct s ∧
        ∀ e, Safe lengthHash [] s e → CorrectCall lengthHash [] s e := by
  have hrun : (Runs.exec (step lengthHash []) init
      [.add "Device.Time.Enable2".toList 0, .add "Device.Time.Status".toList 0,
        .delete 19 0]).map Subscriptions.bus = some ["Device.Time.".toList] := by decide
  obtain ⟨s, hs, hbus⟩ := Option.map_eq_some_iff.mp hrun
  have hreach := Runs.reaches_of_exec (G := Safe lengthHash []) hs
    (Runs.meets_of_checks (g := fun s e => decide (Safe lengthHash [] s e))
      (fun _ _ => of_decide_eq_true) (by decide))
  exact ⟨s, hreach, hbus, correct_of_reaches lengthHash [] s hreach⟩

/-- After an unsubscribe that failed an object is subscribed, and has no path in the
list. -/
theorem not_correct_of_failed_unsubscribe :
    ¬∀ (hash : Hash) (filter : CString) (s : Subscriptions),
      Runs.Reaches (step hash filter) Runs.free init s →
        Correct s ∧ ∀ e, CorrectCall hash filter s e := by
  intro h
  have hrun : Runs.exec (step lengthHash []) init
      [.add "Device.Time.Enable".toList 0, .delete 18 1] =
        some ⟨[⟨"Device.Time.".toList, []⟩], ["Device.Time.".toList],
          [("Device.Time.Enable".toList, 18)]⟩ := by decide
  obtain ⟨hcorrect, -⟩ := h lengthHash [] _ (Runs.reaches_of_exec hrun (Runs.meets_free _ _))
  obtain ⟨sub, hsub, -, hne⟩ := (hcorrect.subscribed_iff "Device.Time.".toList).mpr (by decide)
  obtain rfl := List.mem_singleton.mp hsub
  exact hne rfl

end Subscriptions

end Tr069
