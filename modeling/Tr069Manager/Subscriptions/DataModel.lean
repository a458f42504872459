import Mathlib.Data.List.Count
import Mathlib.Data.List.Nodup
import Tr069Manager.SetParameterValues.DataModel

/-!
# The subscriptions of the daemon

The daemon keeps its subscriptions on the bus in a list of two levels
(`dmdeviceadapter/amx/adapter/DM_AmxCommon.c`): an entry for every object, and in it an
information for every path of the object that was subscribed, with an id. The bus knows
objects only: the first path of an object subscribes it, and the last one that is deleted
unsubscribes it.

The id of a path is the hash of its text with the filter of the subscription, as a signed
integer of 32 bits; the hash is any function. All subscriptions of one list have the same
filter.
-/

namespace Tr069

/-! ### The list -/

/-- `DM_Subscription_info_t`. -/
structure SubscriptionInfo where
  uniqueID : Int
  parameter : CString
  deriving DecidableEq

/-- `DM_Subscription_t`, without the callback, which is the same for a whole list. -/
structure Subscription where
  objectpath : CString
  subscriptionInfoList : List SubscriptionInfo
  deriving DecidableEq

/-- `amxc_AP_hash_string`, any function of the text. -/
abbrev Hash := CString → BitVec 32

/-- The id of a path. -/
def uniqueId (hash : Hash) (filter path : CString) : Int := (hash (path ++ filter)).toInt

/-- The object of a path; of a parameter at the root, the terminating dot is all there
is. -/
def objectPath (path : CString) : CString :=
  if amxdPathGet path = [] then ['.'] else amxdPathGet path

/-- What is noted of a path in the entry of its object: the path itself if it is the one
of the object, and otherwise the parameter. -/
def parameterOf (path : CString) : CString :=
  if path.getLast? = some '.' then path else amxdPathGetParam path

/-! ### The source -/

/-- `DM_ENG_Device_Common_FindSubscriptionByID`: the place in the list of the first entry
with the id. -/
def findSubscriptionByID (slist : List Subscription) (id : Int) : Option Nat :=
  slist.findIdx? fun sub => sub.subscriptionInfoList.any fun info => info.uniqueID = id

/-- `DM_ENG_Device_Common_FindSubscription`: the place of the entry of an object. -/
def findSubscription (slist : List Subscription) (path : CString) : Option Nat :=
  slist.findIdx? fun sub => sub.objectpath = path

/-- `DM_ENG_Device_Common_DeleteSubscriptionInfo`: the first information with the id. -/
def deleteSubscriptionInfo (id : Int) (sub : Subscription) : Subscription :=
  { sub with
    subscriptionInfoList := sub.subscriptionInfoList.eraseP fun info => info.uniqueID = id }

/-- What an add returns and leaves: the error, the list, the objects subscribed on the bus,
the id that was written, and the place of the entry of the list that was released, if one
was. -/
structure AddResult where
  error : Int
  slist : List Subscription
  bus : List CString
  subscriptionID : Option Int
  released : Option Nat

/-- `DM_ENG_Device_Common_AddSubscription`, with the answer of the bus to a subscribe. The
exits with an error release the entry they have at hand: in the first one it would be the
one the search found. -/
def addSubscription (hash : Hash) (filter : CString) (slist : List Subscription)
    (bus : List CString) (path : CString) (rv : Int) : AddResult :=
  let object := objectPath path
  let sub := findSubscription slist object
  if object = ['.'] then
    -- a parameter at the root
    ⟨9000, slist, bus, none, sub⟩
  else
    let subInfo : SubscriptionInfo := ⟨uniqueId hash filter path, parameterOf path⟩
    match sub with
    | some i =>
      { error := 0
        slist := slist.modify i fun sub =>
          { sub with subscriptionInfoList := sub.subscriptionInfoList ++ [subInfo] }
        bus := bus, subscriptionID := some subInfo.uniqueID, released := none }
    | none =>
      if rv ≠ 0 then ⟨9000, slist, bus, some subInfo.uniqueID, none⟩
      else
        ⟨0, slist ++ [⟨object, [subInfo]⟩], bus ++ [object], some subInfo.uniqueID, none⟩

/-- What a delete returns and leaves. -/
structure DeleteResult where
  error : Int
  slist : List Subscription
  bus : List CString

/-- `DM_ENG_Device_Common_DeleteSubscription`, with the answer of the bus to an
unsubscribe. -/
def deleteSubscription (slist : List Subscription) (bus : List CString) (id rv : Int) :
    DeleteResult :=
  match findSubscriptionByID slist id with
  | none => ⟨9000, slist, bus⟩
  | some i =>
    let slist := slist.modify i (deleteSubscriptionInfo id)
    match slist[i]? with
    | none => ⟨0, slist, bus⟩
    | some sub =>
      if sub.subscriptionInfoList = [] then
        if rv ≠ 0 then ⟨9000, slist, bus⟩
        else ⟨0, slist.eraseIdx i, bus.erase sub.objectpath⟩
      else ⟨0, slist, bus⟩

/-! ### Places of a list -/

section Places

variable {α : Type*} {xs pre post : List α} {p : α → Bool} {i : Nat} {a : α}

/-- The list around the first element with a property. -/
theorem exists_split_of_findIdx? (h : xs.findIdx? p = some i) : ∃ pre a post,
    xs = pre ++ a :: post ∧ pre.length = i ∧ p a = true ∧ ∀ b ∈ pre, p b = false := by
  obtain ⟨hi, hp, hpre⟩ := List.findIdx?_eq_some_iff_getElem.mp h
  refine ⟨xs.take i, xs[i], xs.drop (i + 1), ?_, by simp [hi.le], hp, fun b hb => ?_⟩
  · rw [← List.drop_eq_getElem_cons hi, List.take_append_drop]
  · obtain ⟨j, hj, rfl⟩ := List.mem_take_iff_getElem.mp hb
    exact Bool.not_eq_true _ ▸ hpre j (by omega)

theorem modify_split (f : α → α) :
    (pre ++ a :: post).modify pre.length f = pre ++ f a :: post := by
  induction pre with
  | nil => rfl
  | cons b pre ih => simpa using ih

theorem eraseIdx_split : (pre ++ a :: post).eraseIdx pre.length = pre ++ post := by
  induction pre with
  | nil => rfl
  | cons b pre ih => simpa using ih

theorem getElem?_split : (pre ++ a :: post)[pre.length]? = some a := by
  simp

end Places

/-! ### What an add does -/

variable {hash : Hash} {filter path : CString} {slist : List Subscription}
variable {bus : List CString} {rv id : Int}

/-- The information of a path. -/
def infoOf (hash : Hash) (filter path : CString) : SubscriptionInfo :=
  ⟨uniqueId hash filter path, parameterOf path⟩

/-- A root parameter is refused. -/
theorem addSubscription_root (h : objectPath path = ['.']) :
    addSubscription hash filter slist bus path rv =
      ⟨9000, slist, bus, none, findSubscription slist ['.']⟩ := by
  rw [addSubscription, if_pos h, h]

/-- Another path of an object that is in the list is noted there. -/
theorem addSubscription_known (h : objectPath path ≠ ['.'])
    {pre post : List Subscription} {infos : List SubscriptionInfo}
    (hfind : findSubscription (pre ++ ⟨objectPath path, infos⟩ :: post) (objectPath path) =
      some pre.length) :
    addSubscription hash filter (pre ++ ⟨objectPath path, infos⟩ :: post) bus path rv =
      ⟨0, pre ++ ⟨objectPath path, infos ++ [infoOf hash filter path]⟩ :: post, bus,
        some (uniqueId hash filter path), none⟩ := by
  rw [addSubscription, if_neg h, hfind]
  dsimp only
  rw [modify_split]
  rfl

/-- The first path of an object subscribes it. -/
theorem addSubscription_new (h : objectPath path ≠ ['.'])
    (hfind : findSubscription slist (objectPath path) = none) :
    addSubscription hash filter slist bus path rv =
      if rv ≠ 0 then ⟨9000, slist, bus, some (uniqueId hash filter path), none⟩
      else ⟨0, slist ++ [⟨objectPath path, [infoOf hash filter path]⟩],
        bus ++ [objectPath path], some (uniqueId hash filter path), none⟩ := by
  rw [addSubscription, if_neg h, hfind]
  rfl

/-! ### What a delete does -/

/-- A delete of an id that the list has: the first entry with it loses its first
information with it, and is unsubscribed and taken out if it has no other. -/
theorem deleteSubscription_found {pre post : List Subscription} {sub : Subscription}
    (hfind : findSubscriptionByID (pre ++ sub :: post) id = some pre.length) :
    deleteSubscription (pre ++ sub :: post) bus id rv =
      if (deleteSubscriptionInfo id sub).subscriptionInfoList = [] then
        if rv ≠ 0 then ⟨9000, pre ++ deleteSubscriptionInfo id sub :: post, bus⟩
        else ⟨0, pre ++ post, bus.erase sub.objectpath⟩
      else ⟨0, pre ++ deleteSubscriptionInfo id sub :: post, bus⟩ := by
  rw [deleteSubscription, hfind]
  dsimp only
  rw [modify_split, getElem?_split, eraseIdx_split]
  rfl

end Tr069
