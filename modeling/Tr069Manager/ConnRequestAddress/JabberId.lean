import Mathlib.Logic.Function.Basic
import Tr069Manager.Lib.CString
import Tr069Manager.Lib.Runs

/-!
# The Jabber ID for connection requests

`cwmp_plugin_xmpp.c`: `ConnReqXMPPConnection` references a connection that another
process has, and `ConnReqJabberID` is to be the identity of that connection while it
is enabled. The plugin reads it over the bus when the reference changes and when it
is told that the connection has changed, and clears the reference when the connection
is removed.

A change of the reference is handled as a queued event, after which the plugin has
subscribed to the new connection and no longer to the old one. What it was told of
before that is still on its way, and is handled like any other notification: the
handler reads the connection it is about without asking whether it is the one that is
referenced. And a read that fails leaves the identity as it is. `lastRead` is the
history both are to be held against: what was last read from a connection that was
enabled then, until it is read disabled or its removal is handled.
-/

namespace Tr069

open Runs

/-- What the bus has at a path: `Enable`, which is false when there is none, and
`JabberID`. -/
structure XmppObject where
  enable : Bool
  jabberId : Option CString
  deriving DecidableEq

/-- What another process tells the plugin: an object has another `Enable` or `JabberID`,
or an instance of a table has been removed. -/
inductive XmppNotification where
  | updated (path : CString)
  | removed (path : CString) (index : ℕ)
  deriving DecidableEq

/-- The plugin, as far as it follows the XMPP connection: the two parameters, the timer of
the deferred initialisation, its subscriptions – to the removal of a connection and to
changes of objects – and its queue of changes of the reference, from and to; what is on
the bus, the notifications on their way, and the history of what was read. -/
structure XmppPlugin where
  connReqXmppConnection : CString
  connReqJabberId : CString
  deferredInitTimer : Bool
  removedSub : Bool
  subs : List CString
  changes : List (CString × CString)
  objects : CString → Option XmppObject
  notifications : List XmppNotification
  lastRead : CString → Option CString

namespace XmppPlugin

/-- When the plugin comes up, with the reference it has stored. -/
def initial (cnx : CString) (objects : CString → Option XmppObject) : XmppPlugin :=
  ⟨cnx, [], true, false, [], [], objects, [], fun _ => none⟩

/-! ### The functions of the plugin -/

/-- `is_current_cnx`. -/
def isCurrentCnx (s : XmppPlugin) (cnx : CString) : Bool :=
  cnx ≠ [] && cnx = s.connReqXmppConnection

/-- `set_connreq_jabber_id`; without an ID nothing is set. -/
def setConnreqJabberId (s : XmppPlugin) : Option CString → XmppPlugin
  | none => s
  | some jid => { s with connReqJabberId := jid }

/-- `amxb_get` of an object, which `reads` says whether it works. -/
def amxbGet (s : XmppPlugin) (reads : Bool) (cnx : CString) : Option XmppObject :=
  if reads then s.objects cnx else none

/-- The history after an object has been read. -/
def readAs (s : XmppPlugin) (cnx : CString) (obj : XmppObject) : XmppPlugin :=
  { s with
    lastRead := Function.update s.lastRead cnx <|
      if obj.enable then obj.jabberId.or (s.lastRead cnx) else none }

/-- `update_connreq_jabber_id`. -/
def updateConnreqJabberId (s : XmppPlugin) (reads : Bool) (cnx : CString) : XmppPlugin :=
  if cnx = [] then s.setConnreqJabberId (some [])
  else match s.amxbGet reads cnx with
    | none => s
    | some obj =>
      (s.readAs cnx obj).setConnreqJabberId (if obj.enable then obj.jabberId else some [])

/-- `xmpp_connection_add_sub`, which `subscribes` says whether it works. -/
def xmppConnectionAddSub (s : XmppPlugin) (subscribes : Bool) (cnx : CString) : XmppPlugin :=
  if cnx = [] then s
  else if subscribes then { s with subs := s.subs ++ [cnx] } else s

/-- `xmpp_connection_del_sub`. -/
def xmppConnectionDelSub (s : XmppPlugin) (cnx : CString) : XmppPlugin :=
  if cnx = [] then s else { s with subs := s.subs.filter (· ≠ cnx) }

/-- A write of `ConnReqXMPPConnection`, which queues an event if the value is a new one. -/
def setConnReqXmppConnection (s : XmppPlugin) (cnx : CString) : XmppPlugin :=
  if cnx = s.connReqXmppConnection then s
  else { s with
    connReqXmppConnection := cnx
    changes := s.changes ++ [(s.connReqXmppConnection, cnx)] }

/-- The path of an instance of a table. -/
def cnxPath (path : CString) (index : ℕ) : CString :=
  path ++ (toString index).toList ++ ".".toList

/-- `xmpp_connection_deleted_cb`. -/
def xmppConnectionDeletedCb (s : XmppPlugin) (path : CString) (index : ℕ) : XmppPlugin :=
  if index = 0 ∨ path = [] then s
  else
    let t := { s with lastRead := Function.update s.lastRead (cnxPath path index) none }
    if t.isCurrentCnx (cnxPath path index) then t.setConnReqXmppConnection [] else t

/-- `xmpp_connection_updated_cb`. -/
def xmppConnectionUpdatedCb (s : XmppPlugin) (reads : Bool) (path : CString) : XmppPlugin :=
  s.updateConnreqJabberId reads path

/-- `_connreq_xmpp_connection_changed`. -/
def connreqXmppConnectionChanged (s : XmppPlugin) (subscribes reads : Bool)
    (change : CString × CString) : XmppPlugin :=
  ((s.xmppConnectionDelSub change.1).xmppConnectionAddSub subscribes
    change.2).updateConnreqJabberId reads change.2

/-- `deferred_init_timer_cb`; `removals` says whether the first subscription works. -/
def deferredInitTimerCb (s : XmppPlugin) (removals subscribes reads : Bool) : XmppPlugin :=
  let t := { s with deferredInitTimer := false }
  if removals then
    ({ t with removedSub := true }.xmppConnectionAddSub subscribes
      t.connReqXmppConnection).updateConnreqJabberId reads t.connReqXmppConnection
  else t

/-! ### The bus -/

/-- Another process adds an object or changes it. A change is told to whoever has
subscribed to the object or to one above it. -/
def objectSet (s : XmppPlugin) (path : CString) (obj : XmppObject) : XmppPlugin :=
  { s with
    objects := Function.update s.objects path (some obj)
    notifications := s.notifications ++
      if (s.objects path).any (· ≠ obj) && s.subs.any (·.isPrefixOf path) then [.updated path]
      else [] }

/-- Another process removes an instance, with all that is below it. -/
def objectRemoved (s : XmppPlugin) (path : CString) (index : ℕ) : XmppPlugin :=
  { s with
    objects := fun p => if (cnxPath path index).isPrefixOf p then none else s.objects p
    notifications := s.notifications ++
      if s.removedSub && "Device.XMPP.Connection.".toList.isPrefixOf path then
        [.removed path index]
      else [] }

/-! ### The system -/

/-- What can happen. -/
inductive Event where
  /-- somebody sets the reference -/
  | setConnection (cnx : CString)
  /-- another process adds or changes an object -/
  | objectSet (path : CString) (obj : XmppObject)
  /-- another process removes an instance -/
  | objectRemoved (path : CString) (index : ℕ)
  /-- the next change of the reference is handled -/
  | changed (subscribes reads : Bool)
  /-- a notification arrives -/
  | notified (notification : XmppNotification) (reads : Bool)
  /-- the timer of the deferred initialisation expires -/
  | deferredInit (removals subscribes reads : Bool)

/-- The callback of a notification. -/
def notifiedCb (s : XmppPlugin) (reads : Bool) : XmppNotification → XmppPlugin
  | .updated path => s.xmppConnectionUpdatedCb reads path
  | .removed path index => s.xmppConnectionDeletedCb path index

/-- One event, if it is possible. Notifications arrive in any order. -/
def step (s : XmppPlugin) : Event → Option XmppPlugin
  | .setConnection cnx => some (s.setConnReqXmppConnection cnx)
  | .objectSet path obj => some (s.objectSet path obj)
  | .objectRemoved path index => some (s.objectRemoved path index)
  | .changed subscribes reads =>
    match s.changes with
    | [] => none
    | change :: rest =>
      some ({ s with changes := rest }.connreqXmppConnectionChanged subscribes reads change)
  | .notified n reads =>
    if n ∈ s.notifications then
      some ({ s with notifications := s.notifications.erase n }.notifiedCb reads n)
    else none
  | .deferredInit removals subscribes reads =>
    if s.deferredInitTimer then some (s.deferredInitTimerCb removals subscribes reads) else none

/-! ### The property and the condition -/

/-- **The identity is that of the connection**: once the changes of the reference have been
handled, there is no Jabber ID or it is the one last read from the connection that is
referenced, while that was enabled. -/
def Identified (s : XmppPlugin) : Prop :=
  s.changes = [] →
    s.connReqJabberId = [] ∨ s.lastRead s.connReqXmppConnection = some s.connReqJabberId

/-- A read of the connection tells its identity, or that it has none. -/
def Tells (s : XmppPlugin) (reads : Bool) (cnx : CString) : Prop :=
  ∃ obj, s.amxbGet reads cnx = some obj ∧ (obj.enable = true → obj.jabberId.isSome)

/-- **The condition on the events**: when the last change of the reference is handled, there
is no connection to read, or the read tells its identity, or there is none to forget; and
with no change pending, an update that has an identity to tell comes from the connection
that is referenced. What was read before may happen to be the same. -/
def FollowsReference (s : XmppPlugin) : Event → Prop
  | .changed _ reads =>
    ∀ old new, s.changes = [(old, new)] →
      new = [] ∨ s.Tells reads new ∨ s.connReqJabberId = [] ∨
        s.lastRead new = some s.connReqJabberId
  | .notified (.updated path) reads =>
    s.changes = [] → path = s.connReqXmppConnection ∨
      ∀ obj jid, path ≠ [] → s.amxbGet reads path = some obj → obj.enable = true →
        obj.jabberId = some jid → jid = [] ∨ s.lastRead s.connReqXmppConnection = some jid
  | _ => True

/-! ### What the functions do -/

variable {s t : XmppPlugin} {e : Event}

/-- An enabled connection gives its identity. -/
theorem updateConnreqJabberId_of_enabled {reads : Bool} {cnx jid : CString} {obj : XmppObject}
    (hne : cnx ≠ []) (hget : s.amxbGet reads cnx = some obj) (henable : obj.enable = true)
    (hjid : obj.jabberId = some jid) :
    s.updateConnreqJabberId reads cnx =
      { s with
        connReqJabberId := jid
        lastRead := Function.update s.lastRead cnx (some jid) } := by
  rw [updateConnreqJabberId, if_neg hne, hget]
  simp [readAs, henable, hjid, setConnreqJabberId]

/-- A connection that is disabled leaves no identity. -/
theorem updateConnreqJabberId_of_disabled {reads : Bool} {cnx : CString} {obj : XmppObject}
    (hne : cnx ≠ []) (hget : s.amxbGet reads cnx = some obj) (hdisabled : obj.enable = false) :
    (s.updateConnreqJabberId reads cnx).connReqJabberId = [] := by
  rw [updateConnreqJabberId, if_neg hne, hget]
  simp [hdisabled, setConnreqJabberId]

/-- An update that tells nothing leaves the identity and the history alone. -/
theorem updateConnreqJabberId_of_not_tells {reads : Bool} {cnx : CString} (hne : cnx ≠ [])
    (h : ¬s.Tells reads cnx) :
    (s.updateConnreqJabberId reads cnx).connReqJabberId = s.connReqJabberId ∧
      (s.updateConnreqJabberId reads cnx).lastRead = s.lastRead := by
  unfold updateConnreqJabberId
  rw [if_neg hne]
  rcases hget : s.amxbGet reads cnx with - | obj
  · exact ⟨rfl, rfl⟩
  · have hsilent : obj.enable = true ∧ obj.jabberId = none := by
      rcases henable : obj.enable with - | -
      · exact absurd ⟨obj, hget, by simp [henable]⟩ h
      · rcases hjid : obj.jabberId with - | jid
        · exact ⟨rfl, rfl⟩
        · exact absurd ⟨obj, hget, fun _ => by simp [hjid]⟩ h
    obtain ⟨henable, hjid⟩ := hsilent
    simp [readAs, henable, hjid, setConnreqJabberId]

/-- **What an update of the Jabber ID does to the property**, for whatever is referenced: it
stays, if the connection is that one or has nothing to tell that is not known of that one;
and it comes about, if the connection is that one and tells its identity. -/
theorem updateConnreqJabberId_keeps {reads : Bool} {cnx current : CString}
    (hid : s.connReqJabberId = [] ∨ s.lastRead current = some s.connReqJabberId)
    (hcnx : cnx = current ∨ ∀ obj jid, cnx ≠ [] → s.amxbGet reads cnx = some obj →
      obj.enable = true → obj.jabberId = some jid → jid = [] ∨ s.lastRead current = some jid) :
    (s.updateConnreqJabberId reads cnx).connReqJabberId = [] ∨
      (s.updateConnreqJabberId reads cnx).lastRead current =
        some (s.updateConnreqJabberId reads cnx).connReqJabberId := by
  by_cases hempty : cnx = []
  · rw [updateConnreqJabberId, if_pos hempty]
    exact Or.inl rfl
  · by_cases htells : s.Tells reads cnx
    · obtain ⟨obj, hget, hsome⟩ := htells
      rcases henable : obj.enable with - | -
      · exact Or.inl (updateConnreqJabberId_of_disabled hempty hget henable)
      · obtain ⟨jid, hjid⟩ := Option.isSome_iff_exists.mp (hsome henable)
        rw [updateConnreqJabberId_of_enabled hempty hget henable hjid]
        dsimp only
        by_cases hcur : cnx = current
        · exact Or.inr (by rw [hcur, Function.update_self])
        · rw [Function.update_of_ne (Ne.symm hcur)]
          exact hcnx.resolve_left hcur obj jid hempty hget henable hjid
    · obtain ⟨hsame, hread⟩ := updateConnreqJabberId_of_not_tells hempty htells
      rw [hsame, hread]
      exact hid

theorem updateConnreqJabberId_tells {reads : Bool} {cnx : CString}
    (hcnx : cnx = [] ∨ s.Tells reads cnx) :
    (s.updateConnreqJabberId reads cnx).connReqJabberId = [] ∨
      (s.updateConnreqJabberId reads cnx).lastRead cnx =
        some (s.updateConnreqJabberId reads cnx).connReqJabberId := by
  by_cases hempty : cnx = []
  · rw [updateConnreqJabberId, if_pos hempty]
    exact Or.inl rfl
  · obtain ⟨obj, hget, htells⟩ := hcnx.resolve_left hempty
    rcases henable : obj.enable with - | -
    · exact Or.inl (updateConnreqJabberId_of_disabled hempty hget henable)
    · obtain ⟨jid, hjid⟩ := Option.isSome_iff_exists.mp (htells henable)
      rw [updateConnreqJabberId_of_enabled hempty hget henable hjid]
      exact Or.inr (Function.update_self _ _ _)

/-- An update of the Jabber ID changes neither the reference nor what is queued. -/
theorem updateConnreqJabberId_frame (s : XmppPlugin) (reads : Bool) (cnx : CString) :
    (s.updateConnreqJabberId reads cnx).connReqXmppConnection = s.connReqXmppConnection ∧
      (s.updateConnreqJabberId reads cnx).changes = s.changes := by
  unfold updateConnreqJabberId setConnreqJabberId readAs
  split
  · exact ⟨rfl, rfl⟩
  · split
    · exact ⟨rfl, rfl⟩
    · split <;> exact ⟨rfl, rfl⟩

/-! ### The invariant -/

/-- **The invariant**: the property, and the last change that is pending is to the reference. -/
structure Consistent (s : XmppPlugin) : Prop where
  identified : s.Identified
  last : ∀ change ∈ s.changes.getLast?, change.2 = s.connReqXmppConnection

theorem consistent_initial (cnx : CString) (objects : CString → Option XmppObject) :
    (initial cnx objects).Consistent :=
  ⟨fun _ => Or.inl rfl, nofun⟩

/-- What the property and the invariant read stays as it is. -/
theorem Consistent.mono (h : s.Consistent)
    (href : t.connReqXmppConnection = s.connReqXmppConnection)
    (hid : t.connReqJabberId = s.connReqJabberId) (hchanges : t.changes = s.changes)
    (hread : t.lastRead s.connReqXmppConnection = s.lastRead s.connReqXmppConnection) :
    t.Consistent := by
  refine ⟨fun hnone => ?_, fun change hc => ?_⟩
  · rw [hid, href, hread]
    exact h.identified (hchanges ▸ hnone)
  · rw [href]
    exact h.last change (hchanges ▸ hc)

/-- A change of the reference is pending, as the last one. -/
theorem Consistent.setConnReqXmppConnection (h : s.Consistent) (cnx : CString) :
    (s.setConnReqXmppConnection cnx).Consistent := by
  unfold XmppPlugin.setConnReqXmppConnection
  split
  · exact h
  · refine ⟨fun hnone => absurd hnone (List.append_ne_nil_of_right_ne_nil _ nofun), ?_⟩
    intro change hc
    rw [List.getLast?_concat] at hc
    exact Option.some.inj hc ▸ rfl

/-- The removal of a connection is handled. -/
theorem Consistent.xmppConnectionDeletedCb (h : s.Consistent) (path : CString) (index : ℕ) :
    (s.xmppConnectionDeletedCb path index).Consistent := by
  unfold XmppPlugin.xmppConnectionDeletedCb
  split
  · exact h
  · have hne : cnxPath path index ≠ [] := List.append_ne_nil_of_right_ne_nil _ (by decide)
    by_cases hcur : cnxPath path index = s.connReqXmppConnection
    · -- the reference is cleared, and that change is pending
      have hcleared : s.connReqXmppConnection ≠ [] := hcur ▸ hne
      simp only [isCurrentCnx, hcur, hcleared, ne_eq, not_false_eq_true, decide_true,
        Bool.and_self, if_true, XmppPlugin.setConnReqXmppConnection, hcleared.symm, if_false]
      refine ⟨fun hnone => absurd hnone (List.append_ne_nil_of_right_ne_nil _ nofun), ?_⟩
      intro change hc
      rw [List.getLast?_concat] at hc
      exact Option.some.inj hc ▸ rfl
    · simp only [isCurrentCnx, hcur, decide_false, Bool.and_false]
      exact h.mono rfl rfl rfl (Function.update_of_ne (Ne.symm hcur) _ _)

/-- An update of the connection that is referenced, or of one that has nothing new to tell. -/
theorem Consistent.updateConnreqJabberId (h : s.Consistent) {reads : Bool} {cnx : CString}
    (hcnx : s.changes = [] → cnx = s.connReqXmppConnection ∨ ∀ obj jid, cnx ≠ [] →
      s.amxbGet reads cnx = some obj → obj.enable = true → obj.jabberId = some jid →
        jid = [] ∨ s.lastRead s.connReqXmppConnection = some jid) :
    (s.updateConnreqJabberId reads cnx).Consistent := by
  obtain ⟨href, hchanges⟩ := updateConnreqJabberId_frame s reads cnx
  refine ⟨fun hnone => ?_, fun change hc => ?_⟩
  · rw [hchanges] at hnone
    rw [href]
    exact updateConnreqJabberId_keeps (h.identified hnone) (hcnx hnone)
  · rw [href]
    exact h.last change (hchanges ▸ hc)

/-- The subscriptions are no part of the invariant. -/
theorem Consistent.xmppConnectionAddSub (h : s.Consistent) (subscribes : Bool) (cnx : CString) :
    (s.xmppConnectionAddSub subscribes cnx).Consistent ∧
      (s.xmppConnectionAddSub subscribes cnx).connReqXmppConnection =
        s.connReqXmppConnection := by
  unfold XmppPlugin.xmppConnectionAddSub
  split
  · exact ⟨h, rfl⟩
  · split
    · exact ⟨h.mono rfl rfl rfl rfl, rfl⟩
    · exact ⟨h, rfl⟩

/-- The state whose identity is updated when a change of the reference is handled. -/
def resubscribed (s : XmppPlugin) (subscribes : Bool) (rest : List (CString × CString))
    (change : CString × CString) : XmppPlugin :=
  ({ s with changes := rest }.xmppConnectionDelSub change.1).xmppConnectionAddSub subscribes
    change.2

theorem resubscribed_eq (s : XmppPlugin) (subscribes : Bool) (rest : List (CString × CString))
    (change : CString × CString) :
    ∃ subs, s.resubscribed subscribes rest change = { s with changes := rest, subs := subs } := by
  unfold resubscribed XmppPlugin.xmppConnectionAddSub xmppConnectionDelSub
  split <;> split <;> first | exact ⟨_, rfl⟩ | (split <;> exact ⟨_, rfl⟩)

/-- A change of the reference is handled. -/
theorem Consistent.changed (h : s.Consistent) {subscribes reads : Bool}
    {change : CString × CString} {rest : List (CString × CString)}
    (hqueue : s.changes = change :: rest)
    (hcond : s.FollowsReference (.changed subscribes reads)) :
    ((s.resubscribed subscribes rest change).updateConnreqJabberId reads change.2).Consistent := by
  obtain ⟨subs, hre⟩ := s.resubscribed_eq subscribes rest change
  obtain ⟨href, hchanges⟩ :=
    updateConnreqJabberId_frame (s.resubscribed subscribes rest change) reads change.2
  have hlast : ∀ c ∈ (change :: rest).getLast?, c.2 = s.connReqXmppConnection := hqueue ▸ h.last
  refine ⟨fun hnone => ?_, fun c hc => ?_⟩
  · -- it was the last one, and what it leads to is what is referenced
    rw [hchanges, hre] at hnone
    obtain rfl : rest = [] := hnone
    have hto : change.2 = s.connReqXmppConnection := hlast change rfl
    rw [href, hre]
    rw [← hto]
    have hgoal : ∀ t : XmppPlugin, t.objects = s.objects → t.lastRead = s.lastRead →
        t.connReqJabberId = s.connReqJabberId →
        (t.updateConnreqJabberId reads change.2).connReqJabberId = [] ∨
          (t.updateConnreqJabberId reads change.2).lastRead change.2 =
            some (t.updateConnreqJabberId reads change.2).connReqJabberId := by
      intro t hobjects hread hid
      rcases hcond change.1 change.2 hqueue with hnew | htells | hnoid | hknown
      · exact updateConnreqJabberId_tells (Or.inl hnew)
      · obtain ⟨obj, hget, hjid⟩ := htells
        refine updateConnreqJabberId_tells (Or.inr ⟨obj, ?_, hjid⟩)
        rw [← hget, amxbGet, amxbGet, hobjects]
      · exact updateConnreqJabberId_keeps (Or.inl (hid ▸ hnoid)) (Or.inl rfl)
      · exact updateConnreqJabberId_keeps (Or.inr (hread ▸ hid ▸ hknown)) (Or.inl rfl)
    exact hgoal _ rfl rfl rfl
  · rw [hchanges, hre] at hc
    rw [href, hre]
    refine hlast c ?_
    rcases rest with - | ⟨d, rest⟩
    · cases hc
    · rw [List.getLast?_cons_cons]
      exact hc

/-- **One event** that meets the condition keeps the invariant. -/
theorem Consistent.step (h : s.Consistent) (hcond : s.FollowsReference e)
    (hstep : s.step e = some t) : t.Consistent := by
  rcases e with cnx | ⟨path, obj⟩ | ⟨path, index⟩ | ⟨subscribes, reads⟩ | ⟨n, reads⟩ |
    ⟨removals, subscribes, reads⟩
  · obtain rfl := Option.some.inj hstep
    exact h.setConnReqXmppConnection cnx
  · obtain rfl := Option.some.inj hstep
    exact h.mono rfl rfl rfl rfl
  · obtain rfl := Option.some.inj hstep
    exact h.mono rfl rfl rfl rfl
  · rcases hqueue : s.changes with - | ⟨change, rest⟩
    · simp [XmppPlugin.step, hqueue] at hstep
    · rw [XmppPlugin.step, hqueue] at hstep
      obtain rfl := Option.some.inj hstep
      exact h.changed hqueue hcond
  · rw [XmppPlugin.step] at hstep
    split at hstep
    · obtain rfl := Option.some.inj hstep
      have h' : { s with notifications := s.notifications.erase n }.Consistent :=
        h.mono rfl rfl rfl rfl
      rcases n with path | ⟨path, index⟩
      · exact h'.updateConnreqJabberId hcond
      · exact h'.xmppConnectionDeletedCb path index
    · cases hstep
  · rw [XmppPlugin.step] at hstep
    split at hstep
    · obtain rfl := Option.some.inj hstep
      unfold deferredInitTimerCb
      split
      · have h' : { s with deferredInitTimer := false, removedSub := true }.Consistent :=
          h.mono rfl rfl rfl rfl
        obtain ⟨hsub, href⟩ := h'.xmppConnectionAddSub subscribes s.connReqXmppConnection
        exact hsub.updateConnreqJabberId fun _ => Or.inl href.symm
      · exact h.mono rfl rfl rfl rfl
    · cases hstep

/-- **The Jabber ID is the one of the connection that is referenced**, in every run whose
updates come from that connection and whose reads tell what a change of the reference leads
to. -/
theorem identified_of_reaches {cnx : CString} {objects : CString → Option XmppObject}
    (h : Reaches step FollowsReference (initial cnx objects) s) : s.Identified :=
  (h.invariant (fun _ _ _ hs hcond hstep => hs.step hcond hstep)
    (consistent_initial cnx objects)).identified

/-- **The condition leaves out nothing else**: an event that does not meet it breaks the
property. -/
theorem followsReference_of_identified (h : s.Consistent) (hstep : s.step e = some t)
    (ht : t.Identified) : s.FollowsReference e := by
  rcases e with cnx | ⟨path, obj⟩ | ⟨path, index⟩ | ⟨subscribes, reads⟩ |
    ⟨path | ⟨path, index⟩, reads⟩ | ⟨removals, subscribes, reads⟩
  case changed =>
    intro old new hqueue
    rw [step, hqueue] at hstep
    obtain rfl := Option.some.inj hstep
    by_cases hnew : new = []
    · exact Or.inl hnew
    refine Or.inr (or_iff_not_imp_left.mpr fun htells => ?_)
    obtain ⟨subs, hre⟩ := s.resubscribed_eq subscribes [] (old, new)
    have hto : new = s.connReqXmppConnection := h.last (old, new) (by rw [hqueue]; rfl)
    have hstill : ¬(s.resubscribed subscribes [] (old, new)).Tells reads new := by
      rw [hre]
      exact htells
    obtain ⟨hid, hread⟩ := updateConnreqJabberId_of_not_tells hnew hstill
    obtain ⟨href, hchanges⟩ :=
      updateConnreqJabberId_frame (s.resubscribed subscribes [] (old, new)) reads new
    have hafter := ht (hchanges.trans (by rw [hre]))
    have hafter' : (s.resubscribed subscribes [] (old, new)).connReqJabberId = [] ∨
        (s.resubscribed subscribes [] (old, new)).lastRead
          (s.resubscribed subscribes [] (old, new)).connReqXmppConnection =
            some (s.resubscribed subscribes [] (old, new)).connReqJabberId := by
      rw [← hid, ← hread, ← href]
      exact hafter
    rw [hre] at hafter'
    rw [hto]
    exact hafter'
  case notified.updated =>
    intro hnone
    refine or_iff_not_imp_left.mpr fun hother obj jid hne hget henable hjid => ?_
    rw [step] at hstep
    split at hstep
    · obtain rfl := Option.some.inj hstep
      have hget' : { s with
          notifications := s.notifications.erase (.updated path) }.amxbGet reads path =
            some obj := hget
      have hcur : s.connReqXmppConnection ≠ path := fun h => hother h.symm
      rw [notifiedCb, xmppConnectionUpdatedCb,
        updateConnreqJabberId_of_enabled hne hget' henable hjid] at ht
      have hafter := ht hnone
      dsimp only at hafter
      rw [Function.update_of_ne hcur] at hafter
      exact hafter
    · cases hstep
  all_goals trivial

/-- Two connections that are enabled. -/
def twoConnections (path : CString) : Option XmppObject :=
  if path = "C.1.".toList then some ⟨true, some "a".toList⟩
  else if path = "C.2.".toList then some ⟨true, some "b".toList⟩
  else none

/-- The reference goes from the first connection to the second. -/
theorem identified_second : ∃ s : XmppPlugin,
    Reaches step FollowsReference (initial "C.1.".toList twoConnections) s ∧
      s.connReqJabberId = "b".toList ∧ s.Identified := by
  have hrun : ((exec step (initial "C.1.".toList twoConnections)
      [.deferredInit true true true, .setConnection "C.2.".toList, .changed true true]).map
      connReqJabberId) = some "b".toList := by
    decide
  obtain ⟨s, hs, hid⟩ := Option.map_eq_some_iff.mp hrun
  have hreach : Reaches step FollowsReference (initial "C.1.".toList twoConnections) s := by
    refine reaches_of_exec hs ⟨trivial, fun u hu => ⟨trivial, fun v hv => ⟨?_, fun _ _ => trivial⟩⟩⟩
    obtain rfl := Option.some.inj hu
    obtain rfl := Option.some.inj hv
    intro old new hqueue
    obtain ⟨-, rfl⟩ := Prod.mk.inj (List.cons.inj hqueue).1
    exact Or.inr (Or.inl ⟨⟨true, some "b".toList⟩, by decide, fun _ => rfl⟩)
  exact ⟨s, hreach, hid, identified_of_reaches hreach⟩

/-- Not in every run: a connection that is no longer referenced changes before the plugin is
told so, and gives its identity away. -/
theorem not_identified_late : ¬∀ (cnx : CString) (objects : CString → Option XmppObject)
    (s : XmppPlugin), Reaches step free (initial cnx objects) s → s.Identified := by
  intro h
  have hrun : ((exec step (initial "C.1.".toList twoConnections)
      [.deferredInit true true true, .objectSet "C.1.".toList ⟨true, some "c".toList⟩,
        .setConnection "C.2.".toList, .changed true true,
        .notified (.updated "C.1.".toList) true]).map fun s =>
      (s.changes, s.connReqJabberId, s.lastRead s.connReqXmppConnection)) =
        some ([], "c".toList, some "b".toList) := by
    decide
  obtain ⟨s, hs, heq⟩ := Option.map_eq_some_iff.mp hrun
  obtain ⟨hchanges, hrest⟩ := Prod.mk.inj heq
  obtain ⟨hid, hread⟩ := Prod.mk.inj hrest
  rcases h _ _ s (reaches_free_of_exec _ hs) hchanges with hempty | hsame
  · rw [hid] at hempty
    cases hempty
  · rw [hid, hread] at hsame
    cases hsame

end XmppPlugin

end Tr069
