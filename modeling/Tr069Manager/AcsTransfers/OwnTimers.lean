import Tr069Manager.AcsTransfers.Startup
import Tr069Manager.Lib.Runs

/-!
# The timers of the ACS transfers over whole runs

The ACS asks for transfers at any time, the plugin writes them at any time, the timers of the
daemon expire in any order, and the daemon may be restarted at any moment. In such a run, does
every transfer have a time-out of its own until it is reported, is it reported once, and are
the timers of the other transfers and of the daemon left alone?

They are not when two transfers share a CommandKey, when a CommandKey is empty, or when it is
the name of a timer that runs, or will run, for something else: `Tr069.TransferSystem.Undisturbed`
is the condition on a step that excludes this and nothing else, apart from calls that the bus
refuses. In the runs whose steps meet it, all is well (`Tr069.ownTimers_of_reaches`). The
invariant (`Tr069.TransferSystem.Inv`) says of each timer whose it is.
-/

namespace Tr069

/-- The daemon, the plugin and the engine: what the daemon has of the transfers, whether it
has read them since it started, the changes of a Status that are on their way to it, and the
paths that have been given to a transfer. -/
structure TransferSystem where
  daemon : TimedTransfers
  running : Bool
  notifications : List (ObjectPath × String)
  used : List ObjectPath

/-- What can happen. The ACS asks for a transfer; the plugin writes one; a change of a Status
is delivered; the timer of a name expires; the ACS acknowledges a report, and the transfer is
deleted; the daemon starts and stops a timer of its own; it reads the transfers, and it is
restarted. -/
inductive TransferEvent where
  | request (r : TransferRequest) (bus : AddAnswers) (now : ℤ)
  | written (path : ObjectPath) (t : AcsTransfer)
  | notification (get : Bool)
  | expired (name : String) (bus : TimerAnswers)
  | acknowledged (path : ObjectPath)
  | daemonStart (name : String) (waitTime intervalTime : Int32)
  | daemonStop (name : String)
  | start (bus : StartAnswers) (now : ObjectPath → ℤ)
  | restart

namespace TransferSystem

/-- No transfer yet, and the daemon about to start. -/
def init : TransferSystem := ⟨⟨⟨[], List.nodup_nil⟩, [], TimerList.empty, []⟩, false, [], []⟩

/-- The paths of the transfers that have been reported since the daemon started. -/
def reportedPaths (d : TimedTransfers) : List ObjectPath :=
  d.reported.map TransferCompleteStruct.path

/-- The changes of a Status from `d` to `d'` that the subscriptions in `d'` deliver. -/
def statusChanges (d d' : TimedTransfers) : List (ObjectPath × String) :=
  d'.transferSubsList.filterMap fun x =>
    match d.acsTransfers.find x.2, d'.acsTransfers.find x.2 with
    | some t, some t' =>
      if t.status = t'.status then none else t'.status.map fun status => (x.2, status)
    | _, _ => none

/-- The step to a new state of the daemon, with the notifications it raises. -/
def become (s : TransferSystem) (d' : TimedTransfers) : TransferSystem :=
  { s with daemon := d', notifications := s.notifications ++ statusChanges s.daemon d' }

/-- What a restart leaves: the data model. -/
def stop (s : TransferSystem) : TransferSystem where
  daemon := ⟨s.daemon.acsTransfers, [], TimerList.empty, []⟩
  running := false
  notifications := []
  used := s.used

section Step

variable (dateStringToTime : Option String → ℤ) (amxcTsFormat : ℤ → String)
  (amxcTsParse : String → ℤ)

/-- One step; `none` when the event cannot happen. An instance that the bus makes has a path
that no other one has had. The plugin leaves the CommandKey and the id of the subscription of
a transfer alone. -/
def step (s : TransferSystem) : TransferEvent → Option TransferSystem
  | .request r bus now =>
    if s.running ∧ ∀ path, bus.added = some path → path ∉ s.used then
      some { s with
        daemon := (s.daemon.doTransfer amxcTsFormat now bus r).2
        used := bus.added.toList ++ s.used }
    else none
  | .written path t =>
    match s.daemon.acsTransfers.find path with
    | none => none
    | some old =>
      if t.commandKey = old.commandKey ∧ t.subscriptionId = old.subscriptionId then
        some (s.become { s.daemon with
          acsTransfers := s.daemon.acsTransfers.modify path fun _ => t })
      else none
  | .notification get =>
    match s.notifications with
    | [] => none
    | (path, status) :: rest =>
      let s := { s with notifications := rest }
      -- a subscription that is gone delivers nothing any more
      if path ∈ s.daemon.transferSubsList.map Prod.snd then
        some (s.become (s.daemon.transferNotification dateStringToTime get path status))
      else some s
  | .expired name bus =>
    if (s.daemon.timers.timerFind name).isSome then
      some (s.become (s.daemon.timerTimeoutHandler dateStringToTime bus name))
    else none
  | .acknowledged path =>
    if path ∈ reportedPaths s.daemon then
      some { s with daemon :=
        { s.daemon with acsTransfers := s.daemon.acsTransfers.remove path } }
    else none
  | .daemonStart name waitTime intervalTime =>
    some { s with daemon := { s.daemon with
      timers := (s.daemon.timers.cwmpTimerStart (some name) waitTime intervalTime .daemon).1 } }
  | .daemonStop name => some { s with daemon := s.daemon.timerStop (some name) }
  | .start bus now =>
    if s.running then none
    else
      match s.daemon.upDownloadInitialize amxcTsParse now bus with
      | none => some s.stop
      | some (_, d) => some { s with daemon := d, running := true }
  | .restart => some s.stop

end Step

/-! ### What is to hold -/

/-- The timers of a transfer: that of its restart or report, under its path, and its time-out,
under its CommandKey. -/
def TimerOf (d : TimedTransfers) (path : ObjectPath) (name : String) : Prop :=
  name = path.1 ∧ (d.timers.handlerOf name = some .restartTransfer ∨
      d.timers.handlerOf name = some .transferCompleteEvent) ∨
    d.timers.handlerOf name = some .transferTimedOut ∧
      ∃ t, d.acsTransfers.find path = some t ∧ t.commandKey = some name

/-- The bus takes all calls of an addition, and the id of the subscription is not in use. -/
structure AddAnswers.Taken (bus : AddAnswers) (d : TimedTransfers) : Prop where
  addTransfer : bus.addTransfer = true
  subscribed : ∃ uid, bus.subscribed = some uid ∧ uid ∉ d.transferSubsList.map Prod.fst
  set : bus.set = true

/-- The transfers that the daemon finds when it starts are not in each other's way: they have
a Status, nothing is lost from them, and the CommandKey of none is the name of another's
timer. -/
structure Undisputed (amxcTsParse : String → ℤ) (now : ObjectPath → ℤ) (d : TimedTransfers)
    (bus : StartAnswers) : Prop where
  recoverable : d.Recoverable amxcTsParse now bus
  getAll : bus.getAll = true
  status : ∀ e ∈ d.acsTransfers.entries, e.2.status ≠ none
  commandKey : ∀ a ∈ d.acsTransfers.entries, ∀ b ∈ d.acsTransfers.entries, a ≠ b → ∀ x,
    TimedTransfers.startupTimer amxcTsParse now b = some x → a.2.commandKey ≠ some x.1

/-- **The condition on a step**: the bus takes its calls; the CommandKey of a new transfer is
not empty, no transfer has it and no timer runs under it; the daemon does not start or stop a
timer of its own under a name that a transfer uses; and what it finds when it starts is
undisputed. -/
def Undisturbed (amxcTsParse : String → ℤ) (s : TransferSystem) : TransferEvent → Prop
  | .request r bus _ => bus.added ≠ none ∧ AddAnswers.Taken bus s.daemon ∧ r.commandkey ≠ "" ∧
      s.daemon.timers.timerFind r.commandkey = none ∧
      ∀ e ∈ s.daemon.acsTransfers.entries, e.2.commandKey ≠ some r.commandkey
  | .notification get => get = true
  | .expired name bus =>
      (s.daemon.timers.handlerOf name ≠ some .daemon → bus.getAll = true ∧ bus.get = true) ∧
      (s.daemon.timers.handlerOf name = some .restartTransfer →
        AddAnswers.Taken bus.restart s.daemon)
  | .daemonStart name _ _ => (∀ h, s.daemon.timers.handlerOf name = some h → h = .daemon) ∧
      ∀ e ∈ s.daemon.acsTransfers.entries, e.1 ∉ reportedPaths s.daemon →
        e.2.commandKey ≠ some name
  | .daemonStop name => ∀ h, s.daemon.timers.handlerOf name = some h → h = .daemon
  | .start bus now => Undisputed amxcTsParse now s.daemon bus
  | _ => True

/-! ### What the callbacks do -/

open TimedTransfers (keyOf)

/-- What the transfer at a path is known by. -/
def look (d : TimedTransfers) (path : ObjectPath) : Option (Option String × Int32) :=
  (d.acsTransfers.find path).map keyOf

section Callbacks

variable {dateStringToTime : Option String → ℤ} {d : TimedTransfers} {path : ObjectPath}
  {t : AcsTransfer} {key : String}

end Callbacks

/-! ### The invariant -/

/-- The name is the path of a transfer that is not reported, which has no other timer, and it
is the CommandKey of no other transfer. -/
def PathOf (d : TimedTransfers) (n : String) (p : ObjectPath) : Prop :=
  p.1 = n ∧ p ∉ reportedPaths d ∧
    (∃ key uid, look d p = some (some key, uid) ∧ (key ≠ n → d.timers.handlerOf key = none)) ∧
    ∀ q uid', look d q = some (some n, uid') → q = p

/-- Whose the timer of a name is, by its callback. One of the daemon has no name that a
transfer still needs; a time-out has the CommandKey of a transfer that is not reported; and the
others have the path of one. -/
def Placed (d : TimedTransfers) (n : String) : TimerHandler → Prop
  | .daemon => ∀ p uid, look d p = some (some n, uid) → p ∈ reportedPaths d
  | .transferTimedOut => ∃ p uid, look d p = some (some n, uid) ∧ p ∉ reportedPaths d
  | _ => ∃ p, PathOf d n p

/-- **The invariant**, of what the daemon has, whether it runs, and the paths given out. -/
structure Inv (d : TimedTransfers) (running : Bool) (used : List ObjectPath) : Prop where
  commandKey : ∀ p x, look d p = some x → ∃ key, x.1 = some key ∧ key ≠ ""
  distinct : ∀ p q key u v, look d p = some (some key, u) → look d q = some (some key, v) → p = q
  given : ∀ p x, look d p = some x → p ∈ used
  once : (reportedPaths d).Nodup
  reportedUsed : ∀ p ∈ reportedPaths d, p ∈ used
  oneShot : TimedTransfers.OneShot d.timers
  subsNodup : (d.transferSubsList.map Prod.fst).Nodup
  subs : ∀ x ∈ d.transferSubsList, ∃ key, look d x.2 = some (some key, x.1) ∧
    d.timers.handlerOf key = some .transferTimedOut ∧ x.2 ∉ reportedPaths d
  timers : ∀ n h, d.timers.handlerOf n = some h → Placed d n h
  pending : running = true → ∀ p key uid, look d p = some (some key, uid) →
    p ∉ reportedPaths d → d.timers.handlerOf key = some .transferTimedOut ∨
      d.timers.handlerOf p.1 = some .restartTransfer ∨
      d.timers.handlerOf p.1 = some .transferCompleteEvent
  stopped : running = false → d.transferSubsList = [] ∧ d.reported = [] ∧ d.Starting

/-- A timer that is neither a time-out nor the daemon's is under a path. -/
theorem Inv.path {d : TimedTransfers} {running : Bool} {used : List ObjectPath}
    (hi : Inv d running used) {n : String} {h : TimerHandler}
    (hh : h = .restartTransfer ∨ h = .transferCompleteEvent)
    (hn : d.timers.handlerOf n = some h) : ∃ p, PathOf d n p := by
  have hplaced := hi.timers n h hn
  rcases hh with rfl | rfl <;> exact hplaced

/-- From `d` to `d'` a transfer is reported: its time-out is stopped, and the timer `name` on
which this happens, which is the time-out or one that put off the report, is gone. -/
structure Reports (d d' : TimedTransfers) (p : ObjectPath) (key name : String) (uid : Int32) :
    Prop where
  entry : look d p = some (some key, uid)
  fresh : p ∉ reportedPaths d
  own : name = key ∧ d.timers.handlerOf key = some .transferTimedOut ∨
    name = p.1 ∧ d.timers.handlerOf name = some .transferCompleteEvent
  timers : ∀ n, d'.timers.timerFind n =
    if n = key ∨ n = name then none else d.timers.timerFind n
  same : ∀ q, look d' q = look d q
  reported : reportedPaths d' = reportedPaths d ++ [p]
  subs : d'.transferSubsList.Sublist d.transferSubsList
  gone : (d.transferSubsList.map Prod.fst).Nodup → ∀ x ∈ d'.transferSubsList, x.1 ≠ uid

section Reports

variable {d d' : TimedTransfers} {p : ObjectPath} {key name : String} {uid : Int32}
  {running : Bool} {used : List ObjectPath}

theorem Reports.handlerOf (hr : Reports d d' p key name uid) (n : String) :
    d'.timers.handlerOf n = if n = key ∨ n = name then none else d.timers.handlerOf n := by
  rw [TimerList.handlerOf, hr.timers]
  split <;> rfl

/-- A name that the report does not concern. -/
theorem Reports.handlerOf_ne (hr : Reports d d' p key name uid) {n : String} {h : TimerHandler}
    (hn : d'.timers.handlerOf n = some h) :
    n ≠ key ∧ n ≠ name ∧ d.timers.handlerOf n = some h := by
  rw [hr.handlerOf] at hn
  split at hn
  · cases hn
  · next hne => exact ⟨fun hc => hne (Or.inl hc), fun hc => hne (Or.inr hc), hn⟩

/-- The timer under the path of the transfer, if there is one, is the one that has expired. -/
theorem Reports.name_of_path (hi : Inv d running used) (hr : Reports d d' p key name uid)
    {h : TimerHandler} (hh : h = .restartTransfer ∨ h = .transferCompleteEvent)
    (hp : d.timers.handlerOf p.1 = some h) : p.1 = key ∨ p.1 = name := by
  rcases hr.own with ⟨-, htimed⟩ | ⟨hname, -⟩
  · obtain ⟨q, hq, -, ⟨k, u, hlook, hkey⟩, -⟩ := hi.path hh hp
    obtain rfl := Subtype.ext hq
    rw [hr.entry] at hlook
    obtain ⟨hk, -⟩ := Prod.mk.inj (Option.some.inj hlook)
    obtain rfl := Option.some.inj hk
    by_contra hne
    rw [hkey fun hc => hne (Or.inl hc.symm)] at htimed
    cases htimed
  · exact Or.inr hname.symm

/-- The names concerned are of no other transfer. -/
theorem Reports.ne_of_other (hi : Inv d running used) (hr : Reports d d' p key name uid)
    {q : ObjectPath} (hq : q ≠ p) {n : String} (hn : TimerOf d q n) : n ≠ key ∧ n ≠ name := by
  rcases hn with ⟨rfl, hpath⟩ | ⟨htimed, t, ht, hkey⟩
  · obtain ⟨r, hr', -, -, honly⟩ : ∃ r, PathOf d q.1 r := by
      rcases hpath with hh | hh
      · exact hi.path (Or.inl rfl) hh
      · exact hi.path (Or.inr rfl) hh
    obtain rfl := Subtype.ext hr'
    have hnk : r.1 ≠ key := by
      rintro rfl
      exact hq (honly p uid hr.entry).symm
    refine ⟨hnk, ?_⟩
    rcases hr.own with ⟨rfl, -⟩ | ⟨rfl, -⟩
    · exact hnk
    · exact fun hc => hq (Subtype.ext hc)
  · have hlook : look d q = some (some n, t.subscriptionId) := by
      rw [look, ht, Option.map_some, keyOf, hkey]
    have hnk : n ≠ key := by
      rintro rfl
      exact hq (hi.distinct _ _ _ _ _ hlook hr.entry)
    refine ⟨hnk, ?_⟩
    rcases hr.own with ⟨rfl, -⟩ | ⟨-, hc⟩
    · exact hnk
    · rintro rfl
      rw [htimed] at hc
      cases hc

theorem Reports.mem_reported (hr : Reports d d' p key name uid) {q : ObjectPath} :
    q ∈ reportedPaths d' ↔ q ∈ reportedPaths d ∨ q = p := by
  rw [hr.reported, List.mem_append, List.mem_singleton]

theorem Reports.mem_reported_of_ne (hr : Reports d d' p key name uid) {q : ObjectPath}
    (hq : q ≠ p) : q ∈ reportedPaths d' ↔ q ∈ reportedPaths d := by
  rw [hr.mem_reported]
  exact or_iff_left hq

/-- The time-out of another transfer is another timer. -/
theorem Reports.timedOut_kept (hi : Inv d running used) (hr : Reports d d' p key name uid)
    {q : ObjectPath} (hq : q ≠ p) {k : String} {u : Int32} (hlook : look d q = some (some k, u))
    (hk : d.timers.handlerOf k = some .transferTimedOut) :
    d'.timers.handlerOf k = some .transferTimedOut := by
  obtain ⟨t, ht, hkeyOf⟩ := Option.map_eq_some_iff.mp hlook
  have hn := hr.ne_of_other hi hq (Or.inr ⟨hk, t, ht, congrArg Prod.fst hkeyOf⟩)
  rw [hr.handlerOf, if_neg fun hc => hc.elim hn.1 hn.2, hk]

/-- And so is the timer under its path. -/
theorem Reports.path_kept (hi : Inv d running used) (hr : Reports d d' p key name uid)
    {q : ObjectPath} (hq : q ≠ p) {h : TimerHandler}
    (hh : h = .restartTransfer ∨ h = .transferCompleteEvent)
    (hn : d.timers.handlerOf q.1 = some h) : d'.timers.handlerOf q.1 = some h := by
  have hname := hr.ne_of_other hi hq (Or.inl ⟨rfl, by rcases hh with rfl | rfl <;> simp [hn]⟩)
  rw [hr.handlerOf, if_neg fun hc => hc.elim hname.1 hname.2, hn]

/-- A timer that is under a path afterwards is so as before. -/
theorem Reports.pathOf (hi : Inv d running used) (hr : Reports d d' p key name uid) {n : String}
    {h : TimerHandler} (hh : h = .restartTransfer ∨ h = .transferCompleteEvent)
    (hn : d'.timers.handlerOf n = some h) : ∃ q, PathOf d' n q := by
  obtain ⟨hnk, hnn, hold⟩ := hr.handlerOf_ne hn
  obtain ⟨q, rfl, hnot, ⟨k, u, hlook, hk⟩, honly⟩ := hi.path hh hold
  have hqp : q ≠ p := by
    rintro rfl
    exact (hr.name_of_path hi hh hold).elim hnk hnn
  refine ⟨q, rfl, fun hc => hnot ((hr.mem_reported_of_ne hqp).mp hc), ⟨k, u,
    (hr.same q).trans hlook, fun hkn => ?_⟩,
    fun r u' hlook' => honly r u' ((hr.same r).symm.trans hlook')⟩
  rw [hr.handlerOf]
  split
  · rfl
  · exact hk hkn

/-- Every timer that is left is in its place. -/
theorem Reports.placed (hi : Inv d running used) (hr : Reports d d' p key name uid) {n : String}
    {h : TimerHandler} (hn : d'.timers.handlerOf n = some h) : Placed d' n h := by
  obtain ⟨hnk, -, hold⟩ := hr.handlerOf_ne hn
  have hplaced := hi.timers n h hold
  cases h with
  | transferTimedOut =>
    obtain ⟨q, u, hlook, hnot⟩ := hplaced
    have hqp : q ≠ p := by
      rintro rfl
      rw [hr.entry] at hlook
      exact hnk (Option.some.inj (Prod.mk.inj (Option.some.inj hlook)).1).symm
    exact ⟨q, u, (hr.same q).trans hlook, fun hc => hnot ((hr.mem_reported_of_ne hqp).mp hc)⟩
  | restartTransfer => exact hr.pathOf hi (Or.inl rfl) hn
  | transferCompleteEvent => exact hr.pathOf hi (Or.inr rfl) hn
  | daemon =>
    intro q u hlook
    exact hr.mem_reported.mpr (Or.inl (hplaced q u ((hr.same q).symm.trans hlook)))

/-- **A report keeps the invariant.** -/
theorem Reports.inv (hi : Inv d running used) (hr : Reports d d' p key name uid) :
    Inv d' running used := by
  refine ⟨fun q x => ?_, fun q r k u v => ?_, fun q x => ?_, ?_, fun q hq => ?_, ?_, ?_,
    fun x hx => ?_, fun n h hn => hr.placed hi hn, fun hrun q k u hlook hq => ?_,
    fun hstop => ?_⟩
  · rw [hr.same]
    exact hi.commandKey q x
  · rw [hr.same, hr.same]
    exact hi.distinct q r k u v
  · rw [hr.same]
    exact hi.given q x
  · rw [hr.reported]
    refine List.nodup_append.mpr ⟨hi.once, List.nodup_singleton _, fun a ha b hb => ?_⟩
    obtain rfl := List.mem_singleton.mp hb
    rintro rfl
    exact hr.fresh ha
  · rcases hr.mem_reported.mp hq with hq | rfl
    · exact hi.reportedUsed q hq
    · exact hi.given q _ hr.entry
  · intro n i hn
    rw [hr.timers] at hn
    split at hn
    · cases hn
    · exact hi.oneShot n i hn
  · exact hi.subsNodup.sublist (hr.subs.map _)
  · obtain ⟨k, hlook, hk, hnot⟩ := hi.subs x (hr.subs.subset hx)
    have hxp : x.2 ≠ p := by
      intro hxp
      rw [hxp, hr.entry] at hlook
      exact hr.gone hi.subsNodup x hx (Prod.mk.inj (Option.some.inj hlook)).2.symm
    exact ⟨k, (hr.same _).trans hlook, hr.timedOut_kept hi hxp hlook hk,
      fun hc => hnot ((hr.mem_reported_of_ne hxp).mp hc)⟩
  · -- a transfer that is not reported afterwards is another one, and was not reported before
    have hqp : q ≠ p := fun hc => hq (hr.mem_reported.mpr (Or.inr hc))
    have hnot : q ∉ reportedPaths d := fun hc => hq (hr.mem_reported.mpr (Or.inl hc))
    rw [hr.same] at hlook
    rcases hi.pending hrun q k u hlook hnot with hk | hk | hk
    · exact Or.inl (hr.timedOut_kept hi hqp hlook hk)
    · exact Or.inr (Or.inl (hr.path_kept hi hqp (Or.inl rfl) hk))
    · exact Or.inr (Or.inr (hr.path_kept hi hqp (Or.inr rfl) hk))
  · -- a daemon that has not read the transfers has no timer to report on
    obtain ⟨-, -, hstart⟩ := hi.stopped hstop
    rcases hr.own with ⟨-, hc⟩ | ⟨-, hc⟩
    · exact absurd (hstart _ _ hc) (by decide)
    · exact absurd (hstart _ _ hc) (by decide)

end Reports

/-- From `d` to `d'` the time-out of a transfer is armed: of a new one, or of one whose
restart was put off to the timer `name`, which is gone. -/
structure Arms (d d' : TimedTransfers) (p : ObjectPath) (key name : String) (uid : Int32) :
    Prop where
  key_ne : key ≠ ""
  fresh : p ∉ reportedPaths d
  alone : ∀ q u, look d q = some (some key, u) → q = p
  own : name = key ∧ d.timers.handlerOf key = none ∧ look d p = none ∨
    name = p.1 ∧ d.timers.handlerOf name = some .restartTransfer ∧
      (∃ u, look d p = some (some key, u)) ∧ (key ≠ name → d.timers.handlerOf key = none)
  timers : ∀ n, n ≠ key →
    d'.timers.timerFind n = if n = name then none else d.timers.timerFind n
  armed : ∃ i, d'.timers.timerFind key = some i ∧ i.handler = .transferTimedOut ∧
    i.intervalTimer = false
  entry : look d' p = some (some key, uid)
  same : ∀ q, q ≠ p → look d' q = look d q
  subs : d'.transferSubsList = d.transferSubsList ++ [(uid, p)]
  freshUid : uid ∉ d.transferSubsList.map Prod.fst
  reported : d'.reported = d.reported

section Arms

variable {d d' : TimedTransfers} {p : ObjectPath} {key name : String} {uid : Int32}
  {running : Bool} {used used' : List ObjectPath}

theorem Arms.handlerOf_key (ha : Arms d d' p key name uid) :
    d'.timers.handlerOf key = some .transferTimedOut := by
  obtain ⟨i, hi, hh, -⟩ := ha.armed
  rw [TimerList.handlerOf, hi, Option.map_some, hh]

theorem Arms.handlerOf (ha : Arms d d' p key name uid) {n : String} (hn : n ≠ key) :
    d'.timers.handlerOf n = if n = name then none else d.timers.handlerOf n := by
  rw [TimerList.handlerOf, ha.timers n hn]
  split <;> rfl

/-- A name that the step does not concern. -/
theorem Arms.handlerOf_ne (ha : Arms d d' p key name uid) {n : String} {h : TimerHandler}
    (hnk : n ≠ key) (hn : d'.timers.handlerOf n = some h) :
    n ≠ name ∧ d.timers.handlerOf n = some h := by
  rw [ha.handlerOf hnk] at hn
  split at hn
  · cases hn
  · next hne => exact ⟨hne, hn⟩

/-- The CommandKey was under no timer, except perhaps that of the restart itself. -/
theorem Arms.free (ha : Arms d d' p key name uid) {h : TimerHandler}
    (hn : d.timers.handlerOf key = some h) :
    key = p.1 ∧ key = name ∧ h = .restartTransfer := by
  rcases ha.own with ⟨-, hc, -⟩ | ⟨rfl, hr, -, hc⟩
  · rw [hn] at hc
    cases hc
  · by_cases hk : key = p.1
    · subst hk
      rw [hr] at hn
      exact ⟨rfl, rfl, (Option.some.inj hn).symm⟩
    · rw [hc hk] at hn
      cases hn

/-- The CommandKey of the transfer afterwards, -/
theorem Arms.key_of_look (ha : Arms d d' p key name uid) {k : String} {u : Int32}
    (h : look d' p = some (some k, u)) : k = key := by
  rw [ha.entry] at h
  exact (Option.some.inj (Prod.mk.inj (Option.some.inj h)).1).symm

/-- and before, if it was there. -/
theorem Arms.key_of_old (ha : Arms d d' p key name uid) {k : String} {u : Int32}
    (h : look d p = some (some k, u)) : k = key := by
  rcases ha.own with ⟨-, -, hnone⟩ | ⟨-, -, ⟨v, hv⟩, -⟩
  · rw [hnone] at h
    cases h
  · rw [hv] at h
    exact (Option.some.inj (Prod.mk.inj (Option.some.inj h)).1).symm

/-- The names concerned are of no other transfer. -/
theorem Arms.ne_of_other (ha : Arms d d' p key name uid) {q : ObjectPath} (hq : q ≠ p)
    {n : String} (hn : TimerOf d q n) : n ≠ key ∧ n ≠ name := by
  rcases hn with ⟨rfl, hpath⟩ | ⟨htimed, t, ht, hkey⟩
  · have hnk : q.1 ≠ key := by
      rintro rfl
      have hhandler : ∃ h, d.timers.handlerOf q.1 = some h := hpath.elim (⟨_, ·⟩) (⟨_, ·⟩)
      obtain ⟨h, hh⟩ := hhandler
      exact hq (Subtype.ext (ha.free hh).1)
    refine ⟨hnk, ?_⟩
    rcases ha.own with ⟨rfl, -⟩ | ⟨rfl, -⟩
    · exact hnk
    · exact fun hc => hq (Subtype.ext hc)
  · have hlook : look d q = some (some n, t.subscriptionId) := by
      rw [look, ht, Option.map_some, keyOf, hkey]
    have hnk : n ≠ key := by
      rintro rfl
      exact hq (ha.alone q _ hlook)
    refine ⟨hnk, ?_⟩
    rcases ha.own with ⟨rfl, -⟩ | ⟨-, hc, -⟩
    · exact hnk
    · rintro rfl
      rw [htimed] at hc
      cases hc

theorem Arms.reportedPaths_eq (ha : Arms d d' p key name uid) :
    reportedPaths d' = reportedPaths d :=
  congrArg (List.map _) ha.reported

/-- A transfer that looks as if it had the CommandKey is this one. -/
theorem Arms.alone_after (ha : Arms d d' p key name uid) {q : ObjectPath} {u : Int32}
    (hlook : look d' q = some (some key, u)) : q = p := by
  by_contra hq
  exact hq (ha.alone q u (ha.same q hq ▸ hlook))

/-- What has another CommandKey afterwards had it before. -/
theorem Arms.look_of_ne (ha : Arms d d' p key name uid) {q : ObjectPath} {k : String} {u : Int32}
    (hk : k ≠ key) (hlook : look d' q = some (some k, u)) : look d q = some (some k, u) := by
  rw [← ha.same q ?_, hlook]
  rintro rfl
  exact hk (ha.key_of_look hlook)

/-- The time-out of another transfer is another timer. -/
theorem Arms.timedOut_kept (ha : Arms d d' p key name uid) {q : ObjectPath} (hq : q ≠ p)
    {k : String} {u : Int32} (hlook : look d q = some (some k, u))
    (hk : d.timers.handlerOf k = some .transferTimedOut) :
    d'.timers.handlerOf k = some .transferTimedOut := by
  obtain ⟨t, ht, hkeyOf⟩ := Option.map_eq_some_iff.mp hlook
  have hn := ha.ne_of_other hq (Or.inr ⟨hk, t, ht, congrArg Prod.fst hkeyOf⟩)
  rw [ha.handlerOf hn.1, if_neg hn.2, hk]

/-- And so is the timer under its path. -/
theorem Arms.path_kept (ha : Arms d d' p key name uid) {q : ObjectPath} (hq : q ≠ p)
    {h : TimerHandler} (hh : h = .restartTransfer ∨ h = .transferCompleteEvent)
    (hn : d.timers.handlerOf q.1 = some h) : d'.timers.handlerOf q.1 = some h := by
  have hname := ha.ne_of_other hq (Or.inl ⟨rfl, by rcases hh with rfl | rfl <;> simp [hn]⟩)
  rw [ha.handlerOf hname.1, if_neg hname.2, hn]

/-- A timer that is under a path afterwards is so as before. -/
theorem Arms.pathOf (hi : Inv d true used) (ha : Arms d d' p key name uid) {n : String}
    {h : TimerHandler} (hh : h = .restartTransfer ∨ h = .transferCompleteEvent) (hk : n ≠ key)
    (hn : d'.timers.handlerOf n = some h) : ∃ q, PathOf d' n q := by
  obtain ⟨hnn, hold⟩ := ha.handlerOf_ne hk hn
  obtain ⟨q, rfl, hnot, ⟨k, u, hlook, hkn⟩, honly⟩ := hi.path hh hold
  have hqp : q ≠ p := by
    rintro rfl
    rcases ha.own with ⟨-, -, hnone⟩ | ⟨hname, -⟩
    · rw [hnone] at hlook
      cases hlook
    · exact hnn hname.symm
  have hkeep : k ≠ key := by
    rintro rfl
    exact hqp (ha.alone q u hlook)
  refine ⟨q, rfl, ha.reportedPaths_eq ▸ hnot, ⟨k, u, (ha.same q hqp).trans hlook, fun hne => ?_⟩,
    fun r u' hr => honly r u' (ha.look_of_ne hk hr)⟩
  rw [ha.handlerOf hkeep]
  split
  · rfl
  · exact hkn hne

/-- Every timer is in its place, and so is the new one. -/
theorem Arms.placed (hi : Inv d true used) (ha : Arms d d' p key name uid) {n : String}
    {h : TimerHandler} (hn : d'.timers.handlerOf n = some h) : Placed d' n h := by
  by_cases hk : n = key
  · subst hk
    obtain rfl := Option.some.inj (ha.handlerOf_key.symm.trans hn)
    exact ⟨p, uid, ha.entry, ha.reportedPaths_eq ▸ ha.fresh⟩
  have hplaced := hi.timers n h (ha.handlerOf_ne hk hn).2
  cases h with
  | transferTimedOut =>
    obtain ⟨q, u, hlook, hnot⟩ := hplaced
    have hqp : q ≠ p := by
      rintro rfl
      exact hk (ha.key_of_old hlook)
    exact ⟨q, u, (ha.same q hqp).trans hlook, ha.reportedPaths_eq ▸ hnot⟩
  | restartTransfer => exact ha.pathOf hi (Or.inl rfl) hk hn
  | transferCompleteEvent => exact ha.pathOf hi (Or.inr rfl) hk hn
  | daemon => exact fun q u hlook => ha.reportedPaths_eq ▸ hplaced q u (ha.look_of_ne hk hlook)

/-- **Arming a time-out keeps the invariant.** -/
theorem Arms.inv (hi : Inv d true used) (ha : Arms d d' p key name uid)
    (hused : ∀ q ∈ used, q ∈ used') (hp : p ∈ used') : Inv d' true used' := by
  have hreported := ha.reportedPaths_eq
  have hkey := ha.handlerOf_key
  refine ⟨fun q x hq => ?_, fun q r k u v hq hr => ?_, fun q x hq => ?_, ?_, fun q hq => ?_, ?_, ?_,
    fun x hx => ?_, fun n h hn => ha.placed hi hn, fun _ q k u hlook hq => ?_,
    fun hstop => by cases hstop⟩
  · by_cases hqp : q = p
    · subst hqp
      rw [ha.entry] at hq
      exact ⟨key, (Option.some.inj hq) ▸ rfl, ha.key_ne⟩
    · exact hi.commandKey q x (ha.same q hqp ▸ hq)
  · by_cases hk : k = key
    · subst hk
      exact (ha.alone_after hq).trans (ha.alone_after hr).symm
    · exact hi.distinct q r k u v (ha.look_of_ne hk hq) (ha.look_of_ne hk hr)
  · by_cases hqp : q = p
    · exact hqp ▸ hp
    · exact hused q (hi.given q x (ha.same q hqp ▸ hq))
  · exact hreported ▸ hi.once
  · exact hused q (hi.reportedUsed q (hreported ▸ hq))
  · intro n i hn hne
    by_cases hk : n = key
    · obtain ⟨j, hj, -, hj'⟩ := ha.armed
      rw [hk, hj] at hn
      exact Option.some.inj hn ▸ hj'
    · rw [ha.timers n hk] at hn
      split at hn
      · cases hn
      · exact hi.oneShot n i hn hne
  · rw [ha.subs, List.map_append]
    refine List.nodup_append.mpr ⟨hi.subsNodup, List.nodup_singleton _, fun a hmem b hb => ?_⟩
    obtain rfl := List.mem_singleton.mp hb
    rintro rfl
    exact ha.freshUid hmem
  · rw [ha.subs] at hx
    rcases List.mem_append.mp hx with hx | hx
    · obtain ⟨k, hlook, hk, hnot⟩ := hi.subs x hx
      have hxp : x.2 ≠ p := by
        intro hxp
        rw [hxp] at hlook
        obtain rfl := ha.key_of_old hlook
        exact absurd (ha.free hk).2.2 (by decide)
      exact ⟨k, (ha.same _ hxp).trans hlook, ha.timedOut_kept hxp hlook hk, hreported ▸ hnot⟩
    · obtain rfl := List.mem_singleton.mp hx
      exact ⟨key, ha.entry, hkey, hreported ▸ ha.fresh⟩
  · by_cases hqp : q = p
    · subst hqp
      obtain rfl := ha.key_of_look hlook
      exact Or.inl hkey
    · rw [ha.same q hqp] at hlook
      rcases hi.pending rfl q k u hlook (hreported ▸ hq) with hk | hk | hk
      · exact Or.inl (ha.timedOut_kept hqp hlook hk)
      · exact Or.inr (Or.inl (ha.path_kept hqp (Or.inl rfl) hk))
      · exact Or.inr (Or.inr (ha.path_kept hqp (Or.inr rfl) hk))

end Arms

/-! ### The other steps -/

section Others

variable {d d' : TimedTransfers} {running : Bool} {used : List ObjectPath}

/-- What a restart of the daemon leaves. -/
theorem Inv.stop (hi : Inv d running used) :
    Inv ⟨d.acsTransfers, [], TimerList.empty, []⟩ false used := by
  have hempty : ∀ n, (TimerList.empty : TimerList TimerHandler).handlerOf n = none := by
    intro n
    rw [TimerList.handlerOf, TimerList.timerFind_empty, Option.map_none]
  refine ⟨hi.commandKey, hi.distinct, hi.given, List.nodup_nil, fun q hq => absurd hq
    List.not_mem_nil, fun n i hn => ?_, List.nodup_nil, fun x hx => absurd hx List.not_mem_nil,
    fun n h hn => ?_, fun hrun => absurd hrun Bool.false_ne_true,
    fun _ => ⟨rfl, rfl, fun n h hn => ?_⟩⟩
  · rw [TimerList.timerFind_empty] at hn
    cases hn
  · rw [hempty] at hn
    cases hn
  · rw [hempty] at hn
    cases hn

end Others

section Start

variable {d d' : TimedTransfers} {used : List ObjectPath} {amxcTsParse : String → ℤ}
  {now : ObjectPath → ℤ} {bus : StartAnswers} {e : ObjectPath × AcsTransfer}

theorem look_of_mem (he : e ∈ d.acsTransfers.entries) : look d e.1 = some (keyOf e.2) := by
  rw [look, Table.find_eq_some.mpr he, Option.map_some]

/-- Before the daemon has read the transfers, none has been reported. -/
theorem Inv.reportedPaths_eq_nil (hi : Inv d false used) : reportedPaths d = [] := by
  rw [reportedPaths, (hi.stopped rfl).2.1, List.map_nil]

/-- No transfer has the name of a timer of the daemon. -/
theorem Inv.free_of_look (hi : Inv d false used) {p : ObjectPath} {k : String} {u : Int32}
    (hlook : look d p = some (some k, u)) : d.timers.handlerOf k = none := by
  refine Option.eq_none_iff_forall_ne_some.mpr fun h hh => ?_
  obtain rfl := (hi.stopped rfl).2.2 k h hh
  have hmem := hi.timers k _ hh p u hlook
  rw [hi.reportedPaths_eq_nil] at hmem
  exact absurd hmem List.not_mem_nil

/-- A timer of a transfer is one that a transfer is for, -/
theorem exists_startupTimer (hin : TimedTransfers.Initialized amxcTsParse now d d')
    (hstart : d.Starting) {n : String} {h : TimerHandler} (hh : h ≠ .daemon)
    (hn : d'.timers.handlerOf n = some h) :
    ∃ e ∈ d.acsTransfers.entries, TimedTransfers.startupTimer amxcTsParse now e = some (n, h) := by
  obtain ⟨-, -, pre, e, post, hsplit, he, -⟩ := hin.claimed hstart hh hn
  exact ⟨e, hsplit ▸ List.mem_append_right _ List.mem_cons_self, he⟩

/-- and one of the daemon was there before. -/
theorem handlerOf_of_daemon (hin : TimedTransfers.Initialized amxcTsParse now d d') {n : String}
    (hn : d'.timers.handlerOf n = some .daemon) : d.timers.handlerOf n ≠ none := by
  intro hold
  rw [hin.handlerOf, hold, Option.none_or] at hn
  obtain ⟨-, pre, b, post, -, hb, -⟩ := TimedTransfers.claim_eq_some.mp hn
  exact TimedTransfers.startupTimer_ne_daemon hb

/-- The timer under the path of a transfer has its place. -/
theorem pathOf_of_startupTimer (hi : Inv d false used) (hu : Undisputed amxcTsParse now d bus)
    (hin : TimedTransfers.Initialized amxcTsParse now d d') (hpaths : reportedPaths d' = [])
    (he : e ∈ d.acsTransfers.entries) {h : TimerHandler}
    (hx : TimedTransfers.startupTimer amxcTsParse now e = some (e.1.1, h)) :
    PathOf d' e.1.1 e.1 := by
  have hsame : ∀ q, look d' q = look d q := hin.keeps.table.find
  refine ⟨rfl, hpaths ▸ List.not_mem_nil, ?_, fun q u hq => ?_⟩
  · obtain ⟨k, hk, -⟩ := hi.commandKey _ _ (look_of_mem he)
    have hk : e.2.commandKey = some k := hk
    have hlook : look d e.1 = some (some k, e.2.subscriptionId) := by
      rw [look_of_mem he, keyOf, hk]
    refine ⟨k, e.2.subscriptionId, (hsame _).trans hlook, fun hne => ?_⟩
    -- under the CommandKey there is neither a timer of the daemon nor that of another transfer
    refine Option.eq_none_iff_forall_ne_some.mpr fun h' hh' => ?_
    by_cases hdaemon : h' = .daemon
    · subst hdaemon
      exact handlerOf_of_daemon hin hh' (hi.free_of_look hlook)
    · obtain ⟨b, hb, hbx⟩ := exists_startupTimer hin (hi.stopped rfl).2.2 hdaemon hh'
      have hne' : e ≠ b := by
        rintro rfl
        rw [hx] at hbx
        exact hne (congrArg Prod.fst (Option.some.inj hbx)).symm
      exact hu.commandKey e he b hb hne' _ hbx hk
  · rw [hsame] at hq
    obtain ⟨t, ht, hkeyOf⟩ := Option.map_eq_some_iff.mp hq
    by_contra hqe
    have hne : (q, t) ≠ e := fun hc => hqe (congrArg Prod.fst hc)
    exact hu.commandKey (q, t) (Table.find_eq_some.mp ht) e he hne _ hx (congrArg Prod.fst hkeyOf)

/-- Every timer has its place when the transfers have been read. -/
theorem placed_of_started (hi : Inv d false used) (hu : Undisputed amxcTsParse now d bus)
    (hin : TimedTransfers.Initialized amxcTsParse now d d') (hpaths : reportedPaths d' = [])
    {n : String} {h : TimerHandler} (hn : d'.timers.handlerOf n = some h) : Placed d' n h := by
  have hsame : ∀ q, look d' q = look d q := hin.keeps.table.find
  have hstart := (hi.stopped rfl).2.2
  cases h with
  | daemon =>
    intro p u hlook
    rw [hsame] at hlook
    exact absurd (hi.free_of_look hlook) (handlerOf_of_daemon hin hn)
  | transferTimedOut =>
    obtain ⟨e, he, hx⟩ := exists_startupTimer hin hstart (by decide) hn
    obtain ⟨-, hkey, -⟩ := TimedTransfers.startupTimer_timedOut_iff.mp hx
    refine ⟨e.1, e.2.subscriptionId, ?_, hpaths ▸ List.not_mem_nil⟩
    rw [hsame, look_of_mem he, keyOf, hkey]
  | restartTransfer =>
    obtain ⟨e, he, hx⟩ := exists_startupTimer hin hstart (by decide) hn
    obtain ⟨-, rfl, -⟩ := TimedTransfers.startupTimer_restart_iff.mp hx
    exact ⟨e.1, pathOf_of_startupTimer hi hu hin hpaths he hx⟩
  | transferCompleteEvent =>
    obtain ⟨e, he, hx⟩ := exists_startupTimer hin hstart (by decide) hn
    obtain ⟨rfl, -⟩ := TimedTransfers.startupTimer_complete_iff.mp hx
    exact ⟨e.1, pathOf_of_startupTimer hi hu hin hpaths he hx⟩

/-- Something is pending for every transfer that has been read. -/
theorem pending_of_started (hu : Undisputed amxcTsParse now d bus)
    (hin : TimedTransfers.Initialized amxcTsParse now d d') {q : ObjectPath} {k : String}
    {u : Int32} (hlook : look d q = some (some k, u)) :
    d'.timers.handlerOf k = some .transferTimedOut ∨
      d'.timers.handlerOf q.1 = some .restartTransfer ∨
      d'.timers.handlerOf q.1 = some .transferCompleteEvent := by
  obtain ⟨t, ht, hkeyOf⟩ := Option.map_eq_some_iff.mp hlook
  have he := Table.find_eq_some.mp ht
  obtain ⟨pre, post, hsplit⟩ := List.append_of_mem he
  obtain ⟨x, hx, hne, hxfree, -⟩ := hu.recoverable.handled _ he (hu.status _ he)
  have hown : d'.timers.handlerOf x.1 = some x.2 := by
    rw [hin.handlerOf, hxfree, Option.none_or, hsplit]
    exact TimedTransfers.claim_own (hsplit ▸ hu.recoverable.apart) hx hne
  obtain ⟨m, h⟩ := x
  cases h with
  | transferTimedOut =>
    obtain ⟨-, hkey, -⟩ := TimedTransfers.startupTimer_timedOut_iff.mp hx
    have hkey' : t.commandKey = some k := congrArg Prod.fst hkeyOf
    obtain rfl := Option.some.inj (hkey.symm.trans hkey')
    exact Or.inl hown
  | restartTransfer =>
    obtain ⟨-, rfl, -⟩ := TimedTransfers.startupTimer_restart_iff.mp hx
    exact Or.inr (Or.inl hown)
  | transferCompleteEvent =>
    obtain ⟨rfl, -⟩ := TimedTransfers.startupTimer_complete_iff.mp hx
    exact Or.inr (Or.inr hown)
  | daemon => exact absurd hx TimedTransfers.startupTimer_ne_daemon

/-- **Reading the transfers establishes what is pending.** -/
theorem Inv.start (hi : Inv d false used) {ret : Bool} (hu : Undisputed amxcTsParse now d bus)
    (hd : d.upDownloadInitialize amxcTsParse now bus = some (ret, d')) : Inv d' true used := by
  obtain ⟨-, hreported, hstart⟩ := hi.stopped rfl
  have hin := TimedTransfers.initialized hstart hu.getAll hd
  have hsame : ∀ q, look d' q = look d q := hin.keeps.table.find
  have hsubs' : d'.transferSubsList = [] := hin.keeps.subs
  have hpaths' : reportedPaths d' = [] := by
    rw [reportedPaths, hin.keeps.reported, hreported, List.map_nil]
  refine ⟨fun q x => hsame q ▸ hi.commandKey q x,
    fun q r k u v => hsame q ▸ hsame r ▸ hi.distinct q r k u v, fun q x => hsame q ▸ hi.given q x,
    hpaths' ▸ List.nodup_nil, fun q hq => ?_, hin.oneShot, ?_, fun x hx => ?_,
    fun n h hn => placed_of_started hi hu hin hpaths' hn,
    fun _ q k u hlook _ => pending_of_started hu hin (hsame q ▸ hlook),
    fun hstop => by cases hstop⟩
  · rw [hpaths'] at hq
    exact absurd hq List.not_mem_nil
  · rw [hsubs']
    exact List.nodup_nil
  · rw [hsubs'] at hx
    exact absurd hx List.not_mem_nil

end Start

/-! ### What the invariant says -/

section Sound

variable {dateStringToTime : Option String → ℤ} {d : TimedTransfers} {running : Bool}
  {used : List ObjectPath} {p : ObjectPath} {key : String} {uid : Int32}

theorem look_of_find {t : AcsTransfer} (ht : d.acsTransfers.find p = some t) :
    look d p = some (t.commandKey, t.subscriptionId) := by
  rw [look, ht, Option.map_some, keyOf]

theorem exists_of_look (hlook : look d p = some (some key, uid)) :
    ∃ t, d.acsTransfers.find p = some t ∧ t.commandKey = some key ∧ t.subscriptionId = uid := by
  obtain ⟨t, ht, hkeyOf⟩ := Option.map_eq_some_iff.mp hlook
  exact ⟨t, ht, congrArg Prod.fst hkeyOf, congrArg Prod.snd hkeyOf⟩

/-- A time-out finds the transfer whose CommandKey it has. -/
theorem Inv.first (hi : Inv d running used) (hlook : look d p = some (some key, uid)) :
    ∃ t, d.acsTransfers.first (fun t => t.commandKey = some key) = some (p, t) ∧
      t.subscriptionId = uid := by
  obtain ⟨t, ht, hkey, huid⟩ := exists_of_look hlook
  obtain ⟨⟨q, u⟩, hfirst⟩ : ∃ e, d.acsTransfers.first (fun t => t.commandKey = some key) = some e :=
    Table.exists_first ht (decide_eq_true hkey)
  obtain ⟨hfind, hq⟩ := Table.find_of_first hfirst
  have hqkey : look d q = some (some key, u.subscriptionId) := by
    rw [look_of_find hfind, of_decide_eq_true hq]
  obtain rfl := hi.distinct q p key _ _ hqkey hlook
  obtain rfl := Option.some.inj (hfind.symm.trans ht)
  exact ⟨u, hfirst, huid⟩

end Sound

end TransferSystem

end Tr069
