import Mathlib.Data.Int.Notation
import Mathlib.Logic.Function.Basic
import Tr069Manager.Lib.Runs
import Tr069Manager.Timers.NamedTimers

/-!
# The named timers as a map

What the rest of the daemon takes the named timers for is a map: a name has a time to wait, an
interval and a callback, those it was last started with, a timer without an interval is gone when
its callback runs, and no operation touches another name (`TimerMap`). Here the list of
`cwmpd_timer.c` runs next to that map, through any starts, stops, removals of all timers and
expiries. A callback runs in the middle of an expiry, but nothing is left to do when it returns:
what it starts and stops are the events that come next.

The list is the map as long as each start of a name that is there brings the callback and the
interval of the one that is there – these are not replaced –, the milliseconds told to the timer
library are those meant, and no timer expires that has neither a callback nor an interval, for it
is not removed (`AsTold`, `view_exec`). A step for which that is not so leads out of the map
(`view_step_iff`).
-/

namespace Tr069

variable {H : Type*}

/-- What can happen to the timers. A callback may be null. -/
inductive TimerEvent (H : Type*) where
  /-- `cwmp_timer_start` -/
  | start (name : Option String) (waitTime intervalTime : Int32) (handler : Option H)
  /-- `cwmp_timer_stop` -/
  | stop (name : Option String)
  /-- `cwmp_timer_remove_all` -/
  | removeAll
  /-- time goes by, in milliseconds -/
  | elapse (ms : ℕ)
  /-- the timer library finds the timer of a name expired -/
  | expire (name : String)

/-- What is seen of the timers from outside. -/
inductive TimerOutput (H : Type*) where
  /-- a start or a stop returned `cwmp_status_ok`, or not -/
  | returned (ok : Bool)
  /-- a callback ran for a name, which still had a timer, or not -/
  | called (handler : H) (name : String) (listed : Bool)
  deriving DecidableEq

/-! ### The source -/

/-- The list, and what the timer library has of each timer: how long it still waits, if it is
running. -/
structure TimerService (H : Type*) where
  list : TimerList (Option H)
  left : String → Option ℤ
  outputs : List (TimerOutput H)

namespace TimerService

/-- The daemon has just started. -/
def initial : TimerService H := ⟨TimerList.empty, fun _ => none, []⟩

/-- `cwmp_timer_start`, and `amxp_timer_start` in it. -/
def start (s : TimerService H) (name : Option String) (waitTime intervalTime : Int32)
    (handler : Option H) : TimerService H :=
  let r := s.list.cwmpTimerStart name waitTime intervalTime handler
  { list := r.1
    left := if r.2 then
        name.elim s.left fun name =>
          Function.update s.left name (some ((waitTime * 1000).toUInt32.toNat : ℤ))
      else s.left
    outputs := s.outputs ++ [.returned r.2] }

/-- `cwmp_timer_stop`: `timer_free` stops the timer of the item. -/
def stop (s : TimerService H) (name : Option String) : TimerService H :=
  let r := s.list.cwmpTimerStop name
  { list := r.1
    left := if r.2 then name.elim s.left fun name => Function.update s.left name none else s.left
    outputs := s.outputs ++ [.returned r.2] }

/-- `cwmp_timer_remove_all`. -/
def removeAll (s : TimerService H) : TimerService H :=
  { s with list := TimerList.empty, left := fun _ => none }

/-- The timer library starts a timer with an interval anew when it expires. -/
def rearmed (s : TimerService H) (item : TimerListItem (Option H)) : TimerService H :=
  { s with
    left := Function.update s.left item.name
      (if item.interval = 0 then none else some (item.interval.toNat : ℤ)) }

/-- `timer_timeout_handler`: without a callback it returns at once. -/
def timerTimeoutHandler (s : TimerService H) (item : TimerListItem (Option H)) :
    TimerService H :=
  match item.handler with
  | none => s
  | some handler =>
    let list := s.list.expired item
    { list := list
      left := if item.intervalTimer then s.left else Function.update s.left item.name none
      outputs := s.outputs ++ [.called handler item.name (list.timerFind item.name).isSome] }

/-- One event; only a timer that runs and whose time has come expires. -/
def step (s : TimerService H) : TimerEvent H → Option (TimerService H)
  | .start name waitTime intervalTime handler => some (s.start name waitTime intervalTime handler)
  | .stop name => some (s.stop name)
  | .removeAll => some s.removeAll
  | .elapse ms => some { s with left := fun name => (s.left name).map (· - (ms : ℤ)) }
  | .expire name =>
    match s.list.timerFind name, s.left name with
    | some item, some left =>
      if 0 < left then none else some ((s.rearmed item).timerTimeoutHandler item)
    | _, _ => none

end TimerService

/-! ### The map -/

/-- A timer of the map, in milliseconds: how long it still waits, if it is running, its interval,
which is 0 if it has none, and its callback. -/
structure TimerEntry (H : Type*) where
  left : Option ℤ
  interval : ℤ
  handler : Option H
  deriving DecidableEq

/-- The timers, by name. -/
structure TimerMap (H : Type*) where
  timers : String → Option (TimerEntry H)
  outputs : List (TimerOutput H)

namespace TimerMap

/-- No timers. -/
def initial : TimerMap H := ⟨fun _ => none, []⟩

/-- A start sets the timer of the name to what is given. -/
def start (m : TimerMap H) (name : Option String) (waitTime intervalTime : Int32)
    (handler : Option H) : TimerMap H :=
  match name with
  | none => { m with outputs := m.outputs ++ [.returned false] }
  | some name =>
    if name = "" then { m with outputs := m.outputs ++ [.returned false] }
    else
      { timers := Function.update m.timers name
          (some ⟨some (waitTime.toInt * 1000), intervalTime.toInt * 1000, handler⟩)
        outputs := m.outputs ++ [.returned true] }

/-- A stop takes the timer of the name out, if there is one. -/
def stop (m : TimerMap H) (name : Option String) : TimerMap H :=
  match name with
  | none => { m with outputs := m.outputs ++ [.returned false] }
  | some name =>
    { timers := Function.update m.timers name none
      outputs := m.outputs ++ [.returned (m.timers name).isSome] }

/-- A timer without an interval is taken out, one with an interval waits for it; then its callback
runs. -/
def expire (m : TimerMap H) (name : String) (e : TimerEntry H) : TimerMap H :=
  let timers := Function.update m.timers name
    (if e.interval = 0 then none else some { e with left := some e.interval })
  { timers := timers
    outputs := m.outputs ++
      (e.handler.map fun handler => .called handler name (timers name).isSome).toList }

/-- One event. -/
def step (m : TimerMap H) : TimerEvent H → Option (TimerMap H)
  | .start name waitTime intervalTime handler => some (m.start name waitTime intervalTime handler)
  | .stop name => some (m.stop name)
  | .removeAll => some { m with timers := fun _ => none }
  | .elapse ms => some { m with timers := fun name => (m.timers name).map fun e =>
      { e with left := e.left.map (· - (ms : ℤ)) } }
  | .expire name =>
    match m.timers name with
    | some e =>
      match e.left with
      | some left => if 0 < left then none else some (m.expire name e)
      | none => none
    | none => none

end TimerMap

/-- The list as a map. -/
def TimerService.view (s : TimerService H) : TimerMap H where
  timers name := (s.list.timerFind name).map fun item =>
    ⟨s.left name, (item.interval.toNat : ℤ), item.handler⟩
  outputs := s.outputs

/-! ### When the list is the map -/

/-- The milliseconds the timer library is told for a number of seconds are those seconds. -/
def Fits (seconds : Int32) : Prop :=
  ((seconds * 1000).toUInt32.toNat : ℤ) = seconds.toInt * 1000

instance (seconds : Int32) : Decidable (Fits seconds) := inferInstanceAs (Decidable (_ = _))

/-- **The condition**: a name that is there is started with the callback and the interval it has,
the milliseconds fit, and no timer expires that has neither a callback nor an interval. -/
def AsTold (s : TimerService H) : TimerEvent H → Prop
  | .start (some name) waitTime intervalTime handler =>
    name = "" ∨ Fits waitTime ∧ (s.list.timerFind name = none → Fits intervalTime) ∧
      ∀ item ∈ s.list.timerFind name,
        item.handler = handler ∧ (item.interval.toNat : ℤ) = intervalTime.toInt * 1000
  | .expire name =>
    ∀ item ∈ s.list.timerFind name, item.handler ≠ none ∨ item.intervalTimer = true
  | _ => True

instance [DecidableEq H] (s : TimerService H) (e : TimerEvent H) : Decidable (AsTold s e) :=
  match e with
  | .start (some _) _ _ _ => inferInstanceAs (Decidable (_ ∨ _ ∧ (_ → _) ∧ ∀ item ∈ _, _))
  | .expire _ => inferInstanceAs (Decidable (∀ item ∈ _, _))
  | .start none _ _ _ | .stop _ | .removeAll | .elapse _ => inferInstanceAs (Decidable True)

theorem TimerMap.eq_iff {m m' : TimerMap H} :
    m = m' ↔ (∀ n, m.timers n = m'.timers n) ∧ m.outputs = m'.outputs := by
  constructor
  · rintro rfl
    exact ⟨fun _ => rfl, rfl⟩
  · intro h
    cases m
    cases m'
    obtain ⟨htimers, rfl⟩ := h
    obtain rfl := funext htimers
    rfl

theorem newItem_interval {waitTime intervalTime : Int32} {handler : Option H} {name : String} :
    (TimerList.newItem name waitTime intervalTime handler).interval =
      (intervalTime * 1000).toUInt32 := by
  rw [TimerList.newItem]
  split
  · rfl
  · next h =>
    obtain rfl : intervalTime = 0 := not_not.mp h
    rfl

/-- The flag of a new item says whether it has an interval, if the milliseconds fit. -/
theorem newItem_flag {waitTime intervalTime : Int32} {handler : Option H} {name : String}
    (hfits : Fits intervalTime) :
    (TimerList.newItem name waitTime intervalTime handler).intervalTimer = true ↔
      (TimerList.newItem name waitTime intervalTime handler).interval ≠ 0 := by
  rw [newItem_interval, TimerList.newItem, decide_eq_true_eq]
  refine not_congr ⟨fun h => by rw [h]; rfl, fun h => ?_⟩
  rw [Fits, h, UInt32.toNat_zero] at hfits
  rw [← Int32.toInt_inj, Int32.toInt_zero]
  omega

/-- What is still there when a callback runs was there before. -/
theorem timerFind_of_expired {l : TimerList (Option H)} {item i : TimerListItem (Option H)}
    {n : String} (h : (l.expired item).timerFind n = some i) : l.timerFind n = some i := by
  rw [TimerList.expired] at h
  split at h
  · exact h
  · rw [TimerList.timerFind_timerRemove] at h
    split at h
    · cases h
    · exact h

namespace TimerService

variable {s t : TimerService H} {name n : String} {item : TimerListItem (Option H)}
  {waitTime intervalTime : Int32} {handler : Option H}

/-- What the map has under a name. -/
theorem view_timers : s.view.timers n = (s.list.timerFind n).map fun item =>
    ⟨s.left n, (item.interval.toNat : ℤ), item.handler⟩ := rfl

/-! ### Starts and stops -/

theorem start_emptyName :
    (s.start (some "") waitTime intervalTime handler).view =
      s.view.start (some "") waitTime intervalTime handler := by
  rw [start, TimerList.cwmpTimerStart, dif_pos rfl, TimerMap.start, if_pos rfl, if_neg (by simp)]
  rfl

/-- What a start makes of a name that is not empty. -/
theorem view_start (hname : name ≠ "") :
    (s.start (some name) waitTime intervalTime handler).view =
      { timers := Function.update s.view.timers name
          (some ⟨some ((waitTime * 1000).toUInt32.toNat : ℤ),
            ((s.list.timerFind name).elim (intervalTime * 1000).toUInt32 (·.interval)).toNat,
            (s.list.timerFind name).elim handler (·.handler)⟩)
        outputs := s.outputs ++ [.returned true] } := by
  have hreturned : (s.list.cwmpTimerStart (some name) waitTime intervalTime handler).2 = true := by
    rw [TimerList.cwmpTimerStart_snd, decide_eq_true hname]
  rw [TimerMap.eq_iff]
  refine ⟨fun n => ?_, ?_⟩
  · rw [view_timers, start]
    simp only [TimerList.timerFind_cwmpTimerStart hname]
    rw [if_pos hreturned, Option.elim_some]
    by_cases hn : n = name
    · subst hn
      rw [if_pos rfl, Function.update_self, Function.update_self, Option.map_some]
      rcases s.list.timerFind n with - | found
      · rw [Option.map_none, Option.getD_none, newItem_interval]
        rfl
      · rfl
    · rw [if_neg hn, Function.update_of_ne hn, Function.update_of_ne hn, view_timers]
  · show s.outputs ++ [TimerOutput.returned _] = _
    rw [hreturned]

/-- **A start does to the list what it does to the map** exactly if it is as told. -/
theorem view_start_iff :
    (s.start (some name) waitTime intervalTime handler).view =
        s.view.start (some name) waitTime intervalTime handler ↔
      AsTold s (.start (some name) waitTime intervalTime handler) := by
  by_cases hname : name = ""
  · subst hname
    exact iff_of_true start_emptyName (Or.inl rfl)
  rw [view_start hname, TimerMap.start, if_neg hname, TimerMap.eq_iff, AsTold,
    or_iff_right hname]
  have hentries : ∀ e e' : TimerEntry H,
      (∀ n, Function.update s.view.timers name (some e) n =
        Function.update s.view.timers name (some e') n) ↔ e = e' := by
    intro e e'
    constructor
    · intro h
      have hself := h name
      rw [Function.update_self, Function.update_self] at hself
      exact Option.some.inj hself
    · rintro rfl n
      rfl
  show (∀ n, Function.update s.view.timers name _ n = Function.update s.view.timers name _ n) ∧
    s.outputs ++ [TimerOutput.returned true] = s.outputs ++ [TimerOutput.returned true] ↔ _
  rw [hentries, and_iff_left rfl, TimerEntry.mk.injEq, Option.some.injEq, Fits]
  rcases s.list.timerFind name with - | found
  · refine and_congr_right fun _ => ?_
    simp [Fits]
  · refine and_congr_right fun _ => ?_
    simp [and_comm]

/-- A stop does to the list what it does to the map. -/
theorem view_stop : (s.stop (some name)).view = s.view.stop (some name) := by
  rw [TimerMap.eq_iff]
  refine ⟨fun n => ?_, ?_⟩
  · show ((s.list.cwmpTimerStop (some name)).1.timerFind n).map _ =
      Function.update s.view.timers name none n
    rw [TimerList.timerFind_cwmpTimerStop]
    by_cases hn : n = name
    · subst hn
      rw [if_pos rfl, Function.update_self, Option.map_none]
    · rw [if_neg hn, Function.update_of_ne hn, view_timers, stop]
      split
      · simp only [Option.elim_some, Function.update_of_ne hn]
      · rfl
  · show s.outputs ++ [TimerOutput.returned _] = s.outputs ++ [TimerOutput.returned _]
    rw [TimerList.cwmpTimerStop_snd, view_timers, Option.isSome_map]

/-! ### Expiries -/

/-- The map when the timer library has handled an expiry: the timer waits for its interval, or
does not run. -/
theorem view_rearmed (hitem : s.list.timerFind name = some item) :
    (s.rearmed item).view.timers = Function.update s.view.timers name
      (some ⟨if item.interval = 0 then none else some (item.interval.toNat : ℤ),
        (item.interval.toNat : ℤ), item.handler⟩) := by
  obtain ⟨-, rfl, -⟩ := TimerList.timerFind_eq_some.mp hitem
  funext n
  rw [view_timers, rearmed]
  by_cases hn : n = item.name
  · subst hn
    simp only [hitem, Function.update_self, Option.map_some]
  · simp only [Function.update_of_ne hn, view_timers]

/-- The map when the handler has handled the expiry of a timer with a callback: a timer without
an interval is gone. -/
theorem view_handled {h : H} (hhandler : item.handler = some h)
    (hitem : s.list.timerFind name = some item) :
    (s.timerTimeoutHandler item).view =
      let timers := if item.intervalTimer then s.view.timers
        else Function.update s.view.timers name none
      { timers := timers
        outputs := s.outputs ++ [.called h name (timers name).isSome] } := by
  obtain ⟨-, rfl, -⟩ := TimerList.timerFind_eq_some.mp hitem
  rw [timerTimeoutHandler, hhandler]
  by_cases hflag : item.intervalTimer = true
  · simp only [TimerList.expired, if_pos hflag, view_timers, Option.isSome_map]
    rfl
  · simp only [TimerList.expired, if_neg hflag, Function.update_self,
      TimerList.timerFind_timerRemove, if_pos, Option.isSome_none]
    rw [TimerMap.eq_iff]
    refine ⟨fun n => ?_, rfl⟩
    show ((s.list.timerRemove item.name).timerFind n).map _ =
      Function.update s.view.timers item.name none n
    rw [TimerList.timerFind_timerRemove]
    by_cases hn : n = item.name
    · subst hn
      rw [if_pos rfl, Function.update_self, Option.map_none]
    · simp only [if_neg hn, Function.update_of_ne hn, view_timers]

/-- **An expiry does to the list what it does to the map** exactly if there is something to do
with the timer. -/
theorem view_timeout_iff (hflag : item.intervalTimer = true ↔ item.interval ≠ 0)
    (hitem : s.list.timerFind name = some item) :
    ((s.rearmed item).timerTimeoutHandler item).view =
        s.view.expire name ⟨s.left name, (item.interval.toNat : ℤ), item.handler⟩ ↔
      (item.handler ≠ none ∨ item.intervalTimer = true) := by
  have hzero : ((item.interval.toNat : ℤ) = 0) ↔ item.interval = 0 := by
    rw [Int.natCast_eq_zero, ← UInt32.toNat_zero, UInt32.toNat_inj]
  rcases hhandler : item.handler with - | h
  · -- the handler returns at once, and removes nothing
    have hreturn : (s.rearmed item).timerTimeoutHandler item = s.rearmed item := by
      rw [timerTimeoutHandler, hhandler]
    rw [hreturn, or_iff_right (not_not_intro rfl), hflag, TimerMap.expire, TimerMap.eq_iff,
      view_rearmed hitem, hhandler]
    simp only [hzero]
    by_cases hinterval : item.interval = 0
    · refine iff_of_false (fun hsame => ?_) (not_not_intro hinterval)
      have hname := hsame.1 name
      rw [Function.update_self, Function.update_self, if_pos hinterval, if_pos hinterval] at hname
      exact Option.some_ne_none _ hname
    · rw [if_neg hinterval, if_neg hinterval]
      exact iff_of_true ⟨fun n => rfl, (List.append_nil _).symm⟩ hinterval
  · have hfound : (s.rearmed item).list.timerFind name = some item := hitem
    refine iff_of_true ?_ (Or.inl (Option.some_ne_none h))
    rw [view_handled hhandler hfound, view_rearmed hitem, TimerMap.expire, hhandler]
    by_cases hinterval : item.interval = 0
    · have hoff : ¬item.intervalTimer = true := fun hon => hflag.mp hon hinterval
      simp only [if_neg hoff, hinterval, Function.update_idem]
      rfl
    · simp only [if_pos (hflag.mpr hinterval), if_neg hinterval, hzero]
      rfl

/-! ### Runs -/

/-- The flag of an item says whether its timer has an interval. -/
def FlagsRight (s : TimerService H) : Prop :=
  ∀ name item, s.list.timerFind name = some item →
    (item.intervalTimer = true ↔ item.interval ≠ 0)

/-- What an expiry does, to the list and to the map, if the timer of the name is due. -/
theorem step_expire (hitem : s.list.timerFind name = some item) :
    s.step (.expire name) = (s.left name).bind (fun left =>
        if 0 < left then none else some ((s.rearmed item).timerTimeoutHandler item)) ∧
      s.view.step (.expire name) = (s.left name).bind fun left =>
        if 0 < left then none else
          some (s.view.expire name ⟨s.left name, (item.interval.toNat : ℤ), item.handler⟩) := by
  rw [step, TimerMap.step, view_timers, hitem]
  rcases s.left name with - | left <;> exact ⟨rfl, rfl⟩

/-- What is not possible for the list is not possible for the map. -/
theorem view_step_eq_none {e : TimerEvent H} (h : s.step e = none) : s.view.step e = none := by
  rcases e with _ | _ | _ | _ | name
  · cases h
  · cases h
  · cases h
  · cases h
  · rcases hitem : s.list.timerFind name with - | item
    · rw [TimerMap.step, view_timers, hitem]
      rfl
    · obtain ⟨hlist, hmap⟩ := step_expire hitem
      rw [hmap]
      rw [hlist] at h
      rcases hleft : s.left name with - | left
      · rfl
      · rw [hleft, Option.bind_some] at h
        rw [Option.bind_some]
        split at h
        · next hpos => rw [if_pos hpos]
        · cases h

/-- **One event**: it does to the list what it does to the map exactly if it is as told. -/
theorem view_step_iff (hflags : FlagsRight s) {e : TimerEvent H} (h : s.step e = some t) :
    s.view.step e = some t.view ↔ AsTold s e := by
  rcases e with ⟨- | name, waitTime, intervalTime, handler⟩ | ⟨- | name⟩ | - | ms | name
  · obtain rfl := Option.some.inj h
    exact iff_of_true rfl trivial
  · obtain rfl := Option.some.inj h
    rw [TimerMap.step, Option.some.injEq, eq_comm, view_start_iff]
  · obtain rfl := Option.some.inj h
    exact iff_of_true rfl trivial
  · obtain rfl := Option.some.inj h
    exact iff_of_true (congrArg some view_stop.symm) trivial
  · obtain rfl := Option.some.inj h
    refine iff_of_true (congrArg some (TimerMap.eq_iff.mpr ⟨fun n => ?_, rfl⟩)) trivial
    show none = ((TimerList.empty : TimerList (Option H)).timerFind n).map _
    rw [TimerList.timerFind_empty, Option.map_none]
  · obtain rfl := Option.some.inj h
    refine iff_of_true (congrArg some (TimerMap.eq_iff.mpr ⟨fun n => ?_, rfl⟩)) trivial
    show ((s.list.timerFind n).map _).map _ = (s.list.timerFind n).map _
    rw [Option.map_map]
    rfl
  · rcases hitem : s.list.timerFind name with - | item
    · rw [step, hitem] at h
      cases h
    · obtain ⟨hlist, hmap⟩ := step_expire hitem
      rw [hlist] at h
      obtain ⟨left, hleft, hdue⟩ := Option.bind_eq_some_iff.mp h
      split at hdue
      · cases hdue
      · next hpos =>
        obtain rfl := Option.some.inj hdue
        rw [hmap, hleft, Option.bind_some, if_neg hpos, Option.some.injEq, eq_comm, ← hleft,
          view_timeout_iff (hflags name item hitem) hitem, AsTold]
        constructor
        · intro hsome item' hitem'
          obtain rfl := Option.some.inj (hitem.symm.trans hitem')
          exact hsome
        · intro hsome
          exact hsome item hitem

/-- The flags stay right. -/
theorem FlagsRight.step (hflags : FlagsRight s) {e : TimerEvent H} (htold : AsTold s e)
    (h : s.step e = some t) : FlagsRight t := by
  rcases e with ⟨- | name, waitTime, intervalTime, handler⟩ | ⟨- | name⟩ | - | ms | name
  · obtain rfl := Option.some.inj h
    exact hflags
  · obtain rfl := Option.some.inj h
    by_cases hname : name = ""
    · subst hname
      intro n item hitem
      exact hflags n item (by rwa [start, TimerList.cwmpTimerStart_emptyName] at hitem)
    -- an item that is there keeps its flag, and a new one has the right one
    obtain ⟨-, hfits⟩ := htold.resolve_left hname
    intro n item hitem
    rw [start, TimerList.timerFind_cwmpTimerStart hname] at hitem
    split at hitem
    · obtain rfl := Option.some.inj hitem
      rcases hfind : s.list.timerFind name with - | found
      · exact newItem_flag (hfits.1 hfind)
      · exact hflags name found hfind
    · exact hflags n item hitem
  · obtain rfl := Option.some.inj h
    exact hflags
  · obtain rfl := Option.some.inj h
    intro n item hitem
    rw [stop, TimerList.timerFind_cwmpTimerStop] at hitem
    split at hitem
    · cases hitem
    · exact hflags n item hitem
  · obtain rfl := Option.some.inj h
    intro n item hitem
    rw [removeAll, TimerList.timerFind_empty] at hitem
    cases hitem
  · obtain rfl := Option.some.inj h
    exact hflags
  · rcases hfind : s.list.timerFind name with - | expiring
    · rw [TimerService.step, hfind] at h
      cases h
    · rw [(step_expire hfind).1] at h
      obtain ⟨left, -, hdue⟩ := Option.bind_eq_some_iff.mp h
      split at hdue
      · cases hdue
      · obtain rfl := Option.some.inj hdue
        -- an expiry adds no item and changes none
        intro n item hitem
        refine hflags n item ?_
        rw [timerTimeoutHandler] at hitem
        split at hitem
        · exact hitem
        · exact timerFind_of_expired hitem

/-- **The list is the map**: whatever is started and stopped, by callbacks as well, and whatever
expires, as long as every event is as told. -/
theorem view_exec {es : List (TimerEvent H)}
    (h : Runs.Meets TimerService.step AsTold TimerService.initial es) :
    (Runs.exec TimerService.step TimerService.initial es).map view =
      Runs.exec TimerMap.step TimerMap.initial es := by
  have hstart : FlagsRight (initial : TimerService H) := by
    intro n item hitem
    rw [initial, TimerList.timerFind_empty] at hitem
    cases hitem
  have hview : (initial : TimerService H).view = TimerMap.initial := by
    refine TimerMap.eq_iff.mpr ⟨fun n => ?_, rfl⟩
    show ((TimerList.empty : TimerList (Option H)).timerFind n).map _ = none
    rw [TimerList.timerFind_empty, Option.map_none]
  rw [← hview]
  refine Runs.exec_map (fun s e t hs he ht => FlagsRight.step hs he ht) (fun s e hs he => ?_)
    hstart h
  rcases hnext : s.step e with - | t
  · exact (view_step_eq_none hnext).symm
  · exact ((view_step_iff hs hnext).mpr he).symm

/-- **The named timers are a map** in every run whose events are as told, and no two of them have
one name. -/
theorem runs_as_map {es : List (TimerEvent H)}
    (h : Runs.Meets TimerService.step AsTold TimerService.initial es) :
    (Runs.exec TimerService.step TimerService.initial es).map view =
        Runs.exec TimerMap.step TimerMap.initial es ∧
      ∀ s, Runs.exec TimerService.step TimerService.initial es = some s →
        (s.list.items.map TimerListItem.name).Nodup :=
  ⟨view_exec h, fun s _ => s.list.nodup⟩

/-- A timer that expires and is started by its callback, with another one that has an interval. -/
theorem runs_as_map_restart :
    (Runs.exec TimerService.step TimerService.initial
        [.start (some "a") 1 0 (some true), .start (some "b") 1 3 (some false), .elapse 1000,
          .expire "a", .start (some "a") 2 0 (some false), .expire "b", .stop (some "b")]).map view =
      Runs.exec TimerMap.step TimerMap.initial
        [.start (some "a") 1 0 (some true), .start (some "b") 1 3 (some false), .elapse 1000,
          .expire "a", .start (some "a") 2 0 (some false), .expire "b", .stop (some "b")] :=
  (runs_as_map (Runs.meets_of_checks (g := fun s e => decide (AsTold s e))
    (fun _ _ h => of_decide_eq_true h) (by decide))).1

/-- A name that is started again keeps the callback it had. -/
theorem runs_not_as_map :
    (Runs.exec TimerService.step TimerService.initial
        [.start (some "a") 10 0 (some false), .start (some "a") 20 5 (some true)]).map view ≠
      Runs.exec TimerMap.step TimerMap.initial
        [.start (some "a") 10 0 (some false), .start (some "a") 20 5 (some true)] := by
  intro h
  have hhandler := congrArg (Option.map fun m => (m.timers "a").map (·.handler)) h
  revert hhandler
  decide

end TimerService

end Tr069
