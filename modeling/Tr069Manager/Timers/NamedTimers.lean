import Mathlib.Data.List.Nodup

/-!
# The named timers of the daemon

`cwmpd_timer.c`. All timers of the daemon are in one list, and are known by their names: the
name is what a timer is found, stopped and started anew by, and it is what the callback of a
timer is given. A second start of a name does not make a second timer, nor does it replace
the callback: it only starts the one that is there anew.

`timer_append` is reached when `timer_find` has found nothing, so that the names in the list
are distinct, and `TimerList` says so. A name that is null or empty is refused. The callbacks
are left open. The arithmetic is that of the machine: seconds are an `int`, and what the
timer library is told, in milliseconds, is an `unsigned int`.
-/

namespace Tr069

variable {H : Type*}

/-- `timer_list_item`: its name and callback, and what its timer has been told. -/
structure TimerListItem (H : Type*) where
  name : String
  handler : H
  intervalTimer : Bool
  interval : UInt32
  wait : UInt32

/-- `timer_list`. -/
structure TimerList (H : Type*) where
  items : List (TimerListItem H)
  nodup : (items.map TimerListItem.name).Nodup

namespace TimerList

/-- The list of a daemon that has just started. -/
def empty : TimerList H := ⟨[], List.nodup_nil⟩

/-- `timer_find`. -/
def timerFind (l : TimerList H) (name : String) : Option (TimerListItem H) :=
  if name = "" then none else l.items.find? (·.name = name)

/-- `timer_remove`. -/
def timerRemove (l : TimerList H) (name : String) : TimerList H where
  items := l.items.eraseP (·.name = name)
  nodup := l.nodup.sublist (List.eraseP_sublist.map _)

/-- `timer_append`, of an item whose name is not in the list. -/
def timerAppend (l : TimerList H) (item : TimerListItem H)
    (h : ∀ i ∈ l.items, i.name ≠ item.name) : TimerList H where
  items := l.items ++ [item]
  nodup := by
    rw [List.map_append, List.map_cons, List.map_nil]
    refine List.nodup_append.mpr ⟨l.nodup, List.nodup_singleton _, fun n hn m hm => ?_⟩
    obtain rfl := List.mem_singleton.mp hm
    obtain ⟨i, hi, rfl⟩ := List.mem_map.mp hn
    exact h i hi

/-- The timer of a name is stopped, and started with a new time to wait. -/
def restart (l : TimerList H) (name : String) (wait : UInt32) : TimerList H where
  items := l.items.map fun i => if i.name = name then { i with wait := wait } else i
  nodup := by
    have hnames : (l.items.map fun i => if i.name = name then { i with wait := wait } else i).map
        TimerListItem.name = l.items.map TimerListItem.name := by
      rw [List.map_map]
      refine List.map_congr_left fun i _ => ?_
      rw [Function.comp_apply]
      split <;> rfl
    exact hnames ▸ l.nodup

/-- The item `cwmp_timer_start` makes. -/
def newItem (name : String) (waitTime intervalTime : Int32) (handler : H) : TimerListItem H where
  name := name
  handler := handler
  intervalTimer := decide (intervalTime ≠ 0)
  interval := if intervalTime ≠ 0 then (intervalTime * 1000).toUInt32 else 0
  wait := (waitTime * 1000).toUInt32

theorem timerFind_eq_none {l : TimerList H} {name : String} (hname : name ≠ "")
    (h : l.timerFind name = none) : ∀ i ∈ l.items, i.name ≠ name := by
  intro i hi heq
  rw [timerFind, if_neg hname, List.find?_eq_none] at h
  exact h i hi (decide_eq_true heq)

/-- `cwmp_timer_start`; with the list it returns whether it has started a timer. -/
def cwmpTimerStart (l : TimerList H) (name : Option String) (waitTime intervalTime : Int32)
    (handler : H) : TimerList H × Bool :=
  match name with
  | none => (l, false)
  | some name =>
    if hname : name = "" then (l, false)
    else
      match h : l.timerFind name with
      | none =>
        (l.timerAppend (newItem name waitTime intervalTime handler) (timerFind_eq_none hname h),
          true)
      | some _ => (l.restart name (waitTime * 1000).toUInt32, true)

/-- `cwmp_timer_stop`; with the list it returns whether it has stopped a timer. -/
def cwmpTimerStop (l : TimerList H) (name : Option String) : TimerList H × Bool :=
  match name with
  | none => (l, false)
  | some name => if (l.timerFind name).isSome then (l.timerRemove name, true) else (l, false)

/-- The list that the callback of a timer finds, which `timer_timeout_handler` calls: a timer
without an interval has been removed. -/
def expired (l : TimerList H) (item : TimerListItem H) : TimerList H :=
  if item.intervalTimer then l else l.timerRemove item.name

/-! ### What is found under a name -/

variable {l : TimerList H} {name n : String} {i item : TimerListItem H}

/-- The timers are what is found under their names. -/
theorem timerFind_eq_some :
    l.timerFind name = some i ↔ i ∈ l.items ∧ i.name = name ∧ name ≠ "" := by
  rw [timerFind]
  constructor
  · intro h
    split at h
    · cases h
    · next hname =>
      exact ⟨List.mem_of_find?_eq_some h, by simpa using List.find?_some h, hname⟩
  · rintro ⟨hmem, rfl, hname⟩
    rw [if_neg hname]
    obtain ⟨j, hj⟩ := Option.isSome_iff_exists.mp
      (List.find?_isSome (p := fun j => decide (j.name = i.name)) |>.mpr ⟨i, hmem, by simp⟩)
    have hname' : j.name = i.name := by simpa using List.find?_some hj
    obtain rfl := List.inj_on_of_nodup_map l.nodup (List.mem_of_find?_eq_some hj) hmem hname'
    exact hj

@[simp] theorem timerFind_empty : (empty : TimerList H).timerFind n = none := by
  rw [timerFind]
  split <;> rfl

@[simp] theorem timerFind_emptyName : l.timerFind "" = none := if_pos rfl

theorem mem_timerRemove : i ∈ (l.timerRemove name).items ↔ i ∈ l.items ∧ i.name ≠ name := by
  rw [timerRemove]
  constructor
  · intro h
    refine ⟨List.mem_of_mem_eraseP h, fun hname => ?_⟩
    -- the one that was removed has the name as well
    obtain ⟨j, pre, post, -, hj, hsplit, herase⟩ :=
      List.exists_of_eraseP (p := fun i => decide (i.name = name)) (List.mem_of_mem_eraseP h)
        (decide_eq_true hname)
    have hnodup := l.nodup
    rw [hsplit, List.map_append, List.map_cons] at hnodup
    refine (List.nodup_cons.mp (List.nodup_middle.mp hnodup)).1 ?_
    rw [← List.map_append, of_decide_eq_true hj, ← hname]
    exact List.mem_map_of_mem (herase ▸ h)
  · rintro ⟨hmem, hname⟩
    exact (List.mem_eraseP_of_neg (by simpa using hname)).mpr hmem

theorem timerFind_timerRemove :
    (l.timerRemove name).timerFind n = if n = name then none else l.timerFind n := by
  refine Option.ext fun j => ?_
  rw [timerFind_eq_some, mem_timerRemove]
  split
  · next hn => exact ⟨fun h => absurd (h.2.1.trans hn) h.1.2, fun h => absurd h (by simp)⟩
  · next hn =>
    rw [timerFind_eq_some]
    exact ⟨fun h => ⟨h.1.1, h.2⟩, fun h => ⟨⟨h.1, fun hj => hn (h.2.1.symm.trans hj)⟩, h.2⟩⟩

/-- Stopping a name removes what is found under it, and nothing else. -/
theorem timerFind_cwmpTimerStop : ((l.cwmpTimerStop (some name)).1).timerFind n =
    if n = name then none else l.timerFind n := by
  rw [cwmpTimerStop]
  split
  · exact timerFind_timerRemove
  · next h =>
    split
    · next hn => exact hn ▸ Option.not_isSome_iff_eq_none.mp h
    · rfl

theorem timerFind_timerAppend {h : ∀ i ∈ l.items, i.name ≠ item.name} (hn : n ≠ "") :
    (l.timerAppend item h).timerFind n = if n = item.name then some item else l.timerFind n := by
  rw [timerFind, if_neg hn, timerAppend, List.find?_append]
  split
  · next heq =>
    subst heq
    have hnone : l.items.find? (·.name = item.name) = none :=
      List.find?_eq_none.mpr fun i hi => by simpa using h i hi
    rw [hnone, Option.none_or]
    exact List.find?_cons_of_pos (decide_eq_true rfl)
  · next hne =>
    rw [timerFind, if_neg hn]
    have hitem : ([item].find? (·.name = n)) = none := by simp [Ne.symm hne]
    rw [hitem, Option.or_none]

theorem timerFind_restart {wait : UInt32} : (l.restart name wait).timerFind n =
    (l.timerFind n).map fun i => if n = name then { i with wait := wait } else i := by
  refine Option.ext fun j => ?_
  rw [timerFind_eq_some, Option.map_eq_some_iff]
  constructor
  · rintro ⟨hmem, hj, hn⟩
    obtain ⟨i, hi, rfl⟩ := List.mem_map.mp hmem
    have hin : i.name = n := by
      rw [← hj]
      split <;> rfl
    refine ⟨i, timerFind_eq_some.mpr ⟨hi, hin, hn⟩, ?_⟩
    rw [hin]
  · rintro ⟨i, hi, rfl⟩
    obtain ⟨hmem, rfl, hn⟩ := timerFind_eq_some.mp hi
    refine ⟨List.mem_map.mpr ⟨i, hmem, rfl⟩, ?_, hn⟩
    split <;> rfl

/-- **What starting a name does**: other names are as they were, and under that name the
timer that was there waits anew, or there is a new one. -/
theorem timerFind_cwmpTimerStart {waitTime intervalTime : Int32} {handler : H}
    (hname : name ≠ "") :
    ((l.cwmpTimerStart (some name) waitTime intervalTime handler).1).timerFind n =
      if n = name then
        some (((l.timerFind name).map fun i =>
          { i with wait := (waitTime * 1000).toUInt32 }).getD
            (newItem name waitTime intervalTime handler))
      else l.timerFind n := by
  rw [cwmpTimerStart]
  rw [dif_neg hname]
  by_cases hn : n = ""
  · subst hn
    rw [timerFind_emptyName, if_neg (Ne.symm hname), timerFind_emptyName]
  split
  · next h =>
    rw [timerFind_timerAppend hn, h]
    rfl
  · next i h =>
    rw [timerFind_restart]
    split
    · next heq =>
      subst heq
      rw [h]
      rfl
    · exact Option.map_id'

theorem cwmpTimerStart_emptyName {waitTime intervalTime : Int32} {handler : H} :
    (l.cwmpTimerStart (some "") waitTime intervalTime handler).1 = l := by
  rw [cwmpTimerStart, dif_pos rfl]

/-- A name that is not empty is started. -/
theorem cwmpTimerStart_snd {waitTime intervalTime : Int32} {handler : H} :
    (l.cwmpTimerStart (some name) waitTime intervalTime handler).2 = decide (name ≠ "") := by
  by_cases hname : name = ""
  · subst hname
    rw [cwmpTimerStart, dif_pos rfl]
    rfl
  · rw [cwmpTimerStart, dif_neg hname, decide_eq_true hname]
    split <;> rfl

/-- A name that has a timer is stopped. -/
theorem cwmpTimerStop_snd : (l.cwmpTimerStop (some name)).2 = (l.timerFind name).isSome := by
  rw [cwmpTimerStop]
  split
  · next h => exact h.symm
  · next h => exact (Bool.not_eq_true _ ▸ h).symm

/-! ### The callback of a name -/

/-- The callback that runs when the timer of a name expires. -/
def handlerOf (l : TimerList H) (name : String) : Option H := (l.timerFind name).map (·.handler)

@[simp] theorem handlerOf_emptyName : l.handlerOf "" = none := by
  rw [handlerOf, timerFind_emptyName, Option.map_none]

/-- A name that is started keeps the callback it had. -/
theorem handlerOf_cwmpTimerStart {waitTime intervalTime : Int32} {handler : H} :
    ((l.cwmpTimerStart (some name) waitTime intervalTime handler).1).handlerOf n =
      if n = name ∧ name ≠ "" then (l.handlerOf name).or (some handler) else l.handlerOf n := by
  by_cases hname : name = ""
  · subst hname
    rw [cwmpTimerStart_emptyName, if_neg fun h => h.2 rfl]
  rw [handlerOf, timerFind_cwmpTimerStart hname]
  by_cases hn : n = name
  · rw [if_pos hn, if_pos ⟨hn, hname⟩, handlerOf]
    cases l.timerFind name <;> rfl
  · rw [if_neg hn, if_neg fun h => hn h.1, handlerOf]

end TimerList

end Tr069
