import Tr069Manager.ScheduleDownload.DataModel

/-!
# The time windows of a transfer

`transfers_timewindow.c`: the two timers of a window, their callbacks, how they
are armed and how the time they have left is saved. A window that is Idle has
both timers, one that is Started only the timer of its end, one that has Ended
none; nothing else ever looks at the status before a callback writes it.
-/

namespace Tr069

/-- `transfers_timewindow_get_mode`. -/
def transfersTimewindowGetMode : Option TimeWindow → TimewindowMode
  | none => .undefined
  | some w =>
    if w.windowMode = "1 At Any Time" then .atAnyTime
    else if w.windowMode = "2 Immediately" then .immediately
    else if w.windowMode = "3 When Idle" then .whenIdle
    else if w.windowMode = "4 Confirmation Needed" then .confirmationNeeded
    else .undefined

/-- The test on the mode that `transfers.c` and `transfers_dm.c` make before they
act for a window. -/
def TimewindowMode.Supported (m : TimewindowMode) : Prop :=
  m = .immediately ∨ m = .atAnyTime

instance (m : TimewindowMode) : Decidable m.Supported := by
  unfold TimewindowMode.Supported
  infer_instance

/-- The event a write of `TimeWindowList.{k}.Status` queues, if the value is a new
one. -/
def timewindowStatusEvent (k : ℕ) (old new : TimewindowStatus) : List DmEvent :=
  if old = new then []
  else match new with
    | .idle => []
    | .started => [.timewindowStarted k]
    | .ended => [.timewindowEnded k]

/-- `timewindow_set_status`, on the window of index `k`. -/
def timewindowSetStatus (c : Ctx) (k : ℕ) (status : TimewindowStatus) : Ctx :=
  match c.obj.timeWindowList.find k with
  | none => c
  | some w =>
    { c with
      obj := { c.obj with
        timeWindowList := c.obj.timeWindowList.modify k fun w => w.withStatus status }
      emitted := c.emitted ++ timewindowStatusEvent k w.status status }

/-- `transfers_timewindow_set_maxretries`. -/
def transfersTimewindowSetMaxretries (c : Ctx) (k : ℕ) (value : Int32) : Ctx :=
  { c with
    obj := { c.obj with
      timeWindowList := c.obj.timeWindowList.modify k fun w => { w with maxRetries := value } } }

/-- `transfers_timewindow_get_maxretries`. -/
def transfersTimewindowGetMaxretries : Option TimeWindow → Int32
  | none => -1
  | some w => w.maxRetries

/-! ### The timer callbacks -/

/-- The window with its start timer off: an `amxp_timer_t` fires once. -/
def TimeWindow.startTimerOff (w : TimeWindow) : TimeWindow :=
  { w with priv := w.priv.map fun info => { info with start := info.start.map fun _ => .off } }

/-- The window with its end timer off. -/
def TimeWindow.stopTimerOff (w : TimeWindow) : TimeWindow :=
  { w with priv := w.priv.map fun info => { info with stop := info.stop.map fun _ => .off } }

/-- `timewindow_start_timer_cb`, when the start timer of window `k` fires. -/
def timewindowStartTimerCb (c : Ctx) (k : ℕ) : Ctx :=
  timewindowSetStatus
    { c with
      obj := { c.obj with
        timeWindowList := c.obj.timeWindowList.modify k TimeWindow.startTimerOff }
      calls := c.calls ++ [.startTimerCb k] }
    k .started

/-- `timewindow_end_timer_cb`, when the end timer of window `k` fires. -/
def timewindowEndTimerCb (c : Ctx) (k : ℕ) : Ctx :=
  timewindowSetStatus
    { c with
      obj := { c.obj with
        timeWindowList := c.obj.timeWindowList.modify k TimeWindow.stopTimerOff }
      calls := c.calls ++ [.endTimerCb k] }
    k .ended

theorem timewindowStartTimerCb_eq {c : Ctx} {k : ℕ} {w : TimeWindow}
    (hw : c.obj.timeWindowList.find k = some w) :
    timewindowStartTimerCb c k = { c with
      obj := { c.obj with
        timeWindowList := c.obj.timeWindowList.modify k fun w =>
          w.startTimerOff.withStatus .started }
      emitted := c.emitted ++ timewindowStatusEvent k w.status .started
      calls := c.calls ++ [.startTimerCb k] } := by
  unfold timewindowStartTimerCb timewindowSetStatus
  simp only [TimeWindowList.find_modify_self, hw, Option.map_some, TimeWindowList.modify_modify]
  rfl

theorem timewindowEndTimerCb_eq {c : Ctx} {k : ℕ} {w : TimeWindow}
    (hw : c.obj.timeWindowList.find k = some w) :
    timewindowEndTimerCb c k = { c with
      obj := { c.obj with
        timeWindowList := c.obj.timeWindowList.modify k fun w => w.stopTimerOff.withStatus .ended }
      emitted := c.emitted ++ timewindowStatusEvent k w.status .ended
      calls := c.calls ++ [.endTimerCb k] } := by
  unfold timewindowEndTimerCb timewindowSetStatus
  simp only [TimeWindowList.find_modify_self, hw, Option.map_some, TimeWindowList.modify_modify]
  rfl

/-! ### Adding the run-time part, arming and saving -/

/-- `timewindow_internal_add_info`. -/
def timewindowInternalAddInfo (w : TimeWindow) : TimeWindow :=
  match w.priv with
  | some _ => w
  | none =>
    match w.status with
    | .idle => { w with priv := some ⟨some .off, some .off⟩ }
    | .started => { w with priv := some ⟨none, some .off⟩ }
    | .ended => { w with priv := some ⟨none, none⟩ }

theorem windowMode_timewindowInternalAddInfo (w : TimeWindow) :
    (timewindowInternalAddInfo w).windowMode = w.windowMode := by
  unfold timewindowInternalAddInfo
  split
  · rfl
  · split <;> rfl

/-- `transfers_timewindow_add_info`. -/
def transfersTimewindowAddInfo (c : Ctx) : Ctx :=
  { c with obj := { c.obj with timeWindowList := c.obj.timeWindowList.map timewindowInternalAddInfo } }

/-- `timewindow_get_time_offset`: the seconds of the data model as the
milliseconds of a timer, a product of two 32-bit numbers. -/
def timewindowGetTimeOffset (value : UInt32) : UInt32 := value * 1000

/-- `amxp_timer_start`; a missing timer is left alone. -/
def amxpTimerStart (t : Option Timer) (ms : UInt32) : Option Timer :=
  t.map fun _ => .running ms.toNat

/-- `timewindow_internal_start`. -/
def timewindowInternalStart (w : TimeWindow) : TimeWindow :=
  match w.priv with
  | none => w
  | some info =>
    match w.status with
    | .idle =>
      { w with
        priv := some
          { start := amxpTimerStart info.start (timewindowGetTimeOffset w.windowStart)
            stop := amxpTimerStart info.stop (timewindowGetTimeOffset w.windowEnd) } }
    | .started =>
      { w with
        priv := some
          { info with stop := amxpTimerStart info.stop (timewindowGetTimeOffset w.windowEnd) } }
    | .ended => w

theorem windowMode_timewindowInternalStart (w : TimeWindow) :
    (timewindowInternalStart w).windowMode = w.windowMode := by
  unfold timewindowInternalStart
  split
  · rfl
  · split <;> rfl

/-- `transfers_timewindow_start`. -/
def transfersTimewindowStart (c : Ctx) : Ctx :=
  { c with obj := { c.obj with timeWindowList := c.obj.timeWindowList.map timewindowInternalStart } }

/-- The whole seconds a timer has left, as `timewindow_internal_save` stores
them. -/
def remainingSeconds (t : Option Timer) : UInt32 :=
  UInt32.ofNat ((t.getD .off).remainingTime / 1000)

/-- `timewindow_internal_save`. -/
def timewindowInternalSave (w : TimeWindow) : TimeWindow :=
  match w.priv with
  | none => w
  | some info =>
    match w.status with
    | .idle =>
      { w with windowStart := remainingSeconds info.start, windowEnd := remainingSeconds info.stop }
    | .started => { w with windowStart := 0, windowEnd := remainingSeconds info.stop }
    | .ended => w

theorem windowMode_timewindowInternalSave (w : TimeWindow) :
    (timewindowInternalSave w).windowMode = w.windowMode := by
  unfold timewindowInternalSave
  split
  · rfl
  · split <;> rfl

/-- `transfers_timewindow_save`. -/
def transfersTimewindowSave (c : Ctx) : Ctx :=
  { c with obj := { c.obj with timeWindowList := c.obj.timeWindowList.map timewindowInternalSave } }

/-- The timers of a window after some milliseconds have gone by. -/
def TimeWindow.elapse (ms : ℕ) (w : TimeWindow) : TimeWindow :=
  { w with priv := w.priv.map fun info =>
      ⟨info.start.map (Timer.elapse ms), info.stop.map (Timer.elapse ms)⟩ }

end Tr069
