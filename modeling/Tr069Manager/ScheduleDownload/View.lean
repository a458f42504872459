import Tr069Manager.Lib.Tagged
import Tr069Manager.ScheduleDownload.Outcomes

/-!
# One transfer among the others

`Tr069.View` is what the plugin is for one instance: its object, the lock, its
own events in the queue and its own calls on record, and whether the deferred
initialisation is still to run. `Tr069.View.Step` says everything that can happen
to it, and `Tr069.Plugin.view_step` that every step of the plugin is such a step
of each instance it does not delete: the transfers share one lock and one queue,
but a handler run for one of them moves no event of another, and takes or gives
back the lock only for itself.

An invariant of `View.Step` that holds of a new instance therefore holds of every
instance in every reachable state (`Tr069.view_invariant`).
-/

namespace Tr069

open Tagged Runs

/-! ### A handler stays with its transfer -/

/-- A run of a handler from `c` to `c'` concerns no transfer but its own, and what was
asked of that stays as it is. -/
structure Ctx.Own (c c' : Ctx) : Prop where
  index : c'.index = c.index
  request : c'.obj.request = c.obj.request
  lock : ∀ j, j ≠ c.index → (c'.transferInProgress = some j ↔ c.transferInProgress = some j)

namespace Ctx.Own

variable {c c' c'' : Ctx}

theorem of_eq (hi : c'.index = c.index) (hl : c'.transferInProgress = c.transferInProgress)
    (hr : c'.obj.request = c.obj.request) : c.Own c' :=
  ⟨hi, hr, fun j _ => by rw [hl]⟩

theorem refl (c : Ctx) : c.Own c := of_eq rfl rfl rfl

theorem trans (h : c.Own c') (h' : c'.Own c'') : c.Own c'' where
  index := h'.index.trans h.index
  request := h'.request.trans h.request
  lock j hj := (h'.lock j (h.index ▸ hj)).trans (h.lock j hj)

/-- A handler that starts from a context with the same index, lock and request. -/
theorem of_left (h : c'.Own c'') (hi : c'.index = c.index)
    (hl : c'.transferInProgress = c.transferInProgress)
    (hr : c'.obj.request = c.obj.request) : c.Own c'' :=
  trans (of_eq hi hl hr) h

theorem start (h : StartOutcome c c') : c.Own c' := by
  cases h with
  | unsupported => exact of_eq rfl rfl rfl
  | running _ hlock =>
    refine ⟨rfl, rfl, fun j hj => ?_⟩
    simp [hlock, hj.symm]
  | failed => exact of_eq rfl rfl rfl

theorem transferDone (c : Ctx) : c.Own (transfersTransferDone c) := by
  by_cases h : c.obj.fileType = ""
  · rw [transfersTransferDone_of_empty h]
    exact refl c
  · rw [transfersTransferDone_of_ne h]
    exact ⟨rfl, rfl, fun j hj => c.released_ne hj⟩

theorem upgrade {fc : ℕ} {fs : String} (h : UpgradeOutcome c fc fs c') : c.Own c' := by
  cases h with
  | ignored => exact refl c
  | failed => exact of_eq rfl rfl rfl
  | done => exact (transferDone _).of_left rfl rfl rfl

theorem handle {ret : ℤ} (h : HandleOutcome c ret c') : c.Own c' := by
  cases h with
  | unchanged => exact refl c
  | start _ _ => exact start (transfersStartTransfer_outcome c ret)
  | gaveUp => exact (transferDone _).of_left rfl rfl rfl

/-- A change of one window that keeps its mode. -/
theorem modify (c : Ctx) (k : ℕ) (f : TimeWindow → TimeWindow)
    (hf : ∀ w, (f w).windowMode = w.windowMode) (emitted : List DmEvent) (calls : List Call) :
    c.Own { c with
      obj := { c.obj with timeWindowList := c.obj.timeWindowList.modify k f }
      emitted := emitted
      calls := calls } := by
  refine of_eq rfl rfl ?_
  rw [ScheduleDownload.request, ScheduleDownload.request, TimeWindowList.modes_modify hf]

/-- A change of every window that keeps the modes. -/
theorem map (c : Ctx) (f : TimeWindow → TimeWindow) (hf : ∀ w, (f w).windowMode = w.windowMode)
    (priv : Option TransferInfo) :
    c.Own { c with
      obj := { c.obj with timeWindowList := c.obj.timeWindowList.map f, priv := priv } } := by
  refine of_eq rfl rfl ?_
  rw [ScheduleDownload.request, ScheduleDownload.request, TimeWindowList.modes_map hf]

theorem setMaxretries (c : Ctx) (k : ℕ) (value : Int32) :
    c.Own (transfersTimewindowSetMaxretries c k value) :=
  modify c k (fun w => { w with maxRetries := value }) (fun _ => rfl) _ _

theorem failed {ret : ℤ} (h : FailedOutcome c ret c') : c.Own c' := by
  cases h with
  | ignored => exact refl c
  | exhausted => exact transferDone c
  | @retried info w _ _ =>
    exact trans (setMaxretries c info.lastTimeWindow (w.maxRetries - 1))
      (start (transfersStartTransfer_outcome _ ret))

theorem timewindowSetStatus (c : Ctx) (k : ℕ) (st : TimewindowStatus) :
    c.Own (timewindowSetStatus c k st) := by
  unfold Tr069.timewindowSetStatus
  split
  · exact refl c
  · exact modify c k (fun w => w.withStatus st) (fun _ => rfl) _ _

theorem startTimerCb (c : Ctx) (k : ℕ) : c.Own (timewindowStartTimerCb c k) :=
  trans (modify c k TimeWindow.startTimerOff (fun _ => rfl) _ _) (timewindowSetStatus _ k .started)

theorem endTimerCb (c : Ctx) (k : ℕ) : c.Own (timewindowEndTimerCb c k) :=
  trans (modify c k TimeWindow.stopTimerOff (fun _ => rfl) _ _) (timewindowSetStatus _ k .ended)

theorem addInfo (c : Ctx) : c.Own (transfersTransferAddInfo c) := by
  unfold transfersTransferAddInfo
  split
  · exact refl c
  · exact map c _ windowMode_timewindowInternalAddInfo _

theorem timewindowStart (c : Ctx) : c.Own (transfersTimewindowStart c) :=
  map c _ windowMode_timewindowInternalStart c.obj.priv

theorem timewindowSave (c : Ctx) : c.Own (transfersTimewindowSave c) :=
  map c _ windowMode_timewindowInternalSave c.obj.priv

theorem handleDmEvent (ret : ℤ) (ev : DmEvent) (c : Ctx) : c.Own (handleDmEvent ret ev c) := by
  cases ev with
  | scheduleDownloadAdded => exact trans (addInfo c) (timewindowStart _)
  | timewindowStarted k =>
    rcases timewindowStarted_cases c k ret with ⟨-, h⟩ | ⟨info, -, h⟩
    · exact (congrArg c.Own h).mpr (refl c)
    · exact (handle h).of_left rfl rfl rfl
  | timewindowEnded k =>
    rcases timewindowEnded_cases c ret with ⟨-, h⟩ | ⟨info, -, h⟩
    · exact (congrArg c.Own h).mpr (refl c)
    · exact (handle h).of_left rfl rfl rfl
  | scheduleDownloadTransferFailed => exact failed (scheduleDownloadTransferFailed_outcome c ret)

theorem inProgress (status : Option String) (c : Ctx) :
    c.Own (transfersHandleInProgressTransfer c status) := by
  rcases transfersHandleInProgressTransfer_cases c status with h | ⟨-, -, h⟩
  · rw [h]
    exact refl c
  · exact upgrade h

theorem deferredInit (status : Option String) (c : Ctx) : c.Own (deferredInit status c) :=
  trans (addInfo c) (trans (inProgress status _) (timewindowStart _))

theorem firmwareimageFailure (log : String) {c : Ctx} (h : c.Mine) :
    c.Own (firmwareimageFailure log c) := by
  have hup := upgrade (transfersFirmwareupgradeDone_outcome c (firmwareFaultCode log) log)
  refine ⟨hup.index, hup.request, fun j hj => ?_⟩
  rw [Ctx.Mine] at h
  simp [Tr069.firmwareimageFailure, h, hj.symm]

end Ctx.Own

/-! ### The view of an instance -/

/-- What the plugin is for one instance. -/
structure View where
  obj : ScheduleDownload
  lock : Option ℕ
  pending : List DmEvent
  calls : List Call
  booting : Bool

/-- The view of instance `i`, if it exists. -/
def Plugin.view (s : Plugin) (i : ℕ) : Option View :=
  (s.dm i).map fun obj =>
    ⟨obj, s.transferInProgress, own i s.queue, own i s.calls, s.deferredInitTimer⟩

namespace View

/-- What a handler working on the instance starts from. -/
def ctx (v : View) (i : ℕ) : Ctx := ⟨i, v.obj, v.lock, [], []⟩

/-- The view after a handler has run. -/
def commit (v : View) (c : Ctx) : View :=
  { v with
    obj := c.obj
    lock := c.transferInProgress
    pending := v.pending ++ c.emitted
    calls := v.calls ++ c.calls }

/-- The view with the lock elsewhere. -/
def withLock (v : View) (lock : Option ℕ) : View := { v with lock := lock }

/-- The view of an instance `addScheduleDownload` has just added. -/
def Fresh (i : ℕ) (v : View) : Prop :=
  ∃ args l, timeWindowListOfArgs args.timeWindowList = some l ∧
    v.obj = scheduleDownloadOfArgs args l ∧ v.lock ≠ some i ∧
    v.pending = [.scheduleDownloadAdded] ∧ v.calls = []

/-- What happens to an instance in a step of the plugin. -/
inductive Act where
  | other
  | startTimer (k : ℕ)
  | endTimer (k : ℕ)
  | elapse (ms : ℕ)
  | save
  | dispatch (ev : DmEvent) (ret : ℤ)
  | failure (bootFailureLog : String)
  | deferredInit (status : Option String)
  | restart

/-- **Everything that can happen to instance `i`**. -/
inductive Step (i : ℕ) : View → Act → View → Prop where
  /-- The step concerns other instances, and may move the lock among them. -/
  | other {v : View} {lock : Option ℕ} (hlock : v.lock = some i ↔ lock = some i) :
      Step i v .other (v.withLock lock)
  /-- The start timer of window `k` fires. -/
  | startTimer {v : View} {k : ℕ} {w : TimeWindow} (hboot : v.booting = false)
      (hw : v.obj.timeWindowList.find k = some w) (htimer : w.StartPending) :
      Step i v (.startTimer k) (v.commit (timewindowStartTimerCb (v.ctx i) k))
  /-- The end timer of window `k` fires. -/
  | endTimer {v : View} {k : ℕ} {w : TimeWindow} (hboot : v.booting = false)
      (hw : v.obj.timeWindowList.find k = some w) (htimer : w.EndPending) :
      Step i v (.endTimer k) (v.commit (timewindowEndTimerCb (v.ctx i) k))
  /-- Time goes by. -/
  | elapse {v : View} (ms : ℕ) :
      Step i v (.elapse ms)
        { v with obj := { v.obj with
            timeWindowList := v.obj.timeWindowList.map (TimeWindow.elapse ms) } }
  /-- The time the timers have left is saved. -/
  | save {v : View} {lock : Option ℕ} (hlock : v.lock = some i ↔ lock = some i) :
      Step i v .save
        ({ v with obj := { v.obj with
            timeWindowList := v.obj.timeWindowList.map timewindowInternalSave } }.withLock lock)
  /-- The first of its events is handled. -/
  | dispatch {v : View} {ev : DmEvent} {rest : List DmEvent} {ret : ℤ}
      (hpending : v.pending = ev :: rest) :
      Step i v (.dispatch ev ret)
        ({ v with pending := rest }.commit (handleDmEvent ret ev (v.ctx i)))
  /-- The firmware image reports a failure while the instance holds the lock. -/
  | failure {v : View} {log : String} (hlock : v.lock = some i) :
      Step i v (.failure log) (v.commit (firmwareimageFailure log (v.ctx i)))
  /-- The deferred initialisation runs. -/
  | deferredInit {v : View} {status : Option String} {lock lock' : Option ℕ}
      (hboot : v.booting = true) (hlock : v.lock = some i ↔ lock = some i)
      (hlock' : (deferredInit status ((v.withLock lock).ctx i)).transferInProgress = some i ↔
        lock' = some i) :
      Step i v (.deferredInit status)
        { (v.withLock lock).commit (deferredInit status ((v.withLock lock).ctx i)) with
          lock := lock', booting := false }
  /-- The process restarts. -/
  | restart {v : View} : Step i v .restart ⟨v.obj.reload, none, [], v.calls, true⟩

/-- What was asked of the transfer stays as it is. -/
theorem Step.request {i : ℕ} {v v' : View} {a : Act} (h : Step i v a v') :
    v'.obj.request = v.obj.request := by
  cases h with
  | other _ => rfl
  | startTimer _ _ _ => exact (Ctx.Own.startTimerCb _ _).request
  | endTimer _ _ _ => exact (Ctx.Own.endTimerCb _ _).request
  | elapse ms =>
    exact (Ctx.Own.map (v.ctx i) (TimeWindow.elapse ms) (fun _ => rfl) v.obj.priv).request
  | save _ => exact (Ctx.Own.timewindowSave (v.ctx i)).request
  | dispatch _ => exact (Ctx.Own.handleDmEvent _ _ (v.ctx i)).request
  | failure hlock =>
    have hmine : (v.ctx i).Mine := hlock
    exact (Ctx.Own.firmwareimageFailure _ hmine).request
  | deferredInit _ _ _ => exact (Ctx.Own.deferredInit _ _).request
  | restart => exact (Ctx.Own.map (v.ctx i) TimeWindow.reload (fun _ => rfl) none).request

end View

end Tr069
