import Tr069Manager.ScheduleDownload.Isolation

/-!
# What happens to the windows of a transfer

Only the two timer callbacks write the status of a window. Everything else that
handles a transfer keeps the windows as they are, but for what it stores in them and
for timers it arms – and it arms the start timer of an Idle window only, and the end
timer of a window that has not ended. `Tr069.View.Step.windows` says so for every
step: a timer of one window fires, or every window is kept.
-/

namespace Tr069

open Runs Tagged

/-! ### The timers of a window that has changed -/

namespace TimeWindow

variable {w : TimeWindow}

theorem not_startPending_started : ¬(w.startTimerOff.withStatus .started).StartPending := by
  rintro ⟨info, ms, hpriv, hstart⟩
  obtain ⟨info', -, rfl⟩ := Option.map_eq_some_iff.mp hpriv
  obtain ⟨t, -, ht⟩ := Option.map_eq_some_iff.mp hstart
  cases ht

theorem not_endPending_ended : ¬(w.stopTimerOff.withStatus .ended).EndPending := by
  rintro ⟨info, ms, hpriv, hstop⟩
  obtain ⟨info', -, rfl⟩ := Option.map_eq_some_iff.mp hpriv
  obtain ⟨t, -, ht⟩ := Option.map_eq_some_iff.mp hstop
  cases ht

theorem startPending_of_ended (h : (w.stopTimerOff.withStatus .ended).StartPending) :
    w.StartPending := by
  obtain ⟨info, ms, hpriv, hstart⟩ := h
  obtain ⟨info', hpriv', rfl⟩ := Option.map_eq_some_iff.mp hpriv
  exact ⟨info', ms, hpriv', hstart⟩

end TimeWindow

/-! ### Windows that are kept -/

/-- From `w` to `w'` the status stays, and a timer that runs then has been running or is
one that may be armed. -/
structure TimeWindow.Kept (w w' : TimeWindow) : Prop where
  status : w'.status = w.status
  start : w'.StartPending → w.StartPending ∨ w.status = .idle
  stop : w'.EndPending → w.EndPending ∨ w.status ≠ .ended

namespace TimeWindow.Kept

theorem refl (w : TimeWindow) : w.Kept w := ⟨rfl, Or.inl, Or.inl⟩

theorem trans {w w' w'' : TimeWindow} (h : w.Kept w') (h' : w'.Kept w'') : w.Kept w'' := by
  refine ⟨h'.status.trans h.status, fun hp => ?_, fun hp => ?_⟩
  · rcases h'.start hp with hp | hst
    · exact h.start hp
    · exact Or.inr (h.status ▸ hst)
  · rcases h'.stop hp with hp | hst
    · exact h.stop hp
    · exact Or.inr (h.status ▸ hst)

/-- A change of what is stored in the window. -/
theorem of_priv {w w' : TimeWindow} (hst : w'.status = w.status) (hp : w'.priv = w.priv) :
    w.Kept w' := by
  refine ⟨hst, ?_, ?_⟩
  · rintro ⟨info, ms, hpriv, hstart⟩
    exact Or.inl ⟨info, ms, hp ▸ hpriv, hstart⟩
  · rintro ⟨info, ms, hpriv, hstop⟩
    exact Or.inl ⟨info, ms, hp ▸ hpriv, hstop⟩

theorem addInfo (w : TimeWindow) : w.Kept (timewindowInternalAddInfo w) := by
  unfold timewindowInternalAddInfo
  split
  · exact refl w
  · split <;> exact ⟨rfl, by rintro ⟨_, _, ⟨rfl⟩, ⟨⟩⟩, by rintro ⟨_, _, ⟨rfl⟩, ⟨⟩⟩⟩

theorem internalStart (w : TimeWindow) : w.Kept (timewindowInternalStart w) := by
  unfold timewindowInternalStart
  split
  · exact refl w
  · next info hpriv =>
    split
    · next hst => exact ⟨rfl, fun _ => Or.inr hst, fun _ => Or.inr (by rw [hst]; nofun)⟩
    · next hst =>
      refine ⟨rfl, ?_, fun _ => Or.inr (by rw [hst]; nofun)⟩
      rintro ⟨_, ms, ⟨rfl⟩, hstart⟩
      exact Or.inl ⟨info, ms, hpriv, hstart⟩
    · exact refl w

theorem internalSave (w : TimeWindow) : w.Kept (timewindowInternalSave w) := by
  unfold timewindowInternalSave
  split
  · exact refl w
  · split
    · exact of_priv rfl rfl
    · exact of_priv rfl rfl
    · exact refl w

theorem elapse (ms : ℕ) (w : TimeWindow) : w.Kept (w.elapse ms) := by
  have hrunning : ∀ (o : Option Timer) (n : ℕ), o.map (Timer.elapse ms) = some (.running n) →
      ∃ m, o = some (.running m) := by
    intro o n h
    rcases o with _ | _ | m
    · cases h
    · cases h
    · exact ⟨m, rfl⟩
  refine ⟨rfl, ?_, ?_⟩
  · rintro ⟨info, n, hpriv, hstart⟩
    obtain ⟨info', hpriv', rfl⟩ := Option.map_eq_some_iff.mp hpriv
    obtain ⟨m, hm⟩ := hrunning _ _ hstart
    exact Or.inl ⟨info', m, hpriv', hm⟩
  · rintro ⟨info, n, hpriv, hstop⟩
    obtain ⟨info', hpriv', rfl⟩ := Option.map_eq_some_iff.mp hpriv
    obtain ⟨m, hm⟩ := hrunning _ _ hstop
    exact Or.inl ⟨info', m, hpriv', hm⟩

theorem reload (w : TimeWindow) : w.Kept w.reload :=
  ⟨rfl, by rintro ⟨_, _, ⟨⟩, _⟩, by rintro ⟨_, _, ⟨⟩, _⟩⟩

end TimeWindow.Kept

namespace TimeWindowList

/-- The status of window `k`. -/
def statusOf (l : TimeWindowList) (k : ℕ) : Option TimewindowStatus :=
  (l.find k).map TimeWindow.status

/-- Every window of the list is kept. -/
structure Kept (l l' : TimeWindowList) : Prop where
  status : ∀ k, l'.statusOf k = l.statusOf k
  window : ∀ k w w', l.find k = some w → l'.find k = some w' → w.Kept w'

variable {l l' l'' : TimeWindowList} {f : TimeWindow → TimeWindow} {k : ℕ}

theorem Kept.refl (l : TimeWindowList) : l.Kept l := by
  refine ⟨fun _ => rfl, fun k w w' hw hw' => ?_⟩
  obtain rfl : w = w' := Option.some.inj (hw.symm.trans hw')
  exact TimeWindow.Kept.refl w

theorem Kept.trans (h : l.Kept l') (h' : l'.Kept l'') : l.Kept l'' := by
  refine ⟨fun k => (h'.status k).trans (h.status k), fun k w w'' hw hw'' => ?_⟩
  have hst := h.status k
  rw [statusOf, statusOf, hw] at hst
  obtain ⟨w', hw', -⟩ := Option.map_eq_some_iff.mp hst
  exact (h.window k w w' hw hw').trans (h'.window k w' w'' hw' hw'')

/-- A window that was kept was there before. -/
theorem Kept.exists_kept (h : l.Kept l') {w' : TimeWindow} (hw' : l'.find k = some w') :
    ∃ w, l.find k = some w ∧ w.Kept w' := by
  have hst := h.status k
  rw [statusOf, hw'] at hst
  obtain ⟨w, hw, -⟩ := Option.map_eq_some_iff.mp hst.symm
  exact ⟨w, hw, h.window k w w' hw hw'⟩

theorem kept_map (hf : ∀ w : TimeWindow, w.Kept (f w)) : l.Kept (l.map f) := by
  constructor
  · intro k
    rw [statusOf, statusOf, find_map, Option.map_map]
    exact congrArg (fun g => (l.find k).map g) (funext fun w => (hf w).status)
  · intro k w w' hw hw'
    rw [find_map, hw] at hw'
    cases hw'
    exact hf w

theorem kept_modify (hf : ∀ w : TimeWindow, w.Kept (f w)) : l.Kept (l.modify k f) := by
  constructor
  · intro j
    rw [statusOf, statusOf, find_modify]
    split
    · rw [Option.map_map]
      exact congrArg (fun g => (l.find j).map g) (funext fun w => (hf w).status)
    · rfl
  · intro j w w' hw hw'
    rw [find_modify, hw] at hw'
    split at hw'
    · cases hw'
      exact hf w
    · cases hw'
      exact TimeWindow.Kept.refl w

/-- The status of the windows after one of them has changed. -/
theorem statusOf_modify (st : TimewindowStatus) (hf : ∀ w, (f w).status = st) (j : ℕ) :
    (l.modify k f).statusOf j = if j = k then (l.statusOf j).map fun _ => st else l.statusOf j := by
  rw [statusOf, find_modify]
  split
  · rw [statusOf, Option.map_map, Option.map_map]
    exact congrArg (fun g => (l.find j).map g) (funext hf)
  · rfl

/-- A window is given the status it has. -/
theorem statusOf_modify_self {st : TimewindowStatus} {w : TimeWindow} (hw : l.find k = some w)
    (hst : w.status = st) (hf : ∀ w, (f w).status = st) (j : ℕ) :
    (l.modify k f).statusOf j = l.statusOf j := by
  rw [statusOf_modify st hf]
  split
  · next hj => rw [hj, statusOf, hw, Option.map_some, Option.map_some, hst]
  · rfl

end TimeWindowList

/-! ### Handlers that keep the windows -/

/-- The call is the callback of a window timer. -/
def Call.isTimerCb : Call → Bool
  | .startTimerCb _ => true
  | .endTimerCb _ => true
  | _ => false

/-- The event is one of a window. -/
def DmEvent.isWindow : DmEvent → Bool
  | .timewindowStarted _ => true
  | .timewindowEnded _ => true
  | _ => false

/-- A handler that keeps the windows, runs no callback and queues no event of a
window. -/
structure Ctx.KeepsWindows (c c' : Ctx) : Prop where
  windows : c.obj.timeWindowList.Kept c'.obj.timeWindowList
  calls : c'.calls.filter Call.isTimerCb = c.calls.filter Call.isTimerCb
  emitted : c'.emitted.filter DmEvent.isWindow = c.emitted.filter DmEvent.isWindow

namespace Ctx.KeepsWindows

variable {c c' c'' : Ctx}

theorem refl (c : Ctx) : c.KeepsWindows c := ⟨.refl _, rfl, rfl⟩

theorem trans (h : c.KeepsWindows c') (h' : c'.KeepsWindows c'') : c.KeepsWindows c'' :=
  ⟨h.windows.trans h'.windows, h'.calls.trans h.calls, h'.emitted.trans h.emitted⟩

theorem start (h : StartOutcome c c') : c.KeepsWindows c' := by
  cases h with
  | unsupported _ => exact ⟨.refl _, by simp [Call.isTimerCb], rfl⟩
  | running _ _ => exact ⟨.refl _, by simp [Call.isTimerCb], rfl⟩
  | failed _ hcalls =>
    refine ⟨.refl _, ?_, by simp [DmEvent.isWindow]⟩
    rcases hcalls with rfl | ⟨-, ret, -, rfl⟩
    · simp [Call.isTimerCb]
    · simp [Call.isTimerCb]

theorem transferDone (c : Ctx) : c.KeepsWindows (transfersTransferDone c) := by
  by_cases h : c.obj.fileType = ""
  · rw [transfersTransferDone_of_empty h]
    exact refl c
  · rw [transfersTransferDone_of_ne h]
    exact ⟨.refl _, rfl, rfl⟩

theorem upgrade {fc : ℕ} {fs : String} (h : UpgradeOutcome c fc fs c') : c.KeepsWindows c' := by
  cases h with
  | ignored _ => exact refl c
  | failed _ _ =>
    refine ⟨.refl _, rfl, ?_⟩
    unfold failedEvent
    split
    · simp [DmEvent.isWindow]
    · rw [List.append_nil]
  | done _ _ =>
    have h := transferDone { c with
      obj := c.obj.withResult c.obj.transferComplete.status fc fs }
    exact ⟨h.windows, h.calls, h.emitted⟩

theorem handle {ret : ℤ} (h : HandleOutcome c ret c') : c.KeepsWindows c' := by
  cases h with
  | unchanged _ => exact refl c
  | start _ _ => exact start (transfersStartTransfer_outcome c ret)
  | gaveUp _ _ =>
    have h := transferDone { c with
      obj := c.obj.withResult c.obj.transferComplete.status faultCodeInternalError
        "TimeWindow(s) ended" }
    exact ⟨h.windows, h.calls, h.emitted⟩

theorem setMaxretries (c : Ctx) (k : ℕ) (value : Int32) :
    c.KeepsWindows (transfersTimewindowSetMaxretries c k value) :=
  ⟨TimeWindowList.kept_modify fun _ => .of_priv rfl rfl, rfl, rfl⟩

theorem failed {ret : ℤ} (h : FailedOutcome c ret c') : c.KeepsWindows c' := by
  cases h with
  | ignored _ => exact refl c
  | exhausted _ _ _ => exact transferDone c
  | @retried info w _ _ =>
    exact (setMaxretries c info.lastTimeWindow (w.maxRetries - 1)).trans
      (start (transfersStartTransfer_outcome _ ret))

theorem addInfo (c : Ctx) : c.KeepsWindows (transfersTransferAddInfo c) := by
  unfold transfersTransferAddInfo
  split
  · exact refl c
  · exact ⟨TimeWindowList.kept_map TimeWindow.Kept.addInfo, rfl, rfl⟩

theorem timewindowStart (c : Ctx) : c.KeepsWindows (transfersTimewindowStart c) :=
  ⟨TimeWindowList.kept_map TimeWindow.Kept.internalStart, rfl, rfl⟩

theorem handleDmEvent (ret : ℤ) (ev : DmEvent) (c : Ctx) :
    c.KeepsWindows (handleDmEvent ret ev c) := by
  cases ev with
  | scheduleDownloadAdded => exact (addInfo c).trans (timewindowStart _)
  | timewindowStarted k =>
    rcases timewindowStarted_cases c k ret with ⟨-, h⟩ | ⟨info, -, h⟩
    · exact (congrArg c.KeepsWindows h).mpr (refl c)
    · have h := handle h
      exact ⟨h.windows, h.calls, h.emitted⟩
  | timewindowEnded k =>
    rcases timewindowEnded_cases c ret with ⟨-, h⟩ | ⟨info, -, h⟩
    · exact (congrArg c.KeepsWindows h).mpr (refl c)
    · have h := handle h
      exact ⟨h.windows, h.calls, h.emitted⟩
  | scheduleDownloadTransferFailed => exact failed (scheduleDownloadTransferFailed_outcome c ret)

theorem deferredInit (status : Option String) (c : Ctx) :
    c.KeepsWindows (deferredInit status c) := by
  refine (addInfo c).trans (trans ?_ (timewindowStart _))
  rcases transfersHandleInProgressTransfer_cases (transfersTransferAddInfo c) status with
    hsame | ⟨-, -, hup⟩
  · rw [hsame]
    exact refl _
  · exact upgrade hup

theorem firmwareimageFailure (log : String) (c : Ctx) :
    c.KeepsWindows (firmwareimageFailure log c) := by
  have h := upgrade (transfersFirmwareupgradeDone_outcome c (firmwareFaultCode log) log)
  exact ⟨h.windows, h.calls, h.emitted⟩

end Ctx.KeepsWindows

/-! ### What a step does to the windows -/

namespace View

/-- What a step takes from the queue of the instance. -/
def Act.rest : Act → List DmEvent → List DmEvent
  | .dispatch _ _, pending => pending.tail
  | .restart, _ => []
  | _, pending => pending

/-- A step that keeps the windows. -/
structure KeepsWindows (v : View) (a : Act) (v' : View) : Prop where
  windows : v.obj.timeWindowList.Kept v'.obj.timeWindowList
  calls : v'.calls.filter Call.isTimerCb = v.calls.filter Call.isTimerCb
  pending : v'.pending.filter DmEvent.isWindow = (a.rest v.pending).filter DmEvent.isWindow

/-- **What a step does to the windows**: one of the two timers of a window fires, or
every window is kept. -/
inductive WindowStep (i : ℕ) (v : View) : Act → View → Prop where
  | start {k : ℕ} {w : TimeWindow} (hboot : v.booting = false)
      (hw : v.obj.timeWindowList.find k = some w) (htimer : w.StartPending) :
      WindowStep i v (.startTimer k)
        { v with
          obj := { v.obj with
            timeWindowList := v.obj.timeWindowList.modify k fun w =>
              w.startTimerOff.withStatus .started }
          pending := v.pending ++ timewindowStatusEvent k w.status .started
          calls := v.calls ++ [.startTimerCb k] }
  | stop {k : ℕ} {w : TimeWindow} (hboot : v.booting = false)
      (hw : v.obj.timeWindowList.find k = some w) (htimer : w.EndPending) :
      WindowStep i v (.endTimer k)
        { v with
          obj := { v.obj with
            timeWindowList := v.obj.timeWindowList.modify k fun w =>
              w.stopTimerOff.withStatus .ended }
          pending := v.pending ++ timewindowStatusEvent k w.status .ended
          calls := v.calls ++ [.endTimerCb k] }
  | kept {a : Act} {v' : View} (h : KeepsWindows v a v') : WindowStep i v a v'

variable {i : ℕ} {v v' : View} {a : Act}

/-- Committing a handler that keeps the windows. -/
theorem keepsWindows_commit {c' : Ctx} {pending : List DmEvent}
    (h : (v.ctx i).KeepsWindows c') (hpending : pending = a.rest v.pending) :
    KeepsWindows v a ({ v with pending := pending }.commit c') := by
  subst hpending
  refine ⟨h.windows, ?_, ?_⟩
  · rw [commit, List.filter_append, h.calls]
    exact List.append_nil _
  · rw [commit, List.filter_append, h.emitted]
    exact List.append_nil _

theorem Step.windows (h : Step i v a v') : WindowStep i v a v' := by
  cases h with
  | other _ => exact .kept ⟨.refl _, rfl, rfl⟩
  | @startTimer k w hboot hw htimer =>
    have hstep := WindowStep.start (i := i) hboot hw htimer
    have hw' : (v.ctx i).obj.timeWindowList.find k = some w := hw
    rw [timewindowStartTimerCb_eq hw']
    exact hstep
  | @endTimer k w hboot hw htimer =>
    have hstep := WindowStep.stop (i := i) hboot hw htimer
    have hw' : (v.ctx i).obj.timeWindowList.find k = some w := hw
    rw [timewindowEndTimerCb_eq hw']
    exact hstep
  | elapse ms => exact .kept ⟨TimeWindowList.kept_map (.elapse ms), rfl, rfl⟩
  | save _ => exact .kept ⟨TimeWindowList.kept_map .internalSave, rfl, rfl⟩
  | @dispatch ev rest ret hpending =>
    refine .kept (keepsWindows_commit (.handleDmEvent ret ev _) ?_)
    rw [hpending]
    rfl
  | failure _ => exact .kept (keepsWindows_commit (.firmwareimageFailure _ _) rfl)
  | @deferredInit status lock lock' _ _ _ =>
    have hkept := Ctx.KeepsWindows.deferredInit status ((v.withLock lock).ctx i)
    have hcommit := keepsWindows_commit (a := .deferredInit status) (v := v.withLock lock) hkept rfl
    exact .kept ⟨hcommit.windows, hcommit.calls, hcommit.pending⟩
  | restart => exact .kept ⟨TimeWindowList.kept_map .reload, rfl, rfl⟩

/-- Without a timer firing every window is kept. -/
theorem Step.keepsWindows (h : Step i v a v') (hstart : ∀ k, a ≠ .startTimer k)
    (hend : ∀ k, a ≠ .endTimer k) : KeepsWindows v a v' := by
  cases h.windows with
  | start _ _ _ => exact absurd rfl (hstart _)
  | stop _ _ _ => exact absurd rfl (hend _)
  | kept hk => exact hk

end View

/-! ### The windows of the plugin -/

namespace Plugin

/-- Window `k` of instance `i`. -/
def window (s : Plugin) (i k : ℕ) : Option TimeWindow :=
  (s.dm i).bind fun obj => obj.timeWindowList.find k

variable {s : Plugin} {i k : ℕ} {v : View}

theorem window_of_view (h : s.view i = some v) : s.window i k = v.obj.timeWindowList.find k := by
  obtain ⟨obj, hobj, rfl⟩ := exists_obj_of_view h
  rw [window, hobj, Option.bind_some]

/-- A window that is there belongs to an instance. -/
theorem exists_view_of_window {w : TimeWindow} (h : s.window i k = some w) :
    ∃ v, s.view i = some v ∧ v.obj.timeWindowList.find k = some w := by
  obtain ⟨obj, hobj, hw⟩ := Option.bind_eq_some_iff.mp h
  exact ⟨_, view_of_dm hobj, hw⟩

end Plugin

end Tr069
