import Tr069Manager.ScheduleDownload.Windows

/-!
# The run-time state of a transfer

`transfer_info_t` is what the plugin keeps of a transfer in memory: how many windows it
has, which was opened last, and whether it is inside one. It follows the queued events –
a start sets it, an end clears the last part – and after a restart
`transfers_transfer_add_info` builds it anew from the status of the windows, where the
last window of the list that is not Idle decides.

Before it is built no timer of the transfer exists and no event of a window is queued
(`Tr069.View.Prepared`). With that, `Tr069.View.Prepared.info` says for every step what it does
to the run-time state, to the windows and to the events queued for them, and the
modules that compare the three are case analyses on it.
-/

namespace Tr069

open Runs Tagged

/-! ### How the run-time state moves -/

/-- What the handler of an event does to the run-time state. -/
def TransferInfo.handle (info : TransferInfo) : DmEvent → TransferInfo
  | .timewindowStarted k => info.opened k
  | .timewindowEnded _ => info.closed
  | _ => info

section Handlers

variable {c c' : Ctx}

theorem priv_of_start (h : StartOutcome c c') : c'.obj.priv = c.obj.priv := by
  cases h with
  | unsupported _ => rfl
  | running _ _ => rfl
  | failed _ _ => rfl

theorem priv_transferDone (c : Ctx) : (transfersTransferDone c).obj.priv = c.obj.priv := by
  by_cases h : c.obj.fileType = ""
  · rw [transfersTransferDone_of_empty h]
  · rw [transfersTransferDone_of_ne h]
    rfl

theorem priv_of_upgrade {fc : ℕ} {fs : String} (h : UpgradeOutcome c fc fs c') :
    c'.obj.priv = c.obj.priv := by
  cases h with
  | ignored _ => rfl
  | failed _ _ => rfl
  | done _ _ => exact priv_transferDone _

theorem priv_of_handle {ret : ℤ} (h : HandleOutcome c ret c') : c'.obj.priv = c.obj.priv := by
  cases h with
  | unchanged _ => rfl
  | start _ _ => exact priv_of_start (transfersStartTransfer_outcome c ret)
  | gaveUp _ _ => exact priv_transferDone _

theorem priv_of_failed {ret : ℤ} (h : FailedOutcome c ret c') : c'.obj.priv = c.obj.priv := by
  cases h with
  | ignored _ => rfl
  | exhausted _ _ _ => exact priv_transferDone _
  | @retried info w _ _ =>
    have h := priv_of_start (transfersStartTransfer_outcome
      (transfersTimewindowSetMaxretries c info.lastTimeWindow (w.maxRetries - 1)) ret)
    exact h

/-- Without the run-time state, what the firmware image reports is not heard. -/
theorem transfersFirmwareupgradeDone_of_none (hpriv : c.obj.priv = none) (fc : ℕ) (fs : String) :
    transfersFirmwareupgradeDone c fc fs = c := by
  rw [transfersFirmwareupgradeDone, hpriv]

/-- The run-time state once it has been added. -/
theorem priv_addInfo (c : Ctx) :
    (transfersTransferAddInfo c).obj.priv =
      some (c.obj.priv.getD (transferInfoOf c.obj.timeWindowList)) := by
  unfold transfersTransferAddInfo
  split
  · next info hpriv =>
    rw [hpriv]
    rfl
  · next hpriv =>
    rw [hpriv]
    rfl

theorem priv_deferredInit (status : Option String) (c : Ctx) :
    (deferredInit status c).obj.priv =
      some (c.obj.priv.getD (transferInfoOf c.obj.timeWindowList)) := by
  rw [← priv_addInfo c]
  rcases transfersHandleInProgressTransfer_cases (transfersTransferAddInfo c) status with
    hsame | ⟨-, -, hup⟩
  · have h := congrArg (fun c => c.obj.priv) hsame
    exact h
  · have h := priv_of_upgrade hup
    exact h

/-- Until the run-time state has been added, no event but the one that adds it does
anything. -/
theorem handleDmEvent_of_none {ev : DmEvent} (ret : ℤ) (hpriv : c.obj.priv = none)
    (hev : ev ≠ .scheduleDownloadAdded) : handleDmEvent ret ev c = c := by
  cases ev with
  | scheduleDownloadAdded => exact absurd rfl hev
  | timewindowStarted k => simp [handleDmEvent, timewindowStarted, hpriv]
  | timewindowEnded k => simp [handleDmEvent, timewindowEnded, hpriv]
  | scheduleDownloadTransferFailed =>
    simp [handleDmEvent, scheduleDownloadTransferFailed, hpriv]

theorem priv_handleDmEvent {info : TransferInfo} (ev : DmEvent) (ret : ℤ)
    (hpriv : c.obj.priv = some info) :
    (handleDmEvent ret ev c).obj.priv = some (info.handle ev) := by
  cases ev with
  | scheduleDownloadAdded =>
    have hadd := priv_addInfo c
    rw [hpriv] at hadd
    exact hadd
  | timewindowStarted k =>
    rcases timewindowStarted_cases c k ret with ⟨hnone, -⟩ | ⟨info', hinfo, h⟩
    · rw [hpriv] at hnone
      cases hnone
    · rw [hpriv] at hinfo
      cases hinfo
      exact priv_of_handle h
  | timewindowEnded k =>
    rcases timewindowEnded_cases c ret with ⟨hnone, -⟩ | ⟨info', hinfo, h⟩
    · rw [hpriv] at hnone
      cases hnone
    · rw [hpriv] at hinfo
      cases hinfo
      exact priv_of_handle h
  | scheduleDownloadTransferFailed =>
    have h := priv_of_failed (scheduleDownloadTransferFailed_outcome c ret)
    exact h.trans hpriv

end Handlers

/-! ### What a restart would compute -/

section Rebuild

variable {l l' : TimeWindowList} {w : TimeWindow}

theorem instanceCount_congr (h : ∀ k, l'.statusOf k = l.statusOf k) :
    l'.instanceCount = l.instanceCount := by
  have h2 := congrArg Option.isSome (h 2)
  simp only [TimeWindowList.statusOf, Option.isSome_map, TimeWindowList.find] at h2
  rw [TimeWindowList.instanceCount, TimeWindowList.instanceCount, h2]

/-- What is computed depends on the status of the windows only. -/
theorem transferInfoOf_congr (h : ∀ k, l'.statusOf k = l.statusOf k) :
    transferInfoOf l' = transferInfoOf l := by
  have hcount := instanceCount_congr h
  have hscan : transferInfoScan l' = transferInfoScan l := by
    funext info k
    have hk := h k
    rw [TimeWindowList.statusOf, TimeWindowList.statusOf] at hk
    rw [transferInfoScan, transferInfoScan, hk]
  rw [transferInfoOf, transferInfoOf, hscan, hcount]

/-- What one window adds to what the windows before it have given. -/
def TransferInfo.scan (info : TransferInfo) (k : ℕ) : TimewindowStatus → TransferInfo
  | .idle => info
  | .started => info.opened k
  | .ended => { info with lastTimeWindow := k, withinTimeWindow := false }

theorem transferInfoOf_one (w : TimeWindow) :
    transferInfoOf ⟨w, none⟩ = TransferInfo.scan ⟨1, 0, false⟩ 1 w.status := by
  cases h : w.status <;>
    simp [transferInfoOf, transferInfoScan, TimeWindowList.instanceCount, TimeWindowList.find,
      TransferInfo.scan, TransferInfo.opened, h]

theorem transferInfoOf_two (w u : TimeWindow) :
    transferInfoOf ⟨w, some u⟩ =
      (TransferInfo.scan ⟨2, 0, false⟩ 1 w.status).scan 2 u.status := by
  cases h : w.status <;> cases h' : u.status <;>
    simp [transferInfoOf, transferInfoScan, TimeWindowList.instanceCount, TimeWindowList.find,
      TransferInfo.scan, TransferInfo.opened, h, h', List.range_succ]

theorem transferInfoOf_idle (h : ∀ k w, l.find k = some w → w.status = .idle) :
    (transferInfoOf l).withinTimeWindow = false := by
  obtain ⟨w, o⟩ := l
  have h₁ := h 1 w rfl
  cases o with
  | none =>
    rw [transferInfoOf_one, h₁]
    rfl
  | some u =>
    have h₂ := h 2 u rfl
    rw [transferInfoOf_two, h₁, h₂]
    rfl

theorem transferInfoOf_number (l : TimeWindowList) :
    (transferInfoOf l).numberOfTimeWindow = l.instanceCount := by
  obtain ⟨w, o⟩ := l
  cases o with
  | none =>
    rw [transferInfoOf_one]
    cases w.status <;> rfl
  | some u =>
    rw [transferInfoOf_two]
    cases w.status <;> cases u.status <;> rfl

/-- The window that decides is not Idle. -/
theorem transferInfoOf_last (hw : l.find (transferInfoOf l).lastTimeWindow = some w) :
    w.status ≠ .idle := by
  obtain ⟨w₁, o⟩ := l
  cases o with
  | none =>
    rw [transferInfoOf_one] at hw
    cases h₁ : w₁.status <;> rw [h₁] at hw <;> cases hw <;> simp [h₁]
  | some w₂ =>
    rw [transferInfoOf_two] at hw
    cases h₁ : w₁.status <;> cases h₂ : w₂.status <;> rw [h₁, h₂] at hw <;> cases hw <;>
      simp [h₁, h₂]

/-- It is Started if the transfer is inside a window. -/
theorem transferInfoOf_within (h : (transferInfoOf l).withinTimeWindow = true) :
    l.statusOf (transferInfoOf l).lastTimeWindow = some .started := by
  obtain ⟨w₁, o⟩ := l
  cases o with
  | none =>
    rw [transferInfoOf_one] at h ⊢
    cases h₁ : w₁.status <;> rw [h₁] at h <;> cases h
    exact congrArg some h₁
  | some w₂ =>
    rw [transferInfoOf_two] at h ⊢
    cases h₁ : w₁.status <;> cases h₂ : w₂.status <;> rw [h₁, h₂] at h <;> cases h
    all_goals first | exact congrArg some h₂ | exact congrArg some h₁

end Rebuild

/-! ### Every step -/

namespace View

/-- What is queued for the windows of the instance. -/
def windowEvents (v : View) : List DmEvent := v.pending.filter DmEvent.isWindow

/-- The events of the windows are the only ones that move the run-time state. -/
theorem foldl_handle_filter_cons (info : TransferInfo) (ev : DmEvent) (rest : List DmEvent) :
    ((ev :: rest).filter DmEvent.isWindow).foldl TransferInfo.handle info =
      (rest.filter DmEvent.isWindow).foldl TransferInfo.handle (info.handle ev) := by
  cases ev <;> rfl

/-- Without the run-time state no timer is there and nothing is queued for a window. -/
structure Prepared (v : View) : Prop where
  timers : v.obj.priv = none → ∀ k w, v.obj.timeWindowList.find k = some w → w.priv = none
  events : v.obj.priv = none → v.windowEvents = []

/-- **What a step does to the run-time state**, and to the events queued for it. -/
inductive InfoStep (v : View) : Act → View → Prop where
  /-- The start timer of a window fires. -/
  | start {k : ℕ} {w : TimeWindow} (hw : v.obj.timeWindowList.find k = some w)
      (htimer : w.StartPending) :
      InfoStep v (.startTimer k)
        { v with
          obj := { v.obj with
            timeWindowList := v.obj.timeWindowList.modify k fun w =>
              w.startTimerOff.withStatus .started }
          pending := v.pending ++ timewindowStatusEvent k w.status .started
          calls := v.calls ++ [.startTimerCb k] }
  /-- The end timer of a window fires. -/
  | stop {k : ℕ} {w : TimeWindow} (hw : v.obj.timeWindowList.find k = some w)
      (htimer : w.EndPending) :
      InfoStep v (.endTimer k)
        { v with
          obj := { v.obj with
            timeWindowList := v.obj.timeWindowList.modify k fun w =>
              w.stopTimerOff.withStatus .ended }
          pending := v.pending ++ timewindowStatusEvent k w.status .ended
          calls := v.calls ++ [.endTimerCb k] }
  /-- The run-time state and what is queued for it stay. -/
  | same {a : Act} {v' : View} (hk : KeepsWindows v a v') (hpriv : v'.obj.priv = v.obj.priv)
      (hevents : v'.windowEvents = v.windowEvents)
      (htimers : v.obj.priv = none →
        (∀ k w, v.obj.timeWindowList.find k = some w → w.priv = none) →
        ∀ k w, v'.obj.timeWindowList.find k = some w → w.priv = none) : InfoStep v a v'
  /-- It is built. -/
  | built {a : Act} {v' : View} (hk : KeepsWindows v a v') (hpriv : v.obj.priv = none)
      (hpriv' : v'.obj.priv = some (transferInfoOf v.obj.timeWindowList))
      (hevents : v'.windowEvents = []) : InfoStep v a v'
  /-- A queued event is handled. -/
  | handled {ev : DmEvent} {rest : List DmEvent} {ret : ℤ} {info : TransferInfo} {v' : View}
      (hk : KeepsWindows v (.dispatch ev ret) v') (hpending : v.pending = ev :: rest)
      (hpriv : v.obj.priv = some info) (hpriv' : v'.obj.priv = some (info.handle ev))
      (hevents : v'.windowEvents = rest.filter DmEvent.isWindow) :
      InfoStep v (.dispatch ev ret) v'
  /-- The process is another. -/
  | restarted {v' : View} (hk : KeepsWindows v .restart v') (hpriv' : v'.obj.priv = none)
      (hevents : v'.windowEvents = [])
      (htimers : ∀ k w, v'.obj.timeWindowList.find k = some w → w.priv = none) :
      InfoStep v .restart v'

variable {i : ℕ} {v v' : View} {a : Act}

theorem prepared_of_fresh (h : Fresh i v) : Prepared v := by
  obtain ⟨args, l, hl, hobj, -, hpending, -⟩ := h
  refine ⟨fun _ k w hw => ?_, fun _ => ?_⟩
  · rw [hobj] at hw
    exact (window_of_args hl hw).2
  · rw [windowEvents, hpending]
    rfl

/-- A change of every window does not give a timer to one that has none. -/
theorem priv_map {l : TimeWindowList} {f : TimeWindow → TimeWindow}
    (hf : ∀ w : TimeWindow, w.priv = none → (f w).priv = none)
    (hl : ∀ k w, l.find k = some w → w.priv = none) (k : ℕ) (w : TimeWindow)
    (hw : (l.map f).find k = some w) : w.priv = none := by
  rw [TimeWindowList.find_map] at hw
  obtain ⟨u, hu, rfl⟩ := Option.map_eq_some_iff.mp hw
  exact hf u (hl k u hu)

/-- A queued event is handled: the run-time state takes it up, or is built by it, or is
still to be built. -/
theorem Prepared.dispatched (hs : Prepared v) {ev : DmEvent} {rest : List DmEvent} {ret : ℤ}
    (hpending : v.pending = ev :: rest)
    (hk : KeepsWindows v (.dispatch ev ret)
      ({ v with pending := rest }.commit (handleDmEvent ret ev (v.ctx i)))) :
    InfoStep v (.dispatch ev ret)
      ({ v with pending := rest }.commit (handleDmEvent ret ev (v.ctx i))) := by
  have hevents : ({ v with pending := rest }.commit (handleDmEvent ret ev (v.ctx i))).windowEvents =
      rest.filter DmEvent.isWindow := by
    rw [windowEvents, hk.pending, hpending]
    rfl
  cases hpriv : v.obj.priv with
  | some info =>
    have hpriv' : (handleDmEvent ret ev (v.ctx i)).obj.priv = some (info.handle ev) :=
      priv_handleDmEvent ev ret hpriv
    exact .handled hk hpending hpriv hpriv' hevents
  | none =>
    -- nothing is queued for a window, so the rest of the queue has no such event either
    have hnil := hs.events hpriv
    have hrest : rest.filter DmEvent.isWindow = [] := by
      rw [windowEvents, hpending, List.filter_cons] at hnil
      split at hnil
      · cases hnil
      · exact hnil
    have hpriv' : (v.ctx i).obj.priv = none := hpriv
    by_cases hev : ev = .scheduleDownloadAdded
    · subst hev
      have hadd := priv_addInfo (v.ctx i)
      rw [hpriv', Option.getD_none] at hadd
      exact .built hk hpriv hadd (hevents.trans hrest)
    · have hobj : (handleDmEvent ret ev (v.ctx i)).obj = v.obj :=
        congrArg Ctx.obj (handleDmEvent_of_none ret hpriv' hev)
      refine .same hk (congrArg ScheduleDownload.priv hobj)
        (hevents.trans (hrest.trans hnil.symm)) fun _ hnone k w hw => hnone k w ?_
      exact (congrArg (fun obj => obj.timeWindowList.find k) hobj).symm.trans hw

/-- **What every step does to the run-time state**. -/
theorem Prepared.info (hs : Prepared v) (h : Step i v a v') : InfoStep v a v' := by
  have hk := h.keepsWindows
  cases h with
  | @startTimer k w hboot hw htimer =>
    have hw' : (v.ctx i).obj.timeWindowList.find k = some w := hw
    rw [timewindowStartTimerCb_eq hw']
    exact .start hw htimer
  | @endTimer k w hboot hw htimer =>
    have hw' : (v.ctx i).obj.timeWindowList.find k = some w := hw
    rw [timewindowEndTimerCb_eq hw']
    exact .stop hw htimer
  | other _ =>
    have hk := hk nofun nofun
    exact .same hk rfl rfl fun _ h => h
  | elapse ms =>
    have hk := hk nofun nofun
    refine .same hk rfl rfl fun _ hnone => priv_map (fun w hw => ?_) hnone
    simp [TimeWindow.elapse, hw]
  | save _ =>
    have hk := hk nofun nofun
    refine .same hk rfl rfl fun _ hnone => priv_map (fun w hw => ?_) hnone
    simp [timewindowInternalSave, hw]
  | dispatch hpending =>
    have hk := hk nofun nofun
    exact hs.dispatched hpending hk
  | @failure log hlock =>
    have hk := hk nofun nofun
    have hup := transfersFirmwareupgradeDone_outcome (v.ctx i) (firmwareFaultCode log) log
    refine .same hk (priv_of_upgrade hup) hk.pending fun hpriv hnone k w hw => hnone k w ?_
    have hpriv' : (v.ctx i).obj.priv = none := hpriv
    have hsame := transfersFirmwareupgradeDone_of_none hpriv' (firmwareFaultCode log) log
    exact (congrArg (fun c => c.obj.timeWindowList.find k) hsame).symm.trans hw
  | @deferredInit status lock lock' _ _ _ =>
    have hk := hk nofun nofun
    have hpriv' := priv_deferredInit status ((v.withLock lock).ctx i)
    cases hpriv : v.obj.priv with
    | none =>
      have hold : ((v.withLock lock).ctx i).obj.priv = none := hpriv
      rw [hold, Option.getD_none] at hpriv'
      exact .built hk hpriv hpriv' (hk.pending.trans (hs.events hpriv))
    | some info =>
      have hold : ((v.withLock lock).ctx i).obj.priv = some info := hpriv
      rw [hold, Option.getD_some] at hpriv'
      refine .same hk (hpriv'.trans hpriv.symm) hk.pending fun hnone => ?_
      rw [hpriv] at hnone
      cases hnone
  | restart =>
    have hk := hk nofun nofun
    refine .restarted hk rfl rfl fun k w hw => ?_
    rw [ScheduleDownload.reload, TimeWindowList.find_map] at hw
    obtain ⟨u, -, rfl⟩ := Option.map_eq_some_iff.mp hw
    rfl

theorem prepared_of_some {info : TransferInfo} (hpriv : v.obj.priv = some info) : Prepared v := by
  constructor
  · intro hnone
    rw [hpriv] at hnone
    cases hnone
  · intro hnone
    rw [hpriv] at hnone
    cases hnone

/-- A timer that runs belongs to a transfer whose run-time state has been built. -/
theorem Prepared.built_of_timer (hs : Prepared v) {k : ℕ} {w : TimeWindow}
    (hw : v.obj.timeWindowList.find k = some w) (h : w.StartPending ∨ w.EndPending) :
    v.obj.priv ≠ none := by
  intro hnone
  have hno := hs.timers hnone k w hw
  rcases h with ⟨t, ms, hp, -⟩ | ⟨t, ms, hp, -⟩
  · rw [hp] at hno
    cases hno
  · rw [hp] at hno
    cases hno

/-- **The invariant is kept by every step**. -/
theorem Prepared.step (hs : Prepared v) (h : Step i v a v') : Prepared v' := by
  cases hs.info h with
  | start hw htimer =>
    have hsome := hs.built_of_timer hw (Or.inl htimer)
    exact ⟨fun hnone => absurd hnone hsome, fun hnone => absurd hnone hsome⟩
  | stop hw htimer =>
    have hsome := hs.built_of_timer hw (Or.inr htimer)
    exact ⟨fun hnone => absurd hnone hsome, fun hnone => absurd hnone hsome⟩
  | same _ hpriv hevents htimers =>
    refine ⟨fun hnone => ?_, fun hnone => ?_⟩
    · exact htimers (hpriv ▸ hnone) (hs.timers (hpriv ▸ hnone))
    · exact hevents.trans (hs.events (hpriv ▸ hnone))
  | built _ _ hpriv' _ => exact prepared_of_some hpriv'
  | handled _ _ _ hpriv' _ => exact prepared_of_some hpriv'
  | restarted _ _ hevents htimers => exact ⟨fun _ => htimers, fun _ => hevents⟩

end View

/-- In every run, what has no run-time state has no timer and no event of a window. -/
theorem Plugin.prepared_of_reaches {G : Plugin → Event → Prop} {s : Plugin} {i : ℕ} {v : View}
    (h : Reaches step G Plugin.init s) (hv : s.view i = some v) : v.Prepared :=
  Plugin.view_invariant (fun _ => View.prepared_of_fresh)
    (fun _ _ _ _ _ _ hstep hs => hs.step hstep) h hv

end Tr069
