import Tr069Manager.ScheduleDownload.Isolation

/-!
# The result of a transfer and who may write it

The status and the fault of a transfer, the lock and the queued failures are
written by few of the things that can happen to an instance.
`Tr069.View.Step.effect` sorts every step by what it does to them:

* `quiet`: nothing is written, and the lock is not taken;
* `running`: a `Download` is accepted, and the transfer takes the lock;
* `refused`: an attempt fails at once;
* `failed`: a failure is reported by the firmware image or by the check after a
  restart;
* `done`: the transfer ends;
* `marked`: without a file type, the end of the windows leaves a fault and no
  status.

The finality of a result, what a reported success means and the truth of the lock
are case analyses on this list.
-/

namespace Tr069

/-- The call is a `Download`. -/
def Call.isDownload : Call → Bool
  | .download _ => true
  | _ => false

namespace View

/-- The `Download` calls made for the instance. -/
def downloadCalls (v : View) : List Call := v.calls.filter Call.isDownload

/-- Why `transfers_start_transfer` runs: a window has opened and the transfer is not
done, or a failure is tried again. -/
inductive StartCause (v : View) : Act → Prop where
  | window {k : ℕ} {ret : ℤ} {info : TransferInfo} (hpriv : v.obj.priv = some info)
      (hst : v.obj.transferComplete.status ≠ .done)
      (hin : InWindow (v.obj.withPriv (info.opened k)) (info.opened k)) :
      StartCause v (.dispatch (.timewindowStarted k) ret)
  | retry {info : TransferInfo} {w : TimeWindow} {ret : ℤ} (hr : RetryWindow v.obj info w)
      (hmr : ¬w.maxRetries ≤ 0) : StartCause v (.dispatch .scheduleDownloadTransferFailed ret)

/-- Why a transfer is done, with the fault it then has: its windows are over, its
retries are used up, or the upgrade has succeeded. -/
inductive DoneCause (v : View) : Act → ℕ → String → Prop where
  | gaveUp {k : ℕ} {ret : ℤ} {ev : DmEvent} {info : TransferInfo} (hev : ev = .timewindowEnded k)
      (hst : v.obj.transferComplete.status ≠ .done) (hpriv : v.obj.priv = some info)
      (hpast : PastWindows (v.obj.withPriv info.closed) info.closed) :
      DoneCause v (.dispatch ev ret) faultCodeInternalError "TimeWindow(s) ended"
  | exhausted {info : TransferInfo} {w : TimeWindow} {ret : ℤ} (hr : RetryWindow v.obj info w)
      (hnum : info.numberOfTimeWindow = info.lastTimeWindow)
      (hpending : .scheduleDownloadTransferFailed ∈ v.pending) :
      DoneCause v (.dispatch .scheduleDownloadTransferFailed ret)
        v.obj.transferComplete.faultCode v.obj.transferComplete.faultString
  | success (hboot : v.booting = true) (hst : v.obj.transferComplete.status = .inProgress) :
      DoneCause v (.deferredInit (some "Active")) 0 ""

/-- The faults that are reported: what the firmware image says of a download, and what
the check after a restart finds if the image is not Active. -/
inductive Reported : ℕ → String → Prop where
  | download (log : String) : Reported (firmwareFaultCode log) log
  | check {status : Option String} (h : (pendingFault status).1 ≠ 0) :
      Reported (pendingFault status).1 (pendingFault status).2

/-- **What a step does to the result of the transfer, to the lock and to the queued
failures**. -/
inductive Effect (i : ℕ) (v : View) (a : Act) (v' : View) : Prop where
  | quiet (hresult : v'.obj.transferComplete = v.obj.transferComplete)
      (hlock : v'.lock = some i → v.lock = some i)
      (hpending : .scheduleDownloadTransferFailed ∈ v'.pending →
        .scheduleDownloadTransferFailed ∈ v.pending)
      (hcalls : v'.downloadCalls = v.downloadCalls)
  | running (hcause : StartCause v a) (hft : v.obj.fileType = fileType1FirmwareUpgradeImage)
      (hfree : v.lock = none)
      (hresult : v'.obj.transferComplete = { v.obj.transferComplete with status := .inProgress })
      (hlock : v'.lock = some i)
      (hpending : .scheduleDownloadTransferFailed ∈ v'.pending →
        .scheduleDownloadTransferFailed ∈ v.pending)
  | refused (hcause : StartCause v a) (hft : v.obj.fileType = fileType1FirmwareUpgradeImage)
      (hresult : v'.obj.transferComplete = v.obj.transferComplete.withResult .failed
        faultCodeInternalError "Failed to perform upgrade")
      (hlock : v'.lock = v.lock)
  | failed {faultCode : ℕ} {faultString : String} (hfault : Reported faultCode faultString)
      (hst : v.lock = some i ∨ v.obj.transferComplete.status = .inProgress)
      (hresult : v'.obj.transferComplete =
        v.obj.transferComplete.withResult .failed faultCode faultString)
      (hlock : v'.lock = some i → v.lock = some i ∧ v.booting = true)
      (hcalls : v'.downloadCalls = v.downloadCalls)
  | done {faultCode : ℕ} {faultString : String} (hcause : DoneCause v a faultCode faultString)
      (hresult : v'.obj.transferComplete =
        v.obj.transferComplete.withResult .done faultCode faultString)
      (hlock : v'.lock = some i → v.lock = some i ∧
        v.obj.fileType ≠ fileType1FirmwareUpgradeImage)
      (hpending : .scheduleDownloadTransferFailed ∈ v'.pending →
        .scheduleDownloadTransferFailed ∈ v.pending)
      (hcalls : v'.downloadCalls = v.downloadCalls)
  | marked (hft : v.obj.fileType = "") (hst : v.obj.transferComplete.status ≠ .done)
      (hresult : v'.obj.transferComplete =
        v.obj.transferComplete.withResult v.obj.transferComplete.status faultCodeInternalError
          "TimeWindow(s) ended")
      (hlock : v'.lock = v.lock)
      (hpending : .scheduleDownloadTransferFailed ∈ v'.pending →
        .scheduleDownloadTransferFailed ∈ v.pending)
      (hcalls : v'.downloadCalls = v.downloadCalls)

theorem firmwareFaultCode_ne_zero (log : String) : firmwareFaultCode log ≠ 0 := by
  unfold firmwareFaultCode
  split
  · decide
  · decide

/-- A fault that is reported is one. -/
theorem Reported.ne_zero {fc : ℕ} {fs : String} (h : Reported fc fs) : fc ≠ 0 := by
  cases h with
  | download _ => exact firmwareFaultCode_ne_zero _
  | check h => exact h

variable {i : ℕ} {v v' : View} {a : Act}

/-! ### The steps that write nothing -/

/-- A handler that leaves the result and the lock alone, queues no failure and makes
no `Download` call. -/
structure Quiet (c c' : Ctx) : Prop where
  result : c'.obj.transferComplete = c.obj.transferComplete
  lock : c'.transferInProgress = c.transferInProgress
  emitted : .scheduleDownloadTransferFailed ∈ c'.emitted →
    .scheduleDownloadTransferFailed ∈ c.emitted
  calls : c'.calls.filter Call.isDownload = c.calls.filter Call.isDownload

theorem not_mem_timewindowStatusEvent {k : ℕ} {old new : TimewindowStatus} :
    DmEvent.scheduleDownloadTransferFailed ∉ timewindowStatusEvent k old new := by
  unfold timewindowStatusEvent
  split
  · exact List.not_mem_nil
  · cases new <;> simp

theorem quiet_timewindowSetStatus (c : Ctx) (k : ℕ) (st : TimewindowStatus) :
    Quiet c (timewindowSetStatus c k st) := by
  unfold timewindowSetStatus
  split
  · exact ⟨rfl, rfl, id, rfl⟩
  · refine ⟨rfl, rfl, fun h => ?_, rfl⟩
    rcases List.mem_append.mp h with h | h
    · exact h
    · exact absurd h not_mem_timewindowStatusEvent

theorem quiet_startTimerCb (c : Ctx) (k : ℕ) : Quiet c (timewindowStartTimerCb c k) := by
  have h := quiet_timewindowSetStatus
    { c with
      obj := { c.obj with
        timeWindowList := c.obj.timeWindowList.modify k TimeWindow.startTimerOff }
      calls := c.calls ++ [.startTimerCb k] } k .started
  exact ⟨h.result, h.lock, h.emitted, h.calls.trans (by simp [Call.isDownload])⟩

theorem quiet_endTimerCb (c : Ctx) (k : ℕ) : Quiet c (timewindowEndTimerCb c k) := by
  have h := quiet_timewindowSetStatus
    { c with
      obj := { c.obj with
        timeWindowList := c.obj.timeWindowList.modify k TimeWindow.stopTimerOff }
      calls := c.calls ++ [.endTimerCb k] } k .ended
  exact ⟨h.result, h.lock, h.emitted, h.calls.trans (by simp [Call.isDownload])⟩

theorem quiet_addInfo (c : Ctx) : Quiet c (transfersTransferAddInfo c) := by
  unfold transfersTransferAddInfo
  split <;> exact ⟨rfl, rfl, id, rfl⟩

theorem quiet_added (c : Ctx) : Quiet c (scheduleDownloadAdded c) :=
  ⟨(quiet_addInfo c).result, (quiet_addInfo c).lock, (quiet_addInfo c).emitted,
    (quiet_addInfo c).calls⟩

/-- Committing a quiet handler is a quiet step. -/
theorem effect_of_quiet {c' : Ctx} {pending : List DmEvent} (h : Quiet (v.ctx i) c')
    (hpending : pending ⊆ v.pending) :
    Effect i v a ({ v with pending := pending }.commit c') := by
  refine .quiet h.result (fun hl => ?_) (fun hp => ?_) ?_
  · exact h.lock.symm.trans hl
  · rcases List.mem_append.mp hp with hp | hp
    · exact hpending hp
    · exact absurd (h.emitted hp) List.not_mem_nil
  · rw [downloadCalls, commit, List.filter_append, h.calls]
    simp [ctx, downloadCalls]

/-! ### Attempts -/

theorem downloadCalls_commit {c : Ctx} {pending : List DmEvent} :
    ({ v with pending := pending }.commit c).downloadCalls =
      v.downloadCalls ++ c.calls.filter Call.isDownload := by
  rw [downloadCalls, commit, List.filter_append, downloadCalls]

/-- Committing an attempt is a step that starts, fails, or does nothing. The handler
may have changed the object before, but neither its file type nor its result. -/
theorem effect_of_start (obj : ScheduleDownload) {c' : Ctx} {pending : List DmEvent}
    (hcause : StartCause v a) (hft : obj.fileType = v.obj.fileType)
    (hres : obj.transferComplete = v.obj.transferComplete) (hpending : pending ⊆ v.pending)
    (h : StartOutcome { v.ctx i with obj := obj } c') :
    Effect i v a ({ v with pending := pending }.commit c') := by
  cases h with
  | unsupported _ =>
    refine .quiet hres id (fun hp => ?_) ?_
    · rcases List.mem_append.mp hp with hp | hp
      · exact hpending hp
      · exact absurd hp List.not_mem_nil
    · rw [downloadCalls_commit]
      simp [ctx, Call.isDownload]
  | running hft' hlock =>
    refine .running hcause (hft ▸ hft') hlock ?_ rfl fun hp => ?_
    · rw [← hres]
      rfl
    · rcases List.mem_append.mp hp with hp | hp
      · exact hpending hp
      · exact absurd hp List.not_mem_nil
  | failed hft' hcalls =>
    refine .refused hcause (hft ▸ hft') ?_ rfl
    rw [← hres]
    rfl

/-! ### Ends -/

/-- Committing the end of a transfer, after its fault has been written. -/
theorem effect_of_transferDone (obj : ScheduleDownload) {pending : List DmEvent} {fc : ℕ}
    {fs : String} (hcause : DoneCause v a fc fs) (hft : obj.fileType = v.obj.fileType)
    (hne : v.obj.fileType ≠ "")
    (hres : obj.transferComplete =
      { v.obj.transferComplete with faultCode := fc, faultString := fs })
    (hpending : pending ⊆ v.pending) :
    Effect i v a
      ({ v with pending := pending }.commit
        (transfersTransferDone { v.ctx i with obj := obj })) := by
  rw [transfersTransferDone_of_ne (by exact hft ▸ hne)]
  refine .done hcause ?_ (fun hl => ?_) (fun hp => ?_) ?_
  · change ({ obj.transferComplete with status := _ } : TransferComplete) = _
    rw [hres]
    rfl
  · change Ctx.released { v.ctx i with obj := obj } = some i at hl
    unfold Ctx.released at hl
    split at hl
    · cases hl
    · next hnot =>
      refine ⟨hl, fun hf => hnot ⟨?_, hl⟩⟩
      exact hft.trans hf
  · rcases List.mem_append.mp hp with hp | hp
    · exact hpending hp
    · exact absurd hp List.not_mem_nil
  · rw [downloadCalls_commit]
    simp [ctx]

/-! ### The handlers of the queued events -/

theorem effect_timewindowStarted {k : ℕ} {ret : ℤ} {pending : List DmEvent}
    (hpending : pending ⊆ v.pending) :
    Effect i v (.dispatch (.timewindowStarted k) ret)
      ({ v with pending := pending }.commit (timewindowStarted (v.ctx i) k ret)) := by
  rcases timewindowStarted_cases (v.ctx i) k ret with ⟨-, h⟩ | ⟨info, hpriv, h⟩
  · rw [h]
    exact effect_of_quiet ⟨rfl, rfl, id, rfl⟩ hpending
  · generalize timewindowStarted (v.ctx i) k ret = c' at h
    cases h with
    | unchanged _ => exact effect_of_quiet ⟨rfl, rfl, id, rfl⟩ hpending
    | @start info' hst hin =>
      obtain rfl : info.opened k = info' := Option.some.inj hin.priv
      exact effect_of_start (v.obj.withPriv (info.opened k)) (.window hpriv hst hin) rfl rfl
        hpending (transfersStartTransfer_outcome _ ret)
    | gaveUp _ hpast =>
      -- the window is open now
      have hout := hpast.outside
      rw [← Option.some.inj hpast.priv] at hout
      cases hout

theorem effect_timewindowEnded {k : ℕ} {ret : ℤ} {pending : List DmEvent}
    (hpending : pending ⊆ v.pending) :
    Effect i v (.dispatch (.timewindowEnded k) ret)
      ({ v with pending := pending }.commit (timewindowEnded (v.ctx i) ret)) := by
  rcases timewindowEnded_cases (v.ctx i) ret with ⟨-, h⟩ | ⟨info, hpriv, h⟩
  · rw [h]
    exact effect_of_quiet ⟨rfl, rfl, id, rfl⟩ hpending
  · generalize timewindowEnded (v.ctx i) ret = c' at h
    cases h with
    | unchanged _ => exact effect_of_quiet ⟨rfl, rfl, id, rfl⟩ hpending
    | start _ hin =>
      -- no window is open now
      have hwithin := hin.within
      rw [← Option.some.inj hin.priv] at hwithin
      cases hwithin
    | @gaveUp info' hst hpast =>
      obtain rfl : info.closed = info' := Option.some.inj hpast.priv
      by_cases hft : v.obj.fileType = ""
      · rw [transfersGiveUp, transfersTransferDone_of_empty hft]
        refine .marked hft hst rfl rfl (fun hp => ?_) ?_
        · rcases List.mem_append.mp hp with hp | hp
          · exact hpending hp
          · exact absurd hp List.not_mem_nil
        · rw [downloadCalls_commit]
          simp [ctx]
      · exact effect_of_transferDone _ (.gaveUp rfl hst hpriv hpast) rfl hft rfl hpending

theorem effect_transferFailed {ret : ℤ} {pending : List DmEvent}
    (hpending : .scheduleDownloadTransferFailed :: pending ⊆ v.pending) :
    Effect i v (.dispatch .scheduleDownloadTransferFailed ret)
      ({ v with pending := pending }.commit (scheduleDownloadTransferFailed (v.ctx i) ret)) := by
  have hsub : pending ⊆ v.pending := fun ev hev => hpending (List.mem_cons_of_mem _ hev)
  have h := scheduleDownloadTransferFailed_outcome (v.ctx i) ret
  generalize scheduleDownloadTransferFailed (v.ctx i) ret = c' at h
  cases h with
  | ignored _ => exact effect_of_quiet ⟨rfl, rfl, id, rfl⟩ hsub
  | exhausted hr _ hnum =>
    by_cases hft : v.obj.fileType = ""
    · rw [transfersTransferDone_of_empty hft]
      exact effect_of_quiet ⟨rfl, rfl, id, rfl⟩ hsub
    · exact effect_of_transferDone v.obj (.exhausted hr hnum (hpending List.mem_cons_self)) rfl hft
        rfl hsub
  | @retried info w hr hmr =>
    exact effect_of_start
      (transfersTimewindowSetMaxretries (v.ctx i) info.lastTimeWindow (w.maxRetries - 1)).obj
      (.retry hr hmr) rfl rfl hsub (transfersStartTransfer_outcome _ ret)

/-! ### The firmware image and the check after a restart -/

theorem effect_failure {log : String} (hlock : v.lock = some i) :
    Effect i v (.failure log) (v.commit (firmwareimageFailure log (v.ctx i))) := by
  unfold firmwareimageFailure
  have h := transfersFirmwareupgradeDone_outcome (v.ctx i) (firmwareFaultCode log) log
  generalize transfersFirmwareupgradeDone (v.ctx i) (firmwareFaultCode log) log = c' at h
  cases h with
  | ignored _ =>
    refine .quiet rfl (fun hl => by cases hl) (fun hp => ?_) ?_
    · rw [commit, ctx, List.append_nil] at hp
      exact hp
    · exact downloadCalls_commit.trans (List.append_nil _)
  | failed _ _ =>
    exact .failed (.download log) (Or.inl hlock) rfl (fun hl => by cases hl)
      (downloadCalls_commit.trans (List.append_nil _))
  | done _ hfc => exact absurd hfc (firmwareFaultCode_ne_zero log)

/-- The deferred initialisation runs the check between two steps that write
nothing. -/
theorem effect_deferredInit {status : Option String} {lock lock' : Option ℕ}
    (hboot : v.booting = true) (hlock : v.lock = some i ↔ lock = some i)
    (hlock' : (deferredInit status ((v.withLock lock).ctx i)).transferInProgress = some i ↔
      lock' = some i) :
    Effect i v (.deferredInit status)
      { (v.withLock lock).commit (deferredInit status ((v.withLock lock).ctx i)) with
        lock := lock', booting := false } := by
  have hadd := quiet_addInfo ((v.withLock lock).ctx i)
  have hnew : (transfersTransferAddInfo ((v.withLock lock).ctx i)).emitted = [] ∧
      (transfersTransferAddInfo ((v.withLock lock).ctx i)).calls = [] := by
    unfold transfersTransferAddInfo
    split
    · exact ⟨rfl, rfl⟩
    · exact ⟨rfl, rfl⟩
  have hown := (Ctx.Own.addInfo ((v.withLock lock).ctx i))
  have hft : (transfersTransferAddInfo ((v.withLock lock).ctx i)).obj.fileType = v.obj.fileType :=
    congrArg Request.fileType hown.request
  unfold deferredInit at hlock' ⊢
  generalize transfersTransferAddInfo ((v.withLock lock).ctx i) = c at hadd hnew hown hft hlock' ⊢
  have hmine : c.transferInProgress = some i → v.lock = some i := fun hl =>
    hlock.mpr (hadd.lock.symm.trans hl)
  have hcalls : ∀ c' : Ctx, c'.calls = [] →
      downloadCalls { (v.withLock lock).commit (transfersTimewindowStart c') with
        lock := lock', booting := false } = v.downloadCalls := by
    intro c' hc'
    simp [downloadCalls, commit, withLock, transfersTimewindowStart, hc']
  have hpend : ∀ c' : Ctx, c'.emitted = [] → .scheduleDownloadTransferFailed ∈
      View.pending { (v.withLock lock).commit (transfersTimewindowStart c') with
        lock := lock', booting := false } → .scheduleDownloadTransferFailed ∈ v.pending := by
    intro c' hc' hp
    simpa [commit, withLock, transfersTimewindowStart, hc'] using hp
  rcases transfersHandleInProgressTransfer_cases c status with hsame | ⟨hst, hfirm, hup⟩
  · rw [hsame] at hlock' ⊢
    exact .quiet hadd.result (fun hl => hmine (hlock'.mpr hl)) (hpend c hnew.1) (hcalls c hnew.2)
  · have hst' : v.obj.transferComplete.status = .inProgress := by
      rw [hadd.result] at hst
      exact hst
    generalize transfersHandleInProgressTransfer c status = c' at hup hlock' ⊢
    cases hup with
    | ignored _ =>
      exact .quiet hadd.result (fun hl => hmine (hlock'.mpr hl)) (hpend c hnew.1) (hcalls c hnew.2)
    | failed _ hfc =>
      refine .failed (.check hfc) (Or.inr hst') ?_
        (fun hl => ⟨hmine (hlock'.mpr hl), hboot⟩) (hcalls _ hnew.2)
      change TransferComplete.withResult c.obj.transferComplete _ _ _ = _
      rw [hadd.result]
      rfl
    | done _ hfc =>
      have hstatus := pendingFault_eq_zero.mp hfc
      subst hstatus
      have hne : c.obj.fileType ≠ "" := by
        rw [hfirm]
        decide
      rw [transfersTransferDone_of_ne (by exact hne)] at hlock' ⊢
      refine .done (.success hboot hst') ?_ (fun hl => ?_) (hpend _ hnew.1) (hcalls _ hnew.2)
      · change TransferComplete.withResult c.obj.transferComplete _ _ _ = _
        rw [hadd.result]
        rfl
      · have hmine' : c.transferInProgress = some c.index → Ctx.released c = none := fun h => by
          rw [Ctx.released, if_pos ⟨hfirm, h⟩]
        have hrel : Ctx.released c = some i := hlock'.mpr hl
        have hidx : c.index = i := hown.index
        rw [hmine' (by rw [hidx]; exact (Ctx.released_eq hrel))] at hrel
        cases hrel

/-- **Every step is sorted**. -/
theorem Step.effect (h : Step i v a v') : Effect i v a v' := by
  cases h with
  | other hlock => exact .quiet rfl hlock.mpr id rfl
  | startTimer _ _ _ => exact effect_of_quiet (quiet_startTimerCb _ _) (List.Subset.refl _)
  | endTimer _ _ _ => exact effect_of_quiet (quiet_endTimerCb _ _) (List.Subset.refl _)
  | elapse ms => exact .quiet rfl id id rfl
  | save hlock => exact .quiet rfl hlock.mpr id rfl
  | @dispatch ev rest ret hpending =>
    have hsub : ev :: rest ⊆ v.pending := hpending ▸ List.Subset.refl _
    have hrest : rest ⊆ v.pending := fun _ h => hsub (List.mem_cons_of_mem _ h)
    cases ev with
    | scheduleDownloadAdded => exact effect_of_quiet (quiet_added _) hrest
    | timewindowStarted k => exact effect_timewindowStarted hrest
    | timewindowEnded k => exact effect_timewindowEnded hrest
    | scheduleDownloadTransferFailed => exact effect_transferFailed hsub
  | failure hlock => exact effect_failure hlock
  | deferredInit hboot hlock hlock' => exact effect_deferredInit hboot hlock hlock'
  | restart =>
    exact .quiet rfl (fun hl => by cases hl) (fun hp => absurd hp List.not_mem_nil) rfl

end View

end Tr069
