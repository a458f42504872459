import Tr069Manager.ScheduleDownload.Plugin

/-!
# What a handler can do to a transfer

One statement for each function of `transfers.c` and `transfers_dm.c`, listing
everything a run of it can end in. The four ways to end
`transfers_start_transfer` are `Tr069.StartOutcome`; the ends of
`transfers_transfer_done`, `transfers_firmwareupgrade_done` and
`transfers_handle_transfer` are assembled from them, and those of the event
handlers from these. Every invariant of a transfer is a case analysis on these
outcomes.
-/

namespace Tr069

/-! ### Small steps -/

/-- A result with another status and fault. -/
def TransferComplete.withResult (r : TransferComplete) (status : TransferStatus) (faultCode : ℕ)
    (faultString : String) : TransferComplete :=
  { r with status := status, faultCode := faultCode, faultString := faultString }

namespace ScheduleDownload

/-- The transfer with another status. -/
def withStatus (obj : ScheduleDownload) (status : TransferStatus) : ScheduleDownload :=
  { obj with transferComplete := { obj.transferComplete with status := status } }

/-- The transfer with another status and fault. -/
def withResult (obj : ScheduleDownload) (status : TransferStatus) (faultCode : ℕ)
    (faultString : String) : ScheduleDownload :=
  { obj with transferComplete := obj.transferComplete.withResult status faultCode faultString }

/-- The transfer with another run-time part. -/
def withPriv (obj : ScheduleDownload) (info : TransferInfo) : ScheduleDownload :=
  { obj with priv := some info }

end ScheduleDownload

/-- The run-time part once the start of window `k` has been handled. -/
def TransferInfo.opened (info : TransferInfo) (k : ℕ) : TransferInfo :=
  { info with withinTimeWindow := true, lastTimeWindow := k }

/-- The run-time part once the end of a window has been handled. -/
def TransferInfo.closed (info : TransferInfo) : TransferInfo :=
  { info with withinTimeWindow := false }

/-- The events of a write of the status. -/
def failedEvent (old new : TransferStatus) : List DmEvent :=
  if new = .failed ∧ old ≠ .failed then [.scheduleDownloadTransferFailed] else []

/-- The calls on record of a download that did not start: none, or one that the
device refused. -/
def RefusedCalls (c : Ctx) (calls : List Call) : Prop :=
  calls = [] ∨ c.transferInProgress = none ∧ ∃ ret : ℤ, ret ≠ 0 ∧ calls = [.download ret]

/-! ### `transfers_start_transfer` -/

/-- The download starts and takes the lock, or it does not and the lock is what it
was. -/
theorem transfersFirmwareDoFirmwareupgrade_cases (c : Ctx) (ret : ℤ) :
    (c.transferInProgress = none ∧ transfersFirmwareDoFirmwareupgrade c ret =
        ({ c with transferInProgress := some c.index, calls := c.calls ++ [.download 0] }, 0)) ∨
      ∃ calls, RefusedCalls c calls ∧ transfersFirmwareDoFirmwareupgrade c ret =
        ({ c with calls := c.calls ++ calls }, -1) := by
  unfold transfersFirmwareDoFirmwareupgrade
  split
  · exact Or.inr ⟨[], Or.inl rfl, by simp⟩
  · next hlock =>
    split
    · split
      · next hret => exact Or.inl ⟨hlock, by rw [hret]⟩
      · next hret => exact Or.inr ⟨[.download ret], Or.inr ⟨hlock, ret, hret, rfl⟩, rfl⟩
    · exact Or.inr ⟨[], Or.inl rfl, by simp⟩

/-- What a run of `transfers_start_transfer` ends in: nothing, for a file type it
does not support; a download that runs, and then the transfer holds the lock; or
a failure – because the lock was taken, an argument could not be read or the
call failed – and then the lock is what it was. -/
inductive StartOutcome (c : Ctx) : Ctx → Prop where
  /-- The file type is not supported. -/
  | unsupported (h : c.obj.fileType ≠ fileType1FirmwareUpgradeImage) :
      StartOutcome c { c with calls := c.calls ++ [.startTransfer] }
  /-- The device runs the download. -/
  | running (h : c.obj.fileType = fileType1FirmwareUpgradeImage)
      (hlock : c.transferInProgress = none) :
      StartOutcome c
        { c with
          obj := c.obj.withStatus .inProgress
          transferInProgress := some c.index
          calls := c.calls ++ [.startTransfer, .download 0] }
  /-- No download runs. -/
  | failed (h : c.obj.fileType = fileType1FirmwareUpgradeImage) {calls : List Call}
      (hcalls : RefusedCalls c calls) :
      StartOutcome c
        { c with
          obj := c.obj.withResult .failed faultCodeInternalError "Failed to perform upgrade"
          emitted := c.emitted ++ [.scheduleDownloadTransferFailed]
          calls := c.calls ++ .startTransfer :: calls }

theorem transfersStartTransfer_outcome (c : Ctx) (ret : ℤ) :
    StartOutcome c (transfersStartTransfer c ret) := by
  unfold transfersStartTransfer
  by_cases hft : c.obj.fileType = fileType1FirmwareUpgradeImage
  · have hne : c.obj.fileType ≠ "" := by
      rw [hft]
      decide
    simp only [if_neg hne, if_pos hft]
    rcases transfersFirmwareDoFirmwareupgrade_cases
        (transfersSetStatus { c with calls := c.calls ++ [.startTransfer] } .inProgress) ret with
      ⟨hlock, hdo⟩ | ⟨calls, hcalls, hdo⟩
    · rw [hdo]
      simpa [transfersSetStatus, ScheduleDownload.withStatus] using StartOutcome.running hft hlock
    · have hfailed : StartOutcome c _ := .failed hft hcalls
      rw [hdo]
      simpa [transfersSetStatus, transfersUpdateTransfercomplete, ScheduleDownload.withResult,
        TransferComplete.withResult] using
        hfailed
  · simpa [hft] using StartOutcome.unsupported hft

/-- The device is asked for a download: the transfer is one of a firmware image, its
arguments can be read, and the lock is free. -/
structure Asks (obj : ScheduleDownload) (lock : Option ℕ) : Prop where
  fileType : obj.fileType = fileType1FirmwareUpgradeImage
  url : obj.url.isSome
  username : obj.username.isSome
  password : obj.password.isSome
  free : lock = none

theorem transfersStartTransfer_of_asks {c : Ctx} (h : Asks c.obj c.transferInProgress) (ret : ℤ) :
    (transfersStartTransfer c ret).calls = c.calls ++ [.startTransfer, .download ret] := by
  obtain ⟨hft, hurl, huser, hpass, hlock⟩ := h
  obtain ⟨url, hurl⟩ := Option.isSome_iff_exists.mp hurl
  obtain ⟨user, huser⟩ := Option.isSome_iff_exists.mp huser
  obtain ⟨pass, hpass⟩ := Option.isSome_iff_exists.mp hpass
  have hne : fileType1FirmwareUpgradeImage ≠ "" := by decide
  by_cases hret : ret = 0
  · simp [transfersStartTransfer, transfersFirmwareDoFirmwareupgrade, transfersSetStatus, hft, hne,
      hurl, huser, hpass, hlock, hret]
  · simp [transfersStartTransfer, transfersFirmwareDoFirmwareupgrade, transfersSetStatus,
      transfersUpdateTransfercomplete, hft, hne, hurl, huser, hpass, hlock, hret]

/-- An accepted download takes the lock. -/
theorem transfersStartTransfer_accepted {c : Ctx} (h : Asks c.obj c.transferInProgress) :
    (transfersStartTransfer c 0).transferInProgress = some c.index := by
  obtain ⟨hft, hurl, huser, hpass, hlock⟩ := h
  obtain ⟨url, hurl⟩ := Option.isSome_iff_exists.mp hurl
  obtain ⟨user, huser⟩ := Option.isSome_iff_exists.mp huser
  obtain ⟨pass, hpass⟩ := Option.isSome_iff_exists.mp hpass
  have hne : fileType1FirmwareUpgradeImage ≠ "" := by decide
  simp [transfersStartTransfer, transfersFirmwareDoFirmwareupgrade, transfersSetStatus, hft, hne,
    hurl, huser, hpass, hlock]

/-- Whether the device is asked depends on what was asked of the transfer. -/
theorem Asks.of_request {obj obj' : ScheduleDownload} {lock : Option ℕ} (h : Asks obj lock)
    (hr : obj'.request = obj.request) : Asks obj' lock := by
  have hft : obj'.fileType = obj.fileType := congrArg Request.fileType hr
  have hurl : obj'.url = obj.url := congrArg Request.url hr
  have huser : obj'.username = obj.username := congrArg Request.username hr
  have hpass : obj'.password = obj.password := congrArg Request.password hr
  exact ⟨hft ▸ h.fileType, hurl ▸ h.url, huser ▸ h.username, hpass ▸ h.password, h.free⟩

theorem transfersStartTransfer_of_not_asks {c : Ctx} (h : ¬Asks c.obj c.transferInProgress)
    (ret : ℤ) : (transfersStartTransfer c ret).calls = c.calls ++ [.startTransfer] := by
  unfold transfersStartTransfer
  by_cases hft : c.obj.fileType = fileType1FirmwareUpgradeImage
  · have hne : fileType1FirmwareUpgradeImage ≠ "" := by decide
    simp only [hft, hne, if_true, if_false]
    unfold transfersFirmwareDoFirmwareupgrade
    split
    · simp [transfersSetStatus, transfersUpdateTransfercomplete]
    · next hlock =>
      split
      · next hurl huser hpass =>
        exact absurd ⟨hft, Option.isSome_of_eq_some hurl, Option.isSome_of_eq_some huser,
          Option.isSome_of_eq_some hpass, hlock⟩ h
      · simp [transfersSetStatus, transfersUpdateTransfercomplete]
  · simp [hft]

/-! ### `transfers_transfer_done` -/

/-- The lock after `transfers_firmware_transfer_done`, which only a firmware
transfer runs. -/
def Ctx.released (c : Ctx) : Option ℕ :=
  if c.obj.fileType = fileType1FirmwareUpgradeImage ∧ c.transferInProgress = some c.index then none
  else c.transferInProgress

theorem Ctx.released_eq {c : Ctx} {j : ℕ} (h : c.released = some j) :
    c.transferInProgress = some j := by
  rw [Ctx.released] at h
  split at h
  · cases h
  · exact h

theorem Ctx.released_ne {c : Ctx} {j : ℕ} (h : j ≠ c.index) :
    c.released = some j ↔ c.transferInProgress = some j := by
  rw [Ctx.released]
  split
  · next hc =>
    rw [hc.2]
    simp [h.symm]
  · exact Iff.rfl

theorem transfersTransferDone_of_empty {c : Ctx} (h : c.obj.fileType = "") :
    transfersTransferDone c = c := by
  rw [transfersTransferDone, if_pos h]

theorem transfersTransferDone_of_ne {c : Ctx} (h : c.obj.fileType ≠ "") :
    transfersTransferDone c =
      { c with obj := c.obj.withStatus .done, transferInProgress := c.released } := by
  rw [transfersTransferDone, if_neg h]
  by_cases hft : c.obj.fileType = fileType1FirmwareUpgradeImage
  · simp [hft, transfersSetStatus, transfersFirmwareTransferDone, Ctx.released,
      ScheduleDownload.withStatus]
  · simp [hft, transfersSetStatus, Ctx.released, ScheduleDownload.withStatus]

theorem calls_transfersTransferDone (c : Ctx) : (transfersTransferDone c).calls = c.calls := by
  by_cases h : c.obj.fileType = ""
  · rw [transfersTransferDone_of_empty h]
  · rw [transfersTransferDone_of_ne h]

/-! ### `transfers_firmwareupgrade_done` -/

/-- The transfer is inside a window whose mode the plugin acts on. -/
structure InWindow (obj : ScheduleDownload) (info : TransferInfo) : Prop where
  priv : obj.priv = some info
  last : info.lastTimeWindow ≠ 0
  mode : (lastMode obj info).Supported
  within : info.withinTimeWindow = true

/-- What a run of `transfers_firmwareupgrade_done` ends in: inside a window the
result is stored and the transfer fails or is done with it; elsewhere nothing
happens. -/
inductive UpgradeOutcome (c : Ctx) (faultCode : ℕ) (faultString : String) : Ctx → Prop where
  /-- The result arrives outside the windows. -/
  | ignored (h : ∀ info, ¬InWindow c.obj info) : UpgradeOutcome c faultCode faultString c
  /-- The result is a fault. -/
  | failed {info : TransferInfo} (hin : InWindow c.obj info) (hfc : faultCode ≠ 0) :
      UpgradeOutcome c faultCode faultString
        { c with
          obj := c.obj.withResult .failed faultCode faultString
          emitted := c.emitted ++ failedEvent c.obj.transferComplete.status .failed }
  /-- The result is a success. -/
  | done {info : TransferInfo} (hin : InWindow c.obj info) (hfc : faultCode = 0) :
      UpgradeOutcome c faultCode faultString
        (transfersTransferDone { c with
          obj := c.obj.withResult c.obj.transferComplete.status faultCode faultString })

theorem transfersFirmwareupgradeDone_outcome (c : Ctx) (faultCode : ℕ) (faultString : String) :
    UpgradeOutcome c faultCode faultString
      (transfersFirmwareupgradeDone c faultCode faultString) := by
  unfold transfersFirmwareupgradeDone
  split
  · next hpriv =>
    refine .ignored fun info hin => ?_
    rw [hin.priv] at hpriv
    cases hpriv
  · next info hpriv =>
    have hsame : ∀ info', InWindow c.obj info' → info' = info := fun info' hin => by
      rw [hin.priv] at hpriv
      exact Option.some.inj hpriv
    split
    · next hlast => exact .ignored fun info' hin => hin.last (hsame info' hin ▸ hlast)
    · next hlast =>
      split
      · next hmode =>
        split
        · next hwithin =>
          have hin : InWindow c.obj info := ⟨hpriv, hlast, hmode, hwithin⟩
          split
          · next hfc => exact .done hin hfc
          · next hfc => exact .failed hin hfc
        · next hwithin => exact .ignored fun info' hin => hwithin (hsame info' hin ▸ hin.within)
      · next hmode => exact .ignored fun info' hin => hmode (hsame info' hin ▸ hin.mode)

/-! ### `transfers_handle_transfer` -/

/-- The last window has been opened and the transfer is outside its windows, in a
mode the plugin acts on: what `transfers_handle_transfer` takes for the end of
the windows. -/
structure PastWindows (obj : ScheduleDownload) (info : TransferInfo) : Prop where
  priv : obj.priv = some info
  last : info.lastTimeWindow ≠ 0
  mode : (lastMode obj info).Supported
  outside : info.withinTimeWindow = false
  number : info.numberOfTimeWindow = info.lastTimeWindow

/-- What `transfers_handle_transfer` makes of a transfer it gives up. -/
def transfersGiveUp (c : Ctx) : Ctx :=
  transfersTransferDone { c with
    obj := c.obj.withResult c.obj.transferComplete.status faultCodeInternalError
      "TimeWindow(s) ended" }

/-- What a run of `transfers_handle_transfer` ends in: a start, the end of the
windows, or nothing. -/
inductive HandleOutcome (c : Ctx) (ret : ℤ) : Ctx → Prop where
  /-- Nothing is to be done, or not yet. -/
  | unchanged (hnot : ∀ info, c.obj.transferComplete.status ≠ .done →
      ¬InWindow c.obj info ∧ ¬PastWindows c.obj info) : HandleOutcome c ret c
  /-- The transfer is started. -/
  | start {info : TransferInfo} (hst : c.obj.transferComplete.status ≠ .done)
      (hin : InWindow c.obj info) : HandleOutcome c ret (transfersStartTransfer c ret)
  /-- The transfer is given up. -/
  | gaveUp {info : TransferInfo} (hst : c.obj.transferComplete.status ≠ .done)
      (hpast : PastWindows c.obj info) : HandleOutcome c ret (transfersGiveUp c)

theorem transferIsDone_iff {obj : ScheduleDownload} :
    transferIsDone obj = true ↔ obj.transferComplete.status = .done := by
  rw [transferIsDone, decide_eq_true_eq]

theorem transfersHandleTransfer_outcome (c : Ctx) (ret : ℤ) :
    HandleOutcome c ret (transfersHandleTransfer c ret) := by
  unfold transfersHandleTransfer
  split
  · next hdone => exact .unchanged fun info hst => absurd (transferIsDone_iff.mp hdone) hst
  · next hdone =>
    have hst : c.obj.transferComplete.status ≠ .done := fun h => hdone (transferIsDone_iff.mpr h)
    split
    · next hpriv =>
      refine .unchanged fun info _ => ⟨fun hin => ?_, fun hpast => ?_⟩
      · rw [hin.priv] at hpriv
        cases hpriv
      · rw [hpast.priv] at hpriv
        cases hpriv
    · next info hpriv =>
      have hin' : ∀ info', InWindow c.obj info' → info' = info := fun info' hin => by
        rw [hin.priv] at hpriv
        exact Option.some.inj hpriv
      have hpast' : ∀ info', PastWindows c.obj info' → info' = info := fun info' hpast => by
        rw [hpast.priv] at hpriv
        exact Option.some.inj hpriv
      split
      · next hlast =>
        exact .unchanged fun info' _ => ⟨fun hin => hin.last (hin' info' hin ▸ hlast),
          fun hpast => hpast.last (hpast' info' hpast ▸ hlast)⟩
      · next hlast =>
        split
        · next hmode =>
          split
          · next hwithin =>
            exact .start hst ⟨hpriv, hlast, hmode, hwithin⟩
          · next hwithin =>
            have hout : info.withinTimeWindow = false := Bool.eq_false_iff.mpr hwithin
            split
            · next hnum => exact .gaveUp hst ⟨hpriv, hlast, hmode, hout, hnum⟩
            · next hnum =>
              exact .unchanged fun info' _ => ⟨fun hin => hwithin (hin' info' hin ▸ hin.within),
                fun hpast => hnum (hpast' info' hpast ▸ hpast.number)⟩
        · next hmode =>
          exact .unchanged fun info' _ => ⟨fun hin => hmode (hin' info' hin ▸ hin.mode),
            fun hpast => hmode (hpast' info' hpast ▸ hpast.mode)⟩

/-! ### `_schedule_download_transfer_failed` -/

/-- The window whose retries a failure counts against. -/
structure RetryWindow (obj : ScheduleDownload) (info : TransferInfo) (w : TimeWindow) : Prop where
  priv : obj.priv = some info
  window : obj.timeWindowList.find info.lastTimeWindow = some w
  mode : (transfersTimewindowGetMode (some w)).Supported
  within : info.withinTimeWindow = true

/-- What a run of `_schedule_download_transfer_failed` ends in: nothing, the end of
the transfer when the retries of its last window are used up, or one more
attempt. -/
inductive FailedOutcome (c : Ctx) (ret : ℤ) : Ctx → Prop where
  /-- The failure is not acted on. -/
  | ignored (hnot : ∀ info w, RetryWindow c.obj info w → w.maxRetries ≤ 0 ∧
      info.numberOfTimeWindow ≠ info.lastTimeWindow) : FailedOutcome c ret c
  /-- No retry is left in the last window. -/
  | exhausted {info : TransferInfo} {w : TimeWindow} (hr : RetryWindow c.obj info w)
      (hmr : w.maxRetries ≤ 0) (hnum : info.numberOfTimeWindow = info.lastTimeWindow) :
      FailedOutcome c ret (transfersTransferDone c)
  /-- The transfer is tried again. -/
  | retried {info : TransferInfo} {w : TimeWindow} (hr : RetryWindow c.obj info w)
      (hmr : ¬w.maxRetries ≤ 0) :
      FailedOutcome c ret (transfersStartTransfer
        (transfersTimewindowSetMaxretries c info.lastTimeWindow (w.maxRetries - 1)) ret)

theorem scheduleDownloadTransferFailed_outcome (c : Ctx) (ret : ℤ) :
    FailedOutcome c ret (scheduleDownloadTransferFailed c ret) := by
  unfold scheduleDownloadTransferFailed
  split
  · next hpriv =>
    refine .ignored fun info w hr => ?_
    rw [hr.priv] at hpriv
    cases hpriv
  · next info hpriv =>
    have hinfo : ∀ info' w', RetryWindow c.obj info' w' → info' = info := fun info' w' hr => by
      rw [hr.priv] at hpriv
      exact Option.some.inj hpriv
    split
    · next hfind =>
      refine .ignored fun info' w' hr => ?_
      have hw := hr.window
      rw [hinfo info' w' hr, hfind] at hw
      cases hw
    · next w hfind =>
      have hwin : ∀ info' w', RetryWindow c.obj info' w' → w' = w := fun info' w' hr => by
        have hw := hr.window
        rw [hinfo info' w' hr, hfind] at hw
        exact (Option.some.inj hw).symm
      split
      · next hmode =>
        split
        · next hwithin =>
          have hr : RetryWindow c.obj info w := ⟨hpriv, hfind, hmode, hwithin⟩
          split
          · next hmr =>
            split
            · next hnum => exact .exhausted hr hmr hnum
            · next hnum =>
              refine .ignored fun info' w' hr' => ?_
              rw [hinfo info' w' hr', hwin info' w' hr']
              exact ⟨hmr, hnum⟩
          · next hmr => exact .retried hr hmr
        · next hwithin =>
          exact .ignored fun info' w' hr => absurd (hinfo info' w' hr ▸ hr.within) hwithin
      · next hmode =>
        exact .ignored fun info' w' hr => absurd (hwin info' w' hr ▸ hr.mode) hmode

/-! ### `_timewindow_started` and `_timewindow_ended` -/

theorem timewindowStarted_cases (c : Ctx) (k : ℕ) (ret : ℤ) :
    (c.obj.priv = none ∧ timewindowStarted c k ret = c) ∨
      ∃ info, c.obj.priv = some info ∧
        HandleOutcome { c with obj := c.obj.withPriv (info.opened k) } ret
          (timewindowStarted c k ret) := by
  unfold timewindowStarted
  split
  · next hpriv => exact Or.inl ⟨hpriv, rfl⟩
  · next info hpriv => exact Or.inr ⟨info, hpriv, transfersHandleTransfer_outcome _ ret⟩

theorem timewindowEnded_cases (c : Ctx) (ret : ℤ) :
    (c.obj.priv = none ∧ timewindowEnded c ret = c) ∨
      ∃ info, c.obj.priv = some info ∧
        HandleOutcome { c with obj := c.obj.withPriv info.closed } ret (timewindowEnded c ret) := by
  unfold timewindowEnded
  split
  · next hpriv => exact Or.inl ⟨hpriv, rfl⟩
  · next info hpriv => exact Or.inr ⟨info, hpriv, transfersHandleTransfer_outcome _ ret⟩

/-! ### Start-up -/

/-- The fault `handle_pending_upgrade` reports. -/
def pendingFault : Option String → ℕ × String
  | none => (faultCodeInternalError, "Internal failure")
  | some status =>
    if status ≠ "Active" then (faultCodeInternalError, "Failed to apply firmware") else (0, "")

theorem handlePendingUpgrade_eq (c : Ctx) (status : Option String) :
    handlePendingUpgrade c status =
      transfersFirmwareupgradeDone c (pendingFault status).1 (pendingFault status).2 := by
  cases status with
  | none => rfl
  | some st =>
    by_cases h : st = "Active"
    · simp [handlePendingUpgrade, pendingFault, h]
    · simp [handlePendingUpgrade, pendingFault, h]

/-- The pending upgrade is a success only if the bus says that the active image is
active. -/
theorem pendingFault_eq_zero {status : Option String} :
    (pendingFault status).1 = 0 ↔ status = some "Active" := by
  cases status with
  | none => simp [pendingFault, faultCodeInternalError]
  | some st =>
    by_cases h : st = "Active"
    · simp [pendingFault, h]
    · simp [pendingFault, h, faultCodeInternalError]

/-- What a run of `transfers_handle_in_progress_transfer` ends in: the check of the
pending upgrade of a firmware transfer that is in progress, or nothing. -/
theorem transfersHandleInProgressTransfer_cases (c : Ctx) (status : Option String) :
    transfersHandleInProgressTransfer c status = c ∨
      c.obj.transferComplete.status = .inProgress ∧
        c.obj.fileType = fileType1FirmwareUpgradeImage ∧
        UpgradeOutcome c (pendingFault status).1 (pendingFault status).2
          (transfersHandleInProgressTransfer c status) := by
  unfold transfersHandleInProgressTransfer
  split
  · exact Or.inl rfl
  · split
    · next h =>
      refine Or.inr ⟨h.1, h.2, ?_⟩
      rw [handlePendingUpgrade_eq]
      exact transfersFirmwareupgradeDone_outcome c _ _
    · exact Or.inl rfl

end Tr069
