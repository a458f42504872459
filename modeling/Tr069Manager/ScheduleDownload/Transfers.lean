import Tr069Manager.ScheduleDownload.TimeWindow

/-!
# A transfer: its status, its download and its result

`transfers.c` and `transfers_firmware.c`, each function as it acts on the object
of one transfer. The answer of the bus to a `Download` call is an argument
(`ret`, zero on success), and so is what the bus answers about the active
firmware image after a restart.
-/

namespace Tr069

/-! ### Status and fault -/

/-- `transfers_set_status`. The data model reports a change, not a write: the
event of the failure is queued when the status was something else. -/
def transfersSetStatus (c : Ctx) (status : TransferStatus) : Ctx :=
  { c with
    obj := { c.obj with transferComplete := { c.obj.transferComplete with status := status } }
    emitted := c.emitted ++
      if status = .failed ∧ c.obj.transferComplete.status ≠ .failed then
        [.scheduleDownloadTransferFailed]
      else [] }

/-- `transfers_update_transfercomplete`; a missing argument leaves its field as it
is. -/
def transfersUpdateTransfercomplete (c : Ctx) (startTime completeTime : Option ℤ)
    (faultCode : Option ℕ) (faultString : Option String) : Ctx :=
  { c with
    obj := { c.obj with
      transferComplete := { c.obj.transferComplete with
        startTime := startTime.getD c.obj.transferComplete.startTime
        completeTime := completeTime.getD c.obj.transferComplete.completeTime
        faultCode := faultCode.getD c.obj.transferComplete.faultCode
        faultString := faultString.getD c.obj.transferComplete.faultString } } }

/-- `transfer_is_done`. -/
def transferIsDone (obj : ScheduleDownload) : Bool :=
  obj.transferComplete.status = .done

/-! ### The firmware download -/

/-- `transfers_firmware_do_firmwareupgrade`, with its return value. The lock is
taken before the `Download` call and given back when the call fails, but only if
this run has taken it. -/
def transfersFirmwareDoFirmwareupgrade (c : Ctx) (ret : ℤ) : Ctx × ℤ :=
  match c.transferInProgress with
  | some _ => (c, -1)
  | none =>
    match c.obj.url, c.obj.username, c.obj.password with
    | some _, some _, some _ =>
      if ret = 0 then
        ({ c with transferInProgress := some c.index, calls := c.calls ++ [.download ret] }, 0)
      else ({ c with calls := c.calls ++ [.download ret] }, -1)
    | _, _, _ => (c, -1)

/-- `transfers_firmware_transfer_done`. -/
def transfersFirmwareTransferDone (c : Ctx) : Ctx :=
  { c with
    transferInProgress :=
      if c.transferInProgress = some c.index then none else c.transferInProgress }

/-! ### Starting and ending a transfer -/

/-- `transfers_start_transfer`. -/
def transfersStartTransfer (c : Ctx) (ret : ℤ) : Ctx :=
  let c := { c with calls := c.calls ++ [.startTransfer] }
  if c.obj.fileType = "" then c
  else if c.obj.fileType = fileType1FirmwareUpgradeImage then
    let r := transfersFirmwareDoFirmwareupgrade (transfersSetStatus c .inProgress) ret
    if r.2 ≠ 0 then
      transfersSetStatus
        (transfersUpdateTransfercomplete r.1 none none (some faultCodeInternalError)
          (some "Failed to perform upgrade"))
        .failed
    else r.1
  else c

/-- `transfers_transfer_done`. -/
def transfersTransferDone (c : Ctx) : Ctx :=
  if c.obj.fileType = "" then c
  else if c.obj.fileType = fileType1FirmwareUpgradeImage then
    transfersSetStatus (transfersFirmwareTransferDone c) .done
  else transfersSetStatus c .done

/-- The mode of the window that was opened last. -/
def lastMode (obj : ScheduleDownload) (info : TransferInfo) : TimewindowMode :=
  transfersTimewindowGetMode (obj.timeWindowList.find info.lastTimeWindow)

/-- `transfers_firmwareupgrade_done`. -/
def transfersFirmwareupgradeDone (c : Ctx) (faultCode : ℕ) (faultString : String) : Ctx :=
  match c.obj.priv with
  | none => c
  | some info =>
    if info.lastTimeWindow = 0 then c
    else if (lastMode c.obj info).Supported then
      if info.withinTimeWindow then
        let c := transfersUpdateTransfercomplete c none none (some faultCode) (some faultString)
        if faultCode = 0 then transfersTransferDone c else transfersSetStatus c .failed
      else c
    else c

/-- `transfers_handle_transfer`. -/
def transfersHandleTransfer (c : Ctx) (ret : ℤ) : Ctx :=
  if transferIsDone c.obj then c
  else match c.obj.priv with
    | none => c
    | some info =>
      if info.lastTimeWindow = 0 then c
      else if (lastMode c.obj info).Supported then
        if info.withinTimeWindow then transfersStartTransfer c ret
        else if info.numberOfTimeWindow = info.lastTimeWindow then
          transfersTransferDone
            (transfersUpdateTransfercomplete c none none (some faultCodeInternalError)
              (some "TimeWindow(s) ended"))
        else c
      else c

/-! ### Start-up -/

/-- One round of the loop of `transfers_transfer_add_info`, for window `k`. -/
def transferInfoScan (l : TimeWindowList) (info : TransferInfo) (k : ℕ) : TransferInfo :=
  match (l.find k).map TimeWindow.status with
  | some .started => { info with lastTimeWindow := k, withinTimeWindow := true }
  | some .ended => { info with lastTimeWindow := k, withinTimeWindow := false }
  | _ => info

/-- The information `transfers_transfer_add_info` builds from the windows. -/
def transferInfoOf (l : TimeWindowList) : TransferInfo :=
  ((List.range l.instanceCount).map (· + 1)).foldl (transferInfoScan l)
    ⟨l.instanceCount, 0, false⟩

/-- `transfers_transfer_add_info`. -/
def transfersTransferAddInfo (c : Ctx) : Ctx :=
  match c.obj.priv with
  | some _ => c
  | none =>
    transfersTimewindowAddInfo
      { c with obj := { c.obj with priv := some (transferInfoOf c.obj.timeWindowList) } }

/-- `handle_pending_upgrade`. `status` is the Status of the active firmware image,
missing when the bus has no answer. -/
def handlePendingUpgrade (c : Ctx) (status : Option String) : Ctx :=
  match status with
  | none => transfersFirmwareupgradeDone c faultCodeInternalError "Internal failure"
  | some status =>
    if status ≠ "Active" then
      transfersFirmwareupgradeDone c faultCodeInternalError "Failed to apply firmware"
    else transfersFirmwareupgradeDone c 0 ""

/-- `transfers_handle_in_progress_transfer`. -/
def transfersHandleInProgressTransfer (c : Ctx) (status : Option String) : Ctx :=
  if c.obj.fileType = "" then c
  else if c.obj.transferComplete.status = .inProgress ∧
      c.obj.fileType = fileType1FirmwareUpgradeImage then
    handlePendingUpgrade c status
  else c

/-- What `deferred_init_timer_cb` does with one instance. -/
def deferredInit (status : Option String) (c : Ctx) : Ctx :=
  transfersTimewindowStart (transfersHandleInProgressTransfer (transfersTransferAddInfo c) status)

end Tr069
