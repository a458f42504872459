import Mathlib.Data.Int.Notation
import Mathlib.Data.Nat.Notation

/-!
# The `ScheduleDownload` objects of the data model

The persistent objects of `ManagementServer.Transfers.ScheduleDownload.{i}.`, as
`cwmp_plugin-definition.odl` declares them, together with what the plugin hangs
on their `priv` pointers at run time.

A transfer has one or two time windows, which `TimeWindowList` makes impossible
to break: its first window is always there and its second may be missing. The
three status texts of a window and the four of a `TransferComplete` are the ones
`transfers_timewindow.c` and `transfers.c` write; the enumerations of
`transfers.h` have one more value, `undefined`, for a text that neither writes.
-/

namespace Tr069

/-! ### Time windows -/

/-- `TimeWindowList.{i}.Status`. -/
inductive TimewindowStatus where
  | idle
  | started
  | ended
  deriving DecidableEq

/-- `timewindow_mode_t`: how `WindowMode` is read. -/
inductive TimewindowMode where
  | undefined
  | atAnyTime
  | immediately
  | whenIdle
  | confirmationNeeded
  deriving DecidableEq

/-- An `amxp_timer_t`: off, or running with so many milliseconds left. -/
inductive Timer where
  | off
  | running (remaining : ℕ)
  deriving DecidableEq

/-- `amxp_timer_remaining_time`. -/
def Timer.remainingTime : Timer → ℕ
  | .off => 0
  | .running ms => ms

/-- A timer after some milliseconds have gone by. -/
def Timer.elapse (ms : ℕ) : Timer → Timer
  | .off => .off
  | .running left => .running (left - ms)

/-- The timer is running. -/
def Timer.isRunning : Timer → Bool
  | .off => false
  | .running _ => true

/-- `timewindow_info_t`, the run-time part of a window: its two timers, each of
which may be missing. -/
structure TimewindowInfo where
  start : Option Timer
  stop : Option Timer

/-- `TimeWindowList.{i}.`, with its `priv`. -/
structure TimeWindow where
  status : TimewindowStatus
  windowStart : UInt32
  windowEnd : UInt32
  windowMode : String
  maxRetries : Int32
  priv : Option TimewindowInfo

/-- The window with another status. -/
def TimeWindow.withStatus (w : TimeWindow) (status : TimewindowStatus) : TimeWindow :=
  { w with status := status }

/-- The start timer of the window is running. -/
def TimeWindow.StartPending (w : TimeWindow) : Prop :=
  ∃ info ms, w.priv = some info ∧ info.start = some (.running ms)

/-- The end timer of the window is running. -/
def TimeWindow.EndPending (w : TimeWindow) : Prop :=
  ∃ info ms, w.priv = some info ∧ info.stop = some (.running ms)

/-- The one or two windows of a transfer. -/
structure TimeWindowList where
  inst1 : TimeWindow
  inst2 : Option TimeWindow

namespace TimeWindowList

/-- `amxd_object_findf(obj, ".TimeWindowList.%d.", k)`. -/
def find (l : TimeWindowList) : ℕ → Option TimeWindow
  | 1 => some l.inst1
  | 2 => l.inst2
  | _ => none

/-- `amxd_object_get_instance_count`. -/
def instanceCount (l : TimeWindowList) : ℕ :=
  if l.inst2.isSome then 2 else 1

/-- The list with window `k` changed. -/
def modify (l : TimeWindowList) : ℕ → (TimeWindow → TimeWindow) → TimeWindowList
  | 1, f => { l with inst1 := f l.inst1 }
  | 2, f => { l with inst2 := l.inst2.map f }
  | _, _ => l

/-- The list with every window changed. -/
def map (l : TimeWindowList) (f : TimeWindow → TimeWindow) : TimeWindowList :=
  ⟨f l.inst1, l.inst2.map f⟩

/-- The modes of the windows. -/
def modes (l : TimeWindowList) : String × Option String :=
  (l.inst1.windowMode, l.inst2.map TimeWindow.windowMode)

variable {l : TimeWindowList} {f : TimeWindow → TimeWindow} {j k : ℕ}

@[simp] theorem find_modify_self : (l.modify k f).find k = (l.find k).map f := by
  match k with
  | 0 => rfl
  | 1 => rfl
  | 2 => rfl
  | _ + 3 => rfl

theorem find_modify_ne (h : j ≠ k) : (l.modify k f).find j = l.find j := by
  match k with
  | 0 => rfl
  | _ + 3 => rfl
  | 1 =>
    match j with
    | 0 => rfl
    | 1 => exact absurd rfl h
    | 2 => rfl
    | _ + 3 => rfl
  | 2 =>
    match j with
    | 0 => rfl
    | 1 => rfl
    | 2 => exact absurd rfl h
    | _ + 3 => rfl

theorem find_modify : (l.modify k f).find j = if j = k then (l.find j).map f else l.find j := by
  by_cases h : j = k
  · rw [if_pos h, h, find_modify_self]
  · rw [if_neg h, find_modify_ne h]

theorem modify_modify {g : TimeWindow → TimeWindow} :
    (l.modify k f).modify k g = l.modify k fun w => g (f w) := by
  obtain ⟨w, o⟩ := l
  match k with
  | 0 => rfl
  | 1 => rfl
  | 2 => cases o <;> rfl
  | _ + 3 => rfl

@[simp] theorem find_map : (l.map f).find k = (l.find k).map f := by
  match k with
  | 0 => rfl
  | 1 => rfl
  | 2 => rfl
  | _ + 3 => rfl

@[simp] theorem instanceCount_modify : (l.modify k f).instanceCount = l.instanceCount := by
  match k with
  | 0 => rfl
  | 1 => rfl
  | 2 => simp [modify, instanceCount]
  | _ + 3 => rfl

theorem modes_map (hf : ∀ w, (f w).windowMode = w.windowMode) : (l.map f).modes = l.modes := by
  obtain ⟨w, o⟩ := l
  cases o <;> simp [map, modes, hf]

theorem modes_modify (hf : ∀ w, (f w).windowMode = w.windowMode) :
    (l.modify k f).modes = l.modes := by
  obtain ⟨w, o⟩ := l
  match k with
  | 0 => rfl
  | 1 => simp [modify, modes, hf]
  | 2 => cases o <;> simp [modify, modes, hf]
  | _ + 3 => rfl

/-- The windows are numbered from one to their count. -/
theorem isSome_find : (l.find k).isSome ↔ 1 ≤ k ∧ k ≤ l.instanceCount := by
  obtain ⟨w, o⟩ := l
  match k with
  | 0 => simp [find]
  | 1 => cases o <;> simp [find, instanceCount]
  | 2 => cases o <;> simp [find, instanceCount]
  | n + 3 => cases o <;> simp [find, instanceCount]

theorem instanceCount_pos : 1 ≤ l.instanceCount := by
  rw [instanceCount]
  split <;> omega

end TimeWindowList

/-! ### Transfers -/

/-- `TransferComplete.Status`. -/
inductive TransferStatus where
  | idle
  | inProgress
  | failed
  | done
  deriving DecidableEq

/-- `ScheduleDownload.{i}.TransferComplete.`; its times count seconds. -/
structure TransferComplete where
  status : TransferStatus
  initiator : String
  commandKey : String
  transferType : String
  faultCode : ℕ
  faultString : String
  startTime : ℤ
  completeTime : ℤ
  deriving DecidableEq

/-- `transfer_info_t`, the run-time part of a transfer. -/
structure TransferInfo where
  numberOfTimeWindow : ℕ
  lastTimeWindow : ℕ
  withinTimeWindow : Bool
  deriving DecidableEq

/-- `ManagementServer.Transfers.ScheduleDownload.{i}.`, with its `priv`. A text
that cannot be read from the data model is `none`. -/
structure ScheduleDownload where
  commandKey : String
  fileType : String
  url : Option String
  username : Option String
  password : Option String
  timeWindowList : TimeWindowList
  transferComplete : TransferComplete
  priv : Option TransferInfo

/-- What `addScheduleDownload` has asked for, which nothing changes afterwards. -/
structure Request where
  commandKey : String
  fileType : String
  url : Option String
  username : Option String
  password : Option String
  modes : String × Option String

/-- The request a transfer was made for. -/
def ScheduleDownload.request (obj : ScheduleDownload) : Request :=
  ⟨obj.commandKey, obj.fileType, obj.url, obj.username, obj.password, obj.timeWindowList.modes⟩

/-! ### What a handler works on -/

/-- The events the data model queues for the plugin, as the filters of
`cwmp_plugin-definition.odl` let them through: an instance was added, the Status
of a window changed to Started or to Ended, the Status of a transfer changed to
Failed. -/
inductive DmEvent where
  | scheduleDownloadAdded
  | timewindowStarted (k : ℕ)
  | timewindowEnded (k : ℕ)
  | scheduleDownloadTransferFailed
  deriving DecidableEq

/-- What is kept on record of the functions run for a transfer:
`transfers_start_transfer`, a `Download` call with its answer, and the timer
callbacks of a window. -/
inductive Call where
  | startTransfer
  | download (ret : ℤ)
  | startTimerCb (k : ℕ)
  | endTimerCb (k : ℕ)
  deriving DecidableEq

/-- What a function of the plugin that is given the object of a transfer reads
and writes: the object, the global `transfer_in_progress` (the index of the
instance it points to), the events its transactions queue and the calls on
record. -/
structure Ctx where
  index : ℕ
  obj : ScheduleDownload
  transferInProgress : Option ℕ
  emitted : List DmEvent
  calls : List Call

/-- The transfer is the one `transfer_in_progress` points to. -/
def Ctx.Mine (c : Ctx) : Prop := c.transferInProgress = some c.index

/-! ### Constants of `transfers.h` -/

/-- `FILETYPE_1_FIRMWARE_UPGRADE_IMAGE`. -/
def fileType1FirmwareUpgradeImage : String := "1 Firmware Upgrade Image"

/-- `FAULT_CODE_INTERNAL_ERROR`. -/
def faultCodeInternalError : ℕ := 9002

/-- `FAULT_CODE_FILE_TRANSFER_FAILURE`. -/
def faultCodeFileTransferFailure : ℕ := 9010

/-- `FAULT_CODE_UNSUPPORTED_PROTOCOL_FOR_FILE_TRANSFER`. -/
def faultCodeUnsupportedProtocolForFileTransfer : ℕ := 9013

end Tr069
