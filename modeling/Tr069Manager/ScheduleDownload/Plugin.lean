import Mathlib.Logic.Function.Basic
import Tr069Manager.Lib.Runs
import Tr069Manager.ScheduleDownload.Transfers

/-!
# The plugin: event handlers, globals and steps

`transfers_dm.c`, and the state machine the plugin is once its event loop runs.
An event of the loop is a timer that fires, a notification of the firmware
image, the next queued event of the data model, a request to add or to delete an
instance, the end of the process or its start.

The data model queues its events and the plugin handles them in that order, each
at any time after the change it reports. A window timer that runs may fire at
any time, in any order with the others, once the deferred initialisation has
run: its own timer was started first, with no delay. A handler that follows a
pointer to an object that is gone ends the process (`Plugin.alive`), and then
only a restart is left. Objects are told apart by their index, which is never
used twice.
-/

namespace Tr069

/-! ### The handlers of the data-model events -/

/-- `_timewindow_started`, for the window of index `k`. -/
def timewindowStarted (c : Ctx) (k : ℕ) (ret : ℤ) : Ctx :=
  match c.obj.priv with
  | none => c
  | some info =>
    transfersHandleTransfer
      { c with obj := { c.obj with
          priv := some { info with withinTimeWindow := true, lastTimeWindow := k } } }
      ret

/-- `_timewindow_ended`. -/
def timewindowEnded (c : Ctx) (ret : ℤ) : Ctx :=
  match c.obj.priv with
  | none => c
  | some info =>
    transfersHandleTransfer
      { c with obj := { c.obj with priv := some { info with withinTimeWindow := false } } } ret

/-- `_schedule_download_transfer_failed`. -/
def scheduleDownloadTransferFailed (c : Ctx) (ret : ℤ) : Ctx :=
  match c.obj.priv with
  | none => c
  | some info =>
    match c.obj.timeWindowList.find info.lastTimeWindow with
    | none => c
    | some w =>
      if (transfersTimewindowGetMode (some w)).Supported then
        if info.withinTimeWindow then
          if w.maxRetries ≤ 0 then
            if info.numberOfTimeWindow = info.lastTimeWindow then transfersTransferDone c else c
          else
            transfersStartTransfer
              (transfersTimewindowSetMaxretries c info.lastTimeWindow (w.maxRetries - 1)) ret
        else c
      else c

/-- `_scheduleDownload_added`. -/
def scheduleDownloadAdded (c : Ctx) : Ctx :=
  transfersTimewindowStart (transfersTransferAddInfo c)

/-- The handler of a queued event. -/
def handleDmEvent (ret : ℤ) : DmEvent → Ctx → Ctx
  | .scheduleDownloadAdded, c => scheduleDownloadAdded c
  | .timewindowStarted k, c => timewindowStarted c k ret
  | .timewindowEnded _, c => timewindowEnded c ret
  | .scheduleDownloadTransferFailed, c => scheduleDownloadTransferFailed c ret

/-- A handler that is given the path of an object that no longer exists: the ones
that read `priv` of the missing transfer do not survive it. -/
def DmEvent.survivesMissing : DmEvent → Bool
  | .scheduleDownloadAdded => true
  | _ => false

/-! ### The firmware notification -/

/-- The statuses of the firmware image that end a download. -/
def firmwareFailed (status : String) : Bool :=
  status = "DownloadFailed" || status = "ValidationFailed" ||
    status = "InstallationFailed" || status = "ActivationFailed"

/-- The fault code of a failed download. -/
def firmwareFaultCode (bootFailureLog : String) : ℕ :=
  if bootFailureLog = "Protocol not supported" then faultCodeUnsupportedProtocolForFileTransfer
  else faultCodeFileTransferFailure

/-- What `firmwareimage_notification` does, on a status that ends a download, with
the transfer `transfer_in_progress` points to. -/
def firmwareimageFailure (bootFailureLog : String) (c : Ctx) : Ctx :=
  { transfersFirmwareupgradeDone c (firmwareFaultCode bootFailureLog) bootFailureLog with
    transferInProgress := none }

/-! ### The state of the process -/

/-- The state of the plugin: the `ScheduleDownload` instances of its data model by
index and the last index given out, the global `transfer_in_progress`, whether
the deferred initialisation is still to run, the queue of data-model events, and
whether the process is up. `calls` records what was run for which instance, and
`downloads` the instances whose `Download` the device has accepted and not yet
ended. -/
structure Plugin where
  dm : ℕ → Option ScheduleDownload
  lastIndex : ℕ
  transferInProgress : Option ℕ
  deferredInitTimer : Bool
  queue : List (ℕ × DmEvent)
  alive : Bool
  calls : List (ℕ × Call)
  downloads : List ℕ

namespace Plugin

/-- The plugin right after its first start, with an empty data model. -/
def init : Plugin := ⟨fun _ => none, 0, none, true, [], true, [], []⟩

/-- What a handler working on an instance starts from. -/
def ctx (s : Plugin) (i : ℕ) (obj : ScheduleDownload) : Ctx :=
  ⟨i, obj, s.transferInProgress, [], []⟩

/-- The `Download` calls among the calls on record that the device accepted. -/
def accepted (calls : List Call) : List Call := calls.filter (· = .download 0)

/-- The state after a handler has run. -/
def commit (s : Plugin) (c : Ctx) : Plugin :=
  { s with
    dm := Function.update s.dm c.index (some c.obj)
    transferInProgress := c.transferInProgress
    queue := s.queue ++ c.emitted.map fun ev => (c.index, ev)
    calls := s.calls ++ c.calls.map fun call => (c.index, call)
    downloads := s.downloads ++ (accepted c.calls).map fun _ => c.index }

/-- Run a handler on instance `i`, if there is one. -/
def onObject (s : Plugin) (i : ℕ) (f : Ctx → Ctx) : Plugin :=
  match s.dm i with
  | none => s
  | some obj => s.commit (f (s.ctx i obj))

/-- The indices given out so far, in the order `amxd_object_for_each` visits
them. -/
def indices (s : Plugin) : List ℕ := (List.range s.lastIndex).map (· + 1)

/-- Run a handler on every instance. -/
def forEachInstance (s : Plugin) (f : ℕ → Ctx → Ctx) : Plugin :=
  s.indices.foldl (fun s i => s.onObject i (f i)) s

/-- `transfers_save`. -/
def transfersSave (s : Plugin) : Plugin := s.forEachInstance fun _ => transfersTimewindowSave

/-- `deferred_init_timer_cb`. -/
def deferredInitTimerCb (s : Plugin) (status : ℕ → Option String) : Plugin :=
  { s with deferredInitTimer := false }.forEachInstance fun i => deferredInit (status i)

/-- `firmwareimage_notification`. -/
def firmwareimageNotification (s : Plugin) (status bootFailureLog : Option String) : Plugin :=
  match s.transferInProgress, status with
  | none, _ => s
  | some _, none => s
  | some i, some status =>
    if firmwareFailed status then
      match s.dm i with
      | none => { s with alive := false }
      | some _ => s.onObject i (firmwareimageFailure (bootFailureLog.getD ""))
    else if status = "Validating" then s.transfersSave
    else s

end Plugin

/-! ### Adding an instance -/

/-- One entry of the argument `TimeWindowList` of `addScheduleDownload`. -/
structure TimeWindowArgs where
  windowStart : UInt32
  windowEnd : UInt32
  windowMode : String
  maxRetries : Int32

/-- The arguments of `addScheduleDownload`. -/
structure ScheduleDownloadArgs where
  initiator : String
  commandKey : String
  fileType : String
  url : Option String
  username : Option String
  password : Option String
  timeWindowList : List TimeWindowArgs

/-- The window instance the transaction of `addScheduleDownload` creates. -/
def TimeWindowArgs.toTimeWindow (a : TimeWindowArgs) : TimeWindow :=
  ⟨.idle, a.windowStart, a.windowEnd, a.windowMode, a.maxRetries, none⟩

/-- The windows `addScheduleDownload` takes from its argument: the first entry,
which has to be there, and the second. -/
def timeWindowListOfArgs : List TimeWindowArgs → Option TimeWindowList
  | [] => none
  | [a] => some ⟨a.toTimeWindow, none⟩
  | a :: b :: _ => some ⟨a.toTimeWindow, some b.toTimeWindow⟩

/-- A request makes Idle windows without timers. -/
theorem window_of_args {args : List TimeWindowArgs} {l : TimeWindowList} {k : ℕ} {w : TimeWindow}
    (h : timeWindowListOfArgs args = some l) (hw : l.find k = some w) :
    w.status = .idle ∧ w.priv = none := by
  match args, k with
  | [], _ => cases h
  | [a], 1 =>
    cases h
    cases hw
    exact ⟨rfl, rfl⟩
  | [a], 0 | [a], 2 | [a], _ + 3 =>
    cases h
    cases hw
  | a :: b :: _, 1 | a :: b :: _, 2 =>
    cases h
    cases hw
    exact ⟨rfl, rfl⟩
  | a :: b :: _, 0 | a :: b :: _, _ + 3 =>
    cases h
    cases hw

/-- The instance the transaction of `addScheduleDownload` creates. -/
def scheduleDownloadOfArgs (args : ScheduleDownloadArgs) (l : TimeWindowList) :
    ScheduleDownload where
  commandKey := args.commandKey
  fileType := args.fileType
  url := args.url
  username := args.username
  password := args.password
  timeWindowList := l
  transferComplete := ⟨.idle, args.initiator, args.commandKey, "ScheduleDownload", 0, "", 0, 0⟩
  priv := none

/-- A request for a firmware image, as the test suite makes it. -/
def firmwareArgs (windows : List TimeWindowArgs) : ScheduleDownloadArgs where
  initiator := "ACS"
  commandKey := "1234"
  fileType := fileType1FirmwareUpgradeImage
  url := some "https://192.168.1.1:3001/test-install-ok"
  username := some "username"
  password := some "password"
  timeWindowList := windows

/-- A window of mode Immediately. -/
def immediately (windowStart windowEnd : UInt32) (maxRetries : Int32) : TimeWindowArgs :=
  ⟨windowStart, windowEnd, "2 Immediately", maxRetries⟩

namespace Plugin

/-- The plugin once the transaction of `_addScheduleDownload` has been applied. -/
def added (s : Plugin) (args : ScheduleDownloadArgs) (l : TimeWindowList) : Plugin :=
  { s with
    dm := Function.update s.dm (s.lastIndex + 1) (some (scheduleDownloadOfArgs args l))
    lastIndex := s.lastIndex + 1
    queue := s.queue ++ [(s.lastIndex + 1, .scheduleDownloadAdded)] }

/-- `_addScheduleDownload`: without a window the call fails and changes
nothing. -/
def addScheduleDownload (s : Plugin) (args : ScheduleDownloadArgs) : Option Plugin :=
  (timeWindowListOfArgs args.timeWindowList).map fun l => s.added args l

/-- `_scheduleDownload_del_inst`, after which the instance is gone. -/
def scheduleDownloadDelInst (s : Plugin) (i : ℕ) : Plugin :=
  { s with dm := Function.update s.dm i none }

end Plugin

/-- A persisted window as a new process finds it. -/
def TimeWindow.reload (w : TimeWindow) : TimeWindow := { w with priv := none }

/-- A persisted transfer as a new process finds it. -/
def ScheduleDownload.reload (obj : ScheduleDownload) : ScheduleDownload :=
  { obj with timeWindowList := obj.timeWindowList.map TimeWindow.reload, priv := none }

namespace Plugin

/-- The process ends, if it has not yet, and a new one has run
`transfers_init`. With `reboot` the device has restarted too, which ends its
downloads. -/
def restart (s : Plugin) (reboot : Bool) : Plugin :=
  { s with
    dm := fun i => (s.dm i).map ScheduleDownload.reload
    transferInProgress := none
    deferredInitTimer := true
    queue := []
    alive := true
    downloads := if reboot then [] else s.downloads }

/-- The timers of every window after some milliseconds have gone by. -/
def elapse (s : Plugin) (ms : ℕ) : Plugin :=
  { s with dm := fun i => (s.dm i).map fun obj =>
      { obj with timeWindowList := obj.timeWindowList.map (TimeWindow.elapse ms) } }

/-- The next event of the queue is handled. -/
def dispatch (s : Plugin) (ret : ℤ) : Option Plugin :=
  match s.queue with
  | [] => none
  | (i, ev) :: rest =>
    match s.dm i with
    | none => some { s with queue := rest, alive := ev.survivesMissing }
    | some _ => some ({ s with queue := rest }.onObject i (handleDmEvent ret ev))

end Plugin

/-! ### Steps -/

/-- What can happen to the plugin. A `dispatch` carries the answer of the device to
the `Download` call the handler may make; `firmwareimage` the instance whose
`Download` is the cause of the notification, if one of this plugin is, and the
changed parameters; `deferredInit` what the bus answers, for each instance, about
the active firmware image. -/
inductive Event where
  | addScheduleDownload (args : ScheduleDownloadArgs)
  | delInst (i : ℕ)
  | startTimer (i k : ℕ)
  | endTimer (i k : ℕ)
  | elapse (ms : ℕ)
  | dispatch (ret : ℤ)
  | firmwareimage (cause : Option ℕ) (status bootFailureLog : Option String)
  | deferredInit (status : ℕ → Option String)
  | appStop
  | restart (reboot : Bool)

/-- The start timer of window `k` of instance `i` is running, and may fire. -/
def Plugin.startTimerRuns (s : Plugin) (i k : ℕ) : Bool :=
  match ((s.dm i).bind fun obj => obj.timeWindowList.find k).bind TimeWindow.priv with
  | some ⟨some (.running _), _⟩ => true
  | _ => false

/-- The end timer of window `k` of instance `i` is running, and may fire. -/
def Plugin.endTimerRuns (s : Plugin) (i k : ℕ) : Bool :=
  match ((s.dm i).bind fun obj => obj.timeWindowList.find k).bind TimeWindow.priv with
  | some ⟨_, some (.running _)⟩ => true
  | _ => false

/-- The downloads that are left when the firmware image reports `status` for the one
of instance `cause`. -/
def Plugin.downloadsLeft (s : Plugin) : Option ℕ → Option String → List ℕ
  | some i, some status => if firmwareFailed status then s.downloads.erase i else s.downloads
  | _, _ => s.downloads

/-- One step of the plugin; `none` when the event cannot happen. -/
def step (s : Plugin) : Event → Option Plugin
  | .restart reboot => some (s.restart reboot)
  | e =>
    if s.alive then
      match e with
      | .addScheduleDownload args => s.addScheduleDownload args
      | .delInst i => if (s.dm i).isSome then some (s.scheduleDownloadDelInst i) else none
      | .startTimer i k =>
        if !s.deferredInitTimer && s.startTimerRuns i k then
          some (s.onObject i fun c => timewindowStartTimerCb c k)
        else none
      | .endTimer i k =>
        if !s.deferredInitTimer && s.endTimerRuns i k then
          some (s.onObject i fun c => timewindowEndTimerCb c k)
        else none
      | .elapse ms => some (s.elapse ms)
      | .dispatch ret => s.dispatch ret
      | .firmwareimage cause status bootFailureLog =>
        if cause.all (· ∈ s.downloads) then
          some ({ s with downloads := s.downloadsLeft cause status }.firmwareimageNotification
            status bootFailureLog)
        else none
      | .deferredInit status =>
        if s.deferredInitTimer then some (s.deferredInitTimerCb status) else none
      | .appStop => some s.transfersSave
      | .restart reboot => some (s.restart reboot)
    else none

end Tr069
