import Tr069Manager.AcsTransfers.TimedOut
import Tr069Manager.Timers.NamedTimers

/-!
# The ACS transfers and the timers of the daemon

`DM_AmxUpDownload.c`, over the named timers of `cwmpd_timer.c`. The timers of the transfers
share their names with those of the rest of the daemon: a time-out is armed under the
CommandKey the ACS has chosen, and when the daemon starts, the restart or the report of a
transfer is put off to a timer under the path of the transfer.

The bus is open: what it answers to each call is an argument, except that it takes every
unsubscription. So are the clock and the two ways in which times are read and the one in
which they are written. The redirect URLs of a transfer, which `AddTransfer` is handed and
does not read, are left out, and so is what the plugin does: it is another process, and may
write a transfer at any time.
-/

namespace Tr069

/-- The callbacks of the daemon's timers. Three are of the transfers; those of the session,
of the authentication and of the other reports do not touch them. -/
inductive TimerHandler where
  | transferTimedOut
  | restartTransfer
  | transferCompleteEvent
  | daemon
  deriving DecidableEq

/-- What the daemon has of the ACS transfers: the data model on the bus, its subscriptions by
their ids, all its named timers, and what it has handed to the engine. -/
structure TimedTransfers where
  acsTransfers : Table ObjectPath AcsTransfer
  transferSubsList : List (Int32 × ObjectPath)
  timers : TimerList TimerHandler
  reported : List TransferCompleteStruct

/-- The arguments of `DM_ENG_Device_DoDownload` and `DM_ENG_Device_DoUpload`. -/
structure TransferRequest where
  commandkey : String
  fileType : String
  url : String
  username : String
  password : String
  fileSize : UInt32
  targetFileName : String
  delayseconds : UInt32
  isDownload : Bool

/-- What the bus answers when a transfer is added: the instance it has made, whether
`AddTransfer` was called, the id of the subscription, and whether the id was written. -/
structure AddAnswers where
  added : Option ObjectPath
  addTransfer : Bool
  subscribed : Option Int32
  set : Bool

/-- What the bus answers to the callback of a timer. -/
structure TimerAnswers extends BusAnswers where
  restart : AddAnswers

/-- What the bus answers when the daemon starts: whether the transfers could be read, the
Status of the active firmware image, and whether a transfer could be written. -/
structure StartAnswers where
  getAll : Bool
  firmwareImage : Option String
  set : Bool

/-- `DM_ENG_REQUEST_DENIED`. -/
def dmEngRequestDenied : ℤ := 9001

/-- `DM_ENG_INTERNAL_ERROR`. -/
def dmEngInternalError : UInt32 := 9002

/-- The file type of a firmware image. -/
def firmwareUpgradeImage : String := "1 Firmware Upgrade Image"

/-- The path a name is, when it is not empty. -/
def objectPath? (name : String) : Option ObjectPath :=
  if h : name ≠ "" then some ⟨name, h⟩ else none

/-- The entry `DM_ENG_Device_AddTransfer` makes, with its times as the bus has them. -/
def TransferRequest.entry (r : TransferRequest) (startTime completeTime : String) :
    AcsTransfer where
  initiator := some "ACS"
  commandKey := some r.commandkey
  isDownload := r.isDownload
  url := some r.url
  username := some r.username
  password := some r.password
  fileType := some r.fileType
  status := some "Initial"
  fileSize := r.fileSize
  targetFileName := some r.targetFileName
  startTime := some startTime
  completeTime := some completeTime
  faultCode := 0
  faultString := some ""
  subscriptionId := 0

namespace TimedTransfers

/-- `DM_ENG_NotificationInterface_timerStart`, for a timer without an interval. -/
def timerStart (d : TimedTransfers) (name : Option String) (waitTime : Int32)
    (handler : TimerHandler) : TimedTransfers :=
  { d with timers := (d.timers.cwmpTimerStart name waitTime 0 handler).1 }

/-- `DM_ENG_NotificationInterface_timerStop`. -/
def timerStop (d : TimedTransfers) (name : Option String) : TimedTransfers :=
  { d with timers := (d.timers.cwmpTimerStop name).1 }

/-- `DM_ENG_Device_Common_DeleteSubscription`. -/
def deleteSubscription (d : TimedTransfers) (uid : Int32) : TimedTransfers :=
  { d with transferSubsList := d.transferSubsList.eraseP (·.1 = uid) }

/-- `DM_ENG_Device_UpdateTransferState`; `set` says whether the bus takes the write. -/
def updateTransferState (d : TimedTransfers) (set : Bool) (path : ObjectPath)
    (faultCode : UInt32) (faultString : String) (completeTime : Option String) :
    TimedTransfers :=
  if set then
    { d with acsTransfers :=
        d.acsTransfers.modify path fun t => t.finished faultCode faultString completeTime }
  else d

/-! ### Adding a transfer -/

/-- `DM_ENG_Device_AddTransferSubscription`, for the instance of a path, with what it
returns. -/
def addTransferSubscription (d : TimedTransfers) (bus : AddAnswers) (path : ObjectPath) :
    ℤ × TimedTransfers :=
  match bus.subscribed with
  | none => (-1, d)
  | some uid =>
    let d := { d with transferSubsList := d.transferSubsList ++ [(uid, path)] }
    if bus.set then
      (0, { d with acsTransfers :=
        d.acsTransfers.modify path fun t => { t with subscriptionId := uid } })
    else (0, d)

/-- `DM_ENG_Device_AddTransfer` from the call of `AddTransfer` on, for an instance there is. -/
def addTransferCall (d : TimedTransfers) (bus : AddAnswers) (path : ObjectPath) :
    ℤ × TimedTransfers :=
  if bus.addTransfer then d.addTransferSubscription bus path else (dmEngRequestDenied, d)

/-- `DM_ENG_Device_AddTransfer`, for a new instance. -/
def addTransfer (d : TimedTransfers) (bus : AddAnswers) (entry : AcsTransfer) :
    ℤ × TimedTransfers :=
  match bus.added with
  | none => (dmEngRequestDenied, d)
  | some path => { d with acsTransfers := d.acsTransfers.put path entry }.addTransferCall bus path

section Clock

variable (amxcTsFormat : ℤ → String) (now : ℤ)

/-- `DM_ENG_Device_DoDownload`, or `DM_ENG_Device_DoUpload` when the request is for an
upload, with what it returns. -/
def doTransfer (d : TimedTransfers) (bus : AddAnswers) (r : TransferRequest) :
    ℤ × TimedTransfers :=
  let startTime := amxcTsFormat (now + r.delayseconds.toNat)
  let completeTime := amxcTsFormat (now + 3600)
  match d.addTransfer bus (r.entry startTime completeTime) with
  | (error, d) =>
    if error = 0 then
      (0, d.timerStart (some r.commandkey) (r.delayseconds + 3600).toInt32 .transferTimedOut)
    else (error, d)

end Clock

/-- `DM_ENG_Device_RestartTransfer`; `get` says whether the bus answers the read. The index
that `AddTransfer` is handed is read back from the path. -/
def restartTransfer (d : TimedTransfers) (get : Bool) (bus : AddAnswers) (path : ObjectPath) :
    TimedTransfers :=
  if get then
    match d.acsTransfers.find path with
    | none => d
    | some t =>
      match d.addTransferCall bus path with
      | (error, d) =>
        if error = 0 then d.timerStart t.commandKey 3600 .transferTimedOut else d
  else d

/-! ### Completion and time-out -/

section Engine

variable (dateStringToTime : Option String → ℤ)

/-- `DM_ENG_Device_TransferCompleteEvent`; `get` says whether the bus answers. -/
def transferCompleteEvent (d : TimedTransfers) (get : Bool) (path : ObjectPath) :
    TimedTransfers :=
  if get then
    match d.acsTransfers.find path with
    | none => d
    | some t =>
      let d := d.timerStop t.commandKey
      let d := { d with
        reported := d.reported ++ [buildTransferCompleteResponse dateStringToTime t path] }
      d.deleteSubscription t.subscriptionId
  else d

/-- `DM_ENG_Device_TransferTimedOut`. -/
def transferTimedOut (d : TimedTransfers) (bus : BusAnswers) (cmdkey : String) :
    TimedTransfers :=
  if bus.getAll then
    match d.acsTransfers.first fun t => t.commandKey = some cmdkey with
    | none => d
    | some (key, transfer) =>
      let d := d.deleteSubscription transfer.subscriptionId
      let d :=
        if transfer.status.isSome ∧ transfer.status ≠ some "Initial" then
          d.updateTransferState bus.set key transfer.timedOutCode "Transfer timed out" none
        else d
      d.transferCompleteEvent dateStringToTime bus.get key
  else d

/-- `DM_ENG_Device_TransferNotification`, for a change of the Status to `status`. -/
def transferNotification (d : TimedTransfers) (get : Bool) (path : ObjectPath)
    (status : String) : TimedTransfers :=
  if status = "Finished" then d.transferCompleteEvent dateStringToTime get path else d

/-- `timer_timeout_handler`, for the timer of a name. -/
def timerTimeoutHandler (d : TimedTransfers) (bus : TimerAnswers) (name : String) :
    TimedTransfers :=
  match d.timers.timerFind name, objectPath? name with
  | some item, some path =>
    let d := { d with timers := d.timers.expired item }
    match item.handler with
    | .transferTimedOut => d.transferTimedOut dateStringToTime bus.toBusAnswers name
    | .restartTransfer => d.restartTransfer bus.get bus.restart path
    | .transferCompleteEvent => d.transferCompleteEvent dateStringToTime bus.get path
    | .daemon => d
  | _, _ => d

end Engine

/-! ### The start of the daemon -/

/-- `handle_pending_upgrade`. -/
def handlePendingUpgrade (d : TimedTransfers) (bus : StartAnswers) (path : ObjectPath) :
    TimedTransfers :=
  match bus.firmwareImage with
  | none => d.updateTransferState bus.set path dmEngInternalError "Internal failure" none
  | some status =>
    if status ≠ "Active" then
      d.updateTransferState bus.set path dmEngDownloadFailure "Failed to apply firmware" none
    else d.updateTransferState bus.set path 0 "" (some "0001-01-01T00:00:00Z")

section Clock

variable (amxcTsParse : String → ℤ) (now : ObjectPath → ℤ)

/-- The body of the loop of `DM_ENG_Device_UpDownloadInitialize`, for a transfer whose Status
could be read; `none` when the comparison of a file type that is null ends the process. -/
def initializeTransfer (d : TimedTransfers) (bus : StartAnswers) (key : ObjectPath)
    (transfer : AcsTransfer) (status : String) : Option TimedTransfers :=
  if status = "Initial" then
    match transfer.commandKey, transfer.completeTime with
    | some commandKey, some thenStr =>
      if thenStr ≠ "" then
        if amxcTsParse thenStr < now key then
          some (d.timerStart (some commandKey) 0 .transferTimedOut)
        else some (d.timerStart (some key.1) 0 .restartTransfer)
      else some d
    | _, _ => some d
  else if status = "Finished" then
    some (d.timerStart (some key.1) 0 .transferCompleteEvent)
  else if status = "Applying" then
    match transfer.fileType with
    | none => none
    | some fileType =>
      if fileType = firmwareUpgradeImage then
        some ((d.handlePendingUpgrade bus key).timerStart (some key.1) 0 .transferCompleteEvent)
      else some d
  else some d

/-- The loop, over the transfers as they were read; with the state it returns what the
function returns. -/
def initializeLoop (bus : StartAnswers) :
    TimedTransfers → List (ObjectPath × AcsTransfer) → Option (Bool × TimedTransfers)
  | d, [] => some (true, d)
  | d, (key, transfer) :: rest =>
    match transfer.status with
    | none => some (false, d)
    | some status =>
      (d.initializeTransfer amxcTsParse now bus key transfer status).bind fun d =>
        initializeLoop bus d rest

/-- `DM_ENG_Device_UpDownloadInitialize`. -/
def upDownloadInitialize (d : TimedTransfers) (bus : StartAnswers) :
    Option (Bool × TimedTransfers) :=
  let d := { d with transferSubsList := [] }
  if bus.getAll then initializeLoop amxcTsParse now bus d d.acsTransfers.entries
  else some (false, d)

end Clock

/-! ### What is pending for a transfer -/

/-- Its report is put off to a timer. -/
def PendingCompletion (d : TimedTransfers) (path : ObjectPath) : Prop :=
  d.timers.handlerOf path.1 = some .transferCompleteEvent

/-- A time-out is armed, and it is this transfer that it will find. -/
def PendingTimeOut (d : TimedTransfers) (path : ObjectPath) : Prop :=
  ∃ key, d.timers.handlerOf key = some .transferTimedOut ∧
    (d.acsTransfers.first fun t => t.commandKey = some key).map Prod.fst = some path

/-- Its restart is put off to a timer, and arms a time-out when the bus takes all of it. -/
def PendingRestart (dateStringToTime : Option String → ℤ) (d : TimedTransfers)
    (path : ObjectPath) : Prop :=
  d.timers.handlerOf path.1 = some .restartTransfer ∧ ∀ uid,
    (d.timerTimeoutHandler dateStringToTime
      ⟨⟨true, true, true⟩, ⟨none, true, some uid, true⟩⟩ path.1).PendingTimeOut path

/-! ### The timers of the transfers expire once -/

/-- Only timers of the daemon itself have an interval. -/
def OneShot (l : TimerList TimerHandler) : Prop :=
  ∀ n i, l.timerFind n = some i → i.handler ≠ .daemon → i.intervalTimer = false

theorem OneShot.cwmpTimerStart {l : TimerList TimerHandler} (hl : OneShot l) (o : Option String)
    (w : Int32) (h : TimerHandler) : OneShot (l.cwmpTimerStart o w 0 h).1 := by
  intro n i hi hne
  rcases o with _ | name
  · exact hl n i hi hne
  by_cases hname : name = ""
  · subst hname
    rw [TimerList.cwmpTimerStart_emptyName] at hi
    exact hl n i hi hne
  rw [TimerList.timerFind_cwmpTimerStart hname] at hi
  split at hi
  · rcases hold : l.timerFind name with _ | j
    · rw [hold] at hi
      obtain rfl := Option.some.inj hi
      rfl
    · rw [hold] at hi
      obtain rfl := Option.some.inj hi
      exact hl name j hold hne
  · exact hl n i hi hne

theorem OneShot.timerRemove {l : TimerList TimerHandler} (hl : OneShot l) (name : String) :
    OneShot (l.timerRemove name) := by
  intro n i hi hne
  rw [TimerList.timerFind_timerRemove] at hi
  split at hi
  · cases hi
  · exact hl n i hi hne

/-- The callback of a transfer runs when its timer is gone. -/
theorem timerFind_expired {l : TimerList TimerHandler} (hl : OneShot l) {name n : String}
    {i : TimerListItem TimerHandler} (hi : l.timerFind name = some i) (hne : i.handler ≠ .daemon) :
    (l.expired i).timerFind n = if n = name then none else l.timerFind n := by
  rw [TimerList.expired, hl name i hi hne, if_neg Bool.false_ne_true,
    (TimerList.timerFind_eq_some.mp hi).2.1, TimerList.timerFind_timerRemove]

theorem handlerOf_expired {l : TimerList TimerHandler} (hl : OneShot l) {name n : String}
    {i : TimerListItem TimerHandler} (hi : l.timerFind name = some i) (hne : i.handler ≠ .daemon) :
    (l.expired i).handlerOf n = if n = name then none else l.handlerOf n := by
  rw [TimerList.handlerOf, timerFind_expired hl hi hne]
  split <;> rfl

end TimedTransfers

end Tr069
