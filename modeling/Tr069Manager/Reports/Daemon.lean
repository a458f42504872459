import Mathlib.Data.Int.Notation
import Mathlib.Logic.Function.Basic
import Tr069Manager.Reports.Path
import Tr069Manager.ScheduleDownload.DataModel

/-!
# The daemon and the results the plugin finishes

`DM_AmxScheduleDownload.c` and `DM_AmxChangeDUState.c`. The plugin keeps the results in its
data model and sets the Status of one to Done when it is finished; the daemon, another
process, hands it to the engine, which sends it to the ACS. The two files do the same for
two kinds of objects. When the daemon starts, a file reads the instances that are Done
and starts a timer for each, with the path as its name, to hand it over from the event
loop; and then it subscribes to the changes of the Status. A notification that says Done
is handed over at once.

The plugin is another process, so that it may write at any moment: before the read,
between the read and the subscription, and after it. What it writes is left open here,
and so is the moment an instance is deleted, which the daemon asks for when the ACS has
acknowledged a result. The bus delivers every change of a Status that is made under a
subscribed instance, in order; a change of the Status below an instance – of a window or of
an operation – is delivered like one of its own.
-/

namespace Tr069

/-! ### What is reported -/

/-- The text of `TransferComplete.Status`. -/
def TransferStatus.text : TransferStatus → String
  | .idle => "Idle"
  | .inProgress => "In Progress"
  | .failed => "Failed"
  | .done => "Done"

/-- `DUStateChangeComplete.{i}.Operations.{i}.Results.{i}.` -/
structure OpResult where
  uuid : String
  deploymentUnitRef : String
  version : String
  currentState : String
  resolved : Bool
  executionUnitRefList : String
  startTime : ℤ
  completeTime : ℤ
  faultCode : ℕ
  faultString : String
  deriving DecidableEq

/-- `DUStateChangeComplete.{i}.`, with the results of all its operations. -/
structure DuStateChangeComplete where
  status : String
  initiator : String
  commandKey : String
  results : List OpResult
  deriving DecidableEq

/-- The `TransferComplete` object of a transfer as `_addScheduleDownload` makes it: nothing
writes its TransferType afterwards. -/
abbrev ScheduledResult := { tc : TransferComplete // tc.transferType = "ScheduleDownload" }

/-- An instance whose result is reported when it is finished. -/
inductive Record where
  | transferComplete (tc : ScheduledResult)
  | duStateChangeComplete (d : DuStateChangeComplete)

namespace Record

/-- The kind of the instance. -/
def kind : Record → ResultKind
  | .transferComplete _ => .scheduleDownload
  | .duStateChangeComplete _ => .duStateChangeComplete

/-- The text of its Status. -/
def status : Record → String
  | .transferComplete tc => tc.1.status.text
  | .duStateChangeComplete d => d.status

/-- Its Initiator. -/
def initiator : Record → String
  | .transferComplete tc => tc.1.initiator
  | .duStateChangeComplete d => d.initiator

/-- The instance is finished, and the ACS has asked for it: what the search paths
`SCHEDULEDOWNLOAD_TRANSFERCOMPLETE_DONE` and `DUSTATECHANGECOMPLETE_DONE` select. -/
def Due (r : Record) : Prop := r.initiator = "ACS" ∧ r.status = "Done"

instance (r : Record) : Decidable r.Due := inferInstanceAs (Decidable (_ ∧ _))

end Record

/-- The arguments of `DM_ENG_InformMessageScheduler_SendTransferComplete`. -/
structure SendTransferCompleteArgs where
  autonomous : Bool
  announceURL : Option String
  transferURL : Option String
  fileType : Option String
  fileSize : ℕ
  targetFileName : Option String
  isDownload : Bool
  isScheduleDownload : Bool
  commandKey : String
  faultCode : ℕ
  faultString : String
  startTime : ℤ
  completeTime : ℤ
  path : String
  deriving DecidableEq

/-- What is handed to the engine: a call of
`DM_ENG_InformMessageScheduler_SendTransferComplete`, or one of
`DM_ENG_InformMessageScheduler_SendDUStateChangeComplete`. -/
inductive Report where
  | sendTransferComplete (args : SendTransferCompleteArgs)
  | sendDUStateChangeComplete (results : List OpResult) (commandKey path : String)
  deriving DecidableEq

/-- The path a report is about. -/
def Report.path : Report → String
  | .sendTransferComplete args => args.path
  | .sendDUStateChangeComplete _ _ path => path

/-- What the report of an instance says: its path, its CommandKey and its result.
`amxcTcToTimeUtc` is the conversion of a time, which depends on the time zone. -/
def Record.report (amxcTcToTimeUtc : ℤ → ℤ) : Record → String → Report
  | .transferComplete tc, path => .sendTransferComplete
      ⟨false, none, none, none, 0, none, false, true, tc.1.commandKey, tc.1.faultCode,
        tc.1.faultString, amxcTcToTimeUtc tc.1.startTime, amxcTcToTimeUtc tc.1.completeTime, path⟩
  | .duStateChangeComplete d, path => .sendDUStateChangeComplete d.results d.commandKey path

/-! ### The state of the two processes -/

/-- How far the daemon has got with its start, for one kind of results: nothing is done yet,
the finished ones have been read, or it has subscribed. -/
inductive Phase where
  | stopped
  | reading
  | running
  deriving DecidableEq

/-- A notification `dm:object-changed` with a new value of Status, for the subscription of a
kind. -/
structure Notification where
  kind : ResultKind
  object : String
  status : String

/-- The data model of the plugin, by path, with the paths given out so far; and the daemon:
how far it has started, its named timers with what they are for, the notifications on their
way to it, and what it has handed to the engine since it started. -/
structure Reporter where
  dm : String → Option Record
  used : List String
  phase : ResultKind → Phase
  timers : List (String × ResultKind)
  notifications : List Notification
  reported : List Report

namespace Reporter

/-- No instance yet, and the daemon about to start. -/
def init : Reporter := ⟨fun _ => none, [], fun _ => .stopped, [], [], []⟩

/-- `DM_ENG_NotificationInterface_timerStart`, for a timer that fires once: one that runs
under the same name is started anew. -/
def timerStart (s : Reporter) (name : String) (k : ResultKind) : Reporter :=
  if s.timers.any (·.1 = name) then s else { s with timers := s.timers ++ [(name, k)] }

/-- A call of the engine. -/
def send (s : Reporter) (x : Report) : Reporter := { s with reported := s.reported ++ [x] }

section Handlers

variable (amxcTcToTimeUtc : ℤ → ℤ)

/-- `handle_transfercomplete`. -/
def handleTransfercomplete (s : Reporter) (path : String) : Reporter :=
  if path = "" then s
  else
    match s.dm path with
    | some (.transferComplete tc) =>
      if tc.1.transferType = "ScheduleDownload" then
        s.send ((Record.transferComplete tc).report amxcTcToTimeUtc path)
      else s
    -- the read fails
    | _ => s

/-- `handle_dustatechangecomplete`. -/
def handleDustatechangecomplete (s : Reporter) (path : String) : Reporter :=
  if path = "" then s
  else
    match s.dm path with
    | some (.duStateChangeComplete d) =>
      s.send ((Record.duStateChangeComplete d).report amxcTcToTimeUtc path)
    | _ => s

/-- The `handle_` function of a kind. -/
def handle : ResultKind → Reporter → String → Reporter
  | .scheduleDownload => handleTransfercomplete amxcTcToTimeUtc
  | .duStateChangeComplete => handleDustatechangecomplete amxcTcToTimeUtc

/-- `transfercomplete_notification`. -/
def transfercompleteNotification (s : Reporter) (status objPath : String) : Reporter :=
  if status = "Done" then handleTransfercomplete amxcTcToTimeUtc s (transferPathOf objPath) else s

/-- `dustatechangecomplete_notification`. -/
def dustatechangecompleteNotification (s : Reporter) (status objPath : String) : Reporter :=
  if status = "Done" then handleDustatechangecomplete amxcTcToTimeUtc s objPath else s

/-- The slot of a subscription. -/
def notified : ResultKind → Reporter → String → String → Reporter
  | .scheduleDownload => transfercompleteNotification amxcTcToTimeUtc
  | .duStateChangeComplete => dustatechangecompleteNotification amxcTcToTimeUtc

end Handlers

/-- `differ_transfercomplete_handling`. -/
def differTransfercompleteHandling (s : Reporter) (path : String) : Reporter :=
  if path = "" then s else s.timerStart path .scheduleDownload

/-- `differ_dustatechangecomplete_handling`. -/
def differDustatechangecompleteHandling (s : Reporter) (path : String) : Reporter :=
  if path = "" then s else s.timerStart path .duStateChangeComplete

/-- The `differ_` function of a kind. -/
def differ : ResultKind → Reporter → String → Reporter
  | .scheduleDownload => differTransfercompleteHandling
  | .duStateChangeComplete => differDustatechangecompleteHandling

/-- The instances the search path of a kind selects. -/
def donePaths (s : Reporter) (k : ResultKind) : List String :=
  s.used.filter fun p => (s.dm p).any fun r => r.kind = k ∧ r.Due

/-- `DM_AmxScheduleDownload_init` and `DM_AmxChangeDUState_init` up to the subscription: the
finished instances are gone through in the order of the answer. -/
def initRead (s : Reporter) (k : ResultKind) (paths : List String) : Reporter :=
  { paths.foldl (differ k) s with phase := Function.update s.phase k .reading }

/-- The subscription of the same two functions. -/
def initSubscribe (s : Reporter) (k : ResultKind) : Reporter :=
  { s with phase := Function.update s.phase k .running }

/-- The object whose Status the plugin writes, for the instance of a path. -/
def statusObject : ResultKind → String → String
  | .scheduleDownload, path => path ++ "TransferComplete."
  | .duStateChangeComplete, path => path

/-- The notifications of a change from `r` to `r'`. -/
def changed (s : Reporter) (path : String) (r r' : Record) : List Notification :=
  if s.phase r'.kind = .running ∧ r'.initiator = "ACS" ∧ r'.status ≠ r.status then
    [⟨r'.kind, statusObject r'.kind path, r'.status⟩]
  else []

end Reporter

/-! ### Steps -/

/-- An object below an instance that has a Status of its own: a window of a transfer, an
operation of a change of deployment units. -/
def ResultKind.below : ResultKind → ℕ → String
  | .scheduleDownload, j => "TimeWindowList." ++ toString j ++ "."
  | .duStateChangeComplete, j => "Operations." ++ toString j ++ "."

/-- The texts the Status of such an object is set to. -/
def ResultKind.belowStatus (k : ResultKind) (status : String) : Prop :=
  k = .scheduleDownload → status ∈ ["Idle", "Started", "Ended"]

instance (k : ResultKind) (status : String) : Decidable (k.belowStatus status) :=
  inferInstanceAs (Decidable (_ → _))

/-- What can happen. The plugin adds an instance, which is not finished, writes one, changes
the Status of an object below one; an instance is deleted; the daemon reads and subscribes
for a kind, one of its timers fires, it is given the next notification, and it restarts. -/
inductive ReportEvent where
  | added (n : ℕ) (r : Record)
  | written (path : String) (r : Record)
  | belowChanged (path : String) (j : ℕ) (status : String)
  | deleted (path : String)
  | read (k : ResultKind) (paths : List String)
  | subscribe (k : ResultKind)
  | timer (path : String) (k : ResultKind)
  | notification
  | restart

namespace Reporter

/-- One step of the two processes; `none` when the event cannot happen. -/
def step (amxcTcToTimeUtc : ℤ → ℤ) (s : Reporter) : ReportEvent → Option Reporter
  | .added n r =>
    let path := r.kind.instancePath n
    if path ∈ s.used ∨ r.status = "Done" then none
    else some { s with dm := Function.update s.dm path (some r), used := path :: s.used }
  | .written path r' =>
    match s.dm path with
    | none => none
    | some r =>
      if r'.kind = r.kind then
        some { s with
          dm := Function.update s.dm path (some r')
          notifications := s.notifications ++ s.changed path r r' }
      else none
  | .belowChanged path j status =>
    match s.dm path with
    | none => none
    | some r =>
      if r.kind.belowStatus status then
        if s.phase r.kind = .running ∧ r.initiator = "ACS" then
          some { s with
            notifications := s.notifications ++ [⟨r.kind, path ++ r.kind.below j, status⟩] }
        else some s
      else none
  | .deleted path =>
    if (s.dm path).isSome then some { s with dm := Function.update s.dm path none } else none
  | .read k paths =>
    if s.phase k = .stopped ∧ paths.Perm (s.donePaths k) then some (s.initRead k paths) else none
  | .subscribe k => if s.phase k = .reading then some (s.initSubscribe k) else none
  | .timer path k =>
    if (path, k) ∈ s.timers ∧ s.phase k = .running then
      some (handle amxcTcToTimeUtc k { s with timers := s.timers.erase (path, k) } path)
    else none
  | .notification =>
    match s.notifications with
    | [] => none
    | n :: rest =>
      some (notified amxcTcToTimeUtc n.kind { s with notifications := rest } n.status n.object)
  | .restart =>
    some { s with phase := fun _ => .stopped, timers := [], notifications := [], reported := [] }

end Reporter

end Tr069
