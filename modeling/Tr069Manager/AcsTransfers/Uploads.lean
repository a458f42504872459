import Mathlib.Data.Int.Notation
import Mathlib.Logic.Function.Basic
import Tr069Manager.AcsTransfers.FirmwareDownload
import Tr069Manager.Lib.CString

/-!
# The uploads of the ACS transfers

The part of `cwmp_plugin_transfer.c` that runs an `Upload`: `AddTransfer` arms a delay, the
callback of the delay prepares the upload – a vendor log file may have to wait for a self-test
of the device first – and calls the `Upload` or the `Backup` of a vendor file, and a
"TransferComplete!" of the device ends it. What is left to do of an upload is in two lists:
the self-tests that run, and the calls that are not complete. A completion carries no more
than a URL, and the first call with that URL is the one that is completed.

The instances are written by the plugin alone here, in transactions whose values the data model
accepts: what the daemon writes of a transfer that has timed out is left out. So are the delays
themselves, which end in any order. The words of a text, and the fault code of an internal
error, come from libraries.
-/

namespace Tr069

/-- What the code has from its libraries: the words of a text, with the blanks between them,
whether a text is a number, and the fault code of an internal error. -/
structure UploadLibrary where
  amxcStringSplitWord : String → List String
  amxcStringIsNumeric : String → Bool
  faultcodeInternalError : UInt32
  faultcodeInternalError_ne : faultcodeInternalError ≠ 0

/-- `strstr`, as a condition. -/
def hasText (s t : String) : Bool := (CString.strstr s.toList t.toList).isSome

/-- `atoi`, of a text of digits that an integer can hold. -/
def atoi (s : String) : Int32 :=
  Int32.ofNat ((s.toList.takeWhile Char.isDigit).foldl (fun n c => 10 * n + (c.toNat - 48)) 0)

/-- `vendorfile_get_index`. -/
def vendorfileGetIndex (lib : UploadLibrary) (fileType : String) : Int32 :=
  if fileType = "" then 0
  else if hasText fileType "2 Vendor Log File" || hasText fileType "4 Vendor Log File 1" ||
      hasText fileType "1 Vendor Configuration File" ||
      hasText fileType "3 Vendor Configuration File 1" then 1
  else if hasText fileType "3 Vendor Configuration File" ||
      hasText fileType "4 Vendor Log File" then
    match (lib.amxcStringSplitWord fileType)[8]? with
    | none => 0
    | some vendorIndex => if lib.amxcStringIsNumeric vendorIndex then atoi vendorIndex else 0
  else 0

/-- The arguments of `AddTransfer` that an upload reads. -/
structure UploadArgs where
  index : UInt32
  fileType : Option String
  url : Option String
  username : Option String
  password : Option String
  deriving DecidableEq

/-- The number that stands in the path of the instance. -/
def UploadArgs.transferIndex (a : UploadArgs) : Int32 := a.index.toInt32

/-- `upload_context_t`, with the arguments of its call. -/
structure UploadContext where
  url : String
  username : String
  password : String
  index : Int32
  time : String
  deriving DecidableEq

/-- A call of the `Upload` or the `Backup` of a vendor file. -/
structure VendorFileCall where
  path : String
  method : String
  url : String
  username : String
  password : String
  deriving DecidableEq

/-- The "data" of a "TransferComplete!" event. -/
structure TransferCompleteData where
  transferURL : Option String
  faultCode : UInt32
  faultString : Option String

/-- What the bus answers while an upload is prepared, and the time. -/
structure PrepareAnswers where
  busCtx : Bool
  request : Bool
  call : ℤ
  now : String

/-- What the plugin has of the uploads: the instances, the delays that run, and the two
lists. -/
structure Uploads where
  acsTransfers : Int32 → Option AcsTransfer
  timers : List UploadArgs
  selftestRequests : List UploadArgs
  uploadRequests : List UploadContext

/-- A text that is there, and is not empty. -/
def nonEmpty (s : Option String) : Option String := s.filter (· ≠ "")

/-- The completion time of a transfer that has failed. -/
def errorCompleteTime : String := "1970-01-01T00:00:00Z"

/-- What `transfer_update_status` writes, with the Status "Finished". -/
def AcsTransfer.uploadFinished (t : AcsTransfer) (startTime completeTime : String)
    (errorCode : UInt32) (errorString : Option String) : AcsTransfer :=
  { t with
    status := some "Finished"
    startTime := some startTime
    completeTime := some (if errorCode ≠ 0 then errorCompleteTime else completeTime)
    faultCode := errorCode
    faultString := errorString }

namespace Uploads

variable (lib : UploadLibrary)

/-- The plugin before the first upload. -/
def init : Uploads := ⟨fun _ => none, [], [], []⟩

/-- `transfer_update_status`; a transfer that is not found is left alone. -/
def transferUpdateStatus (d : Uploads) (index : Int32) (startTime completeTime : String)
    (errorCode : UInt32) (errorString : Option String) : Uploads :=
  { d with acsTransfers := Function.update d.acsTransfers index ((d.acsTransfers index).map
      fun t => t.uploadFinished startTime completeTime errorCode errorString) }

/-! ### The call for a vendor file -/

/-- The checks that stand before the call, with what the call is given. -/
def checkedArgs (a : UploadArgs) (object method : String) : Option VendorFileCall := do
  let fileType ← nonEmpty a.fileType
  let vendorfileIndex := vendorfileGetIndex lib fileType
  guard (vendorfileIndex ≠ 0)
  let url ← nonEmpty a.url
  let username ← a.username
  let password ← a.password
  return ⟨object ++ toString vendorfileIndex, method, url, username, password⟩

/-- The common part of `filetransfer_upload_selftest_call_done` and
`upload_vendor_config_file`, with the call the device has taken: `ready` is a check of the
first, and a failure is entered with `time`. -/
def callVendorFile (d : Uploads) (a : UploadArgs) (ready : Bool) (object method : String)
    (retval : ℤ) (now time : String) : Uploads × Option VendorFileCall :=
  match if ready then checkedArgs lib a object method else none with
  | some call =>
    if retval = 0 then
      ({ d with uploadRequests := d.uploadRequests ++
          [⟨call.url, call.username, call.password, a.transferIndex, now⟩] }, some call)
    else
      (d.transferUpdateStatus a.transferIndex time time lib.faultcodeInternalError
        (some "Internal error"), none)
  | none =>
    (d.transferUpdateStatus a.transferIndex time time lib.faultcodeInternalError
      (some "Internal error"), none)

/-- `filetransfer_upload_selftest_call_done`; `req` is whether there is a request, which is
then taken off the list. -/
def filetransferUploadSelftestCallDone (d : Uploads) (req : Bool) (status : ℤ) (a : UploadArgs)
    (retval : ℤ) (now : String) : Uploads × Option VendorFileCall :=
  if a.index = 0 then (d, none)
  else
    match d.callVendorFile lib a (status = 0) "Device.DeviceInfo.VendorLogFile." "Upload" retval
      now now with
    | (d, call) =>
      (if req then { d with selftestRequests := d.selftestRequests.erase a } else d, call)

/-- `upload_vendor_config_file`. -/
def uploadVendorConfigFile (d : Uploads) (a : UploadArgs) (retval : ℤ) (now : String) :
    Uploads × Option VendorFileCall :=
  if a.index = 0 then (d, none)
  else
    d.callVendorFile lib a true "Device.DeviceInfo.VendorConfigFile." "Backup" retval now
      unknownTime

/-! ### The preparation -/

/-- `filetransfer_upload_start`; `timer` is whether the timer could be made. -/
def filetransferUploadStart (d : Uploads) (a : UploadArgs) (timer : Bool) : Uploads :=
  if timer then { d with timers := d.timers ++ [a] } else d

/-- `filetransfer_upload_prepare`. -/
def filetransferUploadPrepare (d : Uploads) (bus : PrepareAnswers) (a : UploadArgs) :
    Uploads × Option VendorFileCall :=
  if bus.busCtx then
    match nonEmpty a.fileType with
    | none => (d, none)
    | some filetype =>
      if hasText filetype "2 Vendor Log File" || hasText filetype "4 Vendor Log File 1" then
        if bus.request then ({ d with selftestRequests := d.selftestRequests ++ [a] }, none)
        else (d, none)
      else if hasText filetype "4 Vendor Log File" then
        d.filetransferUploadSelftestCallDone lib false 0 a bus.call bus.now
      else if hasText filetype "1 Vendor Configuration File" ||
          hasText filetype "3 Vendor Configuration File" then
        d.uploadVendorConfigFile lib a bus.call bus.now
      else (d, none)
  else (d, none)

/-- `filetransfer_upload_cb`: the delay of an upload is over. -/
def filetransferUploadCb (d : Uploads) (bus : PrepareAnswers) (a : UploadArgs) :
    Uploads × Option VendorFileCall :=
  { d with timers := d.timers.erase a }.filetransferUploadPrepare lib bus a

/-! ### The completion -/

/-- `filetransfer_upload_find`. -/
def filetransferUploadFind (d : Uploads) (transferurl : String) : Option UploadContext :=
  d.uploadRequests.find? fun upload => upload.url = transferurl

/-- `filetransfer_upload_complete_notification`. -/
def filetransferUploadCompleteNotification (d : Uploads) (data : Option TransferCompleteData)
    (endTime : String) : Uploads :=
  match data with
  | none => d
  | some adata =>
    match (nonEmpty adata.transferURL).bind d.filetransferUploadFind with
    | none => d
    | some upload =>
      { d.transferUpdateStatus upload.index upload.time endTime adata.faultCode
          adata.faultString with
        uploadRequests := d.uploadRequests.erase upload }

end Uploads

end Tr069
