import Mathlib.Data.Int.Notation
import Mathlib.Data.Nat.Notation
import Tr069Manager.Lib.Table

/-!
# The `ACSTransfers` objects and what the daemon reports of them

`ManagementServer.ACSTransfers.ACSTransfer.{i}.`, as `cwmp_plugin-definition.odl`
declares it, `DM_AmxUpDownload.c` reads it over the bus and `cwmp_plugin_transfer.c` in
the data model: a parameter that cannot be read is `none`. The daemon keys the instances by
their path, and iterates them in the order of a hash table.
-/

namespace Tr069

/-- The path of an object, which is not empty. -/
abbrev ObjectPath := { path : String // path ≠ "" }

/-- `ACSTransfer.{i}.`, with the parameters the daemon and the plugin read or write. Its
times are texts on the bus. -/
structure AcsTransfer where
  initiator : Option String
  commandKey : Option String
  isDownload : Bool
  url : Option String
  username : Option String
  password : Option String
  fileType : Option String
  status : Option String
  fileSize : UInt32
  targetFileName : Option String
  startTime : Option String
  completeTime : Option String
  faultCode : UInt32
  faultString : Option String
  subscriptionId : Int32
  deriving DecidableEq

/-- `DM_ENG_TransferCompleteStruct`, as `DM_ENG_newTransferCompleteStruct` is called. -/
structure TransferCompleteStruct where
  autonomousTransfer : Bool
  announceURL : String
  transferURL : Option String
  fileType : Option String
  fileSize : Int32
  targetFileName : Option String
  isDownload : Bool
  isScheduleDownload : Bool
  commandKey : Option String
  faultCode : Int32
  faultString : Option String
  startTime : ℤ
  completeTime : ℤ
  path : ObjectPath
  deriving DecidableEq

/-- `DM_ENG_DOWNLOAD_FAILURE`. -/
def dmEngDownloadFailure : UInt32 := 9010

/-- `DM_ENG_UPLOAD_FAILURE`. -/
def dmEngUploadFailure : UInt32 := 9011

/-- The fault of a transfer that has timed out. -/
def AcsTransfer.timedOutCode (t : AcsTransfer) : UInt32 :=
  if t.isDownload then dmEngDownloadFailure else dmEngUploadFailure

end Tr069
