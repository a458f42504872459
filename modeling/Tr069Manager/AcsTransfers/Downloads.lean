import Tr069Manager.AcsTransfers.TimedTransfers
import Tr069Manager.AcsTransfers.Uploads
import Tr069Manager.Lib.Runs

/-!
# The downloads of the ACS transfers and their files

The part of `cwmp_plugin_transfer.c` that runs a `Download` of any file type but the
firmware image. The daemon adds the instance of the transfer and hands its number to
`AddTransfer`, which makes a request for the transfer library. When the request is
complete, a script is run on the file.

The instance the file name is written to is not the one with that number, but the one
a search for the CommandKey finds; the name made for a transfer that has none comes from
the CommandKey as well; and the script goes by whether there is a 2 or a 3 anywhere in the
file type, where it should be the one for the leading number
(`Tr069.downloadScript_eq_iff`).

The search is a parameter, of the keys of all transfers. The delay of a request and the
transfer itself are not followed: a request is complete at some time, and an instance is
removed after that.
-/

namespace Tr069

open Runs

/-! ### The data -/

/-- `ACSTransfer.{i}.`, with the name of the file on the system. -/
structure DownloadEntry extends AcsTransfer where
  saveFileName : Option String

/-- `ftx_request_t`, as the plugin fills it in, and the delay it is sent with. -/
structure FtxRequest where
  data : Int32
  url : String
  username : String
  password : String
  maxTransferTime : ℕ
  targetFile : Option String
  delay : UInt32

/-- A script that is run on a file. -/
structure DownloadTask where
  script : String
  fileName : String
  deriving DecidableEq

/-- A download that was a success: the file it was written to, the file type of its instance, and
the script that was run. -/
structure FinishedDownload where
  targetFile : Option String
  fileType : Option String
  task : Option DownloadTask
  deriving DecidableEq

/-- What `[CommandKey == '%s'].` finds among the instances with these keys. -/
structure DownloadLibrary where
  findCommandKey : List (Int32 × Option String) → String → Option Int32

/-- The instances of the transfers, the requests that are not complete, and – as a history – the
downloads that were a success. -/
structure Downloads where
  acsTransfers : Table Int32 DownloadEntry
  requests : List FtxRequest
  finished : List FinishedDownload

/-! ### The script -/

/-- `DL_WEB_CONTENT_SCRIPT`. -/
def dlWebContentScript : String := "tr069_2_webcontent"

/-- `DL_CONF_FILE_SCRIPT`. -/
def dlConfFileScript : String := "tr069_3_conf_apply"

/-- The script `filetransfer_download_finished` picks. -/
def downloadScript (fileType : String) : Option String :=
  if hasText fileType "2" then some dlWebContentScript
  else if hasText fileType "3" then some dlConfFileScript
  else none

/-- The number some digits are. -/
def digitsValue (digits : List Char) : ℕ := digits.foldl (fun n c => 10 * n + (c.toNat - 48)) 0

/-- The number a file type begins with. -/
def leadingNumber (fileType : String) : Option ℕ :=
  if fileType.toList.takeWhile Char.isDigit = [] then none
  else some (digitsValue (fileType.toList.takeWhile Char.isDigit))

/-- The script for a number. -/
def scriptFor : Option ℕ → Option String
  | some 2 => some dlWebContentScript
  | some 3 => some dlConfFileScript
  | _ => none

/-- The digits 2 and 3 stand for nothing but the leading number. -/
def WellTyped (fileType : String) : Prop :=
  if leadingNumber fileType = some 2 then True
  else if leadingNumber fileType = some 3 then hasText fileType "2" = false
  else hasText fileType "2" = false ∧ hasText fileType "3" = false

instance (fileType : String) : Decidable (WellTyped fileType) := by
  unfold WellTyped
  infer_instance

theorem digitsValue_concat (digits : List Char) (c : Char) :
    digitsValue (digits ++ [c]) = 10 * digitsValue digits + (c.toNat - 48) := by
  rw [digitsValue, List.foldl_append]
  rfl

/-- A number of one digit has that digit for its last one. -/
theorem last_of_digitsValue {digits : List Char} (hdigits : ∀ c ∈ digits, c.isDigit = true)
    (hpos : 0 < digitsValue digits) (hlt : digitsValue digits < 10) :
    ∃ c ∈ digits, c.toNat = 48 + digitsValue digits := by
  rcases List.eq_nil_or_concat digits with rfl | ⟨before, c, rfl⟩
  · exact absurd hpos (Nat.lt_irrefl 0)
  · rw [List.concat_eq_append] at *
    have hmem : c ∈ before ++ [c] := List.mem_append_right _ List.mem_cons_self
    have hc := hdigits c hmem
    have hvalue := digitsValue_concat before c
    refine ⟨c, hmem, ?_⟩
    rw [Char.isDigit, Bool.and_eq_true, decide_eq_true_eq, decide_eq_true_eq] at hc
    obtain ⟨hlo, hhi⟩ := hc
    have hlo' : 48 ≤ c.toNat := hlo
    omega

/-- A text with one character is a search for it. -/
theorem hasText_singleton (t : String) (c : Char) :
    hasText t (String.singleton c) = true ↔ c ∈ t.toList := by
  rw [hasText, CString.strstr_isSome, String.toList_singleton, List.singleton_infix_iff]

/-- The leading digit is in the text. -/
theorem hasText_of_leadingNumber {fileType : String} {n : ℕ} {c : Char}
    (h : leadingNumber fileType = some n) (hpos : 0 < n) (hlt : n < 10)
    (hc : c.toNat = 48 + n) : hasText fileType (String.singleton c) = true := by
  unfold leadingNumber at h
  split at h
  · cases h
  · obtain rfl := Option.some.inj h
    obtain ⟨d, hd, hvalue⟩ :=
      last_of_digitsValue (fun d hd => List.mem_takeWhile_imp hd) hpos hlt
    have hsame : d = c := Char.toNat_inj.mp (hvalue.trans hc.symm)
    rw [hasText_singleton, ← hsame]
    exact (List.takeWhile_prefix _).subset hd

/-- **The script is the one for the leading number** exactly for these file types. -/
theorem downloadScript_eq_iff (fileType : String) :
    downloadScript fileType = scriptFor (leadingNumber fileType) ↔ WellTyped fileType := by
  have hdiffer : (some dlWebContentScript : Option String) ≠ some dlConfFileScript := by decide
  unfold WellTyped
  by_cases h2 : leadingNumber fileType = some 2
  · have htext : hasText fileType "2" = true :=
      @hasText_of_leadingNumber fileType 2 '2' h2 (by decide) (by decide) rfl
    rw [if_pos h2, downloadScript, if_pos htext, h2]
    exact ⟨fun _ => trivial, fun _ => rfl⟩
  · rw [if_neg h2]
    by_cases h3 : leadingNumber fileType = some 3
    · have htext : hasText fileType "3" = true :=
        @hasText_of_leadingNumber fileType 3 '3' h3 (by decide) (by decide) rfl
      rw [if_pos h3, downloadScript, h3]
      rcases hasText fileType "2"
      · rw [if_neg (by decide), if_pos htext]
        exact ⟨fun _ => rfl, fun _ => rfl⟩
      · exact ⟨fun h => absurd h hdiffer, nofun⟩
    · have hnone : scriptFor (leadingNumber fileType) = none := by
        rcases hn : leadingNumber fileType with - | n
        · rfl
        · rw [scriptFor]
          · exact fun h => h2 (hn.trans h)
          · exact fun h => h3 (hn.trans h)
      rw [if_neg h3, hnone, downloadScript]
      rcases hasText fileType "2" <;> rcases hasText fileType "3" <;> simp

/-! ### The operations of the source -/

/-- The file a transfer is downloaded to. -/
def TransferRequest.fileName (r : TransferRequest) : String :=
  if r.targetFileName ≠ "" then "/tmp/" ++ r.targetFileName else "/tmp/dl_" ++ r.commandkey

/-- The instance the daemon adds for a transfer, with the name of the file as `SaveFileName`. -/
def TransferRequest.newEntry (r : TransferRequest) (startTime completeTime : String) :
    DownloadEntry :=
  { r.entry startTime completeTime with saveFileName := some r.targetFileName }

/-- `filetransfer_set_common_data`, with the number of the instance. -/
def filetransferSetCommonData (index : Int32) (r : TransferRequest) : FtxRequest where
  data := index
  url := r.url
  username := r.username
  password := r.password
  maxTransferTime := 3600
  targetFile := none
  delay := r.delayseconds

namespace Downloads

/-- The CommandKeys of the instances. -/
def commandKeys (acsTransfers : Table Int32 DownloadEntry) : List (Int32 × Option String) :=
  acsTransfers.entries.map fun e => (e.1, e.2.commandKey)

section

variable (lib : DownloadLibrary)

/-- `filetransfer_download_set_target_file`. -/
def filetransferDownloadSetTargetFile (s : Downloads) (request : FtxRequest) (r : TransferRequest) :
    Downloads × FtxRequest :=
  match lib.findCommandKey (commandKeys s.acsTransfers) r.commandkey with
  | none => (s, request)
  | some transfer =>
    ({ s with
      acsTransfers := s.acsTransfers.modify transfer fun t =>
        { t with saveFileName := some r.fileName } },
      { request with targetFile := some r.fileName })

/-- `filetransfer_request_prepare`, for a file that is not the firmware image; the other two
branches do not come to the files. -/
def filetransferRequestPrepare (s : Downloads) (index : Int32) (r : TransferRequest) : Downloads :=
  if r.isDownload ∧ r.fileType ≠ firmwareUpgradeImage then
    match s.filetransferDownloadSetTargetFile lib (filetransferSetCommonData index r) r with
    | (s, request) => { s with requests := s.requests ++ [request] }
  else s

/-- `DM_ENG_Device_AddTransfer`: the daemon adds the instance, and hands its number on. -/
def addTransfer (s : Downloads) (index : Int32) (r : TransferRequest)
    (startTime completeTime : String) : Downloads :=
  { s with
    acsTransfers := s.acsTransfers.put index (r.newEntry startTime completeTime)
    }.filetransferRequestPrepare lib index r

end

/-- `filetransfer_download_finished`: the script that is run. -/
def filetransferDownloadFinished (s : Downloads) (index : Int32) : Option DownloadTask := do
  let transfer ← s.acsTransfers.find index
  let fileType ← transfer.fileType
  let targetFileName ← transfer.saveFileName
  let script ← downloadScript fileType
  return ⟨script, targetFileName⟩

/-- `transfer_update_status`, with the Status "Finished". -/
def transferUpdateStatus (s : Downloads) (index : Int32) (startTime completeTime : String)
    (errorCode : UInt32) (errorString : Option String) : Downloads :=
  { s with
    acsTransfers := s.acsTransfers.modify index fun t =>
      { t.uploadFinished startTime completeTime errorCode errorString with
        saveFileName := t.saveFileName } }

/-- `filetransfer_request_cb`. -/
def filetransferRequestCb (s : Downloads) (request : FtxRequest) (startTime endTime : String)
    (errorCode : UInt32) (errorReason : Option String) : Downloads :=
  let s :=
    if errorCode = 0 then
      { s with
        finished := s.finished ++ [⟨request.targetFile,
          (s.acsTransfers.find request.data).bind fun t => t.fileType,
          s.filetransferDownloadFinished request.data⟩] }
    else s
  s.transferUpdateStatus request.data startTime endTime errorCode errorReason

/-! ### The system -/

/-- What can happen. -/
inductive Event where
  /-- the daemon starts a transfer, with a new instance -/
  | addTransfer (index : Int32) (r : TransferRequest) (startTime completeTime : String)
  /-- a request is complete -/
  | complete (n : ℕ) (startTime endTime : String) (errorCode : UInt32)
      (errorReason : Option String)
  /-- an instance is removed that no request is under way for -/
  | remove (index : Int32)

/-- One event, if it is possible. -/
def step (lib : DownloadLibrary) (s : Downloads) : Event → Option Downloads
  | .addTransfer index r startTime completeTime =>
    if (s.acsTransfers.find index).isNone then
      some (s.addTransfer lib index r startTime completeTime)
    else none
  | .complete n startTime endTime errorCode errorReason =>
    s.requests[n]?.map fun request =>
      { s with requests := s.requests.eraseIdx n }.filetransferRequestCb request startTime endTime
        errorCode errorReason
  | .remove index =>
    if s.requests.all fun request => request.data ≠ index then
      some { s with acsTransfers := s.acsTransfers.remove index }
    else none

/-- The plugin before the first transfer. -/
def init : Downloads := ⟨Table.empty, [], []⟩

end Downloads

end Tr069
