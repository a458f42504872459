import Mathlib.Data.Int.Notation
import Mathlib.Logic.Function.Basic
import Tr069Manager.AcsTransfers.DataModel
import Tr069Manager.ScheduleDownload.Plugin

/-!
# The firmware downloads of the ACS transfers

The part of `cwmp_plugin_transfer.c` that runs a `Download` of file type "1 Firmware
Upgrade Image": `AddTransfer` arms a timer on the object of the transfer, the callback
of the timer subscribes to the firmware image and calls its `Download`, and the
notifications end the transfer. A transfer subscribes with its own object as the `priv` of
the slot, and every subscribed one takes every notification for its own.

The timers and the slots hold bare pointers. A callback that is given the pointer of an
object that is gone ends the process, and the functions below say so with their second
value. The other file types of `AddTransfer`, which go to another library, never
reach the firmware image.
-/

namespace Tr069

/-! ### Fault strings -/

/-- `_FAULT_MESSAGES`: the faults from 9000 on, and last the one of the vendors. -/
def faultMessages : List String :=
  ["Method not supported", "Request denied (no reason specified)", "Internal error",
    "Invalid arguments", "Resources exceeded", "Invalid parameter name", "Invalid parameter type",
    "Invalid parameter value", "Attempt to set a non-writable parameter",
    "Notification request rejected", "Download failure", "Upload failure",
    "File transfer server authentication failure", "Unsupported protocol for file transfer",
    "Download failure: unable to join multicast group",
    "Download failure: unable to contact file server", "Download failure: unable to access file",
    "Download failure: unable to complete download", "Download failure: file corrupted",
    "Download failure: file authentication failure", "Vendor specific fault"]

/-- `cwmp_plugin_getFaultString`. -/
def cwmpPluginGetFaultString (code : ℤ) : Option String :=
  let i := code - 9000
  if 0 ≤ i ∧ i < 20 then faultMessages[i.toNat]?
  else if 800 ≤ i ∧ i ≤ 899 then faultMessages[20]?
  else none

/-- `UNKNOWN_TIME`. -/
def unknownTime : String := "0001-01-01T00:00:00Z"

/-- `update_transfer_obj`; an argument that is `none` is not written. -/
def updateTransferObj (t : AcsTransfer) (status startTime completeTime : Option String)
    (faultCode : Option UInt32) : AcsTransfer :=
  { t with
    status := status.or t.status
    startTime := startTime.or t.startTime
    completeTime := completeTime.or t.completeTime
    faultCode := faultCode.getD t.faultCode
    faultString := match faultCode with
      | none => t.faultString
      | some code => cwmpPluginGetFaultString code.toInt32.toInt }

/-- The fault code `firmwareimage_notification` gives a failed download. -/
def acsFirmwareFaultCode (bootFailureLog : String) : UInt32 :=
  if bootFailureLog = "Protocol not supported" then 9013
  else if bootFailureLog = "(67) Error" then 9012
  else 9010

/-! ### The state -/

/-- What the plugin has of the ACS transfers: the instances by index and the last index
given out, the download timers that run, each with its object and the milliseconds it was
started with, the objects that are subscribed to the firmware image, and the transfers
whose `Download` the device has accepted and not yet ended. -/
structure AcsDownloads where
  acsTransfers : ℕ → Option AcsTransfer
  lastIndex : ℕ
  timers : List (ℕ × UInt32)
  subscriptions : List ℕ
  downloads : List ℕ

/-- The arguments of `AddTransfer` that decide what it does with a firmware image. -/
structure AddTransferArgs where
  index : ℕ
  isDownload : Bool
  fileType : Option String
  delaySeconds : UInt32

/-- What the bus answers to the subscription and to the `Download` call of a callback. -/
structure DownloadAnswers where
  subscribe : ℤ
  download : ℤ

namespace AcsDownloads

/-- The plugin right after its first start. -/
def init : AcsDownloads := ⟨fun _ => none, 0, [], [], []⟩

/-- The transfers with one of them changed. -/
def update (a : AcsDownloads) (j : ℕ) (t : AcsTransfer) : AcsDownloads :=
  { a with acsTransfers := Function.update a.acsTransfers j (some t) }

/-- `firmwareimage_add_subscription`, when the bus accepts it. -/
def addSubscription (a : AcsDownloads) (j : ℕ) : AcsDownloads :=
  { a with subscriptions := a.subscriptions.filter (· ≠ j) ++ [j] }

/-- `firmwareimage_del_subscription`. -/
def delSubscription (a : AcsDownloads) (j : ℕ) : AcsDownloads :=
  { a with subscriptions := a.subscriptions.filter (· ≠ j) }

/-! ### `AddTransfer` -/

/-- `filetransfer_request_prepare`, for a firmware image, with what it returns; `none` for
the requests that are not for one. -/
def filetransferRequestPrepare (a : AcsDownloads) (args : AddTransferArgs) :
    Option (AcsDownloads × ℤ) :=
  if args.isDownload ∧ args.fileType = some fileType1FirmwareUpgradeImage then
    match a.acsTransfers args.index with
    | none => some (a, -1)
    | some t =>
      let a := { a with timers := a.timers ++ [(args.index, args.delaySeconds * 1000)] }
      if args.delaySeconds ≤ 1 then
        some (a.update args.index (updateTransferObj t (some "Applying") none none none), 0)
      else some (a, 0)
  else none

/-! ### The timer callback -/

/-- `firmwareimage_download`; `ret` is what the device answers. -/
def firmwareimageDownload (a : AcsDownloads) (j : ℕ) (t : AcsTransfer) (ret : ℤ) :
    AcsDownloads × ℤ :=
  match t.url, t.username, t.password with
  | some _, some _, some _ =>
    if ret = 0 then ({ a with downloads := a.downloads ++ [j] }, 0) else (a, ret)
  | _, _, _ => (a, -1)

/-- `firmware_upgrade`. -/
def firmwareUpgrade (a : AcsDownloads) (j : ℕ) (t : AcsTransfer) (answers : DownloadAnswers) :
    AcsDownloads × ℤ :=
  if answers.subscribe = 0 then
    match (a.addSubscription j).firmwareimageDownload j t answers.download with
    | (a, ret) => if ret = 0 then (a, 0) else (a, -1)
  else (a, -1)

/-- `download_timer_cb`, on the object of transfer `j`. -/
def downloadTimerCb (a : AcsDownloads) (j : ℕ) (answers : DownloadAnswers) : AcsDownloads × Bool :=
  match a.acsTransfers j with
  | none => (a, false)
  | some t =>
    let t := updateTransferObj t (some "Applying") none none none
    match (a.update j t).firmwareUpgrade j t answers with
    | (a, ret) =>
      if ret ≠ 0 then
        ((a.update j (updateTransferObj t (some "Finished") none none (some 9002))).delSubscription
          j, true)
      else (a, true)

/-! ### The notification -/

/-- What `firmwareimage_notification` writes to a transfer whose download has failed. -/
def failedTransfer (t : AcsTransfer) (bootFailureLog : String) : AcsTransfer :=
  updateTransferObj t (some "Finished") none (some unknownTime)
    (some (acsFirmwareFaultCode bootFailureLog))

/-- `firmwareimage_notification` of each subscribed transfer in turn, on a status that ends a
download. -/
def notifyFailure (bootFailureLog : String) : List ℕ → AcsDownloads → AcsDownloads × Bool
  | [], a => (a, true)
  | j :: js, a =>
    match a.acsTransfers j with
    | none => (a, false)
    | some t =>
      notifyFailure bootFailureLog js
        ((a.update j (failedTransfer t bootFailureLog)).delSubscription j)

/-- The notification reaches every subscribed transfer. -/
def firmwareimageNotification (a : AcsDownloads) (status bootFailureLog : Option String) :
    AcsDownloads × Bool :=
  if status.any firmwareFailed then notifyFailure (bootFailureLog.getD "") a.subscriptions a
  else (a, true)

/-! ### Steps -/

/-- The process ends and a new one has started; with `reboot` the device has restarted
too. -/
def restart (a : AcsDownloads) (reboot : Bool) : AcsDownloads :=
  { a with timers := [], subscriptions := [], downloads := if reboot then [] else a.downloads }

end AcsDownloads

/-- What can happen to the ACS transfers: an instance is added, written – by the daemon that
reports a time-out, say – or deleted over the bus, `AddTransfer` is called, a download timer
fires. -/
inductive AcsEvent where
  | addInst (t : AcsTransfer)
  | setInst (j : ℕ) (t : AcsTransfer)
  | delInst (j : ℕ)
  | addTransfer (args : AddTransferArgs)
  | downloadTimer (j : ℕ) (ms : UInt32) (answers : DownloadAnswers)

namespace AcsDownloads

/-- One step of the ACS transfers; `none` when the event cannot happen. -/
def step (a : AcsDownloads) : AcsEvent → Option (AcsDownloads × Bool)
  | .addInst t => some ({ a with lastIndex := a.lastIndex + 1 }.update (a.lastIndex + 1) t, true)
  | .setInst j t => if (a.acsTransfers j).isSome then some (a.update j t, true) else none
  | .delInst j =>
    if (a.acsTransfers j).isSome then
      some ({ a with acsTransfers := Function.update a.acsTransfers j none }, true)
    else none
  | .addTransfer args => (a.filetransferRequestPrepare args).map fun r => (r.1, true)
  | .downloadTimer j ms answers =>
    if (j, ms) ∈ a.timers then
      some ({ a with timers := a.timers.erase (j, ms) }.downloadTimerCb j answers)
    else none

/-! ### What the callbacks do -/

variable {a a' : AcsDownloads} {j : ℕ} {t : AcsTransfer} {answers : DownloadAnswers} {up : Bool}

/-- The arguments of the `Download` call of a transfer can be read. -/
structure Readable (t : AcsTransfer) : Prop where
  url : t.url.isSome
  username : t.username.isSome
  password : t.password.isSome

/-- The callback of a download timer makes a `Download` call that is accepted: its object
exists and can be read, and the bus takes the subscription and the call. -/
structure Accepts (a : AcsDownloads) (j : ℕ) (answers : DownloadAnswers) : Prop where
  readable : ∃ t, a.acsTransfers j = some t ∧ Readable t
  subscribe : answers.subscribe = 0
  download : answers.download = 0

theorem mem_addSubscription {k : ℕ} : k ∈ (a.addSubscription j).subscriptions ↔
    k ∈ a.subscriptions ∨ k = j := by
  simp only [addSubscription, List.mem_append, List.mem_filter, List.mem_singleton,
    decide_eq_true_eq]
  constructor
  · rintro (⟨h, -⟩ | h)
    · exact Or.inl h
    · exact Or.inr h
  · rintro (h | h)
    · by_cases hk : k = j
      · exact Or.inr hk
      · exact Or.inl ⟨h, hk⟩
    · exact Or.inr h

theorem mem_delSubscription {k : ℕ} : k ∈ (a.delSubscription j).subscriptions ↔
    k ∈ a.subscriptions ∧ k ≠ j := by
  simp only [delSubscription, List.mem_filter, decide_eq_true_eq]

/-- The device accepts the `Download` of a transfer, or nothing has changed. -/
theorem firmwareimageDownload_cases (a : AcsDownloads) (j : ℕ) (t : AcsTransfer) (ret : ℤ) :
    (Readable t ∧ ret = 0 ∧
      a.firmwareimageDownload j t ret = ({ a with downloads := a.downloads ++ [j] }, 0)) ∨
    ∃ r, r ≠ 0 ∧ a.firmwareimageDownload j t ret = (a, r) := by
  unfold firmwareimageDownload
  split
  · next hurl huser hpass =>
    by_cases hret : ret = 0
    · rw [if_pos hret]
      exact Or.inl ⟨⟨Option.isSome_of_eq_some hurl, Option.isSome_of_eq_some huser,
        Option.isSome_of_eq_some hpass⟩, hret, rfl⟩
    · rw [if_neg hret]
      exact Or.inr ⟨ret, hret, rfl⟩
  · exact Or.inr ⟨-1, by omega, rfl⟩

/-- What a run of `firmware_upgrade` ends in: a `Download` that is accepted, or none. -/
theorem firmwareUpgrade_cases (a : AcsDownloads) (j : ℕ) (t : AcsTransfer)
    (answers : DownloadAnswers) :
    (Readable t ∧ answers.subscribe = 0 ∧ answers.download = 0 ∧
      a.firmwareUpgrade j t answers =
        ({ a.addSubscription j with downloads := a.downloads ++ [j] }, 0)) ∨
      a.firmwareUpgrade j t answers = (a, -1) ∨
        a.firmwareUpgrade j t answers = (a.addSubscription j, -1) := by
  unfold firmwareUpgrade
  by_cases hsub : answers.subscribe = 0
  · rw [if_pos hsub]
    rcases firmwareimageDownload_cases (a.addSubscription j) j t answers.download with
      ⟨hread, hret, h⟩ | ⟨r, hr, h⟩
    · rw [h]
      exact Or.inl ⟨hread, hsub, hret, rfl⟩
    · right
      right
      rw [h]
      simp only [if_neg hr]
  · rw [if_neg hsub]
    exact Or.inr (Or.inl rfl)

/-- **What the callback of a download timer does** to the downloads and the subscriptions:
it starts the download of its own transfer and subscribes it, or starts none and
subscribes nothing. -/
theorem downloadTimerCb_cases (a : AcsDownloads) (j : ℕ) (answers : DownloadAnswers) :
    (a.Accepts j answers ∧ (a.downloadTimerCb j answers).1.downloads = a.downloads ++ [j] ∧
      ∀ k ∈ (a.downloadTimerCb j answers).1.subscriptions, k ∈ a.subscriptions ∨ k = j) ∨
    ((a.downloadTimerCb j answers).1.downloads = a.downloads ∧
      (a.downloadTimerCb j answers).1.subscriptions ⊆ a.subscriptions) := by
  unfold downloadTimerCb
  split
  · exact Or.inr ⟨rfl, List.Subset.refl _⟩
  · next t ht =>
    generalize hu : updateTransferObj t (some "Applying") none none none = u
    rcases firmwareUpgrade_cases (a.update j u) j u answers with
      ⟨hread, hsub, hret, h⟩ | h | h
    · left
      simp only [h, ne_eq, not_true_eq_false, if_false]
      refine ⟨⟨⟨t, ht, ?_⟩, hsub, hret⟩, rfl, fun k hk => ?_⟩
      · rw [← hu] at hread
        exact ⟨hread.url, hread.username, hread.password⟩
      · exact mem_addSubscription.mp hk
    · right
      have hneg : (-1 : ℤ) ≠ 0 := by omega
      simp only [h, if_pos hneg]
      exact ⟨rfl, fun k hk => (mem_delSubscription.mp hk).1⟩
    · right
      have hneg : (-1 : ℤ) ≠ 0 := by omega
      simp only [h, if_pos hneg]
      refine ⟨rfl, fun k hk => ?_⟩
      -- the subscription made for the call is taken back
      obtain ⟨hmem, hne⟩ := mem_delSubscription.mp hk
      rcases mem_addSubscription.mp hmem with h' | h'
      · exact h'
      · exact absurd h' hne

/-- **Who hears of a failure**: the subscribed transfers and no other; and if the process
survives it, none of them is subscribed any more. -/
theorem notifyFailure_spec (log : String) (js : List ℕ) (a : AcsDownloads) :
    (notifyFailure log js a).1.downloads = a.downloads ∧
    (∀ k, k ∉ js → (notifyFailure log js a).1.acsTransfers k = a.acsTransfers k) ∧
    ((notifyFailure log js a).2 = true →
      ∀ k ∈ (notifyFailure log js a).1.subscriptions, k ∈ a.subscriptions ∧ k ∉ js) := by
  induction js generalizing a with
  | nil => exact ⟨rfl, fun _ _ => rfl, fun _ k hk => ⟨hk, List.not_mem_nil⟩⟩
  | cons j js ih =>
    rw [notifyFailure]
    split
    · exact ⟨rfl, fun _ _ => rfl, fun h => absurd h Bool.false_ne_true⟩
    · next t ht =>
      obtain ⟨hdown, hother, hsubs⟩ := ih ((a.update j (failedTransfer t log)).delSubscription j)
      refine ⟨hdown, fun k hk => ?_, fun hup k hk => ?_⟩
      · obtain ⟨hkj, hkjs⟩ := not_or.mp (mt List.mem_cons.mpr hk)
        rw [hother k hkjs]
        exact Function.update_of_ne hkj _ _
      · obtain ⟨hmem, hkjs⟩ := hsubs hup k hk
        obtain ⟨hsub, hkj⟩ := mem_delSubscription.mp hmem
        exact ⟨hsub, fun h => (List.mem_cons.mp h).elim hkj hkjs⟩

/-- **What a step does** to the downloads and the subscriptions: it starts the download of one
transfer and subscribes it, or starts none and subscribes nothing. -/
theorem step_cases {e : AcsEvent} (h : a.step e = some (a', up)) :
    (∃ j ms answers, e = .downloadTimer j ms answers ∧ a.Accepts j answers ∧
      a'.downloads = a.downloads ++ [j] ∧
      ∀ k ∈ a'.subscriptions, k ∈ a.subscriptions ∨ k = j) ∨
    (a'.downloads = a.downloads ∧ a'.subscriptions ⊆ a.subscriptions) := by
  cases e with
  | addInst t =>
    cases h
    exact Or.inr ⟨rfl, List.Subset.refl _⟩
  | setInst j t =>
    simp only [step, Option.ite_none_right_eq_some, Option.some.injEq] at h
    cases h.2
    exact Or.inr ⟨rfl, List.Subset.refl _⟩
  | delInst j =>
    simp only [step, Option.ite_none_right_eq_some, Option.some.injEq] at h
    cases h.2
    exact Or.inr ⟨rfl, List.Subset.refl _⟩
  | addTransfer args =>
    right
    obtain ⟨⟨a'', ret⟩, hprep, hr⟩ := Option.map_eq_some_iff.mp h
    cases hr
    unfold filetransferRequestPrepare at hprep
    split at hprep
    · split at hprep
      · cases hprep
        exact ⟨rfl, List.Subset.refl _⟩
      · -- the timer is armed, and Applying may be written at once
        simp only at hprep
        split at hprep
        · cases hprep
          exact ⟨rfl, List.Subset.refl _⟩
        · cases hprep
          exact ⟨rfl, List.Subset.refl _⟩
    · cases hprep
  | downloadTimer j ms answers =>
    simp only [step, Option.ite_none_right_eq_some, Option.some.injEq] at h
    have h1 : a' = ({ a with timers := a.timers.erase (j, ms) }.downloadTimerCb j answers).1 :=
      (congrArg Prod.fst h.2).symm
    rcases downloadTimerCb_cases { a with timers := a.timers.erase (j, ms) } j answers with
      ⟨hacc, hdown, hsubs⟩ | ⟨hdown, hsubs⟩
    · refine Or.inl ⟨j, ms, answers, rfl, ⟨hacc.readable, hacc.subscribe, hacc.download⟩, ?_, ?_⟩
      · exact h1 ▸ hdown
      · exact h1 ▸ hsubs
    · exact Or.inr ⟨h1 ▸ hdown, h1 ▸ hsubs⟩

end AcsDownloads

end Tr069
