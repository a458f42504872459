import Tr069Manager.AcsTransfers.DataModel

/-!
# The time-out of an ACS transfer

The daemon arms a timer for each transfer it has handed to the plugin, under the
transfer's CommandKey, and `DM_ENG_Device_TransferTimedOut` is its callback: it scans the
transfers for the first one with that CommandKey, writes the fault of the time-out, and
reports what the data model then has. The test on the status is the wrong way
round: a transfer that is still Initial is not written, and is reported as it is – with
fault code 0 –, while one that is already Finished loses its own result.

Whether the report is right is decided by the state before the callback alone
(`Tr069.timed_out_reports_iff`). The date parser of the engine is a parameter.
-/

namespace Tr069

/-- What the daemon has of the ACS transfers: the data model on the bus, its own
subscriptions and time-out timers, and what it has handed to the engine. -/
structure UpDownload where
  acsTransfers : Table ObjectPath AcsTransfer
  transferSubsList : List Int32
  timers : List String
  reported : List TransferCompleteStruct

/-- Whether the bus calls of a callback succeed: the read of all transfers, the write of
one and the read of one. -/
structure BusAnswers where
  getAll : Bool
  set : Bool
  get : Bool

/-- What `DM_ENG_Device_UpdateTransferState` writes to a transfer. An empty or missing
completion time is not written. -/
def AcsTransfer.finished (t : AcsTransfer) (faultCode : UInt32) (faultString : String)
    (completeTime : Option String) : AcsTransfer :=
  { t with
    faultString := some faultString
    faultCode := faultCode
    status := some "Finished"
    completeTime := (completeTime.filter (· ≠ "")).or t.completeTime }

section Engine

variable (dateStringToTime : Option String → ℤ)

/-- `DM_ENG_Device_BuildTransferCompleteResponse`. -/
def buildTransferCompleteResponse (t : AcsTransfer) (path : ObjectPath) :
    TransferCompleteStruct where
  autonomousTransfer := t.initiator.any fun s => "Autonomous".toList.isPrefixOf s.toList
  announceURL := "announceURL"
  transferURL := t.url
  fileType := t.fileType
  fileSize := t.fileSize.toInt32
  targetFileName := t.targetFileName
  isDownload := t.isDownload
  isScheduleDownload := false
  commandKey := t.commandKey
  faultCode := t.faultCode.toInt32
  faultString := t.faultString
  startTime := dateStringToTime t.startTime
  completeTime := dateStringToTime t.completeTime
  path := path

namespace UpDownload

/-- `DM_ENG_Device_Common_DeleteSubscription`. -/
def deleteSubscription (d : UpDownload) (uid : Int32) : UpDownload :=
  { d with transferSubsList := d.transferSubsList.erase uid }

/-- `DM_ENG_NotificationInterface_timerStop`. -/
def timerStop (d : UpDownload) (name : Option String) : UpDownload :=
  { d with timers := d.timers.filter fun t => some t ≠ name }

/-- `DM_ENG_Device_UpdateTransferState`; `set` says whether the bus takes the write. -/
def updateTransferState (d : UpDownload) (set : Bool) (path : ObjectPath) (faultCode : UInt32)
    (faultString : String) (completeTime : Option String) : UpDownload :=
  if set then
    { d with acsTransfers :=
        d.acsTransfers.modify path fun t => t.finished faultCode faultString completeTime }
  else d

/-- `DM_ENG_Device_TransferCompleteEvent`; `get` says whether the bus answers. -/
def transferCompleteEvent (d : UpDownload) (get : Bool) (path : ObjectPath) : UpDownload :=
  if get then
    match d.acsTransfers.find path with
    | none => d
    | some t =>
      let d := d.timerStop t.commandKey
      let d := { d with
        reported := d.reported ++ [buildTransferCompleteResponse dateStringToTime t path] }
      d.deleteSubscription t.subscriptionId
  else d

/-- `DM_ENG_Device_TransferTimedOut`. -/
def transferTimedOut (d : UpDownload) (bus : BusAnswers) (cmdkey : Option String) : UpDownload :=
  match cmdkey with
  | none => d
  | some cmdkey =>
    if bus.getAll then
      match d.acsTransfers.first fun t => t.commandKey = some cmdkey with
      | none => d
      | some (key, transfer) =>
        let d := d.deleteSubscription transfer.subscriptionId
        -- the source writes unless strcmp finds the status equal to Initial
        let d :=
          if transfer.status.isSome ∧ transfer.status ≠ some "Initial" then
            d.updateTransferState bus.set key transfer.timedOutCode "Transfer timed out" none
          else d
        d.transferCompleteEvent dateStringToTime bus.get key
    else d

end UpDownload

end Engine

/-! ### What the callback does -/

namespace UpDownload

variable {dateStringToTime : Option String → ℤ} {d : UpDownload} {bus : BusAnswers}
  {path : ObjectPath} {t : AcsTransfer} {key : String}

/-- What the data model has of the transfer a callback has found, when it is reported. -/
def afterTimeOut (bus : BusAnswers) (t : AcsTransfer) : AcsTransfer :=
  if (t.status.isSome ∧ t.status ≠ some "Initial") ∧ bus.set = true then
    t.finished t.timedOutCode "Transfer timed out" none
  else t

variable (dateStringToTime) in
/-- A report leaves the transfers as they are, and reports one that exists if the bus
answers. -/
theorem transferCompleteEvent_spec (get : Bool) (ht : d.acsTransfers.find path = some t) :
    (d.transferCompleteEvent dateStringToTime get path).acsTransfers = d.acsTransfers ∧
    (d.transferCompleteEvent dateStringToTime get path).reported =
      d.reported ++
        if get then [buildTransferCompleteResponse dateStringToTime t path] else [] := by
  rw [transferCompleteEvent]
  cases get with
  | false => exact ⟨rfl, (List.append_nil _).symm⟩
  | true =>
    rw [if_pos rfl, ht]
    exact ⟨rfl, rfl⟩

theorem transferTimedOut_of_getAll_false (hall : bus.getAll = false) (cmdkey : Option String) :
    d.transferTimedOut dateStringToTime bus cmdkey = d := by
  cases cmdkey with
  | none => rfl
  | some key => simp [transferTimedOut, hall]

variable (dateStringToTime) in
/-- **What the callback does with the transfer it finds**: it reports that one, as the
data model has it after the write, and leaves the others alone. -/
theorem transferTimedOut_of_first (hall : bus.getAll = true)
    (hfirst : d.acsTransfers.first (fun t => t.commandKey = some key) = some (path, t)) :
    (∀ q, q ≠ path → (d.transferTimedOut dateStringToTime bus (some key)).acsTransfers.find q =
      d.acsTransfers.find q) ∧
    (d.transferTimedOut dateStringToTime bus (some key)).acsTransfers.find path =
      some (afterTimeOut bus t) ∧
    (d.transferTimedOut dateStringToTime bus (some key)).reported =
      d.reported ++ if bus.get then
        [buildTransferCompleteResponse dateStringToTime (afterTimeOut bus t) path] else [] := by
  have hfind := (Table.find_of_first hfirst).1
  -- the write, if it is made and succeeds, changes the transfer that was found
  have hwrite : ∃ d' : UpDownload, d'.reported = d.reported ∧
      d'.acsTransfers.find path = some (afterTimeOut bus t) ∧
      (∀ q, q ≠ path → d'.acsTransfers.find q = d.acsTransfers.find q) ∧
      d.transferTimedOut dateStringToTime bus (some key) =
        d'.transferCompleteEvent dateStringToTime bus.get path := by
    simp only [transferTimedOut, hall, hfirst, if_true]
    by_cases hst : t.status.isSome ∧ t.status ≠ some "Initial"
    · rw [if_pos hst]
      refine ⟨_, ?_, ?_, ?_, rfl⟩
      · rw [updateTransferState]
        split <;> rfl
      · by_cases hset : bus.set = true
        · rw [updateTransferState, if_pos hset, afterTimeOut, if_pos ⟨hst, hset⟩,
            Table.find_modify_self]
          exact congrArg (Option.map _) hfind
        · rw [updateTransferState, if_neg hset, afterTimeOut, if_neg fun h => hset h.2]
          exact hfind
      · intro q hq
        rw [updateTransferState]
        split
        · exact Table.find_modify_ne hq
        · rfl
    · rw [if_neg hst]
      refine ⟨d.deleteSubscription t.subscriptionId, rfl, ?_, fun q _ => rfl, rfl⟩
      rw [afterTimeOut, if_neg fun h => hst h.1]
      exact hfind
  obtain ⟨d', hreported, hpath, hother, heq⟩ := hwrite
  obtain ⟨hkeep, hreport⟩ := transferCompleteEvent_spec dateStringToTime
    bus.get hpath
  rw [heq, hkeep, hreport, hreported]
  exact ⟨hother, hpath, rfl⟩

/-- A list is not itself with one element more. -/
theorem ne_append_singleton {α : Type*} (l : List α) (a : α) : l ≠ l ++ [a] := by
  intro h
  have hlen := congrArg List.length h
  rw [List.length_append, List.length_singleton] at hlen
  omega

/-! ### Whether the report is right -/

/-- From `d` to `d'` the transfer at `path`, which was `t`, is reported, it alone and
once: with the fault of the time-out, and then it is Finished with that fault, unless it
was Finished, and then with its own result. -/
def ReportsTimedOut (dateStringToTime : Option String → ℤ) (d d' : UpDownload)
    (path : ObjectPath) (t : AcsTransfer) : Prop :=
  (∃ r, d'.reported = d.reported ++ [r] ∧ r.path = path ∧ r.commandKey = t.commandKey ∧
    if t.status = some "Finished" then
      r.faultCode = t.faultCode.toInt32 ∧ r.faultString = t.faultString ∧
        r.completeTime = dateStringToTime t.completeTime
    else
      r.faultCode = t.timedOutCode.toInt32 ∧ ∃ t', d'.acsTransfers.find path = some t' ∧
        t'.status = some "Finished" ∧ t'.faultCode = t.timedOutCode) ∧
  ∀ q, q ≠ path → d'.acsTransfers.find q = d.acsTransfers.find q

/-- What the report of a time-out needs: the bus answers both reads, the transfer is the
first with its CommandKey, and it is under way and the bus takes the write, or it is
Finished and is not written, or has the fault of the time-out already. -/
structure TimesOut (d : UpDownload) (bus : BusAnswers) (path : ObjectPath) (t : AcsTransfer)
    (key : String) : Prop where
  getAll : bus.getAll = true
  get : bus.get = true
  first : d.acsTransfers.first (fun t => t.commandKey = some key) = some (path, t)
  status : (t.status.isSome ∧ t.status ≠ some "Initial" ∧ t.status ≠ some "Finished" ∧
      bus.set = true) ∨
    t.status = some "Finished" ∧ (bus.set = false ∨
      t.faultCode = t.timedOutCode ∧ t.faultString = some "Transfer timed out")

end UpDownload

/-- **When a time-out is reported as it should be**: for every set of transfers and every
one of them whose timer expires. -/
theorem timed_out_reports_iff (dateStringToTime : Option String → ℤ) (d : UpDownload)
    (bus : BusAnswers) {path : ObjectPath} {t : AcsTransfer} {key : String}
    (ht : d.acsTransfers.find path = some t) (hkey : t.commandKey = some key) :
    d.ReportsTimedOut dateStringToTime (d.transferTimedOut dateStringToTime bus (some key)) path t ↔
      d.TimesOut bus path t key := by
  constructor
  · rintro ⟨⟨r, hreported, hpath, -, hresult⟩, -⟩
    have hall : bus.getAll = true := by
      by_contra hall
      rw [UpDownload.transferTimedOut_of_getAll_false (Bool.eq_false_iff.mpr hall)] at hreported
      exact absurd hreported (UpDownload.ne_append_singleton _ _)
    obtain ⟨⟨q, u⟩, hfirst⟩ :
        ∃ e, d.acsTransfers.first (fun t => t.commandKey = some key) = some e :=
      Table.exists_first ht (decide_eq_true hkey)
    obtain ⟨-, hfind, hreport⟩ := UpDownload.transferTimedOut_of_first
      dateStringToTime hall hfirst
    rw [hreported] at hreport
    have hreport := List.append_cancel_left hreport
    have hget : bus.get = true := by
      by_contra hget
      rw [if_neg hget] at hreport
      cases hreport
    rw [if_pos hget] at hreport
    obtain rfl := (List.cons.inj hreport).1
    obtain rfl : q = path := hpath
    obtain rfl : u = t := Option.some.inj ((Table.find_of_first hfirst).1.symm.trans ht)
    refine ⟨hall, hget, hfirst, ?_⟩
    by_cases hwritten : (u.status.isSome ∧ u.status ≠ some "Initial") ∧ bus.set = true
    · by_cases hfin : u.status = some "Finished"
      · rw [if_pos hfin, UpDownload.afterTimeOut, if_pos hwritten] at hresult
        exact Or.inr ⟨hfin, Or.inr ⟨congrArg Int32.toUInt32 hresult.1.symm, hresult.2.1.symm⟩⟩
      · exact Or.inl ⟨hwritten.1.1, hwritten.1.2, hfin, hwritten.2⟩
    · by_cases hfin : u.status = some "Finished"
      · refine Or.inr ⟨hfin, Or.inl (Bool.eq_false_iff.mpr fun hset => hwritten ⟨?_, hset⟩)⟩
        rw [hfin]
        decide
      · -- without the write it is not Finished
        rw [if_neg hfin] at hresult
        obtain ⟨-, t', ht', hst', -⟩ := hresult
        rw [hfind, UpDownload.afterTimeOut, if_neg hwritten] at ht'
        obtain rfl := Option.some.inj ht'
        exact absurd hst' hfin
  · rintro ⟨hall, hget, hfirst, hstatus⟩
    obtain ⟨hother, hfind, hreport⟩ := UpDownload.transferTimedOut_of_first
      dateStringToTime hall hfirst
    rw [if_pos hget] at hreport
    refine ⟨⟨_, hreport, rfl, ?_, ?_⟩, hother⟩
    · change (UpDownload.afterTimeOut bus t).commandKey = t.commandKey
      rw [UpDownload.afterTimeOut]
      split <;> rfl
    · rcases hstatus with ⟨hsome, hinit, hfin, hset⟩ | ⟨hfin, hkept⟩
      · rw [if_neg hfin]
        have hafter : UpDownload.afterTimeOut bus t =
            t.finished t.timedOutCode "Transfer timed out" none := if_pos ⟨⟨hsome, hinit⟩, hset⟩
        rw [hafter] at hfind ⊢
        exact ⟨rfl, _, hfind, rfl, rfl⟩
      · rw [if_pos hfin]
        rcases hkept with hset | ⟨hcode, hstring⟩
        · have hafter : UpDownload.afterTimeOut bus t = t := if_neg fun h => by
            rw [hset] at h
            cases h.2
          rw [hafter]
          exact ⟨rfl, rfl, rfl⟩
        · rw [UpDownload.afterTimeOut]
          split
          · exact ⟨congrArg UInt32.toInt32 hcode.symm, hstring.symm, rfl⟩
          · exact ⟨rfl, rfl, rfl⟩

/-- A download as `DM_ENG_Device_AddTransfer` creates it. -/
def newDownload (commandKey status : String) : AcsTransfer where
  initiator := some "ACS"
  commandKey := some commandKey
  isDownload := true
  url := some "https://192.168.1.1:3001/test-install-ok"
  username := some "username"
  password := some "password"
  fileType := some "1 Firmware Upgrade Image"
  status := some status
  fileSize := 0
  targetFileName := some ""
  startTime := some "2024-01-01T00:00:00Z"
  completeTime := some "2024-01-01T01:00:00Z"
  faultCode := 0
  faultString := some ""
  subscriptionId := 1

/-- The path of the first transfer. -/
def transferPath : ObjectPath := ⟨"ManagementServer.ACSTransfers.ACSTransfer.1.", by decide⟩

/-- The daemon with one transfer, whose timer runs. -/
def oneTransfer (t : AcsTransfer) : UpDownload where
  acsTransfers := ⟨[(transferPath, t)], List.nodup_singleton _⟩
  transferSubsList := [t.subscriptionId]
  timers := t.commandKey.toList
  reported := []

theorem timed_out_reports_applying :
    (oneTransfer (newDownload "1234" "Applying")).ReportsTimedOut (fun _ => 0)
      ((oneTransfer (newDownload "1234" "Applying")).transferTimedOut (fun _ => 0)
        ⟨true, true, true⟩ (some "1234")) transferPath (newDownload "1234" "Applying") :=
  (timed_out_reports_iff (fun _ => 0) (oneTransfer (newDownload "1234" "Applying"))
    ⟨true, true, true⟩ (by decide) (by decide)).mpr
    ⟨rfl, rfl, by decide, Or.inl ⟨by decide, by decide, by decide, rfl⟩⟩

theorem timed_out_misses_initial :
    ¬∀ (dateStringToTime : Option String → ℤ) (d : UpDownload) (path : ObjectPath) (t : AcsTransfer)
      (key : String), d.acsTransfers.find path = some t → t.commandKey = some key →
      d.ReportsTimedOut dateStringToTime
        (d.transferTimedOut dateStringToTime ⟨true, true, true⟩ (some key)) path t := by
  intro hreports
  obtain ⟨⟨r, hreported, -, -, hresult⟩, -⟩ := hreports (fun _ => 0)
    (oneTransfer (newDownload "1234" "Initial")) transferPath (newDownload "1234" "Initial") "1234"
    (by decide) (by decide)
  have hfin : (newDownload "1234" "Initial").status ≠ some "Finished" := by decide
  rw [if_neg hfin] at hresult
  obtain ⟨hcode, -⟩ := hresult
  have hzero : (((oneTransfer (newDownload "1234" "Initial")).transferTimedOut (fun _ => 0)
      ⟨true, true, true⟩ (some "1234")).reported.map TransferCompleteStruct.faultCode) = [0] := by
    decide
  rw [hreported] at hzero
  have hr : r.faultCode = 0 := List.head_eq_of_cons_eq hzero
  rw [hr] at hcode
  exact absurd hcode (by decide)

end Tr069
