import Tr069Manager.AcsTransfers.FirmwareDownload
import Tr069Manager.AcsTransfers.TimedTransfers
import Tr069Manager.Lib.MachineInt

/-!
# The requests of the ACS for a transfer, in both processes

`DM_ENG_Device_DoDownload` and `DM_ENG_Device_DoUpload` of the daemon, and `AddTransfer` of
the plugin, which they call. On the way of one request four things are made, one after
another: an instance of `ACSTransfer`, a start timer of the plugin, a subscription of the
daemon, and a time-out of it. All four are in one state here
(`Tr069.RequestedTransfers`), and what the bus and the libraries answer on the way is an
argument (`Tr069.RequestAnswers`).

`AddTransfer` says in its return value whether it has taken the transfer, and its status is
always that of a call that went well: the daemon looks at the status and at nothing else. Of
the plugin itself, `filetransfer_request_prepare` looks at what two of its three branches
return.

The callbacks of the start timers, and the name of the file of a download, are in
`Tr069.AcsDownloads`, `Tr069.Downloads` and `Tr069.Uploads`. The two URLs that a browser may
be sent to are handed on and never read; they are left out.
-/

namespace Tr069

/-! ### The state -/

/-- What the code has from the variants of the bus: a number of 32 bits without a sign, read
as one with a sign. What is read of one that does not fit is left open. -/
structure VariantLibrary where
  getInt32 : UInt32 → Int32
  getInt32_of_lt : ∀ d : UInt32, d.toNat < 2 ^ 31 → (getInt32 d).toInt = d.toNat

/-- The variants that cut off what does not fit. -/
def cutVariants : VariantLibrary := ⟨UInt32.toInt32, fun _ => UInt32.toInt_toInt32_of_lt⟩

/-- The callbacks of the start timers of the plugin. -/
inductive StartCallback where
  | downloadTimerCb
  | startTimerCb
  | filetransferUploadCb
  deriving DecidableEq

/-- A start timer that runs: for the instance of an index, with its milliseconds. -/
structure StartTimer where
  callback : StartCallback
  index : Int32
  wait : UInt32
  deriving DecidableEq

/-- The arguments of a request; a text may be null. -/
structure TransferArguments where
  commandkey : Option String
  fileType : Option String
  url : Option String
  username : Option String
  password : Option String
  fileSize : UInt32
  targetFileName : Option String
  delayseconds : UInt32

/-- What the libraries of the plugin answer: whether there is a timer and whether it was
started, and whether there is a request of the transfer library and memory for its data. -/
structure PluginAnswers where
  timerNew : Bool
  timerStart : Bool
  ftxRequestNew : Bool
  data : Bool

/-- What is answered on the way of a request: the index of the instance that was added; whether
the call of `AddTransfer` reaches the plugin, and whether its answer comes back in time; the id
of the subscription; and whether the id was written. -/
structure RequestAnswers where
  added : Option Int32
  reached : Bool
  answered : Bool
  plugin : PluginAnswers
  subscribed : Option Int32
  set : Bool

/-- Both processes: the daemon with the data model, the start timers of the plugin, and – as a
history – the instances whose `AddTransfer` has returned true. -/
structure RequestedTransfers where
  daemon : TimedTransfers
  startTimers : List StartTimer
  accepted : List Int32

/-- `TRANSFER_ENTRY_PATH "%d."`. -/
def instancePath (index : Int32) : ObjectPath :=
  ⟨"ManagementServer.ACSTransfers.ACSTransfer." ++ toString index ++ ".", by
    intro h
    have hlength := congrArg String.length h
    rw [String.length_append, String.length_append] at hlength
    have hdot : ".".length = 1 := rfl
    have hempty : "".length = 0 := rfl
    omega⟩

/-- The instance that is added, with its times as the bus has them. -/
def TransferArguments.entry (a : TransferArguments) (isDownload : Bool)
    (startTime completeTime : String) : AcsTransfer where
  initiator := some "ACS"
  commandKey := a.commandkey
  isDownload := isDownload
  url := a.url
  username := a.username
  password := a.password
  fileType := a.fileType
  status := some "Initial"
  fileSize := a.fileSize
  targetFileName := a.targetFileName
  startTime := some startTime
  completeTime := some completeTime
  faultCode := 0
  faultString := some ""
  subscriptionId := 0

/-- What the daemon sees of the answers. -/
def RequestAnswers.toAddAnswers (bus : RequestAnswers) : AddAnswers where
  added := bus.added.map instancePath
  addTransfer := bus.reached && bus.answered
  subscribed := bus.subscribed
  set := bus.set

namespace RequestedTransfers

variable (lib : VariantLibrary)

/-- Both processes before the first request. -/
def init : RequestedTransfers := ⟨⟨Table.empty, [], TimerList.empty, []⟩, [], []⟩

/-! ### The plugin -/

/-- `amxp_timer_new` and `amxp_timer_start`: a timer runs when both do what they should. -/
def amxpTimerStart (s : RequestedTransfers) (answers : PluginAnswers) (timer : StartTimer) :
    ℤ × RequestedTransfers :=
  if answers.timerNew then
    if answers.timerStart then (0, { s with startTimers := s.startTimers ++ [timer] })
    else (-1, s)
  else (-1, s)

/-- `start_filetransfer_request`; it does not look at the start of its timer. -/
def startFiletransferRequest (s : RequestedTransfers) (answers : PluginAnswers) (index : Int32)
    (delay : UInt32) : ℤ × RequestedTransfers :=
  (if answers.timerNew then 0 else -1,
    (s.amxpTimerStart answers ⟨.startTimerCb, index, delay * 1000⟩).2)

/-- The delay of a transfer, as the plugin reads it. -/
def delaySeconds (a : TransferArguments) : UInt32 := (lib.getInt32 a.delayseconds).toUInt32

/-- `filetransfer_upload_start`, which returns nothing. -/
def filetransferUploadStart (s : RequestedTransfers) (answers : PluginAnswers) (index : Int32)
    (a : TransferArguments) : RequestedTransfers :=
  (s.amxpTimerStart answers ⟨.filetransferUploadCb, index, delaySeconds lib a * 1000⟩).2

/-- The Status that is written at once when a firmware image is not to wait. -/
def applying (s : RequestedTransfers) (index : Int32) : RequestedTransfers :=
  { s with daemon := { s.daemon with
      acsTransfers := s.daemon.acsTransfers.modify (instancePath index) fun t =>
        updateTransferObj t (some "Applying") none none none } }

/-- `filetransfer_request_prepare`, with what it returns. -/
def filetransferRequestPrepare (s : RequestedTransfers) (answers : PluginAnswers) (index : Int32)
    (a : TransferArguments) (isDownload : Bool) : ℤ × RequestedTransfers :=
  if isDownload then
    if a.fileType = some firmwareUpgradeImage then
      match s.daemon.acsTransfers.find (instancePath index) with
      | none => (-1, s)
      | some _ =>
        match s.amxpTimerStart answers
            ⟨.downloadTimerCb, index, delaySeconds lib a * 1000⟩ with
        | (error, s) =>
          if error = 0 then
            if delaySeconds lib a ≤ 1 then (0, s.applying index) else (0, s)
          else (-1, s)
    else if answers.ftxRequestNew then
      if answers.data then
        (0, (s.startFiletransferRequest answers index (delaySeconds lib a)).2)
      else (-1, s)
    else (-1, s)
  else (0, s.filetransferUploadStart lib answers index a)

/-- `_AddTransfer`, with its return value. -/
def pluginAddTransfer (s : RequestedTransfers) (answers : PluginAnswers) (index : Int32)
    (a : TransferArguments) (isDownload : Bool) : Bool × RequestedTransfers :=
  match s.filetransferRequestPrepare lib answers index a isDownload with
  | (error, s) =>
    if error = 0 then (true, { s with accepted := s.accepted ++ [index] }) else (false, s)

/-! ### The daemon -/

/-- `amxb_call` of `AddTransfer`: the return value, when the call went well. -/
def callAddTransfer (s : RequestedTransfers) (bus : RequestAnswers) (index : Int32)
    (a : TransferArguments) (isDownload : Bool) : Option Bool × RequestedTransfers :=
  if bus.reached then
    match s.pluginAddTransfer lib bus.plugin index a isDownload with
    | (ret, s) => (if bus.answered then some ret else none, s)
  else (none, s)

/-- `DM_ENG_Device_new_dm_entry`, when the bus has added the instance. -/
def addEntry (s : RequestedTransfers) (index : Int32) (entry : AcsTransfer) :
    RequestedTransfers :=
  { s with daemon := { s.daemon with
      acsTransfers := s.daemon.acsTransfers.put (instancePath index) entry } }

/-- `DM_ENG_Device_AddTransferSubscription`. -/
def addTransferSubscription (s : RequestedTransfers) (bus : RequestAnswers) (index : Int32) :
    ℤ × RequestedTransfers :=
  match s.daemon.addTransferSubscription bus.toAddAnswers (instancePath index) with
  | (error, d) => (error, { s with daemon := d })

section Clock

variable (amxcTsFormat : ℤ → String) (now : ℤ)

/-- `DM_ENG_Device_AddTransfer`, for a new instance. What `AddTransfer` returns is in a
variable that is not looked at. -/
def addTransfer (s : RequestedTransfers) (bus : RequestAnswers) (a : TransferArguments)
    (isDownload : Bool) : ℤ × RequestedTransfers :=
  match bus.added with
  | none => (dmEngRequestDenied, s)
  | some index =>
    let s := s.addEntry index (a.entry isDownload
      (amxcTsFormat (now + a.delayseconds.toNat)) (amxcTsFormat (now + 3600)))
    if index ≤ 0 then (dmEngRequestDenied, s)
    else
      match s.callAddTransfer lib bus index a isDownload with
      | (none, s) => (dmEngRequestDenied, s)
      | (some _, s) => s.addTransferSubscription bus index

/-- `DM_ENG_NotificationInterface_timerStart`, for the time-out of a transfer. -/
def timerStart (s : RequestedTransfers) (a : TransferArguments) : RequestedTransfers :=
  { s with daemon :=
      s.daemon.timerStart a.commandkey (a.delayseconds + 3600).toInt32 .transferTimedOut }

/-- The common part of the two requests. -/
def requestTransfer (s : RequestedTransfers) (bus : RequestAnswers) (a : TransferArguments)
    (isDownload : Bool) : ℤ × RequestedTransfers :=
  match s.addTransfer lib amxcTsFormat now bus a isDownload with
  | (error, s) => if error = 0 then (0, s.timerStart a) else (error, s)

/-- `DM_ENG_Device_DoDownload`. -/
def doDownload (s : RequestedTransfers) (bus : RequestAnswers) (a : TransferArguments) :
    ℤ × RequestedTransfers :=
  s.requestTransfer lib amxcTsFormat now bus a true

/-- `DM_ENG_Device_DoUpload`, which has no size and no name of a file. -/
def doUpload (s : RequestedTransfers) (bus : RequestAnswers) (a : TransferArguments) :
    ℤ × RequestedTransfers :=
  s.requestTransfer lib amxcTsFormat now bus { a with fileSize := 0, targetFileName := some "" }
    false

end Clock

/-! ### What the plugin does -/

/-- What `AddTransfer` needs of the libraries to return true. -/
def Prepares (answers : PluginAnswers) (a : TransferArguments) (isDownload : Bool) : Prop :=
  if isDownload then
    if a.fileType = some firmwareUpgradeImage then
      answers.timerNew = true ∧ answers.timerStart = true
    else answers.ftxRequestNew = true ∧ answers.data = true
  else True

instance instDecidablePrepares (answers : PluginAnswers) (a : TransferArguments)
    (isDownload : Bool) : Decidable (Prepares answers a isDownload) := by
  unfold Prepares
  infer_instance

/-- **What a call of `AddTransfer` leaves alone**: all that is of the daemon but the contents of
the instances. The start timers that are new are of this instance, and wait as long as it says. -/
structure PluginStep (s s' : RequestedTransfers) (index : Int32) (a : TransferArguments) :
    Prop where
  keys : s'.daemon.acsTransfers.keys = s.daemon.acsTransfers.keys
  transferSubsList : s'.daemon.transferSubsList = s.daemon.transferSubsList
  timers : s'.daemon.timers = s.daemon.timers
  startTimers : ∃ new, s'.startTimers = s.startTimers ++ new ∧
    ∀ t ∈ new, t.index = index ∧ t.wait = delaySeconds lib a * 1000

variable {lib} {s s' : RequestedTransfers} {bus : RequestAnswers} {answers : PluginAnswers}
variable {index : Int32} {a : TransferArguments} {isDownload : Bool} {timer : StartTimer}

theorem PluginStep.refl : PluginStep lib s s index a :=
  ⟨rfl, rfl, rfl, [], (List.append_nil _).symm, fun _ h => absurd h List.not_mem_nil⟩

theorem PluginStep.accept (h : PluginStep lib s s' index a) :
    PluginStep lib s { s' with accepted := s'.accepted ++ [index] } index a :=
  ⟨h.keys, h.transferSubsList, h.timers, h.startTimers⟩

theorem PluginStep.applying (h : PluginStep lib s s' index a) :
    PluginStep lib s (s'.applying index) index a :=
  ⟨Table.keys_modify.trans h.keys, h.transferSubsList, h.timers, h.startTimers⟩

theorem amxpTimerStart_fst : (s.amxpTimerStart answers timer).1 = 0 ↔
    answers.timerNew = true ∧ answers.timerStart = true := by
  rw [amxpTimerStart]
  cases answers.timerNew <;> cases answers.timerStart <;> simp

theorem amxpTimerStart_accepted : (s.amxpTimerStart answers timer).2.accepted = s.accepted := by
  rw [amxpTimerStart]
  cases answers.timerNew <;> cases answers.timerStart <;> rfl

theorem pluginStep_amxpTimerStart {callback : StartCallback} : PluginStep lib s
    (s.amxpTimerStart answers ⟨callback, index, delaySeconds lib a * 1000⟩).2 index a := by
  rw [amxpTimerStart]
  split
  · split
    · refine ⟨rfl, rfl, rfl, [_], rfl, fun t ht => ?_⟩
      obtain rfl := List.mem_singleton.mp ht
      exact ⟨rfl, rfl⟩
    · exact PluginStep.refl
  · exact PluginStep.refl

theorem pluginStep_filetransferRequestPrepare : PluginStep lib s
    (s.filetransferRequestPrepare lib answers index a isDownload).2 index a := by
  rw [filetransferRequestPrepare]
  split
  · split
    · split
      · exact PluginStep.refl
      · -- the firmware image, whose Status may be written at once
        have hstep : PluginStep lib s (s.amxpTimerStart answers
            ⟨.downloadTimerCb, index, delaySeconds lib a * 1000⟩).2 index a :=
          pluginStep_amxpTimerStart
        dsimp only
        split
        · split
          · exact hstep.applying
          · exact hstep
        · exact hstep
    · split
      · split
        · exact pluginStep_amxpTimerStart
        · exact PluginStep.refl
      · exact PluginStep.refl
  · exact pluginStep_amxpTimerStart

theorem filetransferRequestPrepare_accepted :
    (s.filetransferRequestPrepare lib answers index a isDownload).2.accepted = s.accepted := by
  rw [filetransferRequestPrepare]
  split
  · split
    · split
      · rfl
      · dsimp only
        split
        · split
          · exact amxpTimerStart_accepted
          · exact amxpTimerStart_accepted
        · exact amxpTimerStart_accepted
    · split
      · split
        · exact amxpTimerStart_accepted
        · rfl
      · rfl
  · exact amxpTimerStart_accepted

/-- What is prepared, for an instance there is. -/
theorem filetransferRequestPrepare_fst
    (hfind : (s.daemon.acsTransfers.find (instancePath index)).isSome) :
    (s.filetransferRequestPrepare lib answers index a isDownload).1 = 0 ↔
      Prepares answers a isDownload := by
  obtain ⟨t, ht⟩ := Option.isSome_iff_exists.mp hfind
  rw [filetransferRequestPrepare, Prepares]
  split
  · split
    · have htimer : (s.amxpTimerStart answers
          ⟨.downloadTimerCb, index, delaySeconds lib a * 1000⟩).1 = 0 ↔
            answers.timerNew = true ∧ answers.timerStart = true := amxpTimerStart_fst
      simp only [ht]
      split
      · next herror =>
        refine iff_of_true ?_ (htimer.mp herror)
        split <;> rfl
      · next herror => exact iff_of_false (Int.negSucc_ne_zero 0) (mt htimer.mpr herror)
    · cases answers.ftxRequestNew <;> cases answers.data <;> simp
  · exact iff_of_true rfl trivial

theorem pluginStep_pluginAddTransfer :
    PluginStep lib s (s.pluginAddTransfer lib answers index a isDownload).2 index a := by
  rw [pluginAddTransfer]
  dsimp only
  split
  · exact pluginStep_filetransferRequestPrepare.accept
  · exact pluginStep_filetransferRequestPrepare

/-- **What `AddTransfer` returns**, and that it is what the history says. -/
theorem pluginAddTransfer_fst
    (hfind : (s.daemon.acsTransfers.find (instancePath index)).isSome) :
    (s.pluginAddTransfer lib answers index a isDownload).1 =
        decide (Prepares answers a isDownload) ∧
      (s.pluginAddTransfer lib answers index a isDownload).2.accepted =
        if Prepares answers a isDownload then s.accepted ++ [index] else s.accepted := by
  have hprepare : (s.filetransferRequestPrepare lib answers index a isDownload).1 = 0 ↔
      Prepares answers a isDownload := filetransferRequestPrepare_fst hfind
  rw [pluginAddTransfer]
  dsimp only
  split
  · next herror =>
    rw [decide_eq_true (hprepare.mp herror), if_pos (hprepare.mp herror)]
    exact ⟨rfl, congrArg (· ++ [index]) filetransferRequestPrepare_accepted⟩
  · next herror =>
    rw [decide_eq_false (mt hprepare.mpr herror), if_neg (mt hprepare.mpr herror)]
    exact ⟨rfl, filetransferRequestPrepare_accepted⟩

theorem pluginStep_callAddTransfer :
    PluginStep lib s (s.callAddTransfer lib bus index a isDownload).2 index a := by
  rw [callAddTransfer]
  split
  · exact pluginStep_pluginAddTransfer
  · exact PluginStep.refl

/-- **The status of the call** says nothing of what it returns. -/
theorem callAddTransfer_isSome : (s.callAddTransfer lib bus index a isDownload).1.isSome =
    (bus.reached && bus.answered) := by
  rw [callAddTransfer]
  cases bus.reached <;> cases bus.answered <;> rfl

/-- A call that went well has been to the plugin. -/
theorem callAddTransfer_accepted
    (hfind : (s.daemon.acsTransfers.find (instancePath index)).isSome)
    (hcall : (bus.reached && bus.answered) = true) :
    (s.callAddTransfer lib bus index a isDownload).2.accepted =
      if Prepares bus.plugin a isDownload then s.accepted ++ [index] else s.accepted := by
  rw [callAddTransfer, if_pos (Bool.and_eq_true _ _ ▸ hcall).1]
  exact (pluginAddTransfer_fst hfind).2

/-! ### What the daemon does -/

section Clock

variable {amxcTsFormat : ℤ → String} {now : ℤ}

theorem find_addEntry {entry : AcsTransfer} :
    ((s.addEntry index entry).daemon.acsTransfers.find (instancePath index)).isSome := by
  rw [addEntry, Table.find_put_self]
  rfl

/-- A subscription that is made is noted, whether or not its id is written. -/
theorem addTransferSubscription_some {uid : Int32} (huid : bus.subscribed = some uid) :
    (s.addTransferSubscription bus index).1 = 0 ∧
      (s.addTransferSubscription bus index).2.daemon.transferSubsList =
        s.daemon.transferSubsList ++ [(uid, instancePath index)] ∧
      (s.addTransferSubscription bus index).2.accepted = s.accepted := by
  have huid' : bus.toAddAnswers.subscribed = some uid := huid
  rw [addTransferSubscription, TimedTransfers.addTransferSubscription, huid']
  dsimp only
  split <;> exact ⟨rfl, rfl, rfl⟩

theorem addTransferSubscription_none (huid : bus.subscribed = none) :
    s.addTransferSubscription bus index = (-1, s) := by
  have huid' : bus.toAddAnswers.subscribed = none := huid
  rw [addTransferSubscription, TimedTransfers.addTransferSubscription, huid']

theorem addTransferSubscription_timers :
    (s.addTransferSubscription bus index).2.startTimers = s.startTimers ∧
      (s.addTransferSubscription bus index).2.daemon.timers = s.daemon.timers := by
  rw [addTransferSubscription, TimedTransfers.addTransferSubscription]
  rcases bus.toAddAnswers.subscribed with - | uid
  · exact ⟨rfl, rfl⟩
  · dsimp only
    split <;> exact ⟨rfl, rfl⟩

/-- The new start timers of a request are of its own delay, and the timers of the daemon are not
touched before the time-out is armed. -/
theorem addTransfer_timers :
    (∃ new, (s.addTransfer lib amxcTsFormat now bus a isDownload).2.startTimers =
        s.startTimers ++ new ∧ ∀ t ∈ new, t.wait = delaySeconds lib a * 1000) ∧
      (s.addTransfer lib amxcTsFormat now bus a isDownload).2.daemon.timers =
        s.daemon.timers := by
  have hnone : ∃ new, s.startTimers = s.startTimers ++ new ∧
      ∀ t ∈ new, t.wait = delaySeconds lib a * 1000 :=
    ⟨[], (List.append_nil _).symm, fun _ h => absurd h List.not_mem_nil⟩
  rw [addTransfer]
  rcases bus.added with - | index
  · exact ⟨hnone, rfl⟩
  dsimp only
  split
  · exact ⟨hnone, rfl⟩
  · have hstep := @pluginStep_callAddTransfer lib (s.addEntry index (a.entry isDownload
      (amxcTsFormat (now + a.delayseconds.toNat)) (amxcTsFormat (now + 3600)))) bus index a
      isDownload
    obtain ⟨new, hnew, hwait⟩ := hstep.startTimers
    have hstart : ∃ new, _ = s.startTimers ++ new ∧ ∀ t ∈ new,
        t.wait = delaySeconds lib a * 1000 := ⟨new, hnew, fun t ht => (hwait t ht).2⟩
    split
    · next hcall =>
      rw [hcall] at hstart hstep
      exact ⟨hstart, hstep.timers⟩
    · next hcall =>
      rw [hcall] at hstart hstep
      rw [addTransferSubscription_timers.1, addTransferSubscription_timers.2]
      exact ⟨hstart, hstep.timers⟩

/-- The way of a request whose instance is added, with the state that has the instance. -/
theorem addTransfer_added (hadded : bus.added = some index) :
    ∃ s₁ : RequestedTransfers, s₁.accepted = s.accepted ∧
      s₁.daemon.transferSubsList = s.daemon.transferSubsList ∧
      (s₁.daemon.acsTransfers.find (instancePath index)).isSome ∧
      s.addTransfer lib amxcTsFormat now bus a isDownload =
        if index ≤ 0 then (dmEngRequestDenied, s₁)
        else
          match s₁.callAddTransfer lib bus index a isDownload with
          | (none, s₂) => (dmEngRequestDenied, s₂)
          | (some _, s₂) => s₂.addTransferSubscription bus index := by
  refine ⟨s.addEntry index (a.entry isDownload (amxcTsFormat (now + a.delayseconds.toNat))
    (amxcTsFormat (now + 3600))), rfl, rfl, find_addEntry, ?_⟩
  rw [addTransfer, hadded]

/-- The instance is kept by all that comes after it. -/
theorem find_of_keys {t u : Table ObjectPath AcsTransfer} {path : ObjectPath}
    (hkeys : t.keys = u.keys) (hfind : (u.find path).isSome) : (t.find path).isSome := by
  obtain ⟨e, he⟩ := Option.isSome_iff_exists.mp hfind
  have hmem : path ∈ t.keys := hkeys ▸ Table.mem_keys.mpr ⟨e, he⟩
  obtain ⟨e', he'⟩ := Table.mem_keys.mp hmem
  exact Option.isSome_iff_exists.mpr ⟨e', he'⟩

theorem addTransferSubscription_find
    (hfind : (s.daemon.acsTransfers.find (instancePath index)).isSome) :
    ((s.addTransferSubscription bus index).2.daemon.acsTransfers.find
      (instancePath index)).isSome := by
  rw [addTransferSubscription, TimedTransfers.addTransferSubscription]
  rcases bus.toAddAnswers.subscribed with - | uid
  · exact hfind
  · dsimp only
    split
    · exact find_of_keys Table.keys_modify hfind
    · exact hfind

/-- **An instance that was added is never taken back.** -/
theorem addTransfer_find (hadded : bus.added = some index) :
    ((s.addTransfer lib amxcTsFormat now bus a isDownload).2.daemon.acsTransfers.find
      (instancePath index)).isSome := by
  obtain ⟨s₁, -, -, hfind, hway⟩ :=
    @addTransfer_added lib s bus index a isDownload amxcTsFormat now hadded
  rw [hway]
  split
  · exact hfind
  · have hstep := @pluginStep_callAddTransfer lib s₁ bus index a isDownload
    have hfind₂ := find_of_keys hstep.keys hfind
    split
    · next hcall =>
      rw [hcall] at hfind₂
      exact hfind₂
    · next hcall =>
      rw [hcall] at hfind₂
      exact addTransferSubscription_find hfind₂

/-- **When a request gets through**: the index of its instance could be read, the call of
`AddTransfer` went well, whatever it returned, and the instance is subscribed. -/
structure GetsThrough (bus : RequestAnswers) (index : Int32) (uid : Int32) : Prop where
  added : bus.added = some index
  positive : 0 < index
  call : (bus.reached && bus.answered) = true
  subscribed : bus.subscribed = some uid

theorem addTransfer_through {uid : Int32} (h : GetsThrough bus index uid) :
    (s.addTransfer lib amxcTsFormat now bus a isDownload).1 = 0 ∧
      (s.addTransfer lib amxcTsFormat now bus a isDownload).2.daemon.transferSubsList =
        s.daemon.transferSubsList ++ [(uid, instancePath index)] ∧
      (s.addTransfer lib amxcTsFormat now bus a isDownload).2.accepted =
        if Prepares bus.plugin a isDownload then s.accepted ++ [index] else s.accepted := by
  obtain ⟨s₁, haccepted, hsubs, hfind, hway⟩ :=
    @addTransfer_added lib s bus index a isDownload amxcTsFormat now h.added
  have hstep := @pluginStep_callAddTransfer lib s₁ bus index a isDownload
  have hsome := @callAddTransfer_isSome lib s₁ bus index a isDownload
  have hhistory := @callAddTransfer_accepted lib s₁ bus index a isDownload hfind h.call
  rw [hway, if_neg (Int32.not_le.mpr h.positive)]
  rw [h.call] at hsome
  rcases hcall : s₁.callAddTransfer lib bus index a isDownload with ⟨- | ret, s₂⟩
  · rw [hcall] at hsome
    cases hsome
  · obtain ⟨herror, hlist, hsame⟩ := @addTransferSubscription_some s₂ bus index uid h.subscribed
    rw [hcall] at hstep hhistory
    exact ⟨herror, hlist.trans (hstep.transferSubsList.trans hsubs ▸ rfl),
      hsame.trans (haccepted ▸ hhistory)⟩

/-- A request that does not get through is a fault. -/
theorem addTransfer_fault (h : ∀ index uid, ¬ GetsThrough bus index uid) :
    (s.addTransfer lib amxcTsFormat now bus a isDownload).1 ≠ 0 := by
  have hdenied : dmEngRequestDenied ≠ 0 := by decide
  rcases hadded : bus.added with - | index
  · rw [addTransfer, hadded]
    exact hdenied
  obtain ⟨s₁, -, -, -, hway⟩ :=
    @addTransfer_added lib s bus index a isDownload amxcTsFormat now hadded
  rw [hway]
  split
  · exact hdenied
  · next hindex =>
    have hsome := @callAddTransfer_isSome lib s₁ bus index a isDownload
    split
    · exact hdenied
    · next hcall =>
      rw [hcall] at hsome
      rcases huid : bus.subscribed with - | uid
      · rw [addTransferSubscription_none huid]
        exact Int.negSucc_ne_zero 0
      · exact absurd ⟨hadded, Int32.not_le.mp hindex, hsome.symm, huid⟩ (h index uid)

/-! ### The daemon by itself -/

/-- The arguments of a request without a null. -/
def ofRequest (r : TransferRequest) : TransferArguments where
  commandkey := some r.commandkey
  fileType := some r.fileType
  url := some r.url
  username := some r.username
  password := some r.password
  fileSize := r.fileSize
  targetFileName := some r.targetFileName
  delayseconds := r.delayseconds

/-- Only for a firmware image does the plugin write into the data model. -/
theorem callAddTransfer_daemon
    (hfile : ¬ (isDownload = true ∧ a.fileType = some firmwareUpgradeImage)) :
    (s.callAddTransfer lib bus index a isDownload).2.daemon = s.daemon := by
  have htimer : ∀ (answers : PluginAnswers) (timer : StartTimer),
      (s.amxpTimerStart answers timer).2.daemon = s.daemon := by
    intro answers timer
    rw [amxpTimerStart]
    split
    · split <;> rfl
    · rfl
  have hprepare : (s.filetransferRequestPrepare lib bus.plugin index a isDownload).2.daemon =
      s.daemon := by
    rw [filetransferRequestPrepare]
    split
    · next hdownload =>
      rw [if_neg fun h => hfile ⟨hdownload, h⟩]
      split
      · split
        · exact htimer _ _
        · rfl
      · rfl
    · exact htimer _ _
  rw [callAddTransfer, pluginAddTransfer]
  split
  · dsimp only
    split <;> exact hprepare
  · rfl

/-- **The daemon of a request is the one of `Tr069.TimedTransfers`**, when the index of the
instance can be read and the plugin does not write the instance. -/
theorem daemon_requestTransfer {r : TransferRequest}
    (hindex : ∀ index, bus.added = some index → 0 < index)
    (hfile : ¬ (r.isDownload = true ∧ r.fileType = firmwareUpgradeImage)) :
    ((s.requestTransfer lib amxcTsFormat now bus (ofRequest r) r.isDownload).1,
        (s.requestTransfer lib amxcTsFormat now bus (ofRequest r) r.isDownload).2.daemon) =
      s.daemon.doTransfer amxcTsFormat now bus.toAddAnswers r := by
  have hadd : ((s.addTransfer lib amxcTsFormat now bus (ofRequest r) r.isDownload).1,
      (s.addTransfer lib amxcTsFormat now bus (ofRequest r) r.isDownload).2.daemon) =
        s.daemon.addTransfer bus.toAddAnswers (r.entry
          (amxcTsFormat (now + r.delayseconds.toNat)) (amxcTsFormat (now + 3600))) := by
    rw [addTransfer, TimedTransfers.addTransfer]
    rcases hadded : bus.added with - | index
    · have hnone : bus.toAddAnswers.added = none := by
        rw [RequestAnswers.toAddAnswers, hadded]
        rfl
      rw [hnone]
    · have hsome : bus.toAddAnswers.added = some (instancePath index) := by
        rw [RequestAnswers.toAddAnswers, hadded]
        rfl
      rw [hsome]
      dsimp only
      rw [if_neg (Int32.not_le.mpr (hindex index hadded)), TimedTransfers.addTransferCall]
      have hcall : bus.toAddAnswers.addTransfer = (bus.reached && bus.answered) := rfl
      generalize hs : s.addEntry index ((ofRequest r).entry r.isDownload
        (amxcTsFormat (now + (ofRequest r).delayseconds.toNat)) (amxcTsFormat (now + 3600))) = s₁
      have hd : s₁.daemon = { s.daemon with
          acsTransfers := s.daemon.acsTransfers.put (instancePath index) (r.entry
            (amxcTsFormat (now + r.delayseconds.toNat)) (amxcTsFormat (now + 3600))) } := by
        rw [← hs]
        rfl
      have hsame := @callAddTransfer_daemon lib s₁ bus index (ofRequest r) r.isDownload
        fun h => hfile ⟨h.1, Option.some.inj h.2⟩
      have hstatus := @callAddTransfer_isSome lib s₁ bus index (ofRequest r) r.isDownload
      rw [← hd, hcall, ← hstatus]
      rcases hway : s₁.callAddTransfer lib bus index (ofRequest r) r.isDownload with
        ⟨- | ret, s₂⟩
      · rw [hway] at hsame
        exact congrArg (Prod.mk dmEngRequestDenied) hsame
      · rw [hway] at hsame
        dsimp only [Option.isSome_some]
        rw [if_pos rfl, ← hsame]
        rfl
  rw [requestTransfer, TimedTransfers.doTransfer]
  dsimp only
  rw [← hadd]
  dsimp only
  split <;> rfl

end Clock

end RequestedTransfers

end Tr069
