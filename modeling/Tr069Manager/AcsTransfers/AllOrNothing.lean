import Tr069Manager.AcsTransfers.RequestedTransfers

/-!
# All or nothing

A request of the ACS for a transfer should be taken as a whole or not at all. It returns 0
exactly when `AddTransfer` has accepted the transfer, the transfer is subscribed and its
time-out is armed; and when it returns a fault, nothing that was made on its way is left.

Nothing is ever taken back, so that a fault is clean only when the very first step fails:
the bus does not add the instance. And of the steps that may fail, three are not looked at:
the return value of `AddTransfer`, whether `cwmp_timer_start` has started anything – it
refuses a name that is empty –, and what the timer of that name calls, which is another
callback when the name is in use (`Tr069.RequestedTransfers.allOrNothing_iff`).
-/

namespace Tr069

namespace RequestedTransfers

/-! ### The property -/

/-- **The transfer of a request is in place**: accepted, subscribed, and with its time-out. -/
structure InPlace (s s' : RequestedTransfers) (commandkey : Option String) (index : Int32) :
    Prop where
  accepted : s'.accepted = s.accepted ++ [index]
  subscribed : ∃ uid, s'.daemon.transferSubsList =
    s.daemon.transferSubsList ++ [(uid, instancePath index)]
  timeOut : ∃ key, commandkey = some key ∧
    s'.daemon.timers.handlerOf key = some .transferTimedOut

/-- **Nothing is left of a request.** -/
structure NothingLeft (s s' : RequestedTransfers) (bus : RequestAnswers) : Prop where
  entry : ∀ index, bus.added = some index →
    s'.daemon.acsTransfers.find (instancePath index) = none
  startTimers : s'.startTimers = s.startTimers
  timers : s'.daemon.timers = s.daemon.timers
  transferSubsList : s'.daemon.transferSubsList = s.daemon.transferSubsList

/-- **A request that is all or nothing**, with what it returns and leaves. -/
structure AllOrNothing (s : RequestedTransfers) (bus : RequestAnswers)
    (commandkey : Option String) (result : ℤ × RequestedTransfers) : Prop where
  zero_iff : result.1 = 0 ↔
    ∃ index, bus.added = some index ∧ InPlace s result.2 commandkey index
  fault : result.1 ≠ 0 → NothingLeft s result.2 bus

/-- The CommandKey can be the name of a time-out: it is a name, and no timer has it that calls
anything else. -/
def CanTimeOut (s : RequestedTransfers) (commandkey : Option String) : Prop :=
  ∃ key, commandkey = some key ∧ key ≠ "" ∧
    (s.daemon.timers.handlerOf key = none ∨
      s.daemon.timers.handlerOf key = some .transferTimedOut)

/-- **The condition**: the instance is not added, or nothing at all goes wrong. -/
def TakesAll (s : RequestedTransfers) (bus : RequestAnswers) (a : TransferArguments)
    (isDownload : Bool) : Prop :=
  bus.added = none ∨
    (∃ index uid, GetsThrough bus index uid) ∧ Prepares bus.plugin a isDownload ∧
      s.CanTimeOut a.commandkey

/-! ### The time-out -/

variable {lib : VariantLibrary} {amxcTsFormat : ℤ → String} {now : ℤ}
variable {s s' : RequestedTransfers} {bus : RequestAnswers} {a : TransferArguments}
variable {isDownload : Bool} {index : Int32}

/-- A start of the time-out arms it exactly when the name is there for it. -/
theorem timeOut_timerStart_iff (htimers : s'.daemon.timers = s.daemon.timers) :
    (∃ key, a.commandkey = some key ∧
      (s'.timerStart a).daemon.timers.handlerOf key = some .transferTimedOut) ↔
        s.CanTimeOut a.commandkey := by
  refine exists_congr fun key => and_congr_right fun hkey => ?_
  have hstart : (s'.timerStart a).daemon.timers =
      (s.daemon.timers.cwmpTimerStart (some key) (a.delayseconds + 3600).toInt32 0
        .transferTimedOut).1 := by
    rw [timerStart, TimedTransfers.timerStart, hkey, htimers]
  rw [hstart, TimerList.handlerOf_cwmpTimerStart]
  by_cases hname : key = ""
  · subst hname
    rw [if_neg fun h => h.2 rfl, TimerList.handlerOf_emptyName]
    exact iff_of_false nofun fun h => h.1 rfl
  · rw [if_pos ⟨rfl, hname⟩]
    rcases s.daemon.timers.handlerOf key with - | handler
    · exact iff_of_true rfl ⟨hname, Or.inl rfl⟩
    · exact ⟨fun h => ⟨hname, Or.inr h⟩, fun h => h.2.resolve_left (by simp)⟩

/-! ### The two ways of a request -/

/-- A fault leaves the instance that was added. -/
theorem allOrNothing_of_fault
    (hfault : ∀ index uid, ¬ GetsThrough bus index uid) :
    AllOrNothing s bus a.commandkey (s.requestTransfer lib amxcTsFormat now bus a isDownload) ↔
      bus.added = none := by
  have herror := @addTransfer_fault lib s bus a isDownload amxcTsFormat now hfault
  have hresult : s.requestTransfer lib amxcTsFormat now bus a isDownload =
      s.addTransfer lib amxcTsFormat now bus a isDownload := by
    rw [requestTransfer]
    dsimp only
    rw [if_neg herror]
  rw [hresult]
  constructor
  · intro h
    rcases hadded : bus.added with - | index
    · rfl
    · have hfind := @addTransfer_find lib s bus index a isDownload amxcTsFormat now hadded
      rw [(h.fault herror).entry index hadded] at hfind
      cases hfind
  · intro hadded
    refine ⟨iff_of_false herror ?_, fun _ => ?_⟩
    · rintro ⟨index, h, -⟩
      rw [hadded] at h
      cases h
    · rw [addTransfer, hadded]
      refine ⟨fun index h => ?_, rfl, rfl, rfl⟩
      rw [hadded] at h
      cases h

/-- A request that gets through returns 0, whatever `AddTransfer` has returned and whether or
not a time-out was armed. -/
theorem allOrNothing_of_through {uid : Int32} (h : GetsThrough bus index uid) :
    AllOrNothing s bus a.commandkey (s.requestTransfer lib amxcTsFormat now bus a isDownload) ↔
      Prepares bus.plugin a isDownload ∧ s.CanTimeOut a.commandkey := by
  obtain ⟨herror, hsubs, haccepted⟩ :=
    @addTransfer_through lib s bus index a isDownload amxcTsFormat now uid h
  have htimers := (@addTransfer_timers lib s bus a isDownload amxcTsFormat now).2
  have hresult : s.requestTransfer lib amxcTsFormat now bus a isDownload =
      (0, (s.addTransfer lib amxcTsFormat now bus a isDownload).2.timerStart a) := by
    rw [requestTransfer]
    dsimp only
    rw [if_pos herror]
  rw [hresult]
  constructor
  · intro hall
    obtain ⟨index', hadded, hplace⟩ := hall.zero_iff.mp rfl
    refine ⟨?_, (timeOut_timerStart_iff htimers).mp hplace.timeOut⟩
    -- the history grows only by what is prepared
    by_contra hprepares
    rw [if_neg hprepares] at haccepted
    have hsame : s.accepted = s.accepted ++ [index'] := haccepted.symm.trans hplace.accepted
    exact List.cons_ne_nil index' [] (List.self_eq_append_right.mp hsame)
  · rintro ⟨hprepares, htimeOut⟩
    rw [if_pos hprepares] at haccepted
    refine ⟨iff_of_true rfl ⟨index, h.added, haccepted, ⟨uid, hsubs⟩, ?_⟩, fun hne => ?_⟩
    · exact (timeOut_timerStart_iff htimers).mpr htimeOut
    · exact absurd rfl hne

/-- A request is all or nothing exactly under the condition. -/
theorem requestTransfer_allOrNothing :
    AllOrNothing s bus a.commandkey (s.requestTransfer lib amxcTsFormat now bus a isDownload) ↔
      s.TakesAll bus a isDownload := by
  by_cases h : ∃ index uid, GetsThrough bus index uid
  · obtain ⟨index, uid, hthrough⟩ := h
    rw [allOrNothing_of_through hthrough, TakesAll, hthrough.added]
    refine ⟨fun hall => Or.inr ⟨⟨index, uid, hthrough⟩, hall⟩, ?_⟩
    rintro (hnone | hall)
    · cases hnone
    · exact hall.2
  · rw [allOrNothing_of_fault fun index uid hthrough => h ⟨index, uid, hthrough⟩, TakesAll]
    exact ⟨Or.inl, fun hall => hall.elim id fun hall => absurd hall.1 h⟩

/-- **When a request is all or nothing**, of a download and of an upload: the instance is not
added, or it is added and the call, the plugin, the subscription and the name of the time-out are
all as they should be. -/
theorem allOrNothing_iff (lib : VariantLibrary) (amxcTsFormat : ℤ → String) (now : ℤ)
    (s : RequestedTransfers) (bus : RequestAnswers) (a : TransferArguments) :
    (AllOrNothing s bus a.commandkey (s.doDownload lib amxcTsFormat now bus a) ↔
        s.TakesAll bus a true) ∧
      (AllOrNothing s bus a.commandkey (s.doUpload lib amxcTsFormat now bus a) ↔
        s.TakesAll bus a false) :=
  -- the size and the name that an upload does not have are not among what counts
  ⟨requestTransfer_allOrNothing, @requestTransfer_allOrNothing lib amxcTsFormat now s bus
    { a with fileSize := 0, targetFileName := some "" } false⟩

/-! ### A transfer that was refused -/

/-- Of a download with the key "k" the transfer library makes no request. -/
def refusedDownload : TransferArguments :=
  ⟨some "k", some "3 Vendor Configuration File", some "http://acs/f", some "", some "", 0, some "f",
    0⟩

/-- All else goes well. -/
def refusedAnswers : RequestAnswers :=
  ⟨some 1, true, true, ⟨true, true, false, true⟩, some 7, true⟩

/-- `AddTransfer` has returned false, and the ACS is told that the download was taken. -/
theorem refusedDownload_not_allOrNothing :
    ¬ ∀ (lib : VariantLibrary) (amxcTsFormat : ℤ → String) (now : ℤ) (s : RequestedTransfers)
      (bus : RequestAnswers) (a : TransferArguments),
      AllOrNothing s bus a.commandkey (s.doDownload lib amxcTsFormat now bus a) ∧
        AllOrNothing s bus a.commandkey (s.doUpload lib amxcTsFormat now bus a) := by
  intro h
  have hall := (h cutVariants (fun _ => "") 0 init refusedAnswers refusedDownload).1
  rcases requestTransfer_allOrNothing.mp hall with hnone | ⟨-, hprepares, -⟩
  · cases hnone
  · exact absurd hprepares (by decide)

end RequestedTransfers

end Tr069
