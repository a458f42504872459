import Tr069Manager.AcsTransfers.RequestedTransfers

/-!
# The delays of a transfer

A request for a transfer carries a delay in seconds, an unsigned number of 32 bits, and two
timers come from it: the start timer of the plugin, which should wait for as many seconds,
and the time-out of the daemon, which should wait for an hour more. Both are told
milliseconds.

On its way to the start timer the delay is read as a signed number, taken back as an unsigned
one and multiplied by 1000. On its way to the time-out the hour is added to the unsigned
delay, the sum is handed on as a signed number, and that is multiplied by 1000 before it is
an unsigned number again. The narrowest of these steps is the last product, of signed numbers:
all of them are exact up to a delay of 2143883 seconds, not quite 25 days
(`Tr069.RequestedTransfers.delaysKept_iff`). What the two timers are told is right for longer,
as long as it is below `2 ^ 32` (`Tr069.toNat_timeOutWait_iff`, `Tr069.toNat_startWait_iff`).
-/

namespace Tr069

/-! ### The arithmetic -/

section Arithmetic

variable {lib : VariantLibrary} {d : UInt32}

/-- What a start timer is told for a delay. -/
def startWait (lib : VariantLibrary) (d : UInt32) : UInt32 := (lib.getInt32 d).toUInt32 * 1000

/-- What a time-out is told for a delay. -/
def timeOutWait (d : UInt32) : UInt32 := ((d + 3600).toInt32 * 1000).toUInt32

/-- **No step wraps around**: on the way to the start timer the reading of the delay and the
product, on the way to the time-out the sum, its conversion and the product. -/
structure NoWrap (lib : VariantLibrary) (d : UInt32) : Prop where
  getInt32 : (lib.getInt32 d).toInt = d.toNat
  startProduct : (startWait lib d).toNat = (lib.getInt32 d).toInt * 1000
  sum : (d + 3600).toNat = d.toNat + 3600
  waitTime : (d + 3600).toInt32.toInt = (d + 3600).toNat
  timeOutProduct : ((d + 3600).toInt32 * 1000).toInt = (d + 3600).toInt32.toInt * 1000

/-- A delay that a signed number can hold is read as it is. -/
theorem getInt32_eq (hd : d.toNat < 2 ^ 31) : lib.getInt32 d = d.toInt32 :=
  Int32.toInt_inj.mp ((lib.getInt32_of_lt d hd).trans (UInt32.toInt_toInt32_of_lt hd).symm)

/-- A start timer is told the delay as long as its milliseconds fit. -/
theorem toNat_startWait_iff :
    (startWait lib d).toNat = d.toNat * 1000 ↔ d.toNat * 1000 < 2 ^ 32 := by
  constructor
  · intro h
    exact h ▸ (startWait lib d).toNat_lt
  · intro h
    rw [startWait, getInt32_eq (by omega), UInt32.toUInt32_toInt32, UInt32.toNat_mul]
    exact Nat.mod_eq_of_lt h

theorem timeOutWait_eq : timeOutWait d = (d + 3600) * 1000 := by
  rw [timeOutWait, Int32.toUInt32_mul, UInt32.toUInt32_toInt32, Int32.toUInt32_ofNat]

theorem toNat_add_hour (hd : d.toNat + 3600 < 2 ^ 32) : (d + 3600).toNat = d.toNat + 3600 := by
  have hhour : (3600 : UInt32).toNat = 3600 := rfl
  rw [UInt32.toNat_add, hhour]
  exact Nat.mod_eq_of_lt hd

/-- A time-out is told the delay and an hour as long as their milliseconds fit. -/
theorem toNat_timeOutWait_iff :
    (timeOutWait d).toNat = (d.toNat + 3600) * 1000 ↔ (d.toNat + 3600) * 1000 < 2 ^ 32 := by
  constructor
  · intro h
    exact h ▸ (timeOutWait d).toNat_lt
  · intro h
    have hsum : (d + 3600).toNat = d.toNat + 3600 :=
      toNat_add_hour (Nat.lt_of_le_of_lt (Nat.le_mul_of_pos_right _ (by decide)) h)
    rw [timeOutWait_eq, UInt32.toNat_mul, hsum]
    exact Nat.mod_eq_of_lt h

/-- **Up to which delay no step wraps around**: the product of signed numbers decides. -/
theorem noWrap_iff : NoWrap lib d ↔ d.toNat ≤ 2143883 := by
  constructor
  · intro h
    have hproduct := h.timeOutProduct
    rw [h.waitTime, h.sum] at hproduct
    have hlt := ((d + 3600).toInt32 * 1000).toInt_lt
    omega
  · intro hd
    have hsum : (d + 3600).toNat = d.toNat + 3600 := toNat_add_hour (by omega)
    have hread : (lib.getInt32 d).toInt = d.toNat := lib.getInt32_of_lt d (by omega)
    have hwait : (d + 3600).toInt32.toInt = (d + 3600).toNat := UInt32.toInt_toInt32_of_lt (by omega)
    refine ⟨hread, ?_, hsum, hwait, ?_⟩
    · rw [toNat_startWait_iff.mpr (by omega), hread, Int.natCast_mul]
      rfl
    · have hthousand : (1000 : Int32).toInt = 1000 := rfl
      rw [Int32.toInt_mul, hwait, hsum, hthousand]
      exact Int.bmod_eq_of_le (by omega) (by omega)

end Arithmetic

namespace RequestedTransfers

/-! ### The property -/

/-- The start timers a request has added. -/
def newStartTimers (s s' : RequestedTransfers) : List StartTimer :=
  s'.startTimers.drop s.startTimers.length

/-- **A request that keeps the delays**: no step wraps around; the start timer it arms waits for
its delay, and the time-out it arms for an hour more, which is not before the transfer is due
to start. -/
structure DelaysKept (lib : VariantLibrary) (s : RequestedTransfers) (commandkey : Option String)
    (delayseconds : UInt32) (result : ℤ × RequestedTransfers) : Prop where
  noWrap : NoWrap lib delayseconds
  startTimer : ∀ t ∈ newStartTimers s result.2, t.wait.toNat = delayseconds.toNat * 1000
  timeOut : result.1 = 0 → ∀ key, commandkey = some key → key ≠ "" →
    ∃ item, result.2.daemon.timers.timerFind key = some item ∧
      item.wait.toNat = (delayseconds.toNat + 3600) * 1000 ∧
      ∀ t ∈ newStartTimers s result.2, t.wait ≤ item.wait

/-! ### What a request arms -/

variable {lib : VariantLibrary} {amxcTsFormat : ℤ → String} {now : ℤ}
variable {s : RequestedTransfers} {bus : RequestAnswers} {a : TransferArguments}
variable {isDownload : Bool}

/-- **What the start timer of a request is told.** -/
theorem wait_of_newStartTimers {t : StartTimer} (ht : t ∈ newStartTimers s
    (s.requestTransfer lib amxcTsFormat now bus a isDownload).2) :
    t.wait = startWait lib a.delayseconds := by
  obtain ⟨new, hnew, hwait⟩ :=
    (@addTransfer_timers lib s bus a isDownload amxcTsFormat now).1
  have hsame : (s.requestTransfer lib amxcTsFormat now bus a isDownload).2.startTimers =
      s.startTimers ++ new := by
    rw [requestTransfer, ← hnew]
    dsimp only
    split <;> rfl
  rw [newStartTimers, hsame, List.drop_left] at ht
  exact hwait t ht

/-- **What the time-out of a request is told**, under a name that was free or was not. -/
theorem wait_of_timeOut {key : String}
    (hzero : (s.requestTransfer lib amxcTsFormat now bus a isDownload).1 = 0)
    (hkey : a.commandkey = some key) (hname : key ≠ "") :
    ∃ item, (s.requestTransfer lib amxcTsFormat now bus a isDownload).2.daemon.timers.timerFind
      key = some item ∧ item.wait = timeOutWait a.delayseconds := by
  have herror : (s.addTransfer lib amxcTsFormat now bus a isDownload).1 = 0 := by
    by_contra herror
    rw [requestTransfer] at hzero
    dsimp only at hzero
    rw [if_neg herror] at hzero
    exact herror hzero
  rw [requestTransfer]
  dsimp only
  rw [if_pos herror, timerStart, TimedTransfers.timerStart, hkey,
    TimerList.timerFind_cwmpTimerStart hname, if_pos rfl]
  refine ⟨_, rfl, ?_⟩
  rcases (s.addTransfer lib amxcTsFormat now bus a isDownload).2.daemon.timers.timerFind key with
    - | item <;> rfl

/-- A request keeps the delays exactly when no step wraps around. -/
theorem requestTransfer_delaysKept :
    DelaysKept lib s a.commandkey a.delayseconds
        (s.requestTransfer lib amxcTsFormat now bus a isDownload) ↔
      a.delayseconds.toNat ≤ 2143883 := by
  refine ⟨fun h => noWrap_iff.mp h.noWrap, fun hd => ?_⟩
  have hstart : ∀ t ∈ newStartTimers s
      (s.requestTransfer lib amxcTsFormat now bus a isDownload).2,
        t.wait.toNat = a.delayseconds.toNat * 1000 := fun t ht => by
    rw [wait_of_newStartTimers ht]
    exact toNat_startWait_iff.mpr (by omega)
  refine ⟨noWrap_iff.mpr hd, hstart, fun hzero key hkey hname => ?_⟩
  obtain ⟨item, hitem, hwait⟩ := wait_of_timeOut hzero hkey hname
  have hexact : item.wait.toNat = (a.delayseconds.toNat + 3600) * 1000 := by
    rw [hwait]
    exact toNat_timeOutWait_iff.mpr (by omega)
  refine ⟨item, hitem, hexact, fun t ht => UInt32.le_iff_toNat_le.mpr ?_⟩
  have htime := hstart t ht
  omega

/-- **Up to which delay a download and an upload keep it**: not quite 25 days. -/
theorem delaysKept_iff (lib : VariantLibrary) (amxcTsFormat : ℤ → String) (now : ℤ)
    (s : RequestedTransfers) (bus : RequestAnswers) (a : TransferArguments) :
    (DelaysKept lib s a.commandkey a.delayseconds (s.doDownload lib amxcTsFormat now bus a) ↔
        a.delayseconds.toNat ≤ 2143883) ∧
      (DelaysKept lib s a.commandkey a.delayseconds (s.doUpload lib amxcTsFormat now bus a) ↔
        a.delayseconds.toNat ≤ 2143883) :=
  ⟨requestTransfer_delaysKept, @requestTransfer_delaysKept lib amxcTsFormat now s bus
    { a with fileSize := 0, targetFileName := some "" } false⟩

/-! ### A delay of fifty days -/

/-- A download that is to start in 4294968 seconds. -/
def lateDownload : TransferArguments :=
  ⟨some "k", some "3 Vendor Configuration File", some "http://acs/f", some "", some "", 0,
    some "f", 4294968⟩

/-- All goes well. -/
def takenAnswers : RequestAnswers :=
  ⟨some 1, true, true, ⟨true, true, true, true⟩, some 7, true⟩

/-- The download starts after 704 milliseconds. -/
theorem lateDownload_not_delaysKept :
    ¬ ∀ (lib : VariantLibrary) (amxcTsFormat : ℤ → String) (now : ℤ) (s : RequestedTransfers)
      (bus : RequestAnswers) (a : TransferArguments),
      DelaysKept lib s a.commandkey a.delayseconds (s.doDownload lib amxcTsFormat now bus a) ∧
        DelaysKept lib s a.commandkey a.delayseconds (s.doUpload lib amxcTsFormat now bus a) := by
  intro h
  have hkept := (h cutVariants (fun _ => "") 0 init takenAnswers lateDownload).1
  have hnew : newStartTimers init
      (init.doDownload cutVariants (fun _ => "") 0 takenAnswers lateDownload).2 =
        [⟨.startTimerCb, 1, 704⟩] := by decide +kernel
  have hwait := hkept.startTimer ⟨.startTimerCb, 1, 704⟩ (hnew ▸ List.mem_singleton_self _)
  exact absurd hwait (by decide)

end RequestedTransfers

end Tr069
