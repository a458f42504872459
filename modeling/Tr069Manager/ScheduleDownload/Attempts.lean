import Tr069Manager.ScheduleDownload.Isolation

/-!
# The attempts of a transfer

`transfers_start_transfer` runs when a window has opened and when a failure is
tried again, and a failed attempt queues the next failure: nothing in the code
counts the attempts, and what ends them is the data model. A window opens once –
its start timer is armed while it is Idle, and the timer leaves it Started – and
a retry is paid for with the `MaxRetries` of the window that was opened last.

So every window carries a number of attempts it still allows
(`Tr069.TimeWindow.attemptsLeft`), one if it can still open and one for each retry, and
a transfer one more for each opening in the queue. No step raises the attempts
made plus the attempts left (`Tr069.View.Step.weight_le`), which bounds the attempts of a
transfer by what it was created with (`Tr069.attempts_bounded`).
-/

namespace Tr069

open Runs Tagged

/-! ### Sums over the windows -/

namespace TimeWindowList

/-- The sum of a number for each window. -/
def sum (f : TimeWindow → ℕ) (l : TimeWindowList) : ℕ := f l.inst1 + (l.inst2.map f).getD 0

variable {f : TimeWindow → ℕ} {g : TimeWindow → TimeWindow} {l : TimeWindowList} {k : ℕ}
  {w : TimeWindow}

theorem sum_map_le (h : ∀ w, f (g w) ≤ f w) : (l.map g).sum f ≤ l.sum f := by
  obtain ⟨w, o⟩ := l
  have hw := h w
  cases o with
  | none => simpa [sum, map] using hw
  | some w' =>
    have hw' := h w'
    simp only [sum, map, Option.map_some, Option.getD_some]
    omega

/-- Changing a window changes the sum by what the window changes. -/
theorem sum_modify (h : l.find k = some w) : (l.modify k g).sum f + f w = l.sum f + f (g w) := by
  obtain ⟨w₁, o⟩ := l
  match k with
  | 0 => cases h
  | 1 =>
    cases h
    simp only [sum, modify]
    omega
  | 2 =>
    simp only [find] at h
    subst h
    simp only [sum, modify, Option.map_some, Option.getD_some]
    omega
  | _ + 3 => cases h

end TimeWindowList

/-! ### The attempts that are left -/

/-- The window can still open: it is Idle, or its start timer is running. -/
def TimeWindow.mayStart (w : TimeWindow) : Bool :=
  w.status = .idle || (w.priv.bind TimewindowInfo.start).any Timer.isRunning

/-- The attempts a window still allows: one if it can open, and its retries. -/
def TimeWindow.attemptsLeft (w : TimeWindow) : ℕ :=
  w.mayStart.toNat + w.maxRetries.toInt.toNat

theorem TimeWindow.attemptsLeft_le {w w' : TimeWindow} (hmay : w'.mayStart → w.mayStart)
    (hret : w'.maxRetries = w.maxRetries) : w'.attemptsLeft ≤ w.attemptsLeft := by
  have htoNat : w'.mayStart.toNat ≤ w.mayStart.toNat := by
    cases h : w'.mayStart with
    | false => exact Nat.zero_le _
    | true => exact Nat.le_of_eq (congrArg Bool.toNat (hmay h).symm)
  rw [attemptsLeft, attemptsLeft, hret]
  omega

theorem TimeWindow.mayStart_iff {w : TimeWindow} :
    w.mayStart = true ↔
      w.status = .idle ∨ (w.priv.bind TimewindowInfo.start).any Timer.isRunning = true := by
  rw [mayStart, Bool.or_eq_true, decide_eq_true_eq]

/-- The openings among some queued events. -/
def openings (pending : List DmEvent) : ℕ :=
  pending.countP fun ev => match ev with
    | .timewindowStarted _ => true
    | _ => false

/-- The attempts among the calls on record. -/
def attempts (calls : List Call) : ℕ := calls.count .startTransfer

@[simp] theorem openings_append (l l' : List DmEvent) :
    openings (l ++ l') = openings l + openings l' := List.countP_append ..

@[simp] theorem attempts_append (l l' : List Call) :
    attempts (l ++ l') = attempts l + attempts l' := List.count_append ..

/-- The attempts a handler has made, with those that are left. -/
def Ctx.weight (c : Ctx) : ℕ :=
  attempts c.calls + c.obj.timeWindowList.sum TimeWindow.attemptsLeft + openings c.emitted

/-- The attempts made for an instance, with those that are left. -/
def View.weight (v : View) : ℕ :=
  attempts v.calls + v.obj.timeWindowList.sum TimeWindow.attemptsLeft + openings v.pending

/-! ### What the handlers do to the attempts -/

theorem openings_timewindowStatusEvent (k : ℕ) (old new : TimewindowStatus) :
    openings (timewindowStatusEvent k old new) ≤ if new = .started then 1 else 0 := by
  unfold timewindowStatusEvent
  cases new <;> split <;> simp [openings]

/-- A changed status or timer of one window. -/
theorem weight_modify {c : Ctx} {k : ℕ} {w : TimeWindow} (g : TimeWindow → TimeWindow)
    (hw : c.obj.timeWindowList.find k = some w) (emitted : List DmEvent) (calls : List Call) :
    Ctx.weight { c with
        obj := { c.obj with timeWindowList := c.obj.timeWindowList.modify k g }
        emitted := c.emitted ++ emitted
        calls := c.calls ++ calls } + w.attemptsLeft =
      c.weight + (g w).attemptsLeft + openings emitted + attempts calls := by
  have hsum := TimeWindowList.sum_modify (f := TimeWindow.attemptsLeft) (g := g) hw
  simp only [Ctx.weight, openings_append, attempts_append]
  omega

/-- The callbacks change one window twice: a timer goes off, and the status changes. -/
theorem weight_callback {c : Ctx} {k : ℕ} {w : TimeWindow} (off : TimeWindow → TimeWindow)
    (call : Call) (status : TimewindowStatus) (hw : c.obj.timeWindowList.find k = some w)
    (hcall : attempts [call] = 0)
    (hle : ((off w).withStatus status).attemptsLeft +
      openings (timewindowStatusEvent k (off w).status status) ≤ w.attemptsLeft) :
    (timewindowSetStatus { c with
        obj := { c.obj with timeWindowList := c.obj.timeWindowList.modify k off }
        calls := c.calls ++ [call] } k status).weight ≤ c.weight := by
  have hfind : (c.obj.timeWindowList.modify k off).find k = some (off w) := by
    rw [TimeWindowList.find_modify_self, hw, Option.map_some]
  have hoff := weight_modify off hw [] [call]
  have hset := weight_modify (c := { c with
    obj := { c.obj with timeWindowList := c.obj.timeWindowList.modify k off }
    calls := c.calls ++ [call] }) (fun w => w.withStatus status) hfind
    (timewindowStatusEvent k (off w).status status) []
  unfold timewindowSetStatus
  simp only [hfind]
  simp only [List.append_nil] at hoff hset
  have hnil : openings [] = 0 := rfl
  have hnone : attempts [] = 0 := rfl
  omega

/-- The start timer that fires can no longer fire. -/
theorem weight_startTimerCb {c : Ctx} {k : ℕ} {w : TimeWindow}
    (hw : c.obj.timeWindowList.find k = some w) (htimer : w.StartPending) :
    (timewindowStartTimerCb c k).weight ≤ c.weight := by
  obtain ⟨⟨start, stop⟩, ms, hpriv, hstart⟩ := htimer
  have hstart : start = some (.running ms) := hstart
  subst hstart
  refine weight_callback TimeWindow.startTimerOff (.startTimerCb k) .started hw rfl ?_
  have hold : w.attemptsLeft = 1 + w.maxRetries.toInt.toNat := by
    simp [TimeWindow.attemptsLeft, TimeWindow.mayStart, hpriv, Timer.isRunning]
  have hnew : (w.startTimerOff.withStatus .started).attemptsLeft =
      w.maxRetries.toInt.toNat := by
    simp [TimeWindow.attemptsLeft, TimeWindow.mayStart, TimeWindow.startTimerOff,
      TimeWindow.withStatus, hpriv, Timer.isRunning]
  have hev := openings_timewindowStatusEvent k w.startTimerOff.status .started
  rw [if_pos rfl] at hev
  omega

theorem weight_endTimerCb {c : Ctx} {k : ℕ} {w : TimeWindow}
    (hw : c.obj.timeWindowList.find k = some w) :
    (timewindowEndTimerCb c k).weight ≤ c.weight := by
  refine weight_callback TimeWindow.stopTimerOff (.endTimerCb k) .ended hw rfl ?_
  have hev := openings_timewindowStatusEvent k w.stopTimerOff.status .ended
  have hnew : (w.stopTimerOff.withStatus .ended).attemptsLeft ≤ w.attemptsLeft := by
    refine TimeWindow.attemptsLeft_le (fun h => ?_) rfl
    have hstart : (w.stopTimerOff.withStatus .ended).priv.bind TimewindowInfo.start =
        w.priv.bind TimewindowInfo.start := by
      cases hp : w.priv <;> simp [TimeWindow.stopTimerOff, TimeWindow.withStatus, hp]
    rw [TimeWindow.mayStart_iff, hstart] at h
    rcases h with h | h
    · cases h
    · exact TimeWindow.mayStart_iff.mpr (Or.inr h)
  simp only [reduceCtorEq, if_false] at hev
  omega

/-! ### What the handlers do to every window -/

theorem attemptsLeft_addInfo (w : TimeWindow) :
    (timewindowInternalAddInfo w).attemptsLeft ≤ w.attemptsLeft := by
  unfold timewindowInternalAddInfo
  split
  · exact Nat.le_refl _
  · split
    · next hst => exact TimeWindow.attemptsLeft_le (fun _ => by simp [TimeWindow.mayStart, hst]) rfl
    · next hst => exact TimeWindow.attemptsLeft_le (by simp [TimeWindow.mayStart, hst]) rfl
    · next hst => exact TimeWindow.attemptsLeft_le (by simp [TimeWindow.mayStart, hst]) rfl

theorem attemptsLeft_start (w : TimeWindow) :
    (timewindowInternalStart w).attemptsLeft ≤ w.attemptsLeft := by
  unfold timewindowInternalStart
  split
  · exact Nat.le_refl _
  · next info hp =>
    split
    · next hst => exact TimeWindow.attemptsLeft_le (fun _ => by simp [TimeWindow.mayStart, hst]) rfl
    · next hst => exact TimeWindow.attemptsLeft_le (by simp [TimeWindow.mayStart, hst, hp]) rfl
    · exact Nat.le_refl _

theorem attemptsLeft_save (w : TimeWindow) :
    (timewindowInternalSave w).attemptsLeft ≤ w.attemptsLeft := by
  unfold timewindowInternalSave
  split
  · exact Nat.le_refl _
  · split
    · exact TimeWindow.attemptsLeft_le id rfl
    · exact TimeWindow.attemptsLeft_le id rfl
    · exact Nat.le_refl _

theorem attemptsLeft_elapse (ms : ℕ) (w : TimeWindow) :
    (w.elapse ms).attemptsLeft ≤ w.attemptsLeft := by
  have hrunning : ∀ t : Timer, (t.elapse ms).isRunning = t.isRunning := fun t => by
    cases t <;> rfl
  have hstart : ((w.elapse ms).priv.bind TimewindowInfo.start).any Timer.isRunning =
      (w.priv.bind TimewindowInfo.start).any Timer.isRunning := by
    rcases hp : w.priv with _ | ⟨_ | t, stop⟩ <;> simp [TimeWindow.elapse, hp, hrunning]
  refine TimeWindow.attemptsLeft_le (fun h => ?_) rfl
  rw [TimeWindow.mayStart_iff, hstart] at h
  exact TimeWindow.mayStart_iff.mpr h

theorem attemptsLeft_reload (w : TimeWindow) : w.reload.attemptsLeft ≤ w.attemptsLeft := by
  refine TimeWindow.attemptsLeft_le (fun h => ?_) rfl
  rcases TimeWindow.mayStart_iff.mp h with h | h
  · exact TimeWindow.mayStart_iff.mpr (Or.inl h)
  · cases h

/-! ### Attempts -/

/-- An attempt is one attempt, however it ends, and leaves the windows alone. -/
theorem attempts_of_start {c c' : Ctx} (h : StartOutcome c c') :
    attempts c'.calls = attempts c.calls + 1 ∧
      c'.obj.timeWindowList = c.obj.timeWindowList ∧ openings c'.emitted = openings c.emitted := by
  have hrefused : ∀ calls, RefusedCalls c calls → attempts calls = 0 := by
    rintro calls (rfl | ⟨-, ret, -, rfl⟩)
    · rfl
    · rfl
  cases h with
  | unsupported _ =>
    refine ⟨?_, rfl, rfl⟩
    rw [attempts_append]
    rfl
  | running _ _ =>
    refine ⟨?_, rfl, rfl⟩
    rw [attempts_append]
    rfl
  | @failed _ calls hcalls =>
    refine ⟨?_, rfl, ?_⟩
    · have hcall : attempts (.startTransfer :: calls) = 1 := by
        rw [← List.singleton_append, attempts_append, hrefused calls hcalls]
        rfl
      rw [attempts_append, hcall]
    · rw [openings_append]
      rfl

theorem weight_of_start {c c' : Ctx} (h : StartOutcome c c') : c'.weight = c.weight + 1 := by
  obtain ⟨hcalls, hwindows, hpending⟩ := attempts_of_start h
  rw [Ctx.weight, Ctx.weight, hcalls, hwindows, hpending]
  omega

theorem weight_transferDone (c : Ctx) : (transfersTransferDone c).weight = c.weight := by
  by_cases h : c.obj.fileType = ""
  · rw [transfersTransferDone_of_empty h]
  · rw [transfersTransferDone_of_ne h]
    rfl

/-- A retry uses up one of the window's: its number goes down by exactly one, and not
below zero. -/
theorem retry_maxRetries {r : Int32} (h : ¬r ≤ 0) :
    (r - 1).toInt = r.toInt - 1 ∧ 0 ≤ (r - 1).toInt := by
  have hpos : 0 < r.toInt := by
    rw [Int32.le_iff_toInt_le, Int32.toInt_zero] at h
    omega
  have hone : (1 : Int32) ≤ r := by
    rw [Int32.le_iff_toInt_le, Int32.toInt_one]
    omega
  have hsub : (r - 1).toInt = r.toInt - 1 := by
    rw [Int32.toInt_sub_of_le r 1 (by decide) hone, Int32.toInt_one]
  exact ⟨hsub, by omega⟩

theorem weight_setMaxretries {c : Ctx} {k : ℕ} {w : TimeWindow}
    (hw : c.obj.timeWindowList.find k = some w) (hmr : ¬w.maxRetries ≤ 0) :
    (transfersTimewindowSetMaxretries c k (w.maxRetries - 1)).weight + 1 = c.weight := by
  obtain ⟨hsub, hpos⟩ := retry_maxRetries hmr
  have hset : (transfersTimewindowSetMaxretries c k (w.maxRetries - 1)).weight + w.attemptsLeft =
      c.weight + TimeWindow.attemptsLeft { w with maxRetries := w.maxRetries - 1 } := by
    have h := weight_modify (fun v => { v with maxRetries := w.maxRetries - 1 }) hw [] []
    simp only [List.append_nil] at h
    exact h
  have hnew : TimeWindow.attemptsLeft { w with maxRetries := w.maxRetries - 1 } + 1 =
      w.attemptsLeft := by
    simp only [TimeWindow.attemptsLeft, TimeWindow.mayStart, hsub]
    omega
  omega

/-! ### A step makes no more attempts than it uses up -/

theorem weight_of_upgrade {c c' : Ctx} {fc : ℕ} {fs : String} (h : UpgradeOutcome c fc fs c') :
    c'.weight = c.weight := by
  cases h with
  | ignored _ => rfl
  | failed _ _ =>
    have hev : openings (failedEvent c.obj.transferComplete.status .failed) = 0 := by
      unfold failedEvent
      split <;> rfl
    simp only [Ctx.weight, openings_append, hev, Nat.add_zero, ScheduleDownload.withResult]
  | done _ _ => exact weight_transferDone _

theorem weight_of_handle {c c' : Ctx} {ret : ℤ} (h : HandleOutcome c ret c') :
    c'.weight ≤ c.weight + 1 := by
  cases h with
  | unchanged _ => exact Nat.le_succ _
  | start _ _ => exact Nat.le_of_eq (weight_of_start (transfersStartTransfer_outcome c ret))
  | gaveUp _ _ => exact Nat.le_succ_of_le (Nat.le_of_eq (weight_transferDone _))

/-- The end of a window starts nothing. -/
theorem weight_timewindowEnded (c : Ctx) (ret : ℤ) : (timewindowEnded c ret).weight = c.weight := by
  rcases timewindowEnded_cases c ret with ⟨-, h⟩ | ⟨info, -, h⟩
  · rw [h]
  · generalize timewindowEnded c ret = c' at h
    cases h with
    | unchanged _ => rfl
    | start _ hin =>
      have hwithin := hin.within
      rw [← Option.some.inj hin.priv] at hwithin
      cases hwithin
    | gaveUp _ _ => exact weight_transferDone _

/-- A failure that is tried again pays for the attempt. -/
theorem weight_transferFailed (c : Ctx) (ret : ℤ) :
    (scheduleDownloadTransferFailed c ret).weight = c.weight := by
  have h := scheduleDownloadTransferFailed_outcome c ret
  generalize scheduleDownloadTransferFailed c ret = c' at h
  cases h with
  | ignored _ => rfl
  | exhausted _ _ _ => exact weight_transferDone c
  | @retried info w hr hmr =>
    have hstart := weight_of_start (transfersStartTransfer_outcome
      (transfersTimewindowSetMaxretries c info.lastTimeWindow (w.maxRetries - 1)) ret)
    have hset := weight_setMaxretries hr.window hmr
    omega

/-- What the handler of a failure has done: no attempt, or one that was paid for. -/
theorem attempts_transferFailed (c : Ctx) (ret : ℤ) :
    attempts (scheduleDownloadTransferFailed c ret).calls = attempts c.calls ∨
      attempts (scheduleDownloadTransferFailed c ret).calls = attempts c.calls + 1 ∧
        ∃ info w w', c.obj.priv = some info ∧
          c.obj.timeWindowList.find info.lastTimeWindow = some w ∧
          (scheduleDownloadTransferFailed c ret).obj.timeWindowList.find info.lastTimeWindow =
            some w' ∧
          w'.maxRetries.toInt = w.maxRetries.toInt - 1 ∧ 0 ≤ w'.maxRetries.toInt := by
  have hout := scheduleDownloadTransferFailed_outcome c ret
  generalize scheduleDownloadTransferFailed c ret = c' at hout
  cases hout with
  | ignored _ => exact Or.inl rfl
  | exhausted _ _ _ => exact Or.inl (congrArg attempts (calls_transfersTransferDone c))
  | @retried info w hr hmr =>
    obtain ⟨hone, hwindows, -⟩ := attempts_of_start (transfersStartTransfer_outcome
      (transfersTimewindowSetMaxretries c info.lastTimeWindow (w.maxRetries - 1)) ret)
    obtain ⟨hsub, hpos⟩ := retry_maxRetries hmr
    refine Or.inr ⟨hone, info, w, { w with maxRetries := w.maxRetries - 1 }, hr.priv, hr.window, ?_,
      hsub, hpos⟩
    rw [hwindows]
    simp only [transfersTimewindowSetMaxretries, TimeWindowList.find_modify_self, hr.window,
      Option.map_some]

theorem weight_map_le (c : Ctx) (f : TimeWindow → TimeWindow) (priv : Option TransferInfo)
    (hf : ∀ w, (f w).attemptsLeft ≤ w.attemptsLeft) :
    Ctx.weight { c with
      obj := { c.obj with timeWindowList := c.obj.timeWindowList.map f, priv := priv } } ≤
        c.weight := by
  have hsum : (c.obj.timeWindowList.map f).sum TimeWindow.attemptsLeft ≤
      c.obj.timeWindowList.sum TimeWindow.attemptsLeft := TimeWindowList.sum_map_le hf
  simp only [Ctx.weight]
  omega

theorem weight_addInfo (c : Ctx) : (transfersTransferAddInfo c).weight ≤ c.weight := by
  unfold transfersTransferAddInfo
  split
  · exact Nat.le_refl _
  · exact weight_map_le c _ _ attemptsLeft_addInfo

theorem weight_timewindowStart (c : Ctx) : (transfersTimewindowStart c).weight ≤ c.weight :=
  weight_map_le c _ c.obj.priv attemptsLeft_start

/-- Handling a queued event makes an attempt only if it uses one up, or was an opening. -/
theorem weight_handleDmEvent (c : Ctx) (ev : DmEvent) (ret : ℤ) :
    (handleDmEvent ret ev c).weight ≤ c.weight + openings [ev] := by
  cases ev with
  | scheduleDownloadAdded =>
    have hadd := weight_addInfo c
    have hstart := weight_timewindowStart (transfersTransferAddInfo c)
    have hev : openings [.scheduleDownloadAdded] = 0 := rfl
    simp only [handleDmEvent, scheduleDownloadAdded]
    omega
  | timewindowStarted k =>
    rcases timewindowStarted_cases c k ret with ⟨-, h⟩ | ⟨info, -, h⟩
    · simp only [handleDmEvent, h]
      exact Nat.le_add_right _ _
    · have hle := weight_of_handle h
      exact hle
  | timewindowEnded k => exact Nat.le_of_eq (weight_timewindowEnded c ret)
  | scheduleDownloadTransferFailed => exact Nat.le_of_eq (weight_transferFailed c ret)

theorem weight_deferredInit (c : Ctx) (status : Option String) :
    (deferredInit status c).weight ≤ c.weight := by
  have hadd := weight_addInfo c
  have hcheck : (transfersHandleInProgressTransfer (transfersTransferAddInfo c) status).weight =
      (transfersTransferAddInfo c).weight := by
    rcases transfersHandleInProgressTransfer_cases (transfersTransferAddInfo c) status with
      hsame | ⟨-, -, hup⟩
    · rw [hsame]
    · exact weight_of_upgrade hup
  have hstart := weight_timewindowStart
    (transfersHandleInProgressTransfer (transfersTransferAddInfo c) status)
  unfold deferredInit
  omega

theorem weight_firmwareimageFailure (log : String) (c : Ctx) :
    (firmwareimageFailure log c).weight = c.weight := by
  have h := weight_of_upgrade (transfersFirmwareupgradeDone_outcome c (firmwareFaultCode log) log)
  rw [← h]
  rfl

namespace View

variable {i : ℕ} {v v' : View} {a : Act}

/-- A handler that adds no more than has been taken from the queue. -/
theorem weight_commit_le {c : Ctx} {pending : List DmEvent}
    (h : openings pending + c.weight ≤ openings v.pending + (v.ctx i).weight) :
    ({ v with pending := pending }.commit c).weight ≤ v.weight := by
  have hnil : openings [] = 0 := rfl
  have hnone : attempts [] = 0 := rfl
  simp only [weight, commit, Ctx.weight, ctx, attempts_append, openings_append, hnil, hnone] at h ⊢
  omega

/-- A change of every window, with no more in the queue. -/
theorem weight_map_windows (f : TimeWindow → TimeWindow)
    (hf : ∀ w, (f w).attemptsLeft ≤ w.attemptsLeft)
    (hwindows : v'.obj.timeWindowList = v.obj.timeWindowList.map f) (hcalls : v'.calls = v.calls)
    (hpending : openings v'.pending ≤ openings v.pending) : v'.weight ≤ v.weight := by
  have hsum : (v.obj.timeWindowList.map f).sum TimeWindow.attemptsLeft ≤
      v.obj.timeWindowList.sum TimeWindow.attemptsLeft := TimeWindowList.sum_map_le hf
  rw [weight, weight, hwindows, hcalls]
  omega

/-- **The attempts made, with those that are left, never get more**. -/
theorem Step.weight_le (h : Step i v a v') : v'.weight ≤ v.weight := by
  cases h with
  | other _ => exact Nat.le_refl _
  | startTimer _ hw htimer =>
    have hcb := weight_startTimerCb (c := v.ctx i) hw htimer
    exact weight_commit_le (Nat.add_le_add_left hcb _)
  | endTimer _ hw _ =>
    have hcb := weight_endTimerCb (c := v.ctx i) hw
    exact weight_commit_le (Nat.add_le_add_left hcb _)
  | elapse ms =>
    exact weight_map_windows _ (attemptsLeft_elapse ms) rfl rfl (Nat.le_refl _)
  | save _ => exact weight_map_windows _ attemptsLeft_save rfl rfl (Nat.le_refl _)
  | @dispatch ev rest ret hpending =>
    have hcb := weight_handleDmEvent (v.ctx i) ev ret
    have hq : openings v.pending = openings [ev] + openings rest := by
      rw [hpending, ← List.singleton_append, openings_append]
    refine weight_commit_le (i := i) ?_
    omega
  | @failure log _ =>
    have hcb := weight_firmwareimageFailure log (v.ctx i)
    exact weight_commit_le (Nat.add_le_add_left (Nat.le_of_eq hcb) _)
  | @deferredInit status lock lock' _ _ _ =>
    have hcb := weight_deferredInit ((v.withLock lock).ctx i) status
    have hle : openings (v.withLock lock).pending +
        (Tr069.deferredInit status ((v.withLock lock).ctx i)).weight ≤
          openings (v.withLock lock).pending + ((v.withLock lock).ctx i).weight :=
      Nat.add_le_add_left hcb _
    exact weight_commit_le (i := i) (v := v.withLock lock) hle
  | restart => exact weight_map_windows _ attemptsLeft_reload rfl rfl (Nat.zero_le _)

/-- The attempts a transfer is created with. -/
theorem weight_of_fresh {args : ScheduleDownloadArgs} {l : TimeWindowList}
    (hobj : v.obj = scheduleDownloadOfArgs args l) (hpending : v.pending = [.scheduleDownloadAdded])
    (hcalls : v.calls = []) : v.weight = l.sum TimeWindow.attemptsLeft := by
  rw [weight, hobj, hpending, hcalls]
  have hnil : openings [.scheduleDownloadAdded] = 0 := rfl
  have hnone : attempts [] = 0 := rfl
  rw [hnil, hnone, Nat.zero_add, Nat.add_zero]
  rfl

end View

/-! ### The bound -/

/-- The attempts the windows allow when they are created: one each, and their
retries. -/
def TimeWindowList.attemptsAllowed (l : TimeWindowList) : ℕ :=
  l.sum fun w => 1 + w.maxRetries.toInt.toNat

/-- A request makes Idle windows. -/
theorem attemptsLeft_of_args {args : List TimeWindowArgs} {l : TimeWindowList}
    (h : timeWindowListOfArgs args = some l) :
    l.sum TimeWindow.attemptsLeft = l.attemptsAllowed := by
  match args with
  | [] => cases h
  | [a] =>
    cases h
    rfl
  | a :: b :: _ =>
    cases h
    rfl

namespace Plugin

variable {s t u : Plugin} {i : ℕ} {e : Event}

/-- How often `transfers_start_transfer` has run for instance `i`. -/
def attempts (s : Plugin) (i : ℕ) : ℕ := Tr069.attempts (own i s.calls)

/-- Index `i` has been given out, and `n` bounds the attempts of its instance: with those
that are left while the instance exists, and those made once it is gone. -/
structure Bounded (i n : ℕ) (s : Plugin) : Prop where
  index : 1 ≤ i ∧ i ≤ s.lastIndex
  view : ∀ v, s.view i = some v → v.weight ≤ n
  gone : s.view i = none → s.attempts i ≤ n

theorem attempts_eq_view {v : View} (h : s.view i = some v) :
    s.attempts i = Tr069.attempts v.calls := by
  obtain ⟨obj, -, rfl⟩ := exists_obj_of_view h
  rfl

theorem Bounded.attempts_le {n : ℕ} (h : s.Bounded i n) : s.attempts i ≤ n := by
  cases hv : s.view i with
  | none => exact h.gone hv
  | some v =>
    have hle := h.view v hv
    rw [View.weight] at hle
    rw [attempts_eq_view hv]
    omega

theorem Bounded.step {n : ℕ} (hs : s.WellIndexed) (hb : s.Bounded i n) (h : s.Stepped e t) :
    t.Bounded i n := by
  have hlast := lastIndex_step h
  refine ⟨⟨hb.index.1, Nat.le_trans hb.index.2 hlast⟩, fun v' hv' => ?_, fun hv' => ?_⟩
  · cases hv : s.view i with
    | none =>
      rcases missing_step h (dm_eq_none_of_view hv) with hmiss | ⟨hi, -⟩
      · rw [view_eq_none hmiss.dm] at hv'
        cases hv'
      · have := hb.index.2
        omega
    | some v =>
      rcases view_step hs h hv with ⟨-, hnone⟩ | ⟨w, hw, hstep⟩
      · rw [hnone] at hv'
        cases hv'
      · rw [hw] at hv'
        cases hv'
        exact Nat.le_trans hstep.weight_le (hb.view v hv)
  · cases hv : s.view i with
    | none =>
      rcases missing_step h (dm_eq_none_of_view hv) with hmiss | ⟨hi, -⟩
      · rw [attempts, hmiss.calls]
        exact hb.gone hv
      · have := hb.index.2
        omega
    | some v =>
      rcases view_step hs h hv with ⟨rfl, -⟩ | ⟨w, hw, -⟩
      · cases h
        exact hb.attempts_le
      · rw [hw] at hv'
        cases hv'

/-- Handling a failure of instance `i` between `t` and `u` makes no attempt, or one, and then
the window that was opened last has exactly one retry less than before, and not less
than none. -/
def PaysForRetry (t : Plugin) (i : ℕ) (u : Plugin) : Prop :=
  u.attempts i = t.attempts i ∨
    u.attempts i = t.attempts i + 1 ∧ ∃ obj obj' info w w',
      t.dm i = some obj ∧ u.dm i = some obj' ∧ obj.priv = some info ∧
      obj.timeWindowList.find info.lastTimeWindow = some w ∧
      obj'.timeWindowList.find info.lastTimeWindow = some w' ∧
      w'.maxRetries.toInt = w.maxRetries.toInt - 1 ∧ 0 ≤ w'.maxRetries.toInt

theorem paysForRetry {rest : List (ℕ × DmEvent)} {ret : ℤ}
    (hqueue : t.queue = (i, .scheduleDownloadTransferFailed) :: rest)
    (h : step t (.dispatch ret) = some u) : t.PaysForRetry i u := by
  have hst := stepped_of_step h
  cases hst with
  | stale _ _ _ => exact Or.inl rfl
  | @dispatched _ j obj ev rest' _ hqueue' hobj =>
    rw [hqueue] at hqueue'
    cases hqueue'
    have hdm : (t.dequeued rest).dm i = some obj := hobj
    have hidx := (Ctx.Own.handleDmEvent ret .scheduleDownloadTransferFailed
      ((t.dequeued rest).ctx i obj)).index
    have hcalls : ∀ c : Ctx, c.index = i →
        ((t.dequeued rest).commit c).attempts i = t.attempts i + Tr069.attempts c.calls := by
      intro c hc
      rw [attempts, attempts, commit, hc]
      simp [dequeued]
    rw [PaysForRetry, onObject, hdm]
    simp only [hcalls _ hidx]
    rcases attempts_transferFailed ((t.dequeued rest).ctx i obj) ret with
      hnone | ⟨hone, info, w, w', hpriv, hw, hw', hsub, hpos⟩
    · refine Or.inl ?_
      rw [show Tr069.attempts (handleDmEvent ret .scheduleDownloadTransferFailed
        ((t.dequeued rest).ctx i obj)).calls = 0 from hnone, Nat.add_zero]
    · refine Or.inr ⟨?_, obj,
        (scheduleDownloadTransferFailed ((t.dequeued rest).ctx i obj) ret).obj, info, w, w', hobj,
        ?_, hpriv, hw, hw', hsub, hpos⟩
      · rw [show Tr069.attempts (handleDmEvent ret .scheduleDownloadTransferFailed
          ((t.dequeued rest).ctx i obj)).calls = 1 from hone]
      · rw [commit, hidx]
        exact Function.update_self ..

/-- What a request starts with. -/
theorem bounded_of_added {args : ScheduleDownloadArgs} {l : TimeWindowList} (hs : s.WellIndexed)
    (hl : timeWindowListOfArgs args.timeWindowList = some l) :
    (s.added args l).Bounded (s.lastIndex + 1) l.attemptsAllowed := by
  have hdm : (s.added args l).dm (s.lastIndex + 1) = some (scheduleDownloadOfArgs args l) :=
    Function.update_self ..
  refine ⟨⟨Nat.le_add_left _ _, Nat.le_refl _⟩, fun v hv => ?_, fun hnone => ?_⟩
  · rw [view_of_dm hdm] at hv
    cases hv
    have hqueue : own (s.lastIndex + 1) (s.added args l).queue = [.scheduleDownloadAdded] := by
      have hq : own (s.lastIndex + 1) s.queue = [] := own_eq_nil fun p hp => by
        have := hs.queue p hp
        omega
      simp [added, hq]
    have hcalls : own (s.lastIndex + 1) s.calls = [] := own_eq_nil fun p hp => by
      have := hs.calls p hp
      omega
    rw [← attemptsLeft_of_args hl]
    exact Nat.le_of_eq (View.weight_of_fresh rfl hqueue hcalls)
  · rw [view_of_dm hdm] at hnone
    cases hnone

end Plugin

/-- **The attempts of a transfer are bounded** by its windows and their retries: from the
request on, through any number of window, download, failure and restart events,
`transfers_start_transfer` runs for it at most once for each window and once more for
each retry – and each retry is paid for with exactly one of the current window's. -/
theorem attempts_bounded {s s' t : Plugin} {args : ScheduleDownloadArgs} {l : TimeWindowList}
    (hs : Reaches step free Plugin.init s)
    (hl : timeWindowListOfArgs args.timeWindowList = some l)
    (hadd : step s (.addScheduleDownload args) = some s') (ht : Reaches step free s' t) :
    t.attempts (s.lastIndex + 1) ≤ l.attemptsAllowed ∧
      ∀ rest ret u, t.queue = (s.lastIndex + 1, .scheduleDownloadTransferFailed) :: rest →
        step t (.dispatch ret) = some u → t.PaysForRetry (s.lastIndex + 1) u := by
  have hwell := Plugin.wellIndexed_of_reaches hs
  have hst := Plugin.stepped_of_step hadd
  refine ⟨?_, fun rest ret u hqueue hu => Plugin.paysForRetry hqueue hu⟩
  cases hst with
  | added _ hl' =>
    obtain rfl : l = _ := Option.some.inj (hl.symm.trans hl')
    have hinv : t.WellIndexed ∧ t.Bounded (s.lastIndex + 1) l.attemptsAllowed := by
      refine ht.invariant
        (I := fun t => t.WellIndexed ∧ t.Bounded (s.lastIndex + 1) l.attemptsAllowed)
        (fun a e b ha _ he => ?_) ⟨hwell.added args l, Plugin.bounded_of_added hwell hl⟩
      exact ⟨ha.1.step (Plugin.stepped_of_step he), ha.2.step ha.1 (Plugin.stepped_of_step he)⟩
    exact hinv.2.attempts_le

/-- Every `Download` is refused: one attempt when the window opens and two retries. -/
def refusedRun : List Event := [.dispatch 0, .startTimer 1 1, .dispatch (-1), .dispatch (-1)]

theorem attempts_bounded_refused :
    ∃ s s' t u, exec step Plugin.init [.deferredInit fun _ => none] = some s ∧
      step s (.addScheduleDownload (firmwareArgs [immediately 100 200 2])) = some s' ∧
      exec step s' refusedRun = some t ∧ step t (.dispatch (-1)) = some u ∧
      t.attempts (s.lastIndex + 1) ≤ 3 ∧ t.PaysForRetry (s.lastIndex + 1) u := by
  have hrun : (exec step Plugin.init [.deferredInit fun _ => none]).bind (fun s =>
      (step s (.addScheduleDownload (firmwareArgs [immediately 100 200 2]))).bind fun s' =>
        (exec step s' refusedRun).bind fun t => (step t (.dispatch (-1))).bind fun _ =>
          some (s.lastIndex, t.queue)) = some (0, [(1, .scheduleDownloadTransferFailed)]) := by
    decide
  obtain ⟨s, hs, h⟩ := Option.bind_eq_some_iff.mp hrun
  obtain ⟨s', hs', h⟩ := Option.bind_eq_some_iff.mp h
  obtain ⟨t, ht, h⟩ := Option.bind_eq_some_iff.mp h
  obtain ⟨u, hu, h⟩ := Option.bind_eq_some_iff.mp h
  obtain ⟨hlast, hqueue⟩ := Prod.mk.inj (Option.some.inj h)
  have hbound := attempts_bounded (reaches_of_exec hs (meets_free _ _)) rfl hs'
    (reaches_of_exec ht (meets_free _ _))
  have hqueue' : t.queue = (s.lastIndex + 1, .scheduleDownloadTransferFailed) :: [] := by
    rw [hlast]
    exact hqueue
  exact ⟨s, s', t, u, hs, hs', ht, hu, hbound.1, hbound.2 _ _ _ hqueue' hu⟩

end Tr069
