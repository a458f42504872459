import Mathlib.Algebra.Group.Nat.Defs
import Tr069Manager.ScheduleDownload.Windows

/-!
# When the timers of a window fire

A window stores seconds and arms milliseconds: `timewindow_internal_start`
multiplies by a thousand, in 32 bits, and `timewindow_internal_save` divides what
the timers have left by a thousand again. `Tr069.TimeWindow.KeepsSchedule` is what
the two should be to each other: what is armed is what is stored, in order, and a
cycle of saving and restarting costs a pending start or end less than a second.

They are, for as long as the window exists and whatever happens to the plugin, if
and only if the window was requested to end before 2³² milliseconds are over
(`Tr069.keepsSchedule_iff`). The invariant is `Tr069.TimeWindow.Timed`: its timers
are some that a window of its status may have, the start not after the end, and
nothing that is stored or left is too long for a timer.
-/

namespace Tr069

open Runs

/-! ### What is armed and what a restart makes of it -/

namespace TimeWindow

/-- The window once its timers are there and armed, as `_scheduleDownload_added` and
`deferred_init_timer_cb` leave it. -/
def armed (w : TimeWindow) : TimeWindow := timewindowInternalStart (timewindowInternalAddInfo w)

/-- The window after a cycle: saved, found by a new process and armed again. -/
def cycled (w : TimeWindow) : TimeWindow := (timewindowInternalSave w).reload.armed

/-- The milliseconds until the start of an Idle window, if its timer is running. -/
def startLeft (w : TimeWindow) : Option ℕ :=
  match w.status, w.priv with
  | .idle, some ⟨some (.running ms), _⟩ => some ms
  | _, _ => none

/-- The milliseconds until the end of the window, if its timer is running. -/
def endLeft (w : TimeWindow) : Option ℕ :=
  match w.priv with
  | some ⟨_, some (.running ms)⟩ => some ms
  | _ => none

/-- **The timers keep the schedule**: what would be armed now is a thousand times what
is stored and the start is not armed after the end; a cycle moves a pending start or
end to an earlier time, by less than a second. -/
structure KeepsSchedule (w : TimeWindow) : Prop where
  start : w.status = .idle → w.armed.startLeft = some (1000 * w.windowStart.toNat)
  stop : w.status ≠ .ended → w.armed.endLeft = some (1000 * w.windowEnd.toNat)
  order : ∀ a b, w.armed.startLeft = some a → w.armed.endLeft = some b → a ≤ b
  startMoves : ∀ ms, w.startLeft = some ms →
    ∃ ms', w.cycled.startLeft = some ms' ∧ ms' ≤ ms ∧ ms < ms' + 1000
  endMoves : ∀ ms, w.endLeft = some ms →
    ∃ ms', w.cycled.endLeft = some ms' ∧ ms' ≤ ms ∧ ms < ms' + 1000

/-! ### The invariant -/

/-- The timers a window of a status may have, besides none at all. -/
inductive Timers : TimewindowStatus → Option TimewindowInfo → Prop where
  | missing {st : TimewindowStatus} : Timers st none
  | idle {a b : Timer} (hab : a.remainingTime ≤ b.remainingTime)
      (hb : b.remainingTime < 2 ^ 32) : Timers .idle (some ⟨some a, some b⟩)
  | started {o : Option Timer} {b : Timer} (ho : ∀ ms, o ≠ some (.running ms))
      (hb : b.remainingTime < 2 ^ 32) : Timers .started (some ⟨o, some b⟩)
  /-- The end timer of an Idle window has fired. -/
  | endedIdle {a : Timer} : Timers .ended (some ⟨some a, some .off⟩)
  | ended {o p : Option Timer} (ho : ∀ ms, o ≠ some (.running ms))
      (hp : ∀ ms, p ≠ some (.running ms)) : Timers .ended (some ⟨o, p⟩)

/-- The schedule can be kept: the seconds stored and the milliseconds left fit a timer,
and an Idle window starts no later than it ends. -/
structure Timed (w : TimeWindow) : Prop where
  order : w.status = .idle → w.windowStart.toNat ≤ w.windowEnd.toNat
  fits : w.windowEnd.toNat ≤ 4294967
  timers : Timers w.status w.priv

variable {w : TimeWindow}

/-- Seconds that fit a timer are armed as they are. -/
theorem toNat_timewindowGetTimeOffset {value : UInt32} (h : value.toNat ≤ 4294967) :
    (timewindowGetTimeOffset value).toNat = 1000 * value.toNat := by
  rw [timewindowGetTimeOffset, UInt32.toNat_mul]
  have h1000 : (1000 : UInt32).toNat = 1000 := rfl
  rw [h1000]
  omega

/-- Milliseconds that fit a timer are saved as whole seconds. -/
theorem toNat_remainingSeconds {t : Timer} (h : t.remainingTime < 2 ^ 32) :
    (remainingSeconds (some t)).toNat = t.remainingTime / 1000 := by
  rw [remainingSeconds, UInt32.toNat_ofNat', Option.getD_some]
  omega

namespace Timed

/-- A change of what the schedule does not depend on. -/
theorem of_eq {w' : TimeWindow} (h : w.Timed) (hst : w'.status = w.status)
    (hstart : w'.windowStart = w.windowStart) (hend : w'.windowEnd = w.windowEnd)
    (hpriv : w'.priv = w.priv) : w'.Timed := by
  refine ⟨fun hidle => ?_, hend ▸ h.fits, ?_⟩
  · rw [hstart, hend]
    exact h.order (hst ▸ hidle)
  · rw [hst, hpriv]
    exact h.timers

theorem reload (h : w.Timed) : w.reload.Timed := ⟨h.order, h.fits, .missing⟩

theorem addInfo (h : w.Timed) : (timewindowInternalAddInfo w).Timed := by
  unfold timewindowInternalAddInfo
  split
  · exact h
  · split
    · next hst =>
      refine ⟨h.order, h.fits, ?_⟩
      rw [hst]
      exact .idle (Nat.le_refl 0) (by decide)
    · next hst =>
      refine ⟨h.order, h.fits, ?_⟩
      rw [hst]
      exact .started nofun (by decide)
    · next hst =>
      refine ⟨h.order, h.fits, ?_⟩
      rw [hst]
      exact .ended nofun nofun

theorem internalStart (h : w.Timed) : (timewindowInternalStart w).Timed := by
  obtain ⟨st, ws, we, mode, retries, priv⟩ := w
  obtain ⟨horder, hfits, htimers⟩ := h
  have hend : (timewindowGetTimeOffset we).toNat < 2 ^ 32 := UInt32.toNat_lt _
  rcases htimers with - | ⟨hab, hb⟩ | ⟨ho, hb⟩ | - | ⟨ho, hp⟩
  · exact ⟨horder, hfits, .missing⟩
  · refine ⟨horder, hfits, .idle ?_ hend⟩
    have hle := horder rfl
    simp only [Timer.remainingTime] at *
    rw [toNat_timewindowGetTimeOffset (Nat.le_trans hle hfits), toNat_timewindowGetTimeOffset hfits]
    omega
  · exact ⟨horder, hfits, .started ho hend⟩
  · exact ⟨horder, hfits, .endedIdle⟩
  · exact ⟨horder, hfits, .ended ho hp⟩

theorem internalSave (h : w.Timed) : (timewindowInternalSave w).Timed := by
  obtain ⟨st, ws, we, mode, retries, priv⟩ := w
  obtain ⟨horder, hfits, htimers⟩ := h
  rcases htimers with - | @⟨a, b, hab, hb⟩ | @⟨o, b, ho, hb⟩ | - | ⟨ho, hp⟩
  · exact ⟨horder, hfits, .missing⟩
  · have ha := toNat_remainingSeconds (t := a) (by omega)
    have hb' := toNat_remainingSeconds hb
    refine ⟨fun _ => ?_, ?_, .idle hab hb⟩
    · simp only [timewindowInternalSave]
      omega
    · simp only [timewindowInternalSave]
      omega
  · have hb' := toNat_remainingSeconds hb
    refine ⟨nofun, ?_, .started ho hb⟩
    simp only [timewindowInternalSave]
    omega
  · exact ⟨horder, hfits, .endedIdle⟩
  · exact ⟨horder, hfits, .ended ho hp⟩

theorem elapse (ms : ℕ) (h : w.Timed) : (w.elapse ms).Timed := by
  obtain ⟨st, ws, we, mode, retries, priv⟩ := w
  obtain ⟨horder, hfits, htimers⟩ := h
  have hleft : ∀ t : Timer, (t.elapse ms).remainingTime = t.remainingTime - ms := by
    intro t
    rcases t with - | n
    · exact (Nat.zero_sub ms).symm
    · rfl
  have hoff : ∀ o : Option Timer, (∀ n, o ≠ some (.running n)) →
      ∀ n, o.map (Timer.elapse ms) ≠ some (.running n) := by
    rintro (- | - | k) ho n
    · nofun
    · nofun
    · exact absurd rfl (ho k)
  rcases htimers with - | @⟨a, b, hab, hb⟩ | @⟨o, b, ho, hb⟩ | - | ⟨ho, hp⟩
  · exact ⟨horder, hfits, .missing⟩
  · refine ⟨horder, hfits, .idle ?_ ?_⟩
    · rw [hleft, hleft]
      omega
    · rw [hleft]
      omega
  · refine ⟨horder, hfits, .started (hoff o ho) ?_⟩
    rw [hleft]
    omega
  · exact ⟨horder, hfits, .endedIdle⟩
  · exact ⟨horder, hfits, .ended (hoff _ ho) (hoff _ hp)⟩

theorem startTimer (h : w.Timed) (hrun : w.StartPending) :
    (w.startTimerOff.withStatus .started).Timed := by
  obtain ⟨st, ws, we, mode, retries, priv⟩ := w
  obtain ⟨horder, hfits, htimers⟩ := h
  obtain ⟨info, ms, hpriv, hstart⟩ := hrun
  obtain rfl : priv = some info := hpriv
  refine ⟨nofun, hfits, ?_⟩
  rcases htimers with - | ⟨hab, hb⟩ | ⟨ho, hb⟩ | - | ⟨ho, hp⟩
  · exact .started nofun hb
  · exact absurd hstart (ho ms)
  · exact .started nofun (by decide)
  · exact absurd hstart (ho ms)

theorem endTimer (h : w.Timed) (hrun : w.EndPending) :
    (w.stopTimerOff.withStatus .ended).Timed := by
  obtain ⟨st, ws, we, mode, retries, priv⟩ := w
  obtain ⟨horder, hfits, htimers⟩ := h
  obtain ⟨info, ms, hpriv, hstop⟩ := hrun
  obtain rfl : priv = some info := hpriv
  refine ⟨nofun, hfits, ?_⟩
  rcases htimers with - | ⟨hab, hb⟩ | ⟨ho, hb⟩ | - | ⟨ho, hp⟩
  · exact .endedIdle
  · exact .ended ho nofun
  · cases hstop
  · exact absurd hstop (hp ms)

end Timed

/-! ### From the invariant to the schedule -/

namespace Timed

theorem armed (h : w.Timed) : w.armed.Timed := h.addInfo.internalStart

/-- An Idle window is armed for its start and its end. -/
theorem startLeft_armed (h : w.Timed) (hidle : w.status = .idle) :
    w.armed.startLeft = some (1000 * w.windowStart.toNat) := by
  obtain ⟨st, ws, we, mode, retries, priv⟩ := w
  obtain ⟨horder, hfits, htimers⟩ := h
  obtain rfl : st = .idle := hidle
  rw [← toNat_timewindowGetTimeOffset (Nat.le_trans (horder rfl) hfits)]
  rcases htimers with - | - <;> rfl

theorem endLeft_armed (h : w.Timed) (hst : w.status ≠ .ended) :
    w.armed.endLeft = some (1000 * w.windowEnd.toNat) := by
  obtain ⟨st, ws, we, mode, retries, priv⟩ := w
  obtain ⟨horder, hfits, htimers⟩ := h
  rw [← toNat_timewindowGetTimeOffset hfits]
  rcases htimers with - | - | - | - | -
  · rcases st with - | - | -
    · rfl
    · rfl
    · exact absurd rfl hst
  · rfl
  · rfl
  · exact absurd rfl hst
  · exact absurd rfl hst

/-- Only an Idle window is armed for its start. -/
theorem idle_of_startLeft {ms : ℕ} (h : w.startLeft = some ms) : w.status = .idle := by
  unfold startLeft at h
  split at h
  · assumption
  · cases h

theorem status_armed (w : TimeWindow) : w.armed.status = w.status := by
  rw [TimeWindow.armed, (Kept.internalStart _).status, (Kept.addInfo w).status]

theorem keepsSchedule (h : w.Timed) : w.KeepsSchedule where
  start := h.startLeft_armed
  stop := h.endLeft_armed
  order a b ha hb := by
    have hidle : w.status = .idle := status_armed w ▸ idle_of_startLeft ha
    obtain rfl := Option.some.inj (ha.symm.trans (h.startLeft_armed hidle))
    have hst : w.status ≠ .ended := by rw [hidle]; nofun
    obtain rfl := Option.some.inj (hb.symm.trans (h.endLeft_armed hst))
    have hle := h.order hidle
    omega
  startMoves ms hms := by
    have hsaved := h.internalSave.reload
    have hidle := idle_of_startLeft hms
    have hstored : (timewindowInternalSave w).windowStart.toNat = ms / 1000 := by
      obtain ⟨st, ws, we, mode, retries, priv⟩ := w
      obtain ⟨-, -, htimers⟩ := h
      obtain rfl : st = .idle := hidle
      rcases htimers with - | @⟨a, b, hab, hb⟩
      · cases hms
      · rcases a with - | n
        · cases hms
        · obtain rfl := Option.some.inj hms
          exact toNat_remainingSeconds (t := .running n) (Nat.lt_of_le_of_lt hab hb)
    refine ⟨_, hsaved.startLeft_armed ?_, ?_⟩
    · exact (Kept.internalSave w).status.trans hidle
    · change 1000 * (timewindowInternalSave w).windowStart.toNat ≤ ms ∧
        ms < 1000 * (timewindowInternalSave w).windowStart.toNat + 1000
      omega
  endMoves ms hms := by
    have hsaved := h.internalSave.reload
    have hstored : w.status ≠ .ended ∧
        (timewindowInternalSave w).windowEnd.toNat = ms / 1000 := by
      obtain ⟨st, ws, we, mode, retries, priv⟩ := w
      obtain ⟨-, -, htimers⟩ := h
      rcases htimers with - | @⟨a, b, hab, hb⟩ | @⟨o, b, ho, hb⟩ | - | @⟨o, p, ho, hp⟩
      · cases hms
      · rcases b with - | n
        · cases hms
        · obtain rfl := Option.some.inj hms
          exact ⟨nofun, toNat_remainingSeconds hb⟩
      · rcases b with - | n
        · cases hms
        · obtain rfl := Option.some.inj hms
          exact ⟨nofun, toNat_remainingSeconds hb⟩
      · cases hms
      · rcases p with - | - | n
        · cases hms
        · cases hms
        · exact absurd rfl (hp n)
    obtain ⟨hst, hstored⟩ := hstored
    refine ⟨_, hsaved.endLeft_armed ?_, ?_⟩
    · exact fun hended => hst ((Kept.internalSave w).status.symm.trans hended)
    · change 1000 * (timewindowInternalSave w).windowEnd.toNat ≤ ms ∧
        ms < 1000 * (timewindowInternalSave w).windowEnd.toNat + 1000
      omega

end Timed
end TimeWindow

/-! ### Handlers -/

/-- Window `k` of the list, if there is one, can keep its schedule. -/
def TimeWindowList.TimedAt (l : TimeWindowList) (k : ℕ) : Prop :=
  ∀ w, l.find k = some w → w.Timed

namespace TimeWindowList

variable {l : TimeWindowList} {f : TimeWindow → TimeWindow} {k : ℕ}

theorem TimedAt.map (h : l.TimedAt k) (hf : ∀ w : TimeWindow, w.Timed → (f w).Timed) :
    (l.map f).TimedAt k := by
  intro w hw
  rw [find_map] at hw
  obtain ⟨u, hu, rfl⟩ := Option.map_eq_some_iff.mp hw
  exact hf u (h u hu)

theorem TimedAt.modify (h : l.TimedAt k) (j : ℕ)
    (hf : ∀ w, l.find j = some w → w.Timed → (f w).Timed) : (l.modify j f).TimedAt k := by
  intro w hw
  rw [find_modify] at hw
  split at hw
  · next hjk =>
    obtain ⟨u, hu, rfl⟩ := Option.map_eq_some_iff.mp hw
    exact hf u (hjk ▸ hu) (h u hu)
  · exact h w hw

end TimeWindowList

/-- A handler after which window `k` can keep its schedule if it could before. -/
def Ctx.KeepsTimed (k : ℕ) (c c' : Ctx) : Prop :=
  c.obj.timeWindowList.TimedAt k → c'.obj.timeWindowList.TimedAt k

namespace Ctx.KeepsTimed

variable {c c' c'' : Ctx} {k : ℕ}

theorem trans (h : c.KeepsTimed k c') (h' : c'.KeepsTimed k c'') : c.KeepsTimed k c'' :=
  fun ht => h' (h ht)

/-- A handler that leaves the windows alone. -/
theorem of_eq (h : c'.obj.timeWindowList = c.obj.timeWindowList) : c.KeepsTimed k c' :=
  fun ht => h.symm ▸ ht

theorem start (h : StartOutcome c c') : c.KeepsTimed k c' := by
  cases h with
  | unsupported _ => exact of_eq rfl
  | running _ _ => exact of_eq rfl
  | failed _ _ => exact of_eq rfl

theorem transferDone (c : Ctx) : c.KeepsTimed k (transfersTransferDone c) := by
  by_cases h : c.obj.fileType = ""
  · exact of_eq (by rw [transfersTransferDone_of_empty h])
  · exact of_eq (by rw [transfersTransferDone_of_ne h]; rfl)

theorem upgrade {fc : ℕ} {fs : String} (h : UpgradeOutcome c fc fs c') : c.KeepsTimed k c' := by
  cases h with
  | ignored _ => exact of_eq rfl
  | failed _ _ => exact of_eq rfl
  | done _ _ =>
    exact transferDone { c with obj := c.obj.withResult c.obj.transferComplete.status fc fs }

theorem handle {ret : ℤ} (h : HandleOutcome c ret c') : c.KeepsTimed k c' := by
  cases h with
  | unchanged _ => exact of_eq rfl
  | start _ _ => exact start (transfersStartTransfer_outcome c ret)
  | gaveUp _ _ =>
    exact transferDone { c with
      obj := c.obj.withResult c.obj.transferComplete.status faultCodeInternalError
        "TimeWindow(s) ended" }

theorem setMaxretries (c : Ctx) (j : ℕ) (value : Int32) :
    c.KeepsTimed k (transfersTimewindowSetMaxretries c j value) :=
  fun ht => ht.modify j fun _ _ hw => hw.of_eq rfl rfl rfl rfl

theorem failed {ret : ℤ} (h : FailedOutcome c ret c') : c.KeepsTimed k c' := by
  cases h with
  | ignored _ => exact of_eq rfl
  | exhausted _ _ _ => exact transferDone c
  | @retried info w _ _ =>
    exact (setMaxretries c info.lastTimeWindow (w.maxRetries - 1)).trans
      (start (transfersStartTransfer_outcome _ ret))

theorem addInfo (c : Ctx) : c.KeepsTimed k (transfersTransferAddInfo c) := by
  unfold transfersTransferAddInfo
  split
  · exact of_eq rfl
  · exact fun ht => ht.map fun _ => TimeWindow.Timed.addInfo

theorem timewindowStart (c : Ctx) : c.KeepsTimed k (transfersTimewindowStart c) :=
  fun ht => ht.map fun _ => TimeWindow.Timed.internalStart

theorem handleDmEvent (ret : ℤ) (ev : DmEvent) (c : Ctx) :
    c.KeepsTimed k (handleDmEvent ret ev c) := by
  cases ev with
  | scheduleDownloadAdded => exact (addInfo c).trans (timewindowStart _)
  | timewindowStarted j =>
    rcases timewindowStarted_cases c j ret with ⟨-, h⟩ | ⟨info, -, h⟩
    · exact of_eq (congrArg (fun c => c.obj.timeWindowList) h)
    · exact fun ht => handle h ht
  | timewindowEnded j =>
    rcases timewindowEnded_cases c ret with ⟨-, h⟩ | ⟨info, -, h⟩
    · exact of_eq (congrArg (fun c => c.obj.timeWindowList) h)
    · exact fun ht => handle h ht
  | scheduleDownloadTransferFailed => exact failed (scheduleDownloadTransferFailed_outcome c ret)

theorem deferredInit (status : Option String) (c : Ctx) :
    c.KeepsTimed k (deferredInit status c) := by
  refine (addInfo c).trans (trans ?_ (timewindowStart _))
  rcases transfersHandleInProgressTransfer_cases (transfersTransferAddInfo c) status with
    hsame | ⟨-, -, hup⟩
  · exact of_eq (congrArg (fun c => c.obj.timeWindowList) hsame)
  · exact upgrade hup

theorem firmwareimageFailure (log : String) (c : Ctx) :
    c.KeepsTimed k (firmwareimageFailure log c) := by
  have h : c.KeepsTimed k (transfersFirmwareupgradeDone c (firmwareFaultCode log) log) :=
    upgrade (transfersFirmwareupgradeDone_outcome c (firmwareFaultCode log) log)
  exact h

end Ctx.KeepsTimed

/-- **What can happen to an instance keeps the schedule of its windows possible.** -/
theorem View.Step.timedAt {i k : ℕ} {v v' : View} {a : Act} (h : Step i v a v')
    (hv : v.obj.timeWindowList.TimedAt k) : v'.obj.timeWindowList.TimedAt k := by
  cases h with
  | other _ => exact hv
  | @startTimer j w _ hw hrun =>
    have hw' : (v.ctx i).obj.timeWindowList.find j = some w := hw
    rw [timewindowStartTimerCb_eq hw']
    refine TimeWindowList.TimedAt.modify hv j fun u hu ht => ht.startTimer ?_
    exact Option.some.inj (hw.symm.trans hu) ▸ hrun
  | @endTimer j w _ hw hrun =>
    have hw' : (v.ctx i).obj.timeWindowList.find j = some w := hw
    rw [timewindowEndTimerCb_eq hw']
    refine TimeWindowList.TimedAt.modify hv j fun u hu ht => ht.endTimer ?_
    exact Option.some.inj (hw.symm.trans hu) ▸ hrun
  | elapse ms => exact hv.map fun _ => TimeWindow.Timed.elapse ms
  | save _ => exact hv.map fun _ => TimeWindow.Timed.internalSave
  | @dispatch ev rest ret _ => exact Ctx.KeepsTimed.handleDmEvent ret ev (v.ctx i) hv
  | @failure log _ => exact Ctx.KeepsTimed.firmwareimageFailure log (v.ctx i) hv
  | @deferredInit status lock _ _ _ _ =>
    exact Ctx.KeepsTimed.deferredInit status ((v.withLock lock).ctx i) hv
  | restart => exact hv.map fun _ => TimeWindow.Timed.reload

/-! ### Windows of a request -/

namespace Plugin

/-- An invariant of one instance holds from any state on, as long as the instance is
there: its index is not used again. -/
theorem view_invariant_from {I : View → Prop} {i : ℕ} {s t : Plugin} {v : View}
    (hstep : ∀ a v v', View.Step i v a v' → I v → I v')
    (hs : Reaches Tr069.step free init s) (h : Reaches Tr069.step free s t)
    (hi : i ≤ s.lastIndex) (hI : ∀ v, s.view i = some v → I v) (hv : t.view i = some v) : I v := by
  have hinv : i ≤ t.lastIndex ∧ ∀ v, t.view i = some v → I v := by
    refine Reaches.invariant_reached (I := fun t => i ≤ t.lastIndex ∧ ∀ v, t.view i = some v → I v)
      hs (fun b e c hreach hIb _ he => ?_) h ⟨hi, hI⟩
    obtain ⟨hib, hIb⟩ := hIb
    have hst := stepped_of_step he
    refine ⟨Nat.le_trans hib (lastIndex_step hst), fun v hv => ?_⟩
    rcases hb : b.view i with - | u
    · rcases missing_step hst (dm_eq_none_of_view hb) with hmiss | ⟨hnew, -⟩
      · rw [view_eq_none hmiss.dm] at hv
        cases hv
      · omega
    · rcases view_step (wellIndexed_of_reaches hreach) hst hb with ⟨-, hnone⟩ | ⟨u', hu', hview⟩
      · rw [hnone] at hv
        cases hv
      · obtain rfl := Option.some.inj (hu'.symm.trans hv)
        exact hstep _ u _ hview (hIb u hb)
  exact hinv.2 v hv

end Plugin

/-- What a window that was requested to start after `ws` and to end after `we` seconds
may have become, at any time later. -/
def Requested (ws we : UInt32) (w : TimeWindow) : Prop :=
  ∃ s args s' t k a, Reaches step free Plugin.init s ∧
    step s (.addScheduleDownload args) = some s' ∧ args.timeWindowList[k]? = some a ∧
    a.windowStart = ws ∧ a.windowEnd = we ∧
    Reaches step free s' t ∧ t.window (s.lastIndex + 1) (k + 1) = some w

/-- The windows of a new instance are those of the request. -/
theorem find_timeWindowListOfArgs {args : List TimeWindowArgs} {l : TimeWindowList} {k : ℕ}
    {a : TimeWindowArgs} {w : TimeWindow} (hl : timeWindowListOfArgs args = some l)
    (ha : args[k]? = some a) (hw : l.find (k + 1) = some w) : w = a.toTimeWindow := by
  match args, k with
  | [], _ => cases hl
  | [_], 0 | _ :: _ :: _, 0 | _ :: _ :: _, 1 =>
    obtain rfl := Option.some.inj hl
    obtain rfl := Option.some.inj ha
    exact (Option.some.inj hw).symm
  | [_], _ + 1 => cases ha
  | _ :: _ :: _, _ + 2 =>
    obtain rfl := Option.some.inj hl
    cases hw

theorem timed_of_requested {ws we : UInt32} (hle : ws ≤ we) (hfits : we.toNat ≤ 4294967)
    {w : TimeWindow} (h : Requested ws we w) : w.Timed := by
  obtain ⟨s, args, s', t, k, a, hs, hadd, ha, rfl, rfl, hrun, hw⟩ := h
  obtain ⟨v, hv, hfind⟩ := Plugin.exists_view_of_window hw
  have hs' : Reaches step free Plugin.init s' := hs.trans (Reaches.single trivial hadd)
  have hst := Plugin.stepped_of_step hadd
  rcases hst with - | @⟨args, l, -, hl⟩
  refine Plugin.view_invariant_from (I := fun v => v.obj.timeWindowList.TimedAt (k + 1))
    (fun _ _ _ hstep hv => hstep.timedAt hv) hs' hrun (Nat.le_refl _) ?_ hv w hfind
  intro u hu w₀ hw₀
  obtain ⟨obj, hobj, rfl⟩ := Plugin.exists_obj_of_view hu
  have hobj' : obj = scheduleDownloadOfArgs args l := by
    simpa [Plugin.added] using hobj.symm
  subst hobj'
  obtain rfl := find_timeWindowListOfArgs hl ha hw₀
  exact ⟨fun _ => UInt32.le_iff_toNat_le.mp hle, hfits, .missing⟩

/-- A new window is what was requested. -/
theorem requested_new (a : TimeWindowArgs) :
    Requested a.windowStart a.windowEnd a.toTimeWindow := by
  refine ⟨Plugin.init, firmwareArgs [a], _, _, 0, a, .refl, rfl, rfl, rfl, rfl, .refl, ?_⟩
  simp [Plugin.window, Plugin.added, Plugin.init, scheduleDownloadOfArgs, TimeWindowList.find]

/-- **The timers of a window keep the schedule if and only if its end fits a timer**: of a
request for a window that starts no later than it ends, in every run that follows. -/
theorem keepsSchedule_iff {ws we : UInt32} (hle : ws ≤ we) :
    (∀ w, Requested ws we w → w.KeepsSchedule) ↔ we.toNat ≤ 4294967 := by
  constructor
  · intro h
    have hstop := (h _ (requested_new (immediately ws we 0))).stop nofun
    have harmed : (timewindowGetTimeOffset we).toNat = 1000 * we.toNat := Option.some.inj hstop
    have hlt := (timewindowGetTimeOffset we).toNat_lt
    omega
  · exact fun hfits w hw => (timed_of_requested hle hfits hw).keepsSchedule

theorem keepsSchedule_iff_minute :
    (∀ w, Requested 60 120 w → w.KeepsSchedule) ↔ (120 : UInt32).toNat ≤ 4294967 :=
  keepsSchedule_iff (by decide)

/-- Not every window keeps its schedule: one that ends 4294968 seconds after the request
does not. -/
theorem not_keepsSchedule_wraps :
    ¬∀ ws we w, ws ≤ we → Requested ws we w → w.KeepsSchedule := by
  intro h
  have hstop := (h 0 4294968 _ (by decide) (requested_new (immediately 0 4294968 0))).stop nofun
  have hwraps : (immediately 0 4294968 0).toTimeWindow.armed.endLeft = some 704 := by decide
  exact absurd (hwraps.symm.trans hstop) (by decide)

end Tr069
