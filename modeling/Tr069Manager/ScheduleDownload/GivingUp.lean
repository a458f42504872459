import Tr069Manager.ScheduleDownload.Finality
import Tr069Manager.ScheduleDownload.RunTime

/-!
# When a transfer is given up

When the end of a window is handled and the window opened last is the last of the list,
the transfer is given up: Done, with the fault "TimeWindow(s) ended". That is right if
then all windows have ended, and it is the only thing that ever ends a transfer whose
windows are over. The code compares two numbers where the status of the windows is
meant, and the two agree only if the windows are used in order; moreover a restart
forgets the event that is still queued.

`Tr069.View.DecidesByAll` is the condition that the comparison comes out as the windows would
have it, whenever the end of a window is handled and the transfer is not done, and that no
restart comes between the end of the last window and its handling. Under it a transfer
is given up only when all its windows have ended, and is done once they have and their
events have been handled (`Tr069.gives_up_when_over`).
-/

namespace Tr069

open Runs Tagged

/-! ### The windows of a list taken together -/

namespace TimeWindowList

/-- Every window has ended. -/
def AllEnded (l : TimeWindowList) : Prop := ∀ k w, l.find k = some w → w.status = .ended

/-- Every window has a mode the plugin acts on. -/
def ModesSupported (l : TimeWindowList) : Prop :=
  ∀ k w, l.find k = some w → (transfersTimewindowGetMode (some w)).Supported

variable {l l' : TimeWindowList} {k : ℕ} {w : TimeWindow} {f : TimeWindow → TimeWindow}

/-- Every window of the list, and every one there is. -/
theorem forall_find_iff {P : TimeWindow → Prop} :
    (∀ k w, l.find k = some w → P w) ↔ P l.inst1 ∧ ∀ w ∈ l.inst2, P w := by
  constructor
  · intro h
    exact ⟨h 1 l.inst1 rfl, fun w hw => h 2 w hw⟩
  · rintro ⟨h₁, h₂⟩ k w hw
    match k with
    | 0 => cases hw
    | 1 =>
      cases hw
      exact h₁
    | 2 => exact h₂ w hw
    | _ + 3 => cases hw

instance : Decidable l.AllEnded := decidable_of_iff _ forall_find_iff.symm

instance : Decidable l.ModesSupported := decidable_of_iff _ forall_find_iff.symm

theorem allEnded_iff : l.AllEnded ↔ ∀ k st, l.statusOf k = some st → st = .ended := by
  constructor
  · intro h k st hst
    obtain ⟨w, hw, rfl⟩ := Option.map_eq_some_iff.mp hst
    exact h k w hw
  · intro h k w hw
    exact h k w.status (by rw [statusOf, hw, Option.map_some])

theorem allEnded_congr (h : ∀ k, l'.statusOf k = l.statusOf k) : l'.AllEnded ↔ l.AllEnded := by
  rw [allEnded_iff, allEnded_iff]
  exact forall_congr' fun k => by rw [h k]

/-- A window that has just started has not ended. -/
theorem not_allEnded_of_started (hw : l.find k = some w) (hst : (f w).status = .started) :
    ¬(l.modify k f).AllEnded := by
  intro h
  have hend := h k (f w) (by rw [find_modify_self, hw, Option.map_some])
  rw [hst] at hend
  cases hend

/-- A transfer inside a window has one that has not ended. -/
theorem AllEnded.outside (h : l.AllEnded) : (transferInfoOf l).withinTimeWindow = false := by
  refine Bool.eq_false_iff.mpr fun hin => ?_
  cases allEnded_iff.mp h _ _ (transferInfoOf_within hin)

/-- The modes are those of the request. -/
theorem ModesSupported.of_modes (h : l.ModesSupported) (hm : l'.modes = l.modes) :
    l'.ModesSupported := by
  have hfirst := congrArg Prod.fst hm
  have hsecond := congrArg Prod.snd hm
  intro k w' hw'
  have hsame : ∃ w, l.find k = some w ∧ w'.windowMode = w.windowMode := by
    match k with
    | 0 => cases hw'
    | 1 =>
      obtain rfl : l'.inst1 = w' := Option.some.inj hw'
      exact ⟨l.inst1, rfl, hfirst⟩
    | 2 =>
      have hw' : l'.inst2 = some w' := hw'
      simp only [modes, hw', Option.map_some] at hsecond
      obtain ⟨w, hw, hmode⟩ := Option.map_eq_some_iff.mp hsecond.symm
      exact ⟨w, hw, hmode.symm⟩
    | _ + 3 => cases hw'
  obtain ⟨w, hw, hmode⟩ := hsame
  have hsup := h k w hw
  rw [transfersTimewindowGetMode] at hsup ⊢
  rw [hmode]
  exact hsup

end TimeWindowList

/-- The window can still open. -/
def TimeWindow.MayStart (w : TimeWindow) : Prop := w.status = .idle ∨ w.StartPending

theorem TimeWindow.Kept.mayStart {w w' : TimeWindow} (h : w.Kept w') (hm : w'.MayStart) :
    w.MayStart := by
  rcases hm with hidle | hp
  · exact Or.inl (h.status ▸ hidle)
  · exact (h.start hp).symm

namespace View

variable {i : ℕ} {v v' : View} {a : Act}

/-! ### A window is opened once -/

/-- The run-time state counts the windows, and a window that can still open is neither the
one opened last nor queued as started; nor is the one opened last, and none is twice. -/
structure OpensOnce (v : View) : Prop where
  number : ∀ info, v.obj.priv = some info →
    info.numberOfTimeWindow = v.obj.timeWindowList.instanceCount
  fresh : ∀ info, v.obj.priv = some info → ∀ k w, v.obj.timeWindowList.find k = some w →
    w.MayStart → info.lastTimeWindow ≠ k ∧ .timewindowStarted k ∉ v.windowEvents
  last : ∀ info, v.obj.priv = some info → .timewindowStarted info.lastTimeWindow ∉ v.windowEvents
  once : ∀ k, v.windowEvents.count (.timewindowStarted k) ≤ 1

theorem opensOnce_of_fresh (h : Fresh i v) : OpensOnce v := by
  obtain ⟨args, l, -, hobj, -, hpending, -⟩ := h
  have hpriv : v.obj.priv = none := by
    rw [hobj]
    rfl
  have hnone : ∀ info, v.obj.priv ≠ some info := by
    intro info hinfo
    rw [hpriv] at hinfo
    cases hinfo
  refine ⟨fun info h => absurd h (hnone info), fun info h => absurd h (hnone info),
    fun info h => absurd h (hnone info), fun k => ?_⟩
  rw [windowEvents, hpending]
  exact Nat.zero_le _

/-- What the write of a status adds to the events of the windows. -/
theorem windowEvents_append (v : View) (k : ℕ) (old new : TimewindowStatus) :
    (v.pending ++ timewindowStatusEvent k old new).filter DmEvent.isWindow =
      v.windowEvents ++ timewindowStatusEvent k old new := by
  have hall : (timewindowStatusEvent k old new).filter DmEvent.isWindow =
      timewindowStatusEvent k old new := by
    unfold timewindowStatusEvent
    split
    · rfl
    · cases new <;> rfl
  rw [List.filter_append, hall]
  rfl

theorem mem_statusEvent_started {j k : ℕ} {old new : TimewindowStatus}
    (h : .timewindowStarted j ∈ timewindowStatusEvent k old new) : j = k ∧ new = .started := by
  unfold timewindowStatusEvent at h
  split at h
  · cases h
  · cases new with
    | idle => cases h
    | started =>
      cases List.mem_singleton.mp h
      exact ⟨rfl, rfl⟩
    | ended => cases List.mem_singleton.mp h

/-- The windows are kept, no event is new, and the window opened last is as before. -/
theorem OpensOnce.of_kept (hs : OpensOnce v) (hk : KeepsWindows v a v')
    (hevents : v'.windowEvents.Sublist v.windowEvents)
    (hpriv : ∀ info', v'.obj.priv = some info' → ∃ info, v.obj.priv = some info ∧
      info'.numberOfTimeWindow = info.numberOfTimeWindow ∧
      info'.lastTimeWindow = info.lastTimeWindow) : OpensOnce v' := by
  constructor
  · intro info' hinfo'
    obtain ⟨info, hinfo, hnum, -⟩ := hpriv info' hinfo'
    rw [hnum, hs.number info hinfo, instanceCount_congr hk.windows.status]
  · intro info' hinfo' k w' hw' hmay
    obtain ⟨info, hinfo, -, hlast⟩ := hpriv info' hinfo'
    obtain ⟨w, hw, hkept⟩ := hk.windows.exists_kept hw'
    obtain ⟨hne, hnot⟩ := hs.fresh info hinfo k w hw (hkept.mayStart hmay)
    exact ⟨hlast ▸ hne, fun hmem => hnot (hevents.subset hmem)⟩
  · intro info' hinfo' hmem
    obtain ⟨info, hinfo, -, hlast⟩ := hpriv info' hinfo'
    exact hs.last info hinfo (hlast ▸ hevents.subset hmem)
  · exact fun k => Nat.le_trans (hevents.count_le _) (hs.once k)

/-- A window starts that could, and now can no longer. -/
theorem OpensOnce.started (hs : OpensOnce v) {k : ℕ} {w : TimeWindow} {info : TransferInfo}
    (hpriv : v.obj.priv = some info) (hw : v.obj.timeWindowList.find k = some w)
    (htimer : w.StartPending) (calls : List Call) :
    OpensOnce { v with
      obj := { v.obj with
        timeWindowList := v.obj.timeWindowList.modify k fun w =>
          w.startTimerOff.withStatus .started }
      pending := v.pending ++ timewindowStatusEvent k w.status .started
      calls := calls } := by
  obtain ⟨hlast, hnot⟩ := hs.fresh info hpriv k w hw (Or.inr htimer)
  have hsame : ∀ info', v.obj.priv = some info' → info' = info := by
    intro info' hinfo'
    exact Option.some.inj (hinfo'.symm.trans hpriv)
  have hnew : ∀ j, j ≠ k → .timewindowStarted j ∉ v.windowEvents → .timewindowStarted j ∉
      v.windowEvents ++ timewindowStatusEvent k w.status .started := by
    intro j hj hold hmem
    rcases List.mem_append.mp hmem with hmem | hmem
    · exact hold hmem
    · exact hj (mem_statusEvent_started hmem).1
  constructor
  · intro info' hinfo'
    rw [TimeWindowList.instanceCount_modify]
    exact hs.number info' hinfo'
  · intro info' hinfo' j u hu hmay
    have hj : j ≠ k := by
      rintro rfl
      rw [TimeWindowList.find_modify_self, hw] at hu
      cases hu
      rcases hmay with hidle | hp
      · cases hidle
      · exact TimeWindow.not_startPending_started hp
    rw [TimeWindowList.find_modify_ne hj] at hu
    obtain ⟨hne, hold⟩ := hs.fresh info' hinfo' j u hu hmay
    refine ⟨hne, ?_⟩
    rw [windowEvents, windowEvents_append]
    exact hnew j hj hold
  · intro info' hinfo'
    obtain rfl := hsame info' hinfo'
    rw [windowEvents, windowEvents_append]
    exact hnew _ hlast (hs.last _ hinfo')
  · intro j
    rw [windowEvents, windowEvents_append, List.count_append]
    have hevent : (timewindowStatusEvent k w.status .started).length ≤ 1 := by
      rw [timewindowStatusEvent]
      split <;> simp
    have hone := Nat.le_trans (List.count_le_length (a := DmEvent.timewindowStarted j)) hevent
    by_cases hj : j = k
    · have hzero := List.count_eq_zero.mpr hnot
      rw [← hj] at hzero hone ⊢
      omega
    · have hzero : (timewindowStatusEvent k w.status .started).count (.timewindowStarted j) = 0 :=
        List.count_eq_zero.mpr fun hmem => hj (mem_statusEvent_started hmem).1
      have hold := hs.once j
      omega

/-- A window ends, and starts no more than before. -/
theorem OpensOnce.ended (hs : OpensOnce v) {k : ℕ} {w : TimeWindow}
    (hw : v.obj.timeWindowList.find k = some w) (calls : List Call) :
    OpensOnce { v with
      obj := { v.obj with
        timeWindowList := v.obj.timeWindowList.modify k fun w => w.stopTimerOff.withStatus .ended }
      pending := v.pending ++ timewindowStatusEvent k w.status .ended
      calls := calls } := by
  have hold : ∀ j, .timewindowStarted j ∈
      v.windowEvents ++ timewindowStatusEvent k w.status .ended →
      .timewindowStarted j ∈ v.windowEvents := by
    intro j hmem
    rcases List.mem_append.mp hmem with hmem | hmem
    · exact hmem
    · cases (mem_statusEvent_started hmem).2
  constructor
  · intro info hinfo
    rw [TimeWindowList.instanceCount_modify]
    exact hs.number info hinfo
  · intro info hinfo j u hu hmay
    rw [windowEvents, windowEvents_append]
    have hbefore : ∃ u, v.obj.timeWindowList.find j = some u ∧ u.MayStart := by
      by_cases hj : j = k
      · rw [hj, TimeWindowList.find_modify_self, hw] at hu
        cases hu
        rcases hmay with hidle | hp
        · cases hidle
        · exact ⟨w, hj ▸ hw, Or.inr (TimeWindow.startPending_of_ended hp)⟩
      · rw [TimeWindowList.find_modify_ne hj] at hu
        exact ⟨u, hu, hmay⟩
    obtain ⟨u, hu, hmay⟩ := hbefore
    obtain ⟨hne, hnot⟩ := hs.fresh info hinfo j u hu hmay
    exact ⟨hne, fun hmem => hnot (hold j hmem)⟩
  · intro info hinfo
    rw [windowEvents, windowEvents_append]
    exact fun hmem => hs.last info hinfo (hold _ hmem)
  · intro j
    rw [windowEvents, windowEvents_append, List.count_append]
    have hzero : (timewindowStatusEvent k w.status .ended).count (.timewindowStarted j) = 0 :=
      List.count_eq_zero.mpr fun hmem => by cases (mem_statusEvent_started hmem).2
    have hone := hs.once j
    omega

/-- The start of a window is handled, which was queued once. -/
theorem OpensOnce.opened (hs : OpensOnce v) {k : ℕ} {ret : ℤ} {info : TransferInfo}
    (hk : KeepsWindows v (.dispatch (.timewindowStarted k) ret) v')
    (hold : v.windowEvents = .timewindowStarted k :: v'.windowEvents)
    (hpriv : v.obj.priv = some info) (hpriv' : v'.obj.priv = some (info.opened k)) :
    OpensOnce v' := by
  have hsame : ∀ info', v'.obj.priv = some info' → info' = info.opened k := by
    intro info' hinfo'
    exact Option.some.inj (hinfo'.symm.trans hpriv')
  have hsub : v'.windowEvents ⊆ v.windowEvents := by
    rw [hold]
    exact List.subset_cons_self _ _
  have honce : ∀ j, v'.windowEvents.count (.timewindowStarted j) ≤ 1 ∧
      (j = k → .timewindowStarted j ∉ v'.windowEvents) := by
    intro j
    have hcount := hs.once j
    rw [hold, List.count_cons] at hcount
    refine ⟨by omega, ?_⟩
    rintro rfl
    rw [if_pos (by simp)] at hcount
    exact List.count_eq_zero.mp (by omega)
  constructor
  · intro info' hinfo'
    rw [hsame info' hinfo', instanceCount_congr hk.windows.status]
    exact hs.number info hpriv
  · intro info' hinfo' j w' hw' hmay
    obtain ⟨w, hw, hkept⟩ := hk.windows.exists_kept hw'
    obtain ⟨-, hnot⟩ := hs.fresh info hpriv j w hw (hkept.mayStart hmay)
    refine ⟨?_, fun hmem => hnot (hsub hmem)⟩
    rw [hsame info' hinfo']
    rintro rfl
    exact hnot (hold ▸ List.mem_cons_self)
  · intro info' hinfo'
    rw [hsame info' hinfo']
    exact (honce k).2 rfl
  · exact fun j => (honce j).1

/-- The run-time state is built: a window that is not Idle was opened last. -/
theorem OpensOnce.built (hp : Prepared v) (hk : KeepsWindows v a v') (hpriv : v.obj.priv = none)
    (hpriv' : v'.obj.priv = some (transferInfoOf v.obj.timeWindowList))
    (hevents : v'.windowEvents = []) : OpensOnce v' := by
  have hnone : ∀ ev, ev ∉ v'.windowEvents := by
    intro ev
    rw [hevents]
    exact List.not_mem_nil
  have hsame : ∀ info', v'.obj.priv = some info' → info' = transferInfoOf v.obj.timeWindowList := by
    intro info' hinfo'
    exact Option.some.inj (hinfo'.symm.trans hpriv')
  constructor
  · intro info' hinfo'
    rw [hsame info' hinfo', instanceCount_congr hk.windows.status, transferInfoOf_number]
  · intro info' hinfo' k w' hw' hmay
    obtain ⟨w, hw, hkept⟩ := hk.windows.exists_kept hw'
    refine ⟨?_, hnone _⟩
    rw [hsame info' hinfo']
    rintro rfl
    rcases hkept.mayStart hmay with hidle | hp'
    · exact transferInfoOf_last hw hidle
    · exact hp.built_of_timer hw (Or.inl hp') hpriv
  · exact fun _ _ => hnone _
  · intro k
    rw [hevents]
    exact Nat.zero_le _

theorem OpensOnce.step (hs : OpensOnce v) (hp : Prepared v) (h : Step i v a v') : OpensOnce v' := by
  cases hp.info h with
  | start hw htimer =>
    obtain ⟨info, hpriv⟩ := Option.ne_none_iff_exists'.mp (hp.built_of_timer hw (Or.inl htimer))
    exact hs.started hpriv hw htimer _
  | stop hw _ => exact hs.ended hw _
  | same hk hpriv hevents _ =>
    refine hs.of_kept hk (hevents ▸ List.Sublist.refl _) fun info hinfo => ?_
    exact ⟨info, hpriv ▸ hinfo, rfl, rfl⟩
  | built hk hpriv hpriv' hevents => exact .built hp hk hpriv hpriv' hevents
  | @handled ev rest ret info _ hk hpending hpriv hpriv' hevents =>
    have hsub : v'.windowEvents.Sublist v.windowEvents := by
      rw [hevents, windowEvents, hpending]
      exact (List.sublist_cons_self ev rest).filter _
    have hkeep : (info.handle ev).numberOfTimeWindow = info.numberOfTimeWindow →
        (info.handle ev).lastTimeWindow = info.lastTimeWindow → OpensOnce v' := by
      intro hnum hlast
      refine hs.of_kept hk hsub fun info' hinfo' => ⟨info, hpriv, ?_⟩
      obtain rfl : info.handle ev = info' := Option.some.inj (hpriv'.symm.trans hinfo')
      exact ⟨hnum, hlast⟩
    cases ev with
    | timewindowStarted k =>
      refine hs.opened hk ?_ hpriv hpriv'
      rw [hevents, windowEvents, hpending]
      rfl
    | timewindowEnded k => exact hkeep rfl rfl
    | scheduleDownloadAdded => exact hkeep rfl rfl
    | scheduleDownloadTransferFailed => exact hkeep rfl rfl
  | restarted hk hpriv' hevents _ =>
    refine hs.of_kept hk (hevents ▸ List.nil_sublist _) fun info hinfo => ?_
    rw [hpriv'] at hinfo
    cases hinfo

/-! ### Outside all windows -/

/-- Once all windows have ended, the queued events take the transfer out of them. -/
def LeavesWindows (v : View) : Prop :=
  v.obj.timeWindowList.AllEnded → ∀ info, v.obj.priv = some info →
    (v.windowEvents.foldl TransferInfo.handle info).withinTimeWindow = false

theorem leavesWindows_of_fresh (h : Fresh i v) : LeavesWindows v := by
  obtain ⟨args, l, -, hobj, -, -, -⟩ := h
  intro _ info hinfo
  rw [hobj] at hinfo
  cases hinfo

theorem LeavesWindows.step (hs : LeavesWindows v) (hp : Prepared v) (h : Step i v a v') :
    LeavesWindows v' := by
  intro hall info' hinfo'
  cases hp.info h with
  | start hw _ => exact absurd hall (TimeWindowList.not_allEnded_of_started hw rfl)
  | @stop k w hw _ =>
    rw [windowEvents, windowEvents_append]
    by_cases hst : w.status = .ended
    · -- the window had ended before, and no event is queued
      have hsame : ∀ j, (v.obj.timeWindowList.modify k fun w =>
          w.stopTimerOff.withStatus .ended).statusOf j = v.obj.timeWindowList.statusOf j :=
        TimeWindowList.statusOf_modify_self hw hst fun _ => rfl
      rw [timewindowStatusEvent, if_pos hst, List.append_nil]
      exact hs ((TimeWindowList.allEnded_congr hsame).mp hall) info' hinfo'
    · rw [timewindowStatusEvent, if_neg hst, List.foldl_append]
      rfl
  | same hk hpriv hevents _ =>
    rw [hevents]
    exact hs ((TimeWindowList.allEnded_congr hk.windows.status).mp hall) info' (hpriv ▸ hinfo')
  | built hk _ hpriv' hevents =>
    have hold := (TimeWindowList.allEnded_congr hk.windows.status).mp hall
    obtain rfl := Option.some.inj (hpriv'.symm.trans hinfo')
    rw [hevents]
    exact hold.outside
  | @handled ev rest ret info _ hk hpending hpriv hpriv' hevents =>
    have hold := hs ((TimeWindowList.allEnded_congr hk.windows.status).mp hall) info hpriv
    rw [windowEvents, hpending, foldl_handle_filter_cons] at hold
    obtain rfl := Option.some.inj (hpriv'.symm.trans hinfo')
    rw [hevents]
    exact hold
  | restarted hk hpriv' _ _ =>
    rw [hpriv'] at hinfo'
    cases hinfo'

/-- Without the end of a window in the queue, the transfer stays inside. -/
theorem within_foldl {events : List DmEvent} (hno : ∀ k, .timewindowEnded k ∉ events)
    {info : TransferInfo} (hin : info.withinTimeWindow = true) :
    (events.foldl TransferInfo.handle info).withinTimeWindow = true := by
  induction events generalizing info with
  | nil => exact hin
  | cons ev rest ih =>
    have hrest : ∀ k, .timewindowEnded k ∉ rest := fun k hk => hno k (List.mem_cons_of_mem _ hk)
    cases ev with
    | timewindowStarted k => exact ih hrest rfl
    | timewindowEnded k => exact absurd List.mem_cons_self (hno k)
    | scheduleDownloadAdded => exact ih hrest hin
    | scheduleDownloadTransferFailed => exact ih hrest hin

/-- Once all windows have ended and no end is queued, the transfer is outside them. -/
theorem LeavesWindows.outside (hs : LeavesWindows v) (hall : v.obj.timeWindowList.AllEnded)
    (hno : ∀ k, .timewindowEnded k ∉ v.pending) {info : TransferInfo}
    (hpriv : v.obj.priv = some info) : info.withinTimeWindow = false := by
  refine Bool.eq_false_iff.mpr fun hin => ?_
  have hevents : ∀ k, .timewindowEnded k ∉ v.windowEvents := fun k hk =>
    hno k (List.mem_of_mem_filter hk)
  have hfold := hs hall info hpriv
  rw [within_foldl hevents hin] at hfold
  cases hfold

/-! ### The condition -/

/-- Whenever the end of a window is handled and the transfer is not done, the window
opened last is the last of the list only if all windows have ended, and, if they have
and no other end is queued, it is; and no restart comes after all windows have ended and
before the transfer is done. -/
structure DecidesByAll (v : View) (a : Act) : Prop where
  early : ∀ k ret info, a = .dispatch (.timewindowEnded k) ret → v.obj.priv = some info →
    v.obj.transferComplete.status ≠ .done → info.numberOfTimeWindow = info.lastTimeWindow →
    v.obj.timeWindowList.AllEnded
  late : ∀ k ret info, a = .dispatch (.timewindowEnded k) ret → v.obj.priv = some info →
    v.obj.transferComplete.status ≠ .done → v.obj.timeWindowList.AllEnded →
    (∀ j, .timewindowEnded j ∉ v.pending.tail) → info.numberOfTimeWindow = info.lastTimeWindow
  restart : a = .restart → v.obj.timeWindowList.AllEnded → v.obj.transferComplete.status = .done

/-! ### A transfer whose windows are over is done, or will be -/

/-- Once all windows have ended, the transfer is done or the end of one is queued. -/
def Awaited (v : View) : Prop :=
  v.obj.timeWindowList.AllEnded → v.obj.transferComplete.status ≠ .done →
    ∃ k, .timewindowEnded k ∈ v.pending

theorem awaited_of_fresh (h : Fresh i v) : Awaited v := by
  obtain ⟨args, l, hl, hobj, -, -, -⟩ := h
  intro hall _
  have hend := hall 1 v.obj.timeWindowList.inst1 rfl
  have hidle : v.obj.timeWindowList.inst1.status = .idle := by
    rw [hobj]
    exact (window_of_args (k := 1) hl rfl).1
  rw [hidle] at hend
  cases hend

/-- The window opened last is the last of the list: the end of a window is then past the
windows. -/
theorem OpensOnce.past (ho : OpensOnce v) (hm : v.obj.timeWindowList.ModesSupported)
    {info : TransferInfo} (hpriv : v.obj.priv = some info)
    (hnum : info.numberOfTimeWindow = info.lastTimeWindow) :
    PastWindows (v.obj.withPriv info.closed) info.closed := by
  have hcount := ho.number info hpriv
  have hpos := TimeWindowList.instanceCount_pos (l := v.obj.timeWindowList)
  have hlast :
      1 ≤ info.lastTimeWindow ∧ info.lastTimeWindow ≤ v.obj.timeWindowList.instanceCount := by
    omega
  obtain ⟨w, hw⟩ := Option.isSome_iff_exists.mp (TimeWindowList.isSome_find.mpr hlast)
  refine ⟨rfl, ?_, ?_, rfl, hnum⟩
  · exact Nat.ne_of_gt hlast.1
  · have hsup := hm _ w hw
    rw [← hw] at hsup
    exact hsup

/-- The end of a window that is past the windows makes the transfer done. -/
theorem status_timewindowEnded {c : Ctx} {info : TransferInfo} {ret : ℤ}
    (hpriv : c.obj.priv = some info) (hst : c.obj.transferComplete.status ≠ .done)
    (hft : c.obj.fileType ≠ "") (hpast : PastWindows (c.obj.withPriv info.closed) info.closed) :
    (timewindowEnded c ret).obj.transferComplete.status = .done := by
  rcases timewindowEnded_cases c ret with ⟨hnone, -⟩ | ⟨info', hpriv', h⟩
  · rw [hpriv] at hnone
    cases hnone
  · obtain rfl : info = info' := Option.some.inj (hpriv.symm.trans hpriv')
    generalize timewindowEnded c ret = c' at h
    cases h with
    | unchanged hnot => exact absurd hpast (hnot info.closed hst).2
    | start _ hin =>
      -- no window is open now
      have hwithin := hin.within
      rw [← Option.some.inj hin.priv] at hwithin
      cases hwithin
    | gaveUp _ _ =>
      rw [transfersGiveUp, transfersTransferDone_of_ne (by exact hft)]
      rfl

/-- What is left in the queue is what the step has not taken, as far as the windows are
concerned. -/
theorem KeepsWindows.mem_pending (hk : KeepsWindows v a v') {ev : DmEvent}
    (hev : ev.isWindow = true) : ev ∈ v'.pending ↔ ev ∈ a.rest v.pending := by
  have hiff : ∀ l : List DmEvent, ev ∈ l.filter DmEvent.isWindow ↔ ev ∈ l := by
    intro l
    rw [List.mem_filter]
    exact and_iff_left hev
  rw [← hiff, hk.pending, hiff]

/-- The first event is handled, and no other end of a window is queued. -/
theorem Awaited.dispatched (hs : Awaited v) (hp : Prepared v) (ho : OpensOnce v)
    (hft : v.obj.fileType ≠ "") (hm : v.obj.timeWindowList.ModesSupported)
    (hall : v.obj.timeWindowList.AllEnded) (hst : v.obj.transferComplete.status ≠ .done)
    {ev : DmEvent} {ret : ℤ} {rest : List DmEvent} (hpending : v.pending = ev :: rest)
    (hno : ∀ k, .timewindowEnded k ∉ rest) (hd : DecidesByAll v (.dispatch ev ret)) :
    (handleDmEvent ret ev (v.ctx i)).obj.transferComplete.status = .done := by
  obtain ⟨k, hk⟩ := hs hall hst
  rw [hpending] at hk
  obtain rfl : DmEvent.timewindowEnded k = ev := by
    rcases List.mem_cons.mp hk with hk | hk
    · exact hk
    · exact absurd hk (hno k)
  cases hpriv : v.obj.priv with
  | none =>
    -- nothing is queued for a window of a transfer without run-time state
    have hnil := hp.events hpriv
    rw [windowEvents, hpending] at hnil
    cases hnil
  | some info =>
    have htail : ∀ j, .timewindowEnded j ∉ v.pending.tail := by
      rw [hpending]
      exact hno
    have hnum := hd.late k ret info rfl hpriv hst hall htail
    have hpriv' : (v.ctx i).obj.priv = some info := hpriv
    exact status_timewindowEnded hpriv' hst hft (ho.past hm hpriv hnum)

theorem Awaited.step (hs : Awaited v) (hsound : Sound i v) (hp : Prepared v) (ho : OpensOnce v)
    (hl : LeavesWindows v) (hft : v.obj.fileType ≠ "") (hm : v.obj.timeWindowList.ModesSupported)
    (h : Step i v a v') (hd : DecidesByAll v a) : Awaited v' := by
  intro hall hst
  have hwindows := h.windows
  cases hwindows with
  | start _ hw _ => exact absurd hall (TimeWindowList.not_allEnded_of_started hw rfl)
  | @stop k w _ hw _ =>
    by_cases hend : w.status = .ended
    · have hsame : ∀ j, (v.obj.timeWindowList.modify k fun w =>
          w.stopTimerOff.withStatus .ended).statusOf j = v.obj.timeWindowList.statusOf j :=
        TimeWindowList.statusOf_modify_self hw hend fun _ => rfl
      obtain ⟨j, hj⟩ := hs ((TimeWindowList.allEnded_congr hsame).mp hall) hst
      exact ⟨j, List.mem_append_left _ hj⟩
    · refine ⟨k, List.mem_append_right _ ?_⟩
      rw [timewindowStatusEvent, if_neg hend]
      exact List.mem_singleton_self _
  | kept hk =>
    have hold := (TimeWindowList.allEnded_congr hk.windows.status).mp hall
    by_contra hnone
    have hno : ∀ k, .timewindowEnded k ∉ a.rest v.pending := by
      intro k hmem
      exact hnone ⟨k, (hk.mem_pending rfl).mpr hmem⟩
    by_cases hdone : v.obj.transferComplete.status = .done
    · -- only a failure that is tried again makes it undone, and none is tried outside
      rcases hsound.final_or_retry h hdone with ⟨hsame, -⟩ | ⟨-, info, w, ret, rfl, hr, -⟩
      · rw [hsame] at hst
        exact hst hdone
      · have hpend : ∀ k, .timewindowEnded k ∉ v.pending := by
          intro k hmem
          cases h with
          | dispatch hpending =>
            rw [hpending] at hmem hno
            rcases List.mem_cons.mp hmem with hmem | hmem
            · cases hmem
            · exact hno k hmem
        have hout := hl.outside hold hpend hr.priv
        rw [hr.within] at hout
        cases hout
    · obtain ⟨k, hmem⟩ := hs hold hdone
      cases h with
      | dispatch hpending =>
        rw [hpending] at hno
        exact hst (hs.dispatched hp ho hft hm hold hdone hpending hno hd)
      | restart => exact hdone (hd.restart rfl hold)
      | _ => exact hno k hmem

/-! ### The fault of a transfer that was given up -/

/-- The fault is that the windows have ended. -/
def Blames (r : TransferComplete) : Prop :=
  r.faultCode = faultCodeInternalError ∧ r.faultString = "TimeWindow(s) ended"

/-- A fault that is reported is another one. -/
theorem Reported.ne_windows {fc : ℕ} {fs : String} (h : Reported fc fs) :
    ¬(fc = faultCodeInternalError ∧ fs = "TimeWindow(s) ended") := by
  rintro ⟨hfc, hfs⟩
  cases h with
  | download _ =>
    rw [firmwareFaultCode] at hfc
    split at hfc
    · cases hfc
    · cases hfc
  | @check status _ =>
    cases status with
    | none => simp [pendingFault] at hfs
    | some st =>
      rw [pendingFault] at hfs
      split at hfs
      · simp at hfs
      · simp at hfs

/-- The last window of the list is over: it has ended, it cannot start again, and the
transfer is not inside it. -/
structure PastLast (v : View) : Prop where
  ended : ∀ w, v.obj.timeWindowList.find v.obj.timeWindowList.instanceCount = some w →
    w.status = .ended ∧ ¬w.StartPending
  queue : .timewindowStarted v.obj.timeWindowList.instanceCount ∉ v.windowEvents
  outside : ∀ info, v.obj.priv = some info →
    info.lastTimeWindow = v.obj.timeWindowList.instanceCount → info.withinTimeWindow = false

/-- The windows are kept and no event is new. -/
theorem PastLast.of_kept (hk : KeepsWindows v a v') (hevents : v'.windowEvents ⊆ v.windowEvents)
    (hended : ∀ w, v.obj.timeWindowList.find v.obj.timeWindowList.instanceCount = some w →
      w.status = .ended ∧ ¬w.StartPending)
    (hqueue : .timewindowStarted v.obj.timeWindowList.instanceCount ∉ v.windowEvents)
    (hout : ∀ info, v'.obj.priv = some info →
      info.lastTimeWindow = v.obj.timeWindowList.instanceCount → info.withinTimeWindow = false) :
    PastLast v' := by
  have hcount := instanceCount_congr hk.windows.status
  constructor
  · intro w' hw'
    rw [hcount] at hw'
    obtain ⟨w, hw, hkept⟩ := hk.windows.exists_kept hw'
    obtain ⟨hst, hstart⟩ := hended w hw
    refine ⟨hkept.status.trans hst, fun hp => ?_⟩
    rcases hkept.start hp with hp | hidle
    · exact hstart hp
    · rw [hst] at hidle
      cases hidle
  · rw [hcount]
    exact fun hmem => hqueue (hevents hmem)
  · rw [hcount]
    exact hout

/-- A window that is over is not started, and that another starts does not matter. -/
theorem PastLast.step (hs : PastLast v) (hp : Prepared v) (h : Step i v a v') : PastLast v' := by
  cases hp.info h with
  | @start k w hw htimer =>
    have hk : k ≠ v.obj.timeWindowList.instanceCount := by
      rintro rfl
      exact (hs.ended w hw).2 htimer
    refine ⟨fun u hu => ?_, ?_, fun info hinfo hlast => ?_⟩
    · rw [TimeWindowList.instanceCount_modify, TimeWindowList.find_modify_ne hk.symm] at hu
      exact hs.ended u hu
    · rw [windowEvents, windowEvents_append, TimeWindowList.instanceCount_modify]
      intro hmem
      rcases List.mem_append.mp hmem with hmem | hmem
      · exact hs.queue hmem
      · exact hk (mem_statusEvent_started hmem).1.symm
    · rw [TimeWindowList.instanceCount_modify] at hlast
      exact hs.outside info hinfo hlast
  | @stop k w hw _ =>
    refine ⟨fun u hu => ?_, ?_, fun info hinfo hlast => ?_⟩
    · rw [TimeWindowList.instanceCount_modify, TimeWindowList.find_modify] at hu
      split at hu
      · obtain ⟨u₀, hu₀, rfl⟩ := Option.map_eq_some_iff.mp hu
        refine ⟨rfl, fun hpend => (hs.ended u₀ hu₀).2 ?_⟩
        exact TimeWindow.startPending_of_ended hpend
      · exact hs.ended u hu
    · rw [windowEvents, windowEvents_append, TimeWindowList.instanceCount_modify]
      intro hmem
      rcases List.mem_append.mp hmem with hmem | hmem
      · exact hs.queue hmem
      · cases (mem_statusEvent_started hmem).2
    · rw [TimeWindowList.instanceCount_modify] at hlast
      exact hs.outside info hinfo hlast
  | same hk hpriv hevents _ =>
    refine .of_kept hk (hevents ▸ List.Subset.refl _) hs.ended hs.queue fun info hinfo => ?_
    exact hs.outside info (hpriv ▸ hinfo)
  | built hk _ hpriv' hevents =>
    refine .of_kept hk (hevents ▸ List.nil_subset _) hs.ended hs.queue fun info hinfo hlast => ?_
    obtain rfl := Option.some.inj (hpriv'.symm.trans hinfo)
    refine Bool.eq_false_iff.mpr fun hin => ?_
    obtain ⟨w, hw, hst⟩ := Option.map_eq_some_iff.mp (transferInfoOf_within hin)
    rw [hlast] at hw
    rw [(hs.ended w hw).1] at hst
    cases hst
  | @handled ev rest ret info _ hk hpending hpriv hpriv' hevents =>
    have hsub : v'.windowEvents ⊆ v.windowEvents := by
      rw [hevents, windowEvents, hpending]
      exact ((List.sublist_cons_self ev rest).filter _).subset
    refine .of_kept hk hsub hs.ended hs.queue fun info' hinfo' hlast => ?_
    obtain rfl : info.handle ev = info' := Option.some.inj (hpriv'.symm.trans hinfo')
    cases ev with
    | timewindowStarted k =>
      -- the window that was started is another
      have hlast : k = v.obj.timeWindowList.instanceCount := hlast
      subst hlast
      refine absurd ?_ hs.queue
      rw [windowEvents, hpending]
      exact List.mem_cons_self
    | timewindowEnded k => rfl
    | scheduleDownloadAdded => exact hs.outside info hpriv hlast
    | scheduleDownloadTransferFailed => exact hs.outside info hpriv hlast
  | restarted hk hpriv' hevents _ =>
    refine .of_kept hk (hevents ▸ List.nil_subset _) hs.ended hs.queue fun info hinfo => ?_
    rw [hpriv'] at hinfo
    cases hinfo

/-- The transfer is given up once all windows have ended. -/
theorem OpensOnce.pastLast (ho : OpensOnce v) {k : ℕ} {ret : ℤ}
    (h : Step i v (.dispatch (.timewindowEnded k) ret) v')
    (hall : v.obj.timeWindowList.AllEnded) {info : TransferInfo} (hpriv : v.obj.priv = some info)
    (hnum : info.numberOfTimeWindow = info.lastTimeWindow) : PastLast v' := by
  have hlast : info.lastTimeWindow = v.obj.timeWindowList.instanceCount :=
    hnum.symm.trans (ho.number info hpriv)
  have hk := h.keepsWindows nofun nofun
  cases h with
  | @dispatch _ rest _ hpending =>
    refine .of_kept hk ?_ (fun w hw => ⟨hall _ w hw, fun hp => ?_⟩) ?_ fun info' hinfo' _ => ?_
    · rw [windowEvents, hk.pending, windowEvents, hpending]
      exact ((List.sublist_cons_self _ rest).filter _).subset
    · exact (ho.fresh info hpriv _ w hw (Or.inr hp)).1 hlast
    · rw [← hlast]
      exact ho.last info hpriv
    · have hpriv' : (v.ctx i).obj.priv = some info := hpriv
      obtain rfl := Option.some.inj ((priv_handleDmEvent _ ret hpriv').symm.trans hinfo')
      rfl

/-- A transfer that was given up, whatever became of it, is past its last window. -/
def BlamedPast (v : View) : Prop := Blames v.obj.transferComplete → PastLast v

theorem blamedPast_of_fresh (h : Fresh i v) : BlamedPast v := by
  obtain ⟨args, l, -, hobj, -, -, -⟩ := h
  rintro ⟨hfc, -⟩
  rw [hobj] at hfc
  cases hfc

theorem BlamedPast.step (hs : BlamedPast v) (hp : Prepared v) (ho : OpensOnce v)
    (hft : v.obj.fileType ≠ "") (h : Step i v a v') (hd : DecidesByAll v a) : BlamedPast v' := by
  intro hblame
  cases h.effect with
  | quiet hresult _ _ _ =>
    rw [hresult] at hblame
    exact (hs hblame).step hp h
  | running _ _ _ hresult _ _ =>
    rw [hresult] at hblame
    exact (hs hblame).step hp h
  | refused _ _ hresult _ =>
    rw [hresult] at hblame
    exact absurd hblame.2 (by simp [TransferComplete.withResult])
  | failed hfault _ hresult _ _ =>
    rw [hresult] at hblame
    exact absurd hblame hfault.ne_windows
  | done hcause hresult _ _ _ =>
    rw [hresult] at hblame
    cases hcause with
    | @gaveUp k ret ev info hev hst hpriv hpast =>
      subst hev
      have hnum : info.numberOfTimeWindow = info.lastTimeWindow := hpast.number
      exact ho.pastLast h (hd.early k ret info rfl hpriv hst hnum) hpriv hnum
    | exhausted _ _ _ => exact (hs hblame).step hp h
    | success _ _ => cases hblame.1
  | marked hempty _ _ _ _ _ => exact absurd hempty hft

/-- **A transfer is put to Done for its windows only when all have ended**. -/
theorem BlamedPast.gaveUp (hs : BlamedPast v) (ho : OpensOnce v) (h : Step i v a v')
    (hd : DecidesByAll v a) (hst : v.obj.transferComplete.status ≠ .done)
    (hdone : v'.obj.transferComplete.status = .done) (hblame : Blames v'.obj.transferComplete) :
    v.obj.timeWindowList.AllEnded := by
  cases h.effect with
  | quiet hresult _ _ _ =>
    rw [hresult] at hdone
    exact absurd hdone hst
  | running _ _ _ hresult _ _ =>
    rw [hresult] at hdone
    cases hdone
  | refused _ _ hresult _ =>
    rw [hresult] at hdone
    cases hdone
  | failed _ _ hresult _ _ =>
    rw [hresult] at hdone
    cases hdone
  | done hcause hresult _ _ _ =>
    rw [hresult] at hblame
    cases hcause with
    | @gaveUp k ret ev info hev hst hpriv hpast =>
      subst hev
      exact hd.early k ret info rfl hpriv hst hpast.number
    | @exhausted info w ret hr hnum _ =>
      -- the fault was there before, so the transfer is not inside its last window
      have hlast := hnum.symm.trans (ho.number info hr.priv)
      have hout := (hs hblame).outside info hr.priv hlast
      rw [hr.within] at hout
      cases hout
    | success _ _ => cases hblame.1
  | marked _ _ hresult _ _ _ =>
    rw [hresult] at hdone
    exact absurd hdone hst

/-! ### All of it -/

/-- What holds of an instance as long as the condition is met. -/
structure Concludes (i : ℕ) (v : View) : Prop where
  sound : Sound i v
  prepared : Prepared v
  opensOnce : OpensOnce v
  leaves : LeavesWindows v
  awaited : v.obj.fileType ≠ "" → v.obj.timeWindowList.ModesSupported → Awaited v
  blamed : v.obj.fileType ≠ "" → BlamedPast v

theorem concludes_of_fresh (h : Fresh i v) : Concludes i v where
  sound := sound_of_fresh h
  prepared := prepared_of_fresh h
  opensOnce := opensOnce_of_fresh h
  leaves := leavesWindows_of_fresh h
  awaited _ _ := awaited_of_fresh h
  blamed _ := blamedPast_of_fresh h

/-- **The invariant is kept by every step that meets the condition**. -/
theorem Concludes.step (hs : Concludes i v) (h : Step i v a v') (hd : DecidesByAll v a) :
    Concludes i v' := by
  have hft : v'.obj.fileType = v.obj.fileType := congrArg Request.fileType h.request
  have hmodes : v'.obj.timeWindowList.modes = v.obj.timeWindowList.modes :=
    congrArg Request.modes h.request
  refine ⟨hs.sound.step h, hs.prepared.step h, hs.opensOnce.step hs.prepared h,
    hs.leaves.step hs.prepared h, fun hne hm => ?_, fun hne => ?_⟩
  · have hm := hm.of_modes hmodes.symm
    exact (hs.awaited (hft ▸ hne) hm).step hs.sound hs.prepared hs.opensOnce hs.leaves (hft ▸ hne)
      hm h hd
  · exact (hs.blamed (hft ▸ hne)).step hs.prepared hs.opensOnce (hft ▸ hne) h hd

/-- A step that makes the transfer done leaves the windows as they are. -/
theorem allEnded_of_done (h : Step i v a v') (hst : v.obj.transferComplete.status ≠ .done)
    (hdone : v'.obj.transferComplete.status = .done) (hall : v.obj.timeWindowList.AllEnded) :
    v'.obj.timeWindowList.AllEnded := by
  cases h.windows with
  | start _ _ _ => exact absurd hdone hst
  | stop _ _ _ => exact absurd hdone hst
  | kept hk => exact (TimeWindowList.allEnded_congr hk.windows.status).mpr hall

end View

/-! ### Every reachable state -/

namespace Plugin

/-- Whenever the end of a window of instance `i` is handled and the instance is not done,
the window opened last is the last of the list only if all its windows have ended, and,
if they have and no other end is queued for it, it is; and the process does not restart
when all its windows have ended and it is not done. -/
structure DecidesByAll (i : ℕ) (s : Plugin) (e : Event) : Prop where
  early : ∀ ret k rest obj info, e = .dispatch ret → s.queue = (i, .timewindowEnded k) :: rest →
    s.dm i = some obj → obj.priv = some info → obj.transferComplete.status ≠ .done →
    info.numberOfTimeWindow = info.lastTimeWindow → obj.timeWindowList.AllEnded
  late : ∀ ret k rest obj info, e = .dispatch ret → s.queue = (i, .timewindowEnded k) :: rest →
    s.dm i = some obj → obj.priv = some info → obj.transferComplete.status ≠ .done →
    obj.timeWindowList.AllEnded → (∀ j, (i, .timewindowEnded j) ∉ rest) →
    info.numberOfTimeWindow = info.lastTimeWindow
  restart : ∀ reboot obj, e = .restart reboot → s.dm i = some obj → obj.timeWindowList.AllEnded →
    obj.transferComplete.status = .done

variable {s : Plugin} {i : ℕ} {v : View} {e : Event}

theorem decidesByAll_of_view (h : s.DecidesByAll i e) (hv : s.view i = some v) :
    v.DecidesByAll (s.act i e) := by
  obtain ⟨obj, hobj, rfl⟩ := exists_obj_of_view hv
  constructor
  · intro k ret info hact hpriv hst hnum
    obtain ⟨rfl, rest, hqueue⟩ := act_eq_dispatch hact
    exact h.early ret k rest obj info rfl hqueue hobj hpriv hst hnum
  · intro k ret info hact hpriv hst hall hno
    obtain ⟨rfl, rest, hqueue⟩ := act_eq_dispatch hact
    refine h.late ret k rest obj info rfl hqueue hobj hpriv hst hall fun j hmem => hno j ?_
    rw [hqueue, own_cons_self]
    exact mem_own.mpr hmem
  · intro hact hall
    obtain ⟨reboot, rfl⟩ := act_eq hact
    exact h.restart reboot obj rfl hobj hall

theorem concludes_of_reaches (h : Reaches step (DecidesByAll i) init s) (hv : s.view i = some v) :
    v.Concludes i :=
  view_invariant (fun _ => View.concludes_of_fresh)
    (fun _ _ _ _ hd hv hstep hs => hs.step hstep (decidesByAll_of_view hd hv)) h hv

end Plugin

/-- **A transfer is given up when its windows are over**: in every state reached under the
condition, a step that puts the transfer to Done with the fault of its windows finds all
of them ended; and if all of them have ended and nothing is queued for it, the transfer
is done. -/
theorem gives_up_when_over {s : Plugin} {i : ℕ} {obj : ScheduleDownload}
    (hs : Reaches step (Plugin.DecidesByAll i) Plugin.init s) (hobj : s.dm i = some obj)
    (hft : obj.fileType ≠ "") (hmodes : obj.timeWindowList.ModesSupported) :
    (∀ e t obj', s.DecidesByAll i e → step s e = some t → t.dm i = some obj' →
      obj.transferComplete.status ≠ .done → obj'.transferComplete.status = .done →
      obj'.transferComplete.faultCode = faultCodeInternalError →
      obj'.transferComplete.faultString = "TimeWindow(s) ended" →
      obj'.timeWindowList.AllEnded) ∧
    (obj.timeWindowList.AllEnded → (∀ ev, (i, ev) ∉ s.queue) →
      obj.transferComplete.status = .done) := by
  have hv := Plugin.view_of_dm hobj
  have hconcludes := Plugin.concludes_of_reaches hs hv
  constructor
  · intro e t obj' hd he hobj' hst hdone hfc hfs
    have hv' := Plugin.view_of_dm hobj'
    rcases Plugin.view_step (Plugin.wellIndexed_of_reaches hs) (Plugin.stepped_of_step he) hv with
      ⟨-, hnone⟩ | ⟨v', hview, hstep⟩
    · rw [hnone] at hv'
      cases hv'
    · obtain rfl := Option.some.inj (hview.symm.trans hv')
      have hall := (hconcludes.blamed hft).gaveUp hconcludes.opensOnce hstep
        (Plugin.decidesByAll_of_view hd hv) hst hdone ⟨hfc, hfs⟩
      exact View.allEnded_of_done hstep hst hdone hall
  · intro hall hnone
    by_contra hst
    obtain ⟨k, hk⟩ := hconcludes.awaited hft hmodes hall hst
    exact hnone _ (mem_own.mp hk)

/-- The end of a window. -/
def DmEvent.isEnded : DmEvent → Bool
  | .timewindowEnded _ => true
  | _ => false

/-- A test for the condition. -/
def Plugin.decidesByAll (i : ℕ) (s : Plugin) : Event → Bool
  | .dispatch _ =>
    match s.queue, s.dm i with
    | (j, .timewindowEnded _) :: rest, some obj =>
      j ≠ i || obj.transferComplete.status = .done || obj.priv.all fun info =>
        if info.numberOfTimeWindow = info.lastTimeWindow then decide obj.timeWindowList.AllEnded
        else !decide obj.timeWindowList.AllEnded || (own i rest).any DmEvent.isEnded
    | _, _ => true
  | .restart _ => (s.dm i).all fun obj =>
      !decide obj.timeWindowList.AllEnded || obj.transferComplete.status = .done
  | _ => true

theorem Plugin.decidesByAll_sound (i : ℕ) (s : Plugin) (e : Event)
    (h : s.decidesByAll i e = true) : s.DecidesByAll i e := by
  -- what the test says when the end of a window of the instance is handled
  have htest : ∀ {ret k rest obj info}, e = .dispatch ret →
      s.queue = (i, .timewindowEnded k) :: rest → s.dm i = some obj → obj.priv = some info →
      obj.transferComplete.status ≠ .done →
      (if info.numberOfTimeWindow = info.lastTimeWindow then decide obj.timeWindowList.AllEnded
        else !decide obj.timeWindowList.AllEnded || (own i rest).any DmEvent.isEnded) = true := by
    rintro ret k rest obj info rfl hqueue hobj hpriv hst
    simpa [decidesByAll, hqueue, hobj, hpriv, hst] using h
  constructor
  · intro ret k rest obj info he hqueue hobj hpriv hst hnum
    have hall := htest he hqueue hobj hpriv hst
    rw [if_pos hnum] at hall
    exact of_decide_eq_true hall
  · intro ret k rest obj info he hqueue hobj hpriv hst hall hno
    by_contra hnum
    have hany := htest he hqueue hobj hpriv hst
    rw [if_neg hnum, decide_eq_true hall, Bool.not_true, Bool.false_or] at hany
    obtain ⟨ev, hmem, hev⟩ := List.any_eq_true.mp hany
    cases ev with
    | timewindowEnded j => exact hno j (mem_own.mp hmem)
    | _ => cases hev
  · rintro reboot obj rfl hobj hall
    simpa [decidesByAll, hobj, hall] using h

/-- Two windows that overlap, whose events wait until both have ended. -/
def handledLateRun : List Event :=
  [.deferredInit fun _ => none,
    .addScheduleDownload (firmwareArgs [immediately 100 300 0, immediately 200 400 0]),
    .dispatch 0, .startTimer 1 1, .startTimer 1 2, .endTimer 1 1, .endTimer 1 2, .dispatch 0,
    .dispatch 0]

theorem gives_up_when_over_handledLate :
    (∃ s t obj obj', exec step Plugin.init handledLateRun = some s ∧ s.dm 1 = some obj ∧
      step s (.dispatch 0) = some t ∧ t.dm 1 = some obj' ∧
      obj.transferComplete.status ≠ .done ∧ obj'.transferComplete.status = .done ∧
      obj'.timeWindowList.AllEnded) ∧
    ∃ u obj, exec step Plugin.init (handledLateRun ++ [.dispatch 0, .dispatch 0, .dispatch 0]) =
      some u ∧ u.dm 1 = some obj ∧ obj.transferComplete.status = .done := by
  constructor
  · have hrun : (exec step Plugin.init handledLateRun).bind (fun s => (s.dm 1).bind fun obj =>
        (step s (.dispatch 0)).bind fun t => (t.dm 1).map fun obj' =>
          (s.decidesByAll 1 (.dispatch 0), obj.fileType, decide obj.timeWindowList.ModesSupported,
            obj.transferComplete.status, obj'.transferComplete)) =
        some (true, fileType1FirmwareUpgradeImage, true, .failed,
          ⟨.done, "ACS", "1234", "ScheduleDownload", 9002, "TimeWindow(s) ended", 0, 0⟩) := by
      decide +kernel
    obtain ⟨s, hs, h⟩ := Option.bind_eq_some_iff.mp hrun
    obtain ⟨obj, hobj, h⟩ := Option.bind_eq_some_iff.mp h
    obtain ⟨t, ht, h⟩ := Option.bind_eq_some_iff.mp h
    obtain ⟨obj', hobj', h⟩ := Option.map_eq_some_iff.mp h
    simp only [Prod.mk.injEq] at h
    obtain ⟨hcheck, hft, hmodes, hst, hdone⟩ := h
    have hreach : Reaches step (Plugin.DecidesByAll 1) Plugin.init s :=
      reaches_of_exec hs (meets_of_checks (Plugin.decidesByAll_sound 1) (by decide +kernel))
    have hne : obj.fileType ≠ "" := by
      rw [hft]
      decide +kernel
    have hst' : obj.transferComplete.status ≠ .done := by
      rw [hst]
      nofun
    refine ⟨s, t, obj, obj', hs, hobj, ht, hobj', hst', by rw [hdone], ?_⟩
    exact (gives_up_when_over hreach hobj hne (of_decide_eq_true hmodes)).1 _ t obj'
      (Plugin.decidesByAll_sound 1 s _ hcheck) ht hobj' hst' (by rw [hdone]) (by rw [hdone]; rfl)
      (by rw [hdone])
  · have hrun : (exec step Plugin.init
        (handledLateRun ++ [.dispatch 0, .dispatch 0, .dispatch 0])).bind (fun u =>
          (u.dm 1).map fun obj => (obj.fileType, decide obj.timeWindowList.ModesSupported,
            decide obj.timeWindowList.AllEnded, u.queue)) =
        some (fileType1FirmwareUpgradeImage, true, true, []) := by
      decide +kernel
    obtain ⟨u, hu, h⟩ := Option.bind_eq_some_iff.mp hrun
    obtain ⟨obj, hobj, h⟩ := Option.map_eq_some_iff.mp h
    simp only [Prod.mk.injEq] at h
    obtain ⟨hft, hmodes, hall, hqueue⟩ := h
    have hreach : Reaches step (Plugin.DecidesByAll 1) Plugin.init u :=
      reaches_of_exec hu (meets_of_checks (Plugin.decidesByAll_sound 1) (by decide +kernel))
    have hne : obj.fileType ≠ "" := by
      rw [hft]
      decide
    refine ⟨u, obj, hu, hobj, ?_⟩
    refine (gives_up_when_over hreach hobj hne (of_decide_eq_true hmodes)).2
      (of_decide_eq_true hall) fun ev hev => ?_
    rw [hqueue] at hev
    cases hev

/-- Two windows that overlap: the download of the first fails, the second tries again, and
the first ends while that download is running. -/
def endsInsideRun : List Event :=
  [.deferredInit fun _ => none,
    .addScheduleDownload (firmwareArgs [immediately 100 300 0, immediately 200 400 0]),
    .dispatch 0, .startTimer 1 1, .dispatch 0,
    .firmwareimage (some 1) (some "DownloadFailed") (some ""), .dispatch 0, .startTimer 1 2,
    .dispatch 0, .endTimer 1 1]

theorem gives_up_too_early :
    ¬∀ (s : Plugin) (i : ℕ) (obj : ScheduleDownload), Reaches step free Plugin.init s →
      s.dm i = some obj → obj.timeWindowList.ModesSupported →
      (∀ e t obj', step s e = some t → t.dm i = some obj' →
        obj.transferComplete.status ≠ .done → obj'.transferComplete.status = .done →
        obj'.transferComplete.faultCode = faultCodeInternalError →
        obj'.transferComplete.faultString = "TimeWindow(s) ended" →
        obj'.timeWindowList.AllEnded) ∧
      (obj.timeWindowList.AllEnded → (∀ ev, (i, ev) ∉ s.queue) →
        obj.transferComplete.status = .done) := by
  intro hgives
  have hrun : (exec step Plugin.init endsInsideRun).bind (fun s => (s.dm 1).bind fun obj =>
      (step s (.dispatch 0)).bind fun t => (t.dm 1).map fun obj' =>
        (decide obj.timeWindowList.ModesSupported, obj.transferComplete.status,
          decide obj'.timeWindowList.AllEnded, obj'.transferComplete)) =
      some (true, .inProgress, false,
        ⟨.done, "ACS", "1234", "ScheduleDownload", 9002, "TimeWindow(s) ended", 0, 0⟩) := by
    decide +kernel
  obtain ⟨s, hs, h⟩ := Option.bind_eq_some_iff.mp hrun
  obtain ⟨obj, hobj, h⟩ := Option.bind_eq_some_iff.mp h
  obtain ⟨t, ht, h⟩ := Option.bind_eq_some_iff.mp h
  obtain ⟨obj', hobj', h⟩ := Option.map_eq_some_iff.mp h
  simp only [Prod.mk.injEq] at h
  obtain ⟨hmodes, hst, hall, hdone⟩ := h
  have hended := (hgives s 1 obj (reaches_of_exec hs (meets_free _ _)) hobj
    (of_decide_eq_true hmodes)).1 _ t obj' ht hobj' (by rw [hst]; nofun) (by rw [hdone])
    (by rw [hdone]; rfl) (by rw [hdone])
  exact of_decide_eq_false hall hended

end Tr069
