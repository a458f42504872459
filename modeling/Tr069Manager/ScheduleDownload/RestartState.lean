import Tr069Manager.ScheduleDownload.RunTime

/-!
# The run-time state and its reconstruction after a restart

While the plugin runs, `withinTimeWindow` and `lastTimeWindow` follow the queued
events: a start sets them, an end clears the first. After a restart
`transfers_transfer_add_info` computes them from the status of the windows: the last
window in the list that is not Idle decides.

The two agree as long as the windows are used in the order of the list and do not
overlap: a window starts while all that follow it are Idle, and ends while no other is
Started and it or one that follows it is not Idle. Then the events still in the queue
take the run-time state to what a restart would compute
(`Tr069.View.Tracked`), and once they have been handled the two are equal
(`Tr069.live_eq_rebuilt`). An overlap is enough to break this: the end of the first
window closes the second.
-/

namespace Tr069

open Runs Tagged

/-! ### What a restart computes after a callback -/

section Rebuild

variable {l : TimeWindowList} {k : ℕ} {w : TimeWindow} {f : TimeWindow → TimeWindow}

/-- A window starts while those that follow it are Idle. -/
theorem transferInfoOf_started (hw : l.find k = some w) (hst : (f w).status = .started)
    (hlater : ∀ j u, k < j → l.find j = some u → u.status = .idle) :
    transferInfoOf (l.modify k f) = (transferInfoOf l).opened k := by
  obtain ⟨w₁, o⟩ := l
  match k, o with
  | 0, _ => cases hw
  | 1, none =>
    obtain rfl : w₁ = w := Option.some.inj hw
    change transferInfoOf ⟨f w₁, none⟩ = _
    rw [transferInfoOf_one, transferInfoOf_one, hst]
    cases w₁.status <;> rfl
  | 1, some w₂ =>
    obtain rfl : w₁ = w := Option.some.inj hw
    have hidle := hlater 2 w₂ (by decide) rfl
    change transferInfoOf ⟨f w₁, some w₂⟩ = _
    rw [transferInfoOf_two, transferInfoOf_two, hst, hidle]
    cases w₁.status <;> rfl
  | 2, none => cases hw
  | 2, some w₂ =>
    obtain rfl : w₂ = w := Option.some.inj hw
    change transferInfoOf ⟨w₁, some (f w₂)⟩ = _
    rw [transferInfoOf_two, transferInfoOf_two, hst]
    cases w₁.status <;> cases w₂.status <;> rfl
  | _ + 3, _ => cases hw

/-- A window ends that is, or is followed by, the last that is not Idle, and no other is
Started. -/
theorem transferInfoOf_ended (hw : l.find k = some w) (hst : (f w).status = .ended)
    (hother : ∀ j u, j ≠ k → l.find j = some u → u.status ≠ .started)
    (hlast : ∃ j u, k ≤ j ∧ l.find j = some u ∧ u.status ≠ .idle) :
    transferInfoOf (l.modify k f) = (transferInfoOf l).closed := by
  obtain ⟨w₁, o⟩ := l
  obtain ⟨j, u, hj, hu, hne⟩ := hlast
  match k, o with
  | 0, _ => cases hw
  | 1, none =>
    obtain rfl : w₁ = w := Option.some.inj hw
    have hne : w₁.status ≠ .idle := by
      match j with
      | 0 => cases hu
      | 1 =>
        cases hu
        exact hne
      | 2 => cases hu
      | _ + 3 => cases hu
    change transferInfoOf ⟨f w₁, none⟩ = _
    rw [transferInfoOf_one, transferInfoOf_one, hst]
    cases h : w₁.status with
    | idle => exact absurd h hne
    | started => rfl
    | ended => rfl
  | 1, some w₂ =>
    obtain rfl : w₁ = w := Option.some.inj hw
    have hne₂ := hother 2 w₂ (by decide) rfl
    have hne : w₂.status = .idle → w₁.status ≠ .idle := by
      intro hidle
      match j with
      | 0 => cases hu
      | 1 =>
        cases hu
        exact hne
      | 2 =>
        cases hu
        exact absurd hidle hne
      | _ + 3 => cases hu
    change transferInfoOf ⟨f w₁, some w₂⟩ = _
    rw [transferInfoOf_two, transferInfoOf_two, hst]
    cases h₂ : w₂.status with
    | idle =>
      cases h₁ : w₁.status with
      | idle => exact absurd h₁ (hne h₂)
      | started => rfl
      | ended => rfl
    | started => exact absurd h₂ hne₂
    | ended => cases w₁.status <;> rfl
  | 2, none => cases hw
  | 2, some w₂ =>
    obtain rfl : w₂ = w := Option.some.inj hw
    have hne : w₂.status ≠ .idle := by
      match j with
      | 0 => omega
      | 1 => omega
      | 2 =>
        cases hu
        exact hne
      | _ + 3 => cases hu
    change transferInfoOf ⟨w₁, some (f w₂)⟩ = _
    rw [transferInfoOf_two, transferInfoOf_two, hst]
    cases h₂ : w₂.status with
    | idle => exact absurd h₂ hne
    | started => cases w₁.status <;> rfl
    | ended => cases w₁.status <;> rfl
  | _ + 3, _ => cases hw

end Rebuild

/-! ### The invariant -/

namespace View

/-- The run-time state follows the windows: the queued events take it to what a restart
would compute, and that is inside a window exactly when some window is Started. -/
structure Tracked (v : View) : Prop where
  live : ∀ info, v.obj.priv = some info →
    v.windowEvents.foldl TransferInfo.handle info = transferInfoOf v.obj.timeWindowList
  within : (transferInfoOf v.obj.timeWindowList).withinTimeWindow = true ↔
    ∃ k, v.obj.timeWindowList.statusOf k = some .started

/-- The windows are used in the order of the list and do not overlap. -/
structure InSequence (v : View) (a : Act) : Prop where
  start : ∀ k, a = .startTimer k → ∀ j u, k < j → v.obj.timeWindowList.find j = some u →
    u.status = .idle
  other : ∀ k, a = .endTimer k → ∀ j u, j ≠ k → v.obj.timeWindowList.find j = some u →
    u.status ≠ .started
  last : ∀ k, a = .endTimer k → ∃ j u, k ≤ j ∧ v.obj.timeWindowList.find j = some u ∧
    u.status ≠ .idle

variable {i : ℕ} {v v' : View} {a : Act}

theorem tracked_of_fresh (h : Fresh i v) : Tracked v := by
  obtain ⟨args, l, hl, hobj, -, -, -⟩ := h
  have hidle : ∀ k w, v.obj.timeWindowList.find k = some w → w.status = .idle := by
    intro k w hw
    rw [hobj] at hw
    exact (window_of_args hl hw).1
  refine ⟨fun info hinfo => ?_, ?_⟩
  · rw [hobj] at hinfo
    cases hinfo
  · rw [transferInfoOf_idle hidle]
    refine ⟨nofun, ?_⟩
    rintro ⟨k, hk⟩
    obtain ⟨w, hw, hst⟩ := Option.map_eq_some_iff.mp hk
    rw [hidle k w hw] at hst
    cases hst

/-- The windows are kept: it is enough that the queue takes the run-time state to where
it was to be taken. -/
theorem Tracked.of_kept (hs : Tracked v) (hk : KeepsWindows v a v')
    (hlive : ∀ info, v'.obj.priv = some info →
      v'.windowEvents.foldl TransferInfo.handle info = transferInfoOf v.obj.timeWindowList) :
    Tracked v' := by
  have hinfo := transferInfoOf_congr hk.windows.status
  refine ⟨fun info hpriv => (hlive info hpriv).trans hinfo.symm, ?_⟩
  rw [hinfo, hs.within]
  exact exists_congr fun k => by rw [hk.windows.status k]

/-! ### The steps -/

/-- A callback writes a new status: the run-time state is to follow the event. -/
theorem Tracked.of_callback (hs : Tracked v) {k : ℕ} {w : TimeWindow}
    {f : TimeWindow → TimeWindow} (st : TimewindowStatus) (info : TransferInfo → TransferInfo)
    (ev : DmEvent) (hev : ev.isWindow = true) (hhandle : ∀ t : TransferInfo, t.handle ev = info t)
    (hw : v.obj.timeWindowList.find k = some w) (hf : ∀ w, (f w).status = st)
        (hinfo : transferInfoOf (v.obj.timeWindowList.modify k f) =
      info (transferInfoOf v.obj.timeWindowList))
    (hwithin : (info (transferInfoOf v.obj.timeWindowList)).withinTimeWindow = true ↔
      ∃ j, (v.obj.timeWindowList.modify k f).statusOf j = some .started) (calls : List Call) :
    Tracked { v with
      obj := { v.obj with timeWindowList := v.obj.timeWindowList.modify k f }
      pending := v.pending ++ if w.status = st then [] else [ev]
      calls := calls } := by
  refine ⟨fun t ht => ?_, ?_⟩
  · have hold := hs.live t ht
    by_cases hst : w.status = st
    · -- the value is not a new one, and no event is queued
      have hsame := TimeWindowList.statusOf_modify_self hw hst hf
      rw [windowEvents, if_pos hst, List.append_nil]
      exact hold.trans (transferInfoOf_congr hsame).symm
    · rw [windowEvents, if_neg hst, List.filter_append, List.filter_cons, if_pos hev,
        List.foldl_append]
      change TransferInfo.handle (v.windowEvents.foldl TransferInfo.handle t) ev = _
      rw [hold, hhandle]
      exact hinfo.symm
  · rw [hinfo]
    exact hwithin

theorem timewindowStatusEvent_started (k : ℕ) (old : TimewindowStatus) :
    timewindowStatusEvent k old .started = if old = .started then [] else [.timewindowStarted k] :=
  rfl

theorem timewindowStatusEvent_ended (k : ℕ) (old : TimewindowStatus) :
    timewindowStatusEvent k old .ended = if old = .ended then [] else [.timewindowEnded k] :=
  rfl

theorem Tracked.started (hs : Tracked v) {k : ℕ} {w : TimeWindow}
    (hw : v.obj.timeWindowList.find k = some w)
    (hseq : InSequence v (.startTimer k)) (calls : List Call) :
    Tracked { v with
      obj := { v.obj with
        timeWindowList := v.obj.timeWindowList.modify k fun w =>
          w.startTimerOff.withStatus .started }
      pending := v.pending ++ timewindowStatusEvent k w.status .started
      calls := calls } := by
  rw [timewindowStatusEvent_started]
  refine hs.of_callback .started (fun t => t.opened k) (.timewindowStarted k) rfl
    (fun _ => rfl) hw (fun _ => rfl)
    (transferInfoOf_started hw rfl (hseq.start k rfl)) ⟨fun _ => ⟨k, ?_⟩, fun _ => rfl⟩ calls
  rw [TimeWindowList.statusOf, TimeWindowList.find_modify_self, hw]
  rfl

theorem Tracked.ended (hs : Tracked v) {k : ℕ} {w : TimeWindow}
    (hw : v.obj.timeWindowList.find k = some w)
    (hseq : InSequence v (.endTimer k)) (calls : List Call) :
    Tracked { v with
      obj := { v.obj with
        timeWindowList := v.obj.timeWindowList.modify k fun w => w.stopTimerOff.withStatus .ended }
      pending := v.pending ++ timewindowStatusEvent k w.status .ended
      calls := calls } := by
  rw [timewindowStatusEvent_ended]
  refine hs.of_callback .ended TransferInfo.closed (.timewindowEnded k) rfl
    (fun _ => rfl) hw (fun _ => rfl)
    (transferInfoOf_ended hw rfl (hseq.other k rfl) (hseq.last k rfl)) ⟨nofun, ?_⟩ calls
  rintro ⟨j, hj⟩
  rw [TimeWindowList.statusOf_modify .ended fun _ => rfl] at hj
  split at hj
  · obtain ⟨u, -, hu⟩ := Option.map_eq_some_iff.mp hj
    cases hu
  · next hne =>
    obtain ⟨u, hu, hst⟩ := Option.map_eq_some_iff.mp hj
    exact absurd hst (hseq.other k rfl j u hne hu)

/-- **The invariant is kept by every step that uses the windows in sequence**. -/
theorem Tracked.step (hs : Tracked v) (hp : Prepared v) (h : Step i v a v')
    (hseq : InSequence v a) : Tracked v' := by
  cases hp.info h with
  | start hw _ => exact hs.started hw hseq _
  | stop hw _ => exact hs.ended hw hseq _
  | same hk hpriv hevents _ =>
    refine hs.of_kept hk fun info hinfo => ?_
    rw [hevents]
    exact hs.live info (hpriv ▸ hinfo)
  | built hk _ hpriv' hevents =>
    refine hs.of_kept hk fun info hinfo => ?_
    rw [hevents]
    exact Option.some.inj (hinfo.symm.trans hpriv')
  | @handled ev rest ret info _ hk hpending hpriv hpriv' hevents =>
    -- the event moves the run-time state as the queue said it would
    have hold := hs.live info hpriv
    rw [windowEvents, hpending, foldl_handle_filter_cons] at hold
    refine hs.of_kept hk fun info' hinfo => ?_
    obtain rfl : info.handle ev = info' := Option.some.inj (hpriv'.symm.trans hinfo)
    rw [hevents]
    exact hold
  | restarted hk hpriv' _ _ =>
    refine hs.of_kept hk fun info hinfo => ?_
    rw [hpriv'] at hinfo
    cases hinfo

end View

/-! ### Every reachable state -/

namespace Plugin

/-- The windows of instance `i` are used in the order of the list and do not overlap:
one starts while all that follow it are Idle, and ends while no other is Started and it
or one that follows it is not Idle. -/
structure InSequence (i : ℕ) (s : Plugin) (e : Event) : Prop where
  start : ∀ k, e = .startTimer i k → ∀ j u, k < j → s.window i j = some u → u.status = .idle
  other : ∀ k, e = .endTimer i k → ∀ j u, j ≠ k → s.window i j = some u → u.status ≠ .started
  last : ∀ k, e = .endTimer i k → ∃ j u, k ≤ j ∧ s.window i j = some u ∧ u.status ≠ .idle

/-- The run-time state of instance `i`. -/
def liveInfo (s : Plugin) (i : ℕ) : Option TransferInfo := (s.dm i).bind ScheduleDownload.priv

/-- The run-time state `transfers_transfer_add_info` builds for instance `i` if the
plugin restarts now. -/
def rebuiltInfo (s : Plugin) (i : ℕ) : Option TransferInfo :=
  ((s.restart false).dm i).bind fun obj =>
    (transfersTransferAddInfo ((s.restart false).ctx i obj)).obj.priv

variable {s : Plugin} {i : ℕ} {v : View} {e : Event}

theorem inSequence_of_view (h : s.InSequence i e) (hv : s.view i = some v) :
    v.InSequence (s.act i e) := by
  constructor
  · intro k hact j u hj hu
    exact h.start k (act_eq hact) j u hj ((window_of_view hv).trans hu)
  · intro k hact j u hj hu
    exact h.other k (act_eq hact) j u hj ((window_of_view hv).trans hu)
  · intro k hact
    obtain ⟨j, u, hj, hu, hne⟩ := h.last k (act_eq hact)
    exact ⟨j, u, hj, (window_of_view hv).symm.trans hu, hne⟩

theorem tracked_of_reaches (h : Reaches step (InSequence i) init s) (hv : s.view i = some v) :
    v.Tracked := by
  have hboth : v.Prepared ∧ v.Tracked := view_invariant (I := fun v => v.Prepared ∧ v.Tracked)
    (fun _ hnew => ⟨View.prepared_of_fresh hnew, View.tracked_of_fresh hnew⟩)
    (fun _ _ _ _ hseq hv hstep hs =>
      ⟨hs.1.step hstep, hs.2.step hs.1 hstep (inSequence_of_view hseq hv)⟩) h hv
  exact hboth.2

/-- After a restart the windows decide. -/
theorem rebuiltInfo_of_view (hv : s.view i = some v) :
    s.rebuiltInfo i = some (transferInfoOf v.obj.timeWindowList) := by
  obtain ⟨obj, hobj, rfl⟩ := exists_obj_of_view hv
  have hdm : (s.restart false).dm i = some obj.reload := by
    simp [restart, hobj]
  have hkept : obj.timeWindowList.Kept obj.reload.timeWindowList := TimeWindowList.kept_map .reload
  rw [rebuiltInfo, hdm, Option.bind_some, priv_addInfo]
  exact congrArg some (transferInfoOf_congr hkept.status)

end Plugin

/-- **A restart would change nothing**: in every state reached with the windows of the
instance used in sequence, once the events of its windows have been handled the run-time
state is what a restart would build, and is inside a window exactly when some window is
Started. -/
theorem live_eq_rebuilt {s : Plugin} {i : ℕ} {info : TransferInfo}
    (hs : Reaches step (Plugin.InSequence i) Plugin.init s) (hlive : s.liveInfo i = some info)
    (hhandled : ∀ ev, (i, ev) ∈ s.queue → ev.isWindow = false) :
    s.rebuiltInfo i = some info ∧
      (info.withinTimeWindow = true ↔
        ∃ k w, s.window i k = some w ∧ w.status = .started) := by
  obtain ⟨obj, hobj, hpriv⟩ := Option.bind_eq_some_iff.mp hlive
  have hv := Plugin.view_of_dm hobj
  have htracked := Plugin.tracked_of_reaches hs hv
  have hnone : (own i s.queue).filter DmEvent.isWindow = [] :=
    List.filter_eq_nil_iff.mpr fun ev hev => by
      rw [hhandled ev (mem_own.mp hev)]
      nofun
  have hinfo := htracked.live info hpriv
  rw [View.windowEvents, hnone] at hinfo
  have hinfo : info = transferInfoOf obj.timeWindowList := hinfo
  subst hinfo
  refine ⟨Plugin.rebuiltInfo_of_view hv, htracked.within.trans ?_⟩
  refine exists_congr fun k => ?_
  rw [Plugin.window_of_view hv]
  exact Option.map_eq_some_iff

/-- A test for the windows of instance `i` being used in sequence. -/
def Plugin.usesInSequence (i : ℕ) (s : Plugin) : Event → Bool
  | .startTimer j k => decide (j ≠ i ∨
      ∀ m ∈ ([1, 2] : List ℕ), k < m → ((s.window i m).all fun w => w.status = .idle) = true)
  | .endTimer j k => decide (j ≠ i ∨
      (∀ m ∈ ([1, 2] : List ℕ), m ≠ k → ((s.window i m).all fun w => w.status ≠ .started) = true) ∧
      ∃ m ∈ ([1, 2] : List ℕ), k ≤ m ∧ ((s.window i m).any fun w => w.status ≠ .idle) = true)
  | _ => true

/-- A window is the first or the second. -/
theorem Plugin.mem_of_window {s : Plugin} {i k : ℕ} {w : TimeWindow} (h : s.window i k = some w) :
    k ∈ [1, 2] := by
  obtain ⟨obj, -, hw⟩ := Option.bind_eq_some_iff.mp h
  match k with
  | 0 => cases hw
  | 1 => decide
  | 2 => decide
  | _ + 3 => cases hw

theorem Plugin.usesInSequence_sound (i : ℕ) (s : Plugin) (e : Event)
    (h : s.usesInSequence i e = true) : s.InSequence i e := by
  constructor
  · rintro k rfl j u hj hu
    have hall := (of_decide_eq_true h).resolve_left (by simp) j (mem_of_window hu) hj
    rw [hu] at hall
    exact of_decide_eq_true hall
  · rintro k rfl j u hj hu
    have hall := ((of_decide_eq_true h).resolve_left (by simp)).1 j (mem_of_window hu) hj
    rw [hu] at hall
    exact of_decide_eq_true hall
  · rintro k rfl
    obtain ⟨j, -, hj, hany⟩ := ((of_decide_eq_true h).resolve_left (by simp)).2
    obtain ⟨u, hu, hne⟩ := (Option.any_eq_true _ _).mp hany
    exact ⟨j, u, hj, hu, of_decide_eq_true hne⟩

/-- Two windows, one after the other. -/
def inSequenceRun : List Event :=
  [.deferredInit fun _ => none,
    .addScheduleDownload (firmwareArgs [immediately 100 200 0, immediately 300 400 0]),
    .dispatch 0, .startTimer 1 1, .endTimer 1 1, .dispatch 0, .dispatch 0, .startTimer 1 2,
    .dispatch 0, .dispatch 0]

theorem live_eq_rebuilt_inSequence :
    ∃ s info, exec step Plugin.init inSequenceRun = some s ∧ s.liveInfo 1 = some info ∧
      info.withinTimeWindow = true ∧ s.rebuiltInfo 1 = some info ∧
      ∃ k w, s.window 1 k = some w ∧ w.status = .started := by
  have hrun : (exec step Plugin.init inSequenceRun).bind (fun s =>
      (s.liveInfo 1).map fun info => (info.withinTimeWindow, s.queue)) = some (true, []) := by
    decide
  obtain ⟨s, hs, h⟩ := Option.bind_eq_some_iff.mp hrun
  obtain ⟨info, hinfo, h⟩ := Option.map_eq_some_iff.mp h
  obtain ⟨hwithin, hqueue⟩ := Prod.mk.inj h
  have hreach : Reaches step (Plugin.InSequence 1) Plugin.init s :=
    reaches_of_exec hs (meets_of_checks (Plugin.usesInSequence_sound 1) (by decide))
  have heq := live_eq_rebuilt hreach hinfo fun ev hev => by
    rw [hqueue] at hev
    cases hev
  exact ⟨s, info, hs, hinfo, hwithin, heq.1, heq.2.mp hwithin⟩

/-- Two windows that overlap: the second starts before the first ends. -/
def overlapRun : List Event :=
  [.deferredInit fun _ => none,
    .addScheduleDownload (firmwareArgs [immediately 100 300 0, immediately 200 400 0]),
    .dispatch 0, .startTimer 1 1, .dispatch 0, .startTimer 1 2, .dispatch 0, .endTimer 1 1,
    .dispatch 0, .dispatch 0]

theorem live_not_rebuilt :
    ¬∀ (s : Plugin) (i : ℕ) (info : TransferInfo), Reaches step free Plugin.init s →
      s.liveInfo i = some info → (∀ ev, (i, ev) ∈ s.queue → ev.isWindow = false) →
      s.rebuiltInfo i = some info ∧
        (info.withinTimeWindow = true ↔
          ∃ k w, s.window i k = some w ∧ w.status = .started) := by
  intro hequal
  have hrun : (exec step Plugin.init overlapRun).bind (fun s =>
      (s.liveInfo 1).bind fun info => (s.rebuiltInfo 1).map fun info' =>
        (info.withinTimeWindow, info'.withinTimeWindow, s.queue)) = some (false, true, []) := by
    decide
  obtain ⟨s, hs, h⟩ := Option.bind_eq_some_iff.mp hrun
  obtain ⟨info, hinfo, h⟩ := Option.bind_eq_some_iff.mp h
  obtain ⟨info', hinfo', h⟩ := Option.map_eq_some_iff.mp h
  obtain ⟨hwithin, hrest⟩ := Prod.mk.inj h
  obtain ⟨hwithin', hqueue⟩ := Prod.mk.inj hrest
  have heq := (hequal s 1 info (reaches_of_exec hs (meets_free _ _)) hinfo fun ev hev => by
    rw [hqueue] at hev
    cases hev).1
  rw [hinfo'] at heq
  cases heq
  rw [hwithin] at hwithin'
  cases hwithin'

end Tr069
