import Tr069Manager.ScheduleDownload.Windows

/-!
# The life of a time window

A window is meant to go from Idle to Started to Ended. The callbacks of its two
timers do not look at the status they overwrite, so it is the order of the timers
alone that makes it so. Both are armed with what the data model has stored, in
milliseconds modulo 2³²: a window that starts after it ends – or ends so late that
the product wraps – is Ended first and Started later, and after a restart it is
ended once more.

As long as no window ends while it is Idle, every window goes forward, one status at a
time, and is started and ended at most once over the life of its transfer, restarts
included (`Tr069.windows_go_forward`).
-/

namespace Tr069

open Runs Tagged

/-! ### The status of a window -/

/-- From `old` to `new` in one step: the status stays, or is the next. -/
def TimewindowStatus.Next (old new : TimewindowStatus) : Prop :=
  new = old ∨ old = .idle ∧ new = .started ∨ old = .started ∧ new = .ended

namespace View

/-! ### The invariant -/

/-- The windows of an instance are where their timers and callbacks say: the start
timer runs in an Idle window only and the end timer in none that has ended; a
callback has run at most once, and not at all as long as the status is still to
come. -/
structure InOrder (v : View) : Prop where
  start : ∀ k w, v.obj.timeWindowList.find k = some w → w.StartPending → w.status = .idle
  stop : ∀ k w, v.obj.timeWindowList.find k = some w → w.EndPending → w.status ≠ .ended
  startedOnce : ∀ k, v.calls.count (.startTimerCb k) ≤ 1
  endedOnce : ∀ k, v.calls.count (.endTimerCb k) ≤ 1
  notStarted : ∀ k, v.obj.timeWindowList.statusOf k = some .idle →
    v.calls.count (.startTimerCb k) = 0
  notEnded : ∀ k st, v.obj.timeWindowList.statusOf k = some st → st ≠ .ended →
    v.calls.count (.endTimerCb k) = 0

variable {i : ℕ} {v v' : View} {a : Act}

theorem inOrder_of_fresh (h : Fresh i v) : InOrder v := by
  obtain ⟨args, l, hl, hobj, -, -, hcalls⟩ := h
  have hwindow :
      ∀ k w, v.obj.timeWindowList.find k = some w → w.status = .idle ∧ w.priv = none := by
    intro k w hw
    rw [hobj] at hw
    exact window_of_args hl hw
  refine ⟨fun k w hw _ => (hwindow k w hw).1, fun k w hw _ => ?_, fun k => ?_, fun k => ?_,
    fun k _ => ?_, fun k st _ _ => ?_⟩
  · rw [(hwindow k w hw).1]
    nofun
  all_goals
    rw [hcalls]
    simp

/-- The counts of the callbacks depend on the callbacks. -/
theorem count_eq_of_filter {l l' : List Call}
    (h : l'.filter Call.isTimerCb = l.filter Call.isTimerCb)
    {call : Call} (hcall : call.isTimerCb = true) : l'.count call = l.count call := by
  rw [← List.count_filter hcall, h, List.count_filter hcall]

theorem InOrder.kept (hs : InOrder v) (h : KeepsWindows v a v') : InOrder v' := by
  have hstart : ∀ k, v'.calls.count (.startTimerCb k) = v.calls.count (.startTimerCb k) := fun k =>
    count_eq_of_filter h.calls rfl
  have hstop : ∀ k, v'.calls.count (.endTimerCb k) = v.calls.count (.endTimerCb k) := fun k =>
    count_eq_of_filter h.calls rfl
  constructor
  · intro k w' hw' hp
    obtain ⟨w, hw, hkept⟩ := h.windows.exists_kept hw'
    rw [hkept.status]
    rcases hkept.start hp with hp | hst
    · exact hs.start k w hw hp
    · exact hst
  · intro k w' hw' hp
    obtain ⟨w, hw, hkept⟩ := h.windows.exists_kept hw'
    rw [hkept.status]
    rcases hkept.stop hp with hp | hst
    · exact hs.stop k w hw hp
    · exact hst
  · exact fun k => hstart k ▸ hs.startedOnce k
  · exact fun k => hstop k ▸ hs.endedOnce k
  · intro k hst
    rw [hstart]
    exact hs.notStarted k (h.windows.status k ▸ hst)
  · intro k st hst hne
    rw [hstop]
    exact hs.notEnded k st (h.windows.status k ▸ hst) hne

/-- The start timer of a window fires: the window was Idle. -/
theorem InOrder.started (hs : InOrder v) {k : ℕ} {w : TimeWindow}
    (hw : v.obj.timeWindowList.find k = some w) (htimer : w.StartPending) (pending : List DmEvent) :
    InOrder { v with
      obj := { v.obj with
        timeWindowList := v.obj.timeWindowList.modify k fun w =>
          w.startTimerOff.withStatus .started }
      pending := pending
      calls := v.calls ++ [.startTimerCb k] } := by
  have hidle := hs.start k w hw htimer
  have hnone : v.calls.count (.startTimerCb k) = 0 := hs.notStarted k (by
    rw [TimeWindowList.statusOf, hw, Option.map_some, hidle])
  have hend : ∀ j, (v.calls ++ [Call.startTimerCb k]).count (.endTimerCb j) =
      v.calls.count (.endTimerCb j) := fun j => by simp
  have hother : ∀ j, j ≠ k → (v.calls ++ [Call.startTimerCb k]).count (.startTimerCb j) =
      v.calls.count (.startTimerCb j) := fun j hj => by
    simp [Ne.symm hj]
  constructor
  · intro j u hu hp
    rw [TimeWindowList.find_modify] at hu
    split at hu
    · next hj =>
      subst hj
      rw [hw] at hu
      cases hu
      exact absurd hp TimeWindow.not_startPending_started
    · exact hs.start j u hu hp
  · intro j u hu hp
    rw [TimeWindowList.find_modify] at hu
    split at hu
    · next hj =>
      subst hj
      rw [hw] at hu
      cases hu
      exact TimewindowStatus.noConfusion
    · exact hs.stop j u hu hp
  · intro j
    by_cases hj : j = k
    · subst hj
      simp [hnone]
    · exact (hother j hj).symm ▸ hs.startedOnce j
  · exact fun j => (hend j).symm ▸ hs.endedOnce j
  · intro j hst
    rw [TimeWindowList.statusOf, TimeWindowList.find_modify] at hst
    split at hst
    · next hj =>
      subst hj
      rw [hw] at hst
      cases hst
    · next hj =>
      rw [hother j hj]
      exact hs.notStarted j hst
  · intro j st hst hne
    rw [hend]
    rw [TimeWindowList.statusOf, TimeWindowList.find_modify] at hst
    split at hst
    · next hj =>
      subst hj
      refine hs.notEnded j .idle ?_ TimewindowStatus.noConfusion
      rw [TimeWindowList.statusOf, hw, Option.map_some, hidle]
    · exact hs.notEnded j st hst hne

/-- The end timer of a window fires that is not Idle: the window was Started. -/
theorem InOrder.ended (hs : InOrder v) {k : ℕ} {w : TimeWindow}
    (hw : v.obj.timeWindowList.find k = some w) (htimer : w.EndPending)
    (hidle : w.status ≠ .idle) (pending : List DmEvent) :
    InOrder { v with
      obj := { v.obj with
        timeWindowList := v.obj.timeWindowList.modify k fun w => w.stopTimerOff.withStatus .ended }
      pending := pending
      calls := v.calls ++ [.endTimerCb k] } := by
  have hnone : v.calls.count (.endTimerCb k) = 0 := hs.notEnded k w.status (by
    rw [TimeWindowList.statusOf, hw, Option.map_some]) (hs.stop k w hw htimer)
  have hstart : ∀ j, (v.calls ++ [Call.endTimerCb k]).count (.startTimerCb j) =
      v.calls.count (.startTimerCb j) := fun j => by simp
  have hother : ∀ j, j ≠ k → (v.calls ++ [Call.endTimerCb k]).count (.endTimerCb j) =
      v.calls.count (.endTimerCb j) := fun j hj => by
    simp [Ne.symm hj]
  constructor
  · intro j u hu hp
    rw [TimeWindowList.find_modify] at hu
    split at hu
    · next hj =>
      subst hj
      rw [hw] at hu
      cases hu
      exact absurd (hs.start j w hw (TimeWindow.startPending_of_ended hp)) hidle
    · exact hs.start j u hu hp
  · intro j u hu hp
    rw [TimeWindowList.find_modify] at hu
    split at hu
    · next hj =>
      subst hj
      rw [hw] at hu
      cases hu
      exact absurd hp TimeWindow.not_endPending_ended
    · exact hs.stop j u hu hp
  · exact fun j => (hstart j).symm ▸ hs.startedOnce j
  · intro j
    by_cases hj : j = k
    · subst hj
      simp [hnone]
    · exact (hother j hj).symm ▸ hs.endedOnce j
  · intro j hst
    rw [hstart]
    rw [TimeWindowList.statusOf, TimeWindowList.find_modify] at hst
    split at hst
    · next hj =>
      subst hj
      rw [hw] at hst
      cases hst
    · exact hs.notStarted j hst
  · intro j st hst hne
    rw [TimeWindowList.statusOf, TimeWindowList.find_modify] at hst
    split at hst
    · next hj =>
      subst hj
      rw [hw] at hst
      cases hst
      exact absurd rfl hne
    · next hj =>
      rw [hother j hj]
      exact hs.notEnded j st hst hne

/-- The end timer of an Idle window fires. -/
def EndsIdle (v : View) (a : Act) : Prop :=
  ∃ k w, a = .endTimer k ∧ v.obj.timeWindowList.find k = some w ∧ w.status = .idle

/-- **The invariant is kept by every step in which no Idle window ends**. -/
theorem InOrder.step (hs : InOrder v) (h : Step i v a v') (hno : ¬EndsIdle v a) : InOrder v' := by
  cases h.windows with
  | start _ hw htimer => exact hs.started hw htimer _
  | stop _ hw htimer => exact hs.ended hw htimer (fun hst => hno ⟨_, _, rfl, hw, hst⟩) _
  | kept hkept => exact hs.kept hkept

/-- **A window goes forward**, one status at a time. -/
theorem InOrder.next (hs : InOrder v) (h : Step i v a v') (hno : ¬EndsIdle v a) {k : ℕ}
    {w w' : TimeWindow} (hw : v.obj.timeWindowList.find k = some w)
    (hw' : v'.obj.timeWindowList.find k = some w') : w.status.Next w'.status := by
  cases h.windows with
  | @start j u _ hu htimer =>
    rw [TimeWindowList.find_modify] at hw'
    split at hw'
    · next hj =>
      subst hj
      rw [hw] at hu hw'
      cases hu
      cases hw'
      exact Or.inr (Or.inl ⟨hs.start _ _ hw htimer, rfl⟩)
    · rw [hw] at hw'
      cases hw'
      exact Or.inl rfl
  | @stop j u _ hu htimer =>
    rw [TimeWindowList.find_modify] at hw'
    split at hw'
    · next hj =>
      subst hj
      rw [hw] at hu hw'
      cases hu
      cases hw'
      refine Or.inr (Or.inr ⟨?_, rfl⟩)
      have hne := hs.stop _ _ hw htimer
      cases hst : w.status with
      | idle => exact absurd ⟨_, w, rfl, hw, hst⟩ hno
      | started => rfl
      | ended => exact absurd hst hne
    · rw [hw] at hw'
      cases hw'
      exact Or.inl rfl
  | kept hkept => exact Or.inl (hkept.windows.window k w w' hw hw').status

end View

/-! ### Every reachable state -/

namespace Plugin

/-- The end timer of a window fires that is still Idle: its start timer has not fired
yet. -/
def EndsIdle (s : Plugin) (e : Event) : Prop :=
  ∃ i k w, e = .endTimer i k ∧ s.window i k = some w ∧ w.status = .idle

variable {s t : Plugin} {i k : ℕ} {v : View} {e : Event}

theorem endsIdle_of_view (hv : s.view i = some v) (h : v.EndsIdle (s.act i e)) : s.EndsIdle e := by
  obtain ⟨k, w, hact, hw, hst⟩ := h
  exact ⟨i, k, w, act_eq hact, (window_of_view hv).trans hw, hst⟩

theorem inOrder_of_reaches (h : Reaches step (fun s e => ¬s.EndsIdle e) init s)
    (hv : s.view i = some v) : v.InOrder :=
  view_invariant (fun _ => View.inOrder_of_fresh)
    (fun _ _ _ _ hno hv hstep hs => hs.step hstep fun h => hno (endsIdle_of_view hv h)) h hv

end Plugin

/-- **Windows go forward**: in every state reached without an Idle window ending, each
step takes the status of each window to the same or to the next one, and each window
has been started at most once and ended at most once. -/
theorem windows_go_forward {s : Plugin} (i k : ℕ)
    (hs : Reaches step (fun s e => ¬s.EndsIdle e) Plugin.init s) :
    (∀ e t w w', ¬s.EndsIdle e → step s e = some t → s.window i k = some w →
      t.window i k = some w' → w.status.Next w'.status) ∧
    (own i s.calls).count (.startTimerCb k) ≤ 1 ∧ (own i s.calls).count (.endTimerCb k) ≤ 1 := by
  have hstep : ∀ (s : Plugin) (e : Event) (v v' : View), ¬s.EndsIdle e → s.view i = some v →
      View.Step i v (s.act i e) v' → v.InOrder → v'.InOrder := fun s e v v' hno hv hstep hs =>
    hs.step hstep fun h => hno (Plugin.endsIdle_of_view hv h)
  refine ⟨fun e t w w' hno he hw hw' => ?_, ?_, ?_⟩
  · obtain ⟨v, hv, hfind⟩ := Plugin.exists_view_of_window hw
    rcases Plugin.view_step (Plugin.wellIndexed_of_reaches hs) (Plugin.stepped_of_step he) hv with
      ⟨-, hnone⟩ | ⟨v', hv', hview⟩
    · obtain ⟨v', hv', -⟩ := Plugin.exists_view_of_window hw'
      rw [hnone] at hv'
      cases hv'
    · rw [Plugin.window_of_view hv'] at hw'
      exact (Plugin.inOrder_of_reaches hs hv).next hview
        (fun h => hno (Plugin.endsIdle_of_view hv h)) hfind hw'
  · exact Plugin.calls_invariant (C := fun l => l.count (.startTimerCb k) ≤ 1)
      (fun _ => View.inOrder_of_fresh) hstep (fun v hv => hv.startedOnce k) (by simp) hs
  · exact Plugin.calls_invariant (C := fun l => l.count (.endTimerCb k) ≤ 1)
      (fun _ => View.inOrder_of_fresh) hstep (fun v hv => hv.endedOnce k) (by simp) hs

/-- A test for windows that end only after they have started. -/
def Plugin.endsStarted (s : Plugin) : Event → Bool
  | .endTimer i k => (s.window i k).all fun w => w.status ≠ .idle
  | _ => true

theorem Plugin.endsStarted_sound (s : Plugin) (e : Event) (h : s.endsStarted e = true) :
    ¬s.EndsIdle e := by
  rintro ⟨i, k, w, rfl, hw, hst⟩
  rw [endsStarted, hw, Option.all_some, decide_eq_true_eq] at h
  exact h hst

/-- One window that starts, is saved, and ends after a restart. -/
def restartedRun : List Event :=
  [.deferredInit fun _ => none, .addScheduleDownload (firmwareArgs [immediately 100 200 0]),
    .dispatch 0, .startTimer 1 1, .appStop, .restart true, .deferredInit fun _ => none]

theorem windows_go_forward_restarted :
    ∃ s t w w', exec step Plugin.init restartedRun = some s ∧
      step s (.endTimer 1 1) = some t ∧ s.window 1 1 = some w ∧ t.window 1 1 = some w' ∧
      w.status.Next w'.status ∧ (own 1 t.calls).count (.endTimerCb 1) ≤ 1 := by
  have hrun : (exec step Plugin.init restartedRun).bind (fun s =>
      (step s (.endTimer 1 1)).bind fun t => (s.window 1 1).bind fun w =>
        (t.window 1 1).bind fun w' => some (w.status, w'.status)) = some (.started, .ended) := by
    decide
  obtain ⟨s, hs, h⟩ := Option.bind_eq_some_iff.mp hrun
  obtain ⟨t, ht, h⟩ := Option.bind_eq_some_iff.mp h
  obtain ⟨w, hw, h⟩ := Option.bind_eq_some_iff.mp h
  obtain ⟨w', hw', h⟩ := Option.bind_eq_some_iff.mp h
  have hst : w.status = .started := congrArg Prod.fst (Option.some.inj h)
  have hno : ¬s.EndsIdle (.endTimer 1 1) := by
    rintro ⟨i, k, u, he, hu, hidle⟩
    cases he
    rw [hw] at hu
    cases hu
    rw [hst] at hidle
    cases hidle
  have hreach : Reaches step (fun s e => ¬s.EndsIdle e) Plugin.init s :=
    reaches_of_exec hs (meets_of_checks Plugin.endsStarted_sound (by decide))
  have hnext := (windows_go_forward 1 1 hreach).1 _ t w w' hno ht hw hw'
  have honce := (windows_go_forward 1 1 (hreach.tail ⟨_, hno, ht⟩)).2.2
  exact ⟨s, t, w, w', hs, ht, hw, hw', hnext, honce⟩

/-- A window that is to start after it ends. -/
def endsFirstRun : List Event :=
  [.deferredInit fun _ => none, .addScheduleDownload (firmwareArgs [immediately 200 100 0]),
    .dispatch 0, .endTimer 1 1]

theorem windows_go_back :
    ¬∀ (s : Plugin) (i k : ℕ), Reaches step free Plugin.init s →
      (∀ e t w w', step s e = some t → s.window i k = some w →
        t.window i k = some w' → w.status.Next w'.status) ∧
      (own i s.calls).count (.startTimerCb k) ≤ 1 ∧ (own i s.calls).count (.endTimerCb k) ≤ 1 := by
  intro hforward
  have hrun : (exec step Plugin.init endsFirstRun).bind (fun s =>
      (step s (.startTimer 1 1)).bind fun t => (s.window 1 1).bind fun w =>
        (t.window 1 1).bind fun w' => some (w.status, w'.status)) = some (.ended, .started) := by
    decide
  obtain ⟨s, hs, h⟩ := Option.bind_eq_some_iff.mp hrun
  obtain ⟨t, ht, h⟩ := Option.bind_eq_some_iff.mp h
  obtain ⟨w, hw, h⟩ := Option.bind_eq_some_iff.mp h
  obtain ⟨w', hw', h⟩ := Option.bind_eq_some_iff.mp h
  obtain ⟨hst, hst'⟩ := Prod.mk.inj (Option.some.inj h)
  have hnext := (hforward s 1 1 (reaches_of_exec hs (meets_free _ _))).1 _ t w w' ht hw hw'
  rw [hst, hst'] at hnext
  rcases hnext with h | ⟨h, -⟩ | ⟨h, -⟩
  · cases h
  · cases h
  · cases h

end Tr069
