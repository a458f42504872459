import Tr069Manager.ScheduleDownload.Effects

/-!
# Results: what they mean and whether they last

A transfer that is `Done` has given its result, and the result goes to the ACS. Two
questions are settled here for every reachable state.

* Does a result last? `_timewindow_started` and `_timewindow_ended` look at the
  status before they act. `_schedule_download_transfer_failed` does not: a failure
  that was queued before the end of the transfer and is handled after it starts the
  transfer again, if some window is taken for open and has a retry left. Without
  such a step a result is final (`Tr069.result_final`).
* Is a reported success real? A transfer becomes `Done` with fault 0 in the check
  after a restart only, and only if the active firmware image is Active
  (`Tr069.success_is_real`).

Both rest on one invariant, `Tr069.View.Sound`.
-/

namespace Tr069

open Runs

/-! ### The invariant -/

namespace View

/-- What holds of an instance in every reachable state: the holder of the lock is a
firmware transfer that is not done; until the deferred initialisation has run, the
instance does not hold the lock and nothing is queued for it but that it was added;
and a failure, reported or about to be handled, has a fault. -/
structure Sound (i : ℕ) (v : View) : Prop where
  lock : v.lock = some i →
    v.obj.fileType = fileType1FirmwareUpgradeImage ∧ v.obj.transferComplete.status ≠ .done
  bootLock : v.booting = true → v.lock ≠ some i
  bootPending : v.booting = true → ∀ ev ∈ v.pending, ev = .scheduleDownloadAdded
  fault : v.obj.transferComplete.status = .failed ∨ .scheduleDownloadTransferFailed ∈ v.pending →
    v.obj.transferComplete.faultCode ≠ 0

variable {i : ℕ} {v v' : View} {a : Act}

theorem sound_of_fresh (h : Fresh i v) : Sound i v := by
  obtain ⟨args, l, -, hobj, hlock, hpending, -⟩ := h
  refine ⟨fun hl => absurd hl hlock, fun _ => hlock, fun _ ev hev => ?_, fun hf => ?_⟩
  · rw [hpending] at hev
    exact List.mem_singleton.mp hev
  · rw [hobj, hpending] at hf
    rcases hf with hf | hf
    · cases hf
    · cases List.mem_singleton.mp hf

/-- Until the deferred initialisation has run, no attempt is made. -/
theorem Sound.not_booting_of_start (hs : Sound i v) (h : Step i v a v') (hc : StartCause v a) :
    v.booting = false := by
  refine Bool.eq_false_iff.mpr fun hboot => ?_
  cases hc with
  | window _ _ _ =>
    cases h with
    | dispatch hpending =>
      cases hs.bootPending hboot _ (hpending ▸ List.mem_cons_self)
  | retry _ _ =>
    cases h with
    | dispatch hpending =>
      cases hs.bootPending hboot _ (hpending ▸ List.mem_cons_self)

/-- The flag of the deferred initialisation, step by step: only a restart sets
it. -/
theorem Step.booting (h : Step i v a v') (hboot : v'.booting = true) :
    v.booting = true ∨ v'.lock = none ∧ v'.pending = [] := by
  cases h with
  | deferredInit _ _ _ => cases hboot
  | restart => exact Or.inr ⟨rfl, rfl⟩
  | _ => exact Or.inl hboot

theorem Sound.bootPending_step (hs : Sound i v) (h : Step i v a v') (hboot : v'.booting = true) :
    ∀ ev ∈ v'.pending, ev = .scheduleDownloadAdded := by
  cases h with
  | other _ => exact hs.bootPending hboot
  | startTimer hnot _ _ =>
    rw [show v.booting = true from hboot] at hnot
    cases hnot
  | endTimer hnot _ _ =>
    rw [show v.booting = true from hboot] at hnot
    cases hnot
  | elapse _ => exact hs.bootPending hboot
  | save _ => exact hs.bootPending hboot
  | @dispatch ev rest ret hpending =>
    have hboot : v.booting = true := hboot
    have hev := hs.bootPending hboot ev (hpending ▸ List.mem_cons_self)
    subst hev
    have hnew : (handleDmEvent ret .scheduleDownloadAdded (v.ctx i)).emitted = [] := by
      simp only [handleDmEvent, scheduleDownloadAdded, transfersTimewindowStart,
        transfersTransferAddInfo]
      split <;> rfl
    intro ev' hev'
    rw [commit, hnew, List.append_nil] at hev'
    exact hs.bootPending hboot ev' (hpending ▸ List.mem_cons_of_mem _ hev')
  | failure hlock => exact absurd hlock (hs.bootLock hboot)
  | deferredInit _ _ _ => cases hboot
  | restart => exact fun ev hev => absurd hev List.not_mem_nil

theorem Sound.bootLock_step (hs : Sound i v) (h : Step i v a v') (hboot : v'.booting = true) :
    v'.lock ≠ some i := by
  intro hl
  rcases h.booting hboot with hv | ⟨hnone, -⟩
  · have hno := hs.bootLock hv
    cases h.effect with
    | quiet _ hlock _ _ => exact hno (hlock hl)
    | running hcause _ _ _ _ _ =>
      rw [hs.not_booting_of_start h hcause] at hv
      cases hv
    | refused _ _ _ hlock => exact hno (hlock ▸ hl)
    | failed _ _ _ hlock _ => exact hno (hlock hl).1
    | done _ _ hlock _ _ => exact hno (hlock hl).1
    | marked _ _ _ hlock _ _ => exact hno (hlock ▸ hl)
  · rw [hnone] at hl
    cases hl

theorem Sound.lock_step (hs : Sound i v) (h : Step i v a v') (hl : v'.lock = some i) :
    v'.obj.fileType = fileType1FirmwareUpgradeImage ∧ v'.obj.transferComplete.status ≠ .done := by
  have hft : v'.obj.fileType = v.obj.fileType := congrArg Request.fileType h.request
  rw [hft]
  cases h.effect with
  | quiet hresult hlock _ _ =>
    rw [hresult]
    exact hs.lock (hlock hl)
  | running _ hfirm _ hresult _ _ =>
    rw [hresult]
    exact ⟨hfirm, by simp⟩
  | refused _ hfirm hresult _ =>
    rw [hresult]
    exact ⟨hfirm, by simp [TransferComplete.withResult]⟩
  | failed _ _ hresult hlock _ =>
    rw [hresult]
    exact ⟨(hs.lock (hlock hl).1).1, by simp [TransferComplete.withResult]⟩
  | done _ _ hlock _ _ =>
    have hmine := hlock hl
    exact absurd (hs.lock hmine.1).1 hmine.2
  | marked _ hst hresult hlock _ _ =>
    rw [hresult]
    exact ⟨(hs.lock (hlock ▸ hl)).1, hst⟩

theorem Sound.fault_step (hs : Sound i v) (h : Step i v a v')
    (hf : v'.obj.transferComplete.status = .failed ∨
      .scheduleDownloadTransferFailed ∈ v'.pending) :
    v'.obj.transferComplete.faultCode ≠ 0 := by
  cases h.effect with
  | quiet hresult _ hpending _ =>
    rw [hresult] at hf ⊢
    exact hs.fault (hf.imp_right hpending)
  | running _ _ _ hresult _ hpending =>
    rw [hresult] at hf ⊢
    rcases hf with hf | hf
    · cases hf
    · exact hs.fault (Or.inr (hpending hf))
  | refused _ _ hresult _ =>
    rw [hresult]
    exact Nat.succ_ne_zero 9001
  | failed hfault _ hresult _ _ =>
    rw [hresult]
    exact hfault.ne_zero
  | done hcause hresult _ hpending _ =>
    rw [hresult] at hf ⊢
    have hq : .scheduleDownloadTransferFailed ∈ v.pending := by
      rcases hf with hf | hf
      · cases hf
      · exact hpending hf
    cases hcause with
    | gaveUp _ _ _ _ => exact Nat.succ_ne_zero 9001
    | exhausted _ _ _ => exact hs.fault (Or.inr hq)
    | success hboot _ => cases hs.bootPending hboot _ hq
  | marked _ _ hresult _ _ _ =>
    rw [hresult]
    exact Nat.succ_ne_zero 9001

/-- **The invariant is kept by every step**. -/
theorem Sound.step (hs : Sound i v) (h : Step i v a v') : Sound i v' :=
  ⟨hs.lock_step h, hs.bootLock_step h, hs.bootPending_step h, hs.fault_step h⟩

end View

theorem Plugin.sound_of_reaches {G : Plugin → Event → Prop} {s : Plugin} {i : ℕ} {v : View}
    (h : Reaches step G Plugin.init s) (hv : s.view i = some v) : v.Sound i :=
  Plugin.view_invariant (fun _ => View.sound_of_fresh) (fun _ _ _ _ _ _ hstep hs => hs.step hstep)
    h hv

/-! ### A result is final -/

namespace Plugin

/-- The `Download` calls made for instance `i`. -/
def downloadCalls (s : Plugin) (i : ℕ) : List Call := (Tagged.own i s.calls).filter Call.isDownload

/-- The next event of the queue is a failure of instance `i`, the instance is done, and
the window the plugin takes to be open has a retry left. -/
def RetriesDone (s : Plugin) (i : ℕ) (e : Event) : Prop :=
  ∃ ret rest obj info w, e = .dispatch ret ∧
    s.queue = (i, .scheduleDownloadTransferFailed) :: rest ∧ s.dm i = some obj ∧
    obj.transferComplete.status = .done ∧ RetryWindow obj info w ∧ ¬w.maxRetries ≤ 0

/-- What can happen while the result of instance `i` is to last. -/
def KeepsResult (i : ℕ) (s : Plugin) (e : Event) : Prop := e ≠ .delInst i ∧ ¬s.RetriesDone i e

end Plugin

/-- A done transfer stays as it is, unless a failure is tried again; then it is no longer
done. -/
theorem View.Sound.final_or_retry {i : ℕ} {v v' : View} {a : Act} (hs : v.Sound i)
    (h : Step i v a v') (hdone : v.obj.transferComplete.status = .done) :
    v'.obj.transferComplete = v.obj.transferComplete ∧ v'.downloadCalls = v.downloadCalls ∨
      v'.obj.transferComplete.status ≠ .done ∧ ∃ info w ret,
        a = .dispatch .scheduleDownloadTransferFailed ret ∧ RetryWindow v.obj info w ∧
        ¬w.maxRetries ≤ 0 := by
  have hretry : StartCause v a → ∃ info w ret,
      a = .dispatch .scheduleDownloadTransferFailed ret ∧ RetryWindow v.obj info w ∧
      ¬w.maxRetries ≤ 0 := by
    intro hc
    cases hc with
    | window _ hst _ => exact absurd hdone hst
    | retry hr hmr => exact ⟨_, _, _, rfl, hr, hmr⟩
  cases h.effect with
  | quiet hresult _ _ hcalls => exact Or.inl ⟨hresult, hcalls⟩
  | running hcause _ _ hresult _ _ =>
    refine Or.inr ⟨?_, hretry hcause⟩
    rw [hresult]
    nofun
  | refused hcause _ hresult _ =>
    refine Or.inr ⟨?_, hretry hcause⟩
    rw [hresult]
    nofun
  | failed _ hst _ _ _ =>
    rcases hst with hl | hst
    · exact absurd hdone (hs.lock hl).2
    · rw [hdone] at hst
      cases hst
  | done hcause hresult _ _ hcalls =>
    refine Or.inl ⟨?_, hcalls⟩
    cases hcause with
    | gaveUp _ hst _ _ => exact absurd hdone hst
    | exhausted _ _ _ =>
      rw [hresult, ← hdone]
      rfl
    | success _ hst =>
      rw [hdone] at hst
      cases hst
  | marked _ hst _ _ _ _ => exact absurd hdone hst

theorem Plugin.downloadCalls_of_view {s : Plugin} {i : ℕ} {v : View} (h : s.view i = some v) :
    s.downloadCalls i = v.downloadCalls := by
  obtain ⟨obj, -, rfl⟩ := exists_obj_of_view h
  rfl

/-- One step with a done transfer. -/
theorem Plugin.final_step {s t : Plugin} {i : ℕ} {e : Event} {r : TransferComplete}
    (hs : Reaches step free Plugin.init s) (hr : s.result i = some r) (hdone : r.status = .done)
    (hkeep : KeepsResult i s e) (h : step s e = some t) :
    t.result i = some r ∧ t.downloadCalls i = s.downloadCalls i := by
  obtain ⟨v, hv, rfl⟩ := exists_view_of_result hr
  rcases view_step (wellIndexed_of_reaches hs) (stepped_of_step h) hv with
    ⟨hdel, -⟩ | ⟨v', hv', hstep⟩
  · exact absurd hdel hkeep.1
  · rcases (sound_of_reaches hs hv).final_or_retry hstep hdone with
      ⟨hresult, hcalls⟩ | ⟨-, info, w, ret, hact, hw, hmr⟩
    · rw [result_of_view hv', downloadCalls_of_view hv', downloadCalls_of_view hv, hresult]
      exact ⟨rfl, hcalls⟩
    · obtain ⟨rfl, rest, hqueue⟩ := act_eq_dispatch hact
      obtain ⟨obj, hobj, rfl⟩ := exists_obj_of_view hv
      exact absurd ⟨ret, rest, obj, info, w, rfl, hqueue, hobj, hdone, hw, hmr⟩ hkeep.2

/-- **A result is final**: from any reachable state in which a transfer is done, whatever
happens next – short of the transfer being deleted, or tried again by a failure
handled late – its result stays as it is and no `Download` is made for it. -/
theorem result_final {s t : Plugin} {i : ℕ} {r : TransferComplete}
    (hs : Reaches step free Plugin.init s) (hr : s.result i = some r) (hdone : r.status = .done)
    (hrun : Reaches step (Plugin.KeepsResult i) s t) :
    t.result i = some r ∧ t.downloadCalls i = s.downloadCalls i := by
  refine Reaches.invariant_reached (I := fun t => t.result i = some r ∧
    t.downloadCalls i = s.downloadCalls i) hs (fun a e b ha hI hkeep he => ?_) hrun ⟨hr, rfl⟩
  obtain ⟨hresult, hcalls⟩ := Plugin.final_step ha hI.1 hdone hkeep he
  exact ⟨hresult, hcalls.trans hI.2⟩

/-- A transfer whose only window opens and closes. -/
def gaveUpRun : List Event :=
  [.deferredInit fun _ => none, .addScheduleDownload (firmwareArgs [immediately 100 200 0]),
    .dispatch 0, .startTimer 1 1, .dispatch 0, .endTimer 1 1, .dispatch 0]

/-- The process is stopped and started again. -/
def stopAndStart : List Event :=
  [.appStop, .restart false, .deferredInit fun _ => some "Active"]

theorem result_final_gaveUp :
    ∃ s t r, exec step Plugin.init gaveUpRun = some s ∧ s.result 1 = some r ∧
      r.status = .done ∧ exec step s stopAndStart = some t ∧
      t.result 1 = some r ∧ t.downloadCalls 1 = s.downloadCalls 1 := by
  have hrun : (exec step Plugin.init gaveUpRun).bind (fun s =>
      (exec step s stopAndStart).bind fun _ => s.result 1) =
      some ⟨.done, "ACS", "1234", "ScheduleDownload", 9002, "TimeWindow(s) ended", 0, 0⟩ := by
    decide
  obtain ⟨s, hs, h⟩ := Option.bind_eq_some_iff.mp hrun
  obtain ⟨t, ht, hr⟩ := Option.bind_eq_some_iff.mp h
  have hkeep : Meets step (Plugin.KeepsResult 1) s stopAndStart := by
    refine ⟨⟨nofun, ?_⟩, fun _ _ => ⟨⟨nofun, ?_⟩, fun _ _ => ⟨⟨nofun, ?_⟩, fun _ _ => trivial⟩⟩⟩
    all_goals
      rintro ⟨_, _, _, _, _, hdispatch, -⟩
      cases hdispatch
  exact ⟨s, t, _, hs, hr, rfl, ht,
    result_final (reaches_of_exec hs (meets_free _ _)) hr rfl (reaches_of_exec ht hkeep)⟩

/-- Two windows of which the second is opened and closed first. Its end and the start of
the other wait in the queue when the download fails: the end makes the transfer
done, the start opens a window with a retry, and the failure is still to come. -/
def lateFailureRun : List Event :=
  [.deferredInit fun _ => none,
    .addScheduleDownload (firmwareArgs [immediately 200 300 1, immediately 100 200 0]),
    .dispatch 0, .startTimer 1 2, .dispatch 0, .endTimer 1 2, .startTimer 1 1,
    .firmwareimage (some 1) (some "DownloadFailed") (some ""), .dispatch 0]

theorem result_not_final :
    ¬∀ (s t : Plugin) (i : ℕ) (r : TransferComplete), Reaches step free Plugin.init s →
      s.result i = some r → r.status = .done → Reaches step (fun _ e => e ≠ .delInst i) s t →
      t.result i = some r ∧ t.downloadCalls i = s.downloadCalls i := by
  intro hfinal
  have hrun : (exec step Plugin.init lateFailureRun).bind (fun s =>
      (exec step s [.dispatch 0, .dispatch 0]).bind fun t =>
        some (s.result 1, (t.result 1).map TransferComplete.status)) =
      some (some ⟨.done, "ACS", "1234", "ScheduleDownload", 9002, "TimeWindow(s) ended", 0, 0⟩,
        some .inProgress) := by
    decide
  obtain ⟨s, hs, h⟩ := Option.bind_eq_some_iff.mp hrun
  obtain ⟨t, ht, h⟩ := Option.bind_eq_some_iff.mp h
  obtain ⟨hr, hprogress⟩ := Prod.mk.inj (Option.some.inj h)
  have hmeets : Meets step (fun _ e => e ≠ .delInst 1) s [.dispatch 0, .dispatch 0] :=
    ⟨nofun, fun _ _ => ⟨nofun, fun _ _ => trivial⟩⟩
  have hlast := (hfinal s t 1 _ (reaches_of_exec hs (meets_free _ _)) hr rfl
    (reaches_of_exec ht hmeets)).1
  rw [hlast] at hprogress
  cases hprogress

/-! ### A reported success is a real one -/

/-- How a transfer becomes done: with fault 0 it is the check after a restart that
found the active image Active, and otherwise it has a fault. -/
theorem View.Sound.done_step {i : ℕ} {v v' : View} {a : Act} (hs : v.Sound i) (h : Step i v a v')
    (hst : v.obj.transferComplete.status ≠ .done)
    (hdone : v'.obj.transferComplete.status = .done) :
    (v'.obj.transferComplete.faultCode = 0 ↔ a = .deferredInit (some "Active")) := by
  cases h.effect with
  | quiet hresult _ _ _ =>
    rw [hresult] at hdone
    exact absurd hdone hst
  | running _ _ _ hresult _ _ =>
    rw [hresult] at hdone
    cases hdone
  | refused _ _ hresult _ =>
    rw [hresult] at hdone
    cases hdone
  | failed _ _ hresult _ _ =>
    rw [hresult] at hdone
    cases hdone
  | done hcause hresult _ _ _ =>
    rw [hresult]
    cases hcause with
    | gaveUp _ _ _ _ => exact ⟨fun hz => absurd hz (Nat.succ_ne_zero 9001), nofun⟩
    | exhausted _ _ hpending => exact ⟨fun hz => absurd hz (hs.fault (Or.inr hpending)), nofun⟩
    | success _ _ => exact ⟨fun _ => rfl, fun _ => rfl⟩
  | marked _ _ hresult _ _ _ =>
    rw [hresult] at hdone
    exact absurd hdone hst

namespace Plugin

/-- Instance `i` is done with fault 0. -/
def Succeeded (i : ℕ) (s : Plugin) : Prop :=
  ∃ r, s.result i = some r ∧ r.status = .done ∧ r.faultCode = 0

/-- The step from `s` to `t` makes instance `i` done. -/
def BecomesDone (s : Plugin) (i : ℕ) (t : Plugin) (r : TransferComplete) : Prop :=
  (∃ q, s.result i = some q ∧ q.status ≠ .done) ∧ t.result i = some r ∧ r.status = .done

/-- The event is the check after a restart, and it finds the active image of instance
`i` Active. -/
def FindsActive (i : ℕ) (e : Event) : Prop :=
  ∃ status, e = .deferredInit status ∧ status i = some "Active"

variable {s t : Plugin} {i : ℕ} {e : Event}

theorem becomesDone_faultCode {r : TransferComplete} (hs : Reaches step free init s)
    (h : step s e = some t) (hdone : s.BecomesDone i t r) :
    r.faultCode = 0 ↔ FindsActive i e := by
  obtain ⟨⟨q, hq, hqst⟩, hr, hrst⟩ := hdone
  obtain ⟨v, hv, rfl⟩ := exists_view_of_result hq
  have hact : s.act i e = .deferredInit (some "Active") ↔ FindsActive i e := by
    constructor
    · exact act_eq
    · rintro ⟨status, rfl, hstatus⟩
      exact congrArg View.Act.deferredInit hstatus
  rcases view_step (wellIndexed_of_reaches hs) (stepped_of_step h) hv with
    ⟨-, hnone⟩ | ⟨v', hv', hstep⟩
  · rw [result_eq_view, hnone] at hr
    cases hr
  · rw [result_of_view hv'] at hr
    cases hr
    exact ((sound_of_reaches hs hv).done_step hstep hqst hrst).trans hact

/-- A step that makes a transfer succeed makes it done. -/
theorem becomesDone_of_succeeded (hs : Reaches step free init s) (h : step s e = some t)
    (hnot : ¬Succeeded i s) (hsucc : Succeeded i t) :
    ∃ r, s.BecomesDone i t r ∧ r.faultCode = 0 := by
  obtain ⟨r, hr, hrst, hrfc⟩ := hsucc
  obtain ⟨v', hv', rfl⟩ := exists_view_of_result hr
  have hwell := wellIndexed_of_reaches hs
  have hst := stepped_of_step h
  cases hv : s.view i with
  | none =>
    -- a new instance is Idle
    obtain ⟨args, l, -, hobj, -⟩ := view_fresh hwell hst hv hv'
    rw [hobj] at hrst
    cases hrst
  | some v =>
    rcases view_step hwell hst hv with ⟨-, hnone⟩ | ⟨u, hu, hstep⟩
    · rw [hnone] at hv'
      cases hv'
    · rw [hu] at hv'
      cases hv'
      refine ⟨_, ⟨⟨_, result_of_view hv, fun hdone => hnot ?_⟩, result_of_view hu, hrst⟩, hrfc⟩
      rcases (sound_of_reaches hs hv).final_or_retry hstep hdone with ⟨hsame, -⟩ | ⟨hnew, -⟩
      · exact ⟨_, result_of_view hv, hdone, hsame ▸ hrfc⟩
      · exact absurd hrst hnew

end Plugin

/-- **A reported success is a real one**, in every reachable state:

* the step that makes a transfer done leaves it with fault 0 exactly when it is the
  check after a restart and finds the active firmware image Active;
* a transfer that has failed has a fault;
* a transfer that is done with fault 0 was made so by such a check, and has been so
  ever since. -/
theorem success_is_real {s : Plugin} (i : ℕ) (hs : Reaches step free Plugin.init s) :
    (∀ e t r, step s e = some t → s.BecomesDone i t r →
      (r.faultCode = 0 ↔ Plugin.FindsActive i e)) ∧
    (∀ r, s.result i = some r → r.status = .failed → r.faultCode ≠ 0) ∧
    (Plugin.Succeeded i s → ∃ u e v r, Reaches step free Plugin.init u ∧
      step u e = some v ∧ Plugin.FindsActive i e ∧ u.BecomesDone i v r ∧ r.faultCode = 0 ∧
      Relation.ReflTransGen (fun a b => Steps step free a b ∧ Plugin.Succeeded i b) v s) := by
  refine ⟨fun e t r h hdone => Plugin.becomesDone_faultCode hs h hdone, fun r hr hst => ?_,
    fun hsucc => ?_⟩
  · obtain ⟨v, hv, rfl⟩ := Plugin.exists_view_of_result hr
    exact (Plugin.sound_of_reaches hs hv).fault (Or.inl hst)
  · have hinit : ¬Plugin.Succeeded i Plugin.init := by
      rintro ⟨r, hr, -⟩
      cases hr
    obtain ⟨u, e, v, hu, hnot, -, he, hv, hrest⟩ := hs.origin hinit hsucc
    obtain ⟨r, hdone, hrfc⟩ := Plugin.becomesDone_of_succeeded hu he hnot hv
    exact ⟨u, e, v, r, hu, he, (Plugin.becomesDone_faultCode hu he hdone).mp hrfc, hdone, hrfc,
      hrest⟩

/-- A download that succeeds: the device restarts and the new image is active. -/
def succeededRun : List Event :=
  [.deferredInit fun _ => none, .addScheduleDownload (firmwareArgs [immediately 100 200 0]),
    .dispatch 0, .startTimer 1 1, .dispatch 0, .firmwareimage (some 1) (some "Validating") none,
    .restart true, .deferredInit fun _ => some "Active"]

theorem success_is_real_succeeded :
    ∃ s u e v r, exec step Plugin.init succeededRun = some s ∧ Plugin.Succeeded 1 s ∧
      step u e = some v ∧ Plugin.FindsActive 1 e ∧ u.BecomesDone 1 v r ∧ r.faultCode = 0 := by
  have hrun : (exec step Plugin.init succeededRun).bind (fun s => s.result 1) =
      some ⟨.done, "ACS", "1234", "ScheduleDownload", 0, "", 0, 0⟩ := by
    decide
  obtain ⟨s, hs, hr⟩ := Option.bind_eq_some_iff.mp hrun
  have hsucc : Plugin.Succeeded 1 s := ⟨_, hr, rfl, rfl⟩
  obtain ⟨u, e, v, r, -, he, hactive, hdone, hrfc, -⟩ :=
    (success_is_real 1 (reaches_of_exec hs (meets_free _ _))).2.2 hsucc
  exact ⟨s, u, e, v, r, hs, hsucc, he, hactive, hdone, hrfc⟩

end Tr069
