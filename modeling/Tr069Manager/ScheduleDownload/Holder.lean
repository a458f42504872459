import Tr069Manager.ScheduleDownload.Lock

/-!
# The holder of the lock and its download

As long as the process is up, the transfer that holds the lock has a `Download` running on
the device (`Tr069.Plugin.holder_downloads`): the lock is only ever taken with a call that
is accepted, and a failure of the firmware image, which ends a download, also gives the
lock back. Nothing is said of the downloads whose transfer no longer holds it.

A notification writes the result of the holder and of no other transfer
(`Tr069.Plugin.result_notification`).
-/

namespace Tr069

open Runs

/-! ### Taking the lock -/

/-- The end `c'` of a handler that found the lock as `lock`: it has been taken for a
download only. -/
def Ctx.Takes (lock : Option ℕ) (c' : Ctx) : Prop :=
  ∀ i, c'.transferInProgress = some i → lock = some i ∨ c'.index = i ∧ .download 0 ∈ c'.calls

/-- The end of a transfer may give the lock back, and no more. -/
theorem lock_of_transferDone {c : Ctx} {i : ℕ}
    (hl : (transfersTransferDone c).transferInProgress = some i) :
    c.transferInProgress = some i := by
  by_cases hft : c.obj.fileType = ""
  · rw [transfersTransferDone_of_empty hft] at hl
    exact hl
  · rw [transfersTransferDone_of_ne hft] at hl
    exact c.released_eq hl

namespace Ctx.Takes

variable {c c' : Ctx} {i : ℕ}

theorem start (h : StartOutcome c c') : Takes c.transferInProgress c' := by
  intro i hl
  cases h with
  | unsupported _ => exact Or.inl hl
  | running _ _ => exact Or.inr ⟨Option.some.inj hl, by simp⟩
  | failed _ _ => exact Or.inl hl

theorem handle {ret : ℤ} (h : HandleOutcome c ret c') : Takes c.transferInProgress c' := by
  intro i hl
  cases h with
  | unchanged _ => exact Or.inl hl
  | start _ _ => exact start (transfersStartTransfer_outcome c ret) i hl
  | gaveUp _ _ =>
    have h := lock_of_transferDone hl
    exact Or.inl h

theorem failed {ret : ℤ} (h : FailedOutcome c ret c') : Takes c.transferInProgress c' := by
  intro i hl
  cases h with
  | ignored _ => exact Or.inl hl
  | exhausted _ _ _ => exact Or.inl (lock_of_transferDone hl)
  | @retried info w _ _ =>
    have h := start (transfersStartTransfer_outcome
      (transfersTimewindowSetMaxretries c info.lastTimeWindow (w.maxRetries - 1)) ret) i hl
    exact h

theorem handleDmEvent (ret : ℤ) (ev : DmEvent) (c : Ctx) :
    Takes c.transferInProgress (handleDmEvent ret ev c) := by
  intro i hl
  cases ev with
  | scheduleDownloadAdded => exact Or.inl ((View.quiet_added c).lock.symm.trans hl)
  | timewindowStarted k =>
    rcases timewindowStarted_cases c k ret with ⟨-, h⟩ | ⟨info, -, h⟩
    · exact Or.inl ((congrArg Ctx.transferInProgress h).symm.trans hl)
    · have h := handle h i hl
      exact h
  | timewindowEnded k =>
    rcases timewindowEnded_cases c ret with ⟨-, h⟩ | ⟨info, -, h⟩
    · exact Or.inl ((congrArg Ctx.transferInProgress h).symm.trans hl)
    · have h := handle h i hl
      exact h
  | scheduleDownloadTransferFailed =>
    exact failed (scheduleDownloadTransferFailed_outcome c ret) i hl

end Ctx.Takes

/-- The check after a restart never takes the lock. -/
theorem lock_of_deferredInit {c : Ctx} {status : Option String} {i : ℕ}
    (hl : (deferredInit status c).transferInProgress = some i) :
    c.transferInProgress = some i := by
  rw [← (View.quiet_addInfo c).lock]
  change
    (transfersHandleInProgressTransfer (transfersTransferAddInfo c) status).transferInProgress =
      some i at hl
  rcases transfersHandleInProgressTransfer_cases (transfersTransferAddInfo c) status with
    h | ⟨-, -, h⟩
  · rw [h] at hl
    exact hl
  · generalize transfersHandleInProgressTransfer (transfersTransferAddInfo c) status = c' at h hl
    cases h with
    | ignored _ => exact hl
    | failed _ _ => exact hl
    | done _ _ =>
      have h := lock_of_transferDone hl
      exact h

namespace Plugin

variable {s t : Plugin} {e : Event} {i : ℕ}

theorem transferInProgress_onObject {f : Ctx → Ctx} {j : ℕ}
    (hf : ∀ c : Ctx, (f c).transferInProgress = some i → c.transferInProgress = some i)
    (hl : (s.onObject j f).transferInProgress = some i) : s.transferInProgress = some i := by
  rw [onObject] at hl
  split at hl
  · exact hl
  · have h := hf _ hl
    exact h

theorem transferInProgress_forEachInstance {f : ℕ → Ctx → Ctx}
    (hf : ∀ (j : ℕ) (c : Ctx), (f j c).transferInProgress = some i → c.transferInProgress = some i)
    (hl : (s.forEachInstance f).transferInProgress = some i) : s.transferInProgress = some i := by
  rw [forEachInstance] at hl
  generalize s.indices = l at hl
  induction l generalizing s with
  | nil => exact hl
  | cons j l ih => exact transferInProgress_onObject (hf j) (ih hl)

theorem transferInProgress_transfersSave (hl : s.transfersSave.transferInProgress = some i) :
    s.transferInProgress = some i :=
  transferInProgress_forEachInstance (f := fun _ => transfersTimewindowSave) (fun _ _ h => h) hl

/-- A failure gives the lock back. -/
theorem transferInProgress_failure {obj : ScheduleDownload} {j : ℕ} (hobj : s.dm j = some obj)
    (log : String) : (s.onObject j (firmwareimageFailure log)).transferInProgress = none := by
  rw [onObject, hobj]
  rfl

/-- A step that finds or leaves the lock with an instance has found it there, or starts a
download for it. -/
theorem lock_step (h : s.Stepped e t) (hl : t.transferInProgress = some i) :
    s.transferInProgress = some i ∨ i ∈ t.downloads := by
  cases h with
  | restart _ => cases hl
  | added _ _ => exact Or.inl hl
  | deleted _ _ => exact Or.inl hl
  | startTimer _ _ _ _ _ =>
    exact Or.inl
      (transferInProgress_onObject (fun c h => (View.quiet_startTimerCb c _).lock ▸ h) hl)
  | endTimer _ _ _ _ _ =>
    exact Or.inl (transferInProgress_onObject (fun c h => (View.quiet_endTimerCb c _).lock ▸ h) hl)
  | elapsed _ _ => exact Or.inl hl
  | @dispatched ret j obj ev rest _ _ hobj =>
    have hobj' : (s.dequeued rest).dm j = some obj := hobj
    have hidx := (Ctx.Own.handleDmEvent ret ev ((s.dequeued rest).ctx j obj)).index
    have htakes := Ctx.Takes.handleDmEvent ret ev ((s.dequeued rest).ctx j obj) i
    rw [downloads_onObject hobj' hidx]
    rw [onObject, hobj'] at hl
    rcases htakes hl with h | ⟨hji, hcall⟩
    · exact Or.inl h
    · right
      refine List.mem_append_right _ (List.mem_map.mpr ⟨.download 0, ?_, hidx.symm.trans hji⟩)
      exact List.mem_filter.mpr ⟨hcall, decide_eq_true rfl⟩
  | stale _ _ _ => exact Or.inl hl
  | @failure cause status log _ j obj _ _ _ _ _ hobj =>
    have hobj' : (s.withDownloads (s.downloadsLeft cause status)).dm j = some obj := hobj
    rw [transferInProgress_failure hobj'] at hl
    cases hl
  | dangling _ _ _ _ _ _ => exact Or.inl hl
  | validating _ _ _ _ =>
    have h := transferInProgress_transfersSave hl
    exact Or.inl h
  | unheard _ _ _ => exact Or.inl hl
  | deferredInit _ _ status =>
    have h := transferInProgress_forEachInstance (s := { s with deferredInitTimer := false })
      (fun _ _ h => lock_of_deferredInit h) hl
    exact Or.inl h
  | appStop _ => exact Or.inl (transferInProgress_transfersSave hl)

/-! ### The download of the holder -/

theorem downloadsLeft_of_not_failed {cause : Option ℕ} {status : Option String}
    (h : status.any firmwareFailed = false) : s.downloadsLeft cause status = s.downloads := by
  unfold downloadsLeft
  split
  · next st =>
    have hst : firmwareFailed st = false := h
    rw [if_neg (by rw [hst]; exact Bool.false_ne_true)]
  · rfl

/-- A step that leaves the lock with an instance, in a process that is up, does not end its
download. -/
theorem mem_downloads_step (h : s.Stepped e t) (hup : t.alive = true)
    (hl : t.transferInProgress = some i) (hi : i ∈ s.downloads) : i ∈ t.downloads := by
  cases h with
  | restart _ => cases hl
  | added _ _ => exact hi
  | deleted _ _ => exact hi
  | startTimer _ _ _ _ _ =>
    rw [downloads_onObject_silent fun c => accepted_startTimerCb _ c]
    exact hi
  | endTimer _ _ _ _ _ =>
    rw [downloads_onObject_silent fun c => accepted_endTimerCb _ c]
    exact hi
  | elapsed _ _ => exact hi
  | @dispatched ret j obj ev rest _ _ hobj =>
    have hobj' : (s.dequeued rest).dm j = some obj := hobj
    rw [downloads_onObject hobj' (Ctx.Own.handleDmEvent ret ev _).index]
    exact List.mem_append_left _ hi
  | stale _ _ _ => exact hi
  | @failure cause status log _ j obj _ _ _ _ _ hobj =>
    have hobj' : (s.withDownloads (s.downloadsLeft cause status)).dm j = some obj := hobj
    rw [transferInProgress_failure hobj'] at hl
    cases hl
  | dangling _ _ _ _ _ _ => cases hup
  | @validating cause status _ _ _ _ hstatus _ =>
    rw [downloads_transfersSave]
    change i ∈ s.downloadsLeft cause status
    rw [downloadsLeft_of_not_failed (by rw [hstatus]; decide)]
    exact hi
  | @unheard cause status _ _ _ hnot =>
    change i ∈ s.downloadsLeft cause status
    rcases hnot with hnone | hnot
    · have hl : s.transferInProgress = some i := hl
      rw [hnone] at hl
      cases hl
    · rw [downloadsLeft_of_not_failed]
      · exact hi
      · cases status with
        | none => rfl
        | some st => exact (hnot st rfl).1
  | deferredInit _ _ status =>
    have hsame := downloads_forEachInstance (s := { s with deferredInitTimer := false })
      (f := fun j => Tr069.deferredInit (status j))
      fun j c => congrArg accepted (calls_deferredInit (status j) c)
    exact hsame ▸ hi
  | appStop _ =>
    rw [downloads_transfersSave]
    exact hi

/-- The holder of the lock has a download running. -/
def HolderDownloads (s : Plugin) : Prop :=
  s.alive = true → ∀ i, s.transferInProgress = some i → i ∈ s.downloads

/-- A step of a process that is down is a restart. -/
theorem alive_of_stepped (h : s.Stepped e t) : s.alive = true ∨ ∃ reboot, e = .restart reboot := by
  cases h with
  | restart reboot => exact Or.inr ⟨reboot, rfl⟩
  | _ => exact Or.inl ‹_›

theorem holderDownloads_step (h : s.Stepped e t) (hs : s.HolderDownloads) :
    t.HolderDownloads := by
  intro hup i hl
  rcases lock_step h hl with hold | hnew
  · rcases alive_of_stepped h with hup' | ⟨reboot, rfl⟩
    · exact mem_downloads_step h hup hl (hs hup' i hold)
    · cases h
      cases hl
  · exact hnew

/-! ### What a notification writes -/

theorem dm_commit (c : Ctx) : (s.commit c).dm = Function.update s.dm c.index (some c.obj) := rfl

theorem result_onObject {f : Ctx → Ctx} {j : ℕ}
    (hf : ∀ c : Ctx, (f c).index = c.index ∧
      (f c).obj.transferComplete = c.obj.transferComplete) :
    (s.onObject j f).result i = s.result i := by
  rw [onObject]
  split
  · rfl
  · next obj hobj =>
    obtain ⟨hidx, hres⟩ := hf (s.ctx j obj)
    have hidx : (f (s.ctx j obj)).index = j := hidx
    rw [result, result, dm_commit, hidx]
    by_cases hij : i = j
    · subst hij
      rw [Function.update_self, hobj, Option.map_some, Option.map_some, hres]
      rfl
    · rw [Function.update_of_ne hij]

theorem result_transfersSave : s.transfersSave.result i = s.result i := by
  rw [transfersSave, forEachInstance]
  generalize s.indices = l
  induction l generalizing s with
  | nil => rfl
  | cons j l ih => exact ih.trans (result_onObject fun _ => ⟨rfl, rfl⟩)

/-- **A notification writes the result of the holder alone**, and only if it reports a
failure. -/
theorem result_notification {cause : Option ℕ} {status log : Option String}
    (h : s.Stepped (.firmwareimage cause status log) t)
    (hi : s.transferInProgress ≠ some i ∨ status.any firmwareFailed = false) :
    t.result i = s.result i := by
  cases h with
  | @failure _ _ _ st j obj _ _ hstatus hfailed hlock hobj =>
    have hij : i ≠ j := by
      rintro rfl
      rcases hi with hi | hi
      · exact hi hlock
      · rw [hstatus] at hi
        have hi : firmwareFailed st = false := hi
        rw [hfailed] at hi
        cases hi
    have hown := (Ctx.Own.firmwareimageFailure (log.getD "")
      (c := (s.withDownloads (s.downloadsLeft cause status)).ctx j obj) hlock).index
    have hobj' : (s.withDownloads (s.downloadsLeft cause status)).dm j = some obj := hobj
    have hown : (firmwareimageFailure (log.getD "")
      ((s.withDownloads (s.downloadsLeft cause status)).ctx j obj)).index = j := hown
    rw [onObject, hobj', result, result, dm_commit, hown, Function.update_of_ne hij]
    rfl
  | dangling _ _ _ _ _ _ => rfl
  | validating _ _ _ _ => exact result_transfersSave
  | unheard _ _ _ => rfl

end Plugin

end Tr069
