import Tr069Manager.ScheduleDownload.Finality

/-!
# The lock on the firmware image

`transfer_in_progress` is meant to keep the transfers from downloading two firmware
images at a time. It is taken by the transfer whose `Download` is accepted and
given back when the firmware image reports a failure or the transfer is done.
Three things go wrong with it:

* a window that opens, or a failure that is tried again, for the transfer that
  already holds the lock finds it taken and makes the transfer fail, with the lock
  still pointing to it;
* a transfer that is deleted does not give the lock back, which then points to an
  object that is gone;
* a transfer that is given up gives the lock back although the device is still
  downloading, and the next transfer starts a second download.

Without such a step (`Tr069.Plugin.KeepsLock`) the lock tells the truth and one
download runs at a time (`Tr069.lock_truthful`).
-/

namespace Tr069

open Runs Tagged

/-! ### The downloads that are running -/

namespace Plugin

@[simp] theorem accepted_nil : accepted [] = [] := rfl

theorem accepted_append (l l' : List Call) : accepted (l ++ l') = accepted l ++ accepted l' :=
  List.filter_append ..

theorem accepted_startTransfer : accepted [.startTransfer] = [] := by decide

theorem accepted_download (ret : ℤ) :
    accepted [.startTransfer, .download ret] = if ret = 0 then [.download 0] else [] := by
  by_cases h : ret = 0
  · simp [accepted, h]
  · simp [accepted, h]

/-- An attempt whose `Download` is accepted is one that asks for it. -/
theorem accepted_transfersStartTransfer (c : Ctx) (ret : ℤ) :
    accepted (transfersStartTransfer c ret).calls = accepted c.calls ∨
      ret = 0 ∧ Asks c.obj c.transferInProgress ∧
        accepted (transfersStartTransfer c ret).calls = accepted c.calls ++ [.download 0] := by
  by_cases hasks : Asks c.obj c.transferInProgress
  · rw [transfersStartTransfer_of_asks hasks, accepted_append, accepted_download]
    by_cases hret : ret = 0
    · exact Or.inr ⟨hret, hasks, by rw [if_pos hret]⟩
    · exact Or.inl (by rw [if_neg hret, List.append_nil])
  · rw [transfersStartTransfer_of_not_asks hasks, accepted_append, accepted_startTransfer,
      List.append_nil]
    exact Or.inl rfl

theorem calls_of_upgrade {c c' : Ctx} {fc : ℕ} {fs : String} (h : UpgradeOutcome c fc fs c') :
    c'.calls = c.calls := by
  cases h with
  | ignored _ => rfl
  | failed _ _ => rfl
  | done _ _ => exact calls_transfersTransferDone _

theorem calls_deferredInit (status : Option String) (c : Ctx) :
    (Tr069.deferredInit status c).calls = c.calls := by
  have hadd : (transfersTransferAddInfo c).calls = c.calls := by
    unfold transfersTransferAddInfo
    split <;> rfl
  rw [← hadd]
  rcases transfersHandleInProgressTransfer_cases (transfersTransferAddInfo c) status with
    hsame | ⟨-, -, hup⟩
  · have h := congrArg Ctx.calls hsame
    exact h
  · have h := calls_of_upgrade hup
    exact h

/-- A queued event that is handled starts at most one download, in an attempt that asks
for it. -/
theorem accepted_handleDmEvent (v : View) (i : ℕ) (ev : DmEvent) (ret : ℤ) :
    accepted (handleDmEvent ret ev (v.ctx i)).calls = [] ∨
      ret = 0 ∧ v.StartCause (.dispatch ev ret) ∧ Asks v.obj v.lock ∧
        accepted (handleDmEvent ret ev (v.ctx i)).calls = [.download 0] := by
  cases ev with
  | scheduleDownloadAdded =>
    left
    simp only [handleDmEvent, scheduleDownloadAdded, transfersTimewindowStart,
      transfersTransferAddInfo]
    split <;> rfl
  | timewindowStarted k =>
    simp only [handleDmEvent]
    rcases timewindowStarted_cases (v.ctx i) k ret with ⟨-, h⟩ | ⟨info, hpriv, h⟩
    · rw [h]
      exact Or.inl rfl
    · generalize timewindowStarted (v.ctx i) k ret = c' at h
      cases h with
      | unchanged _ => exact Or.inl rfl
      | @start info' hst hin =>
        obtain rfl : info.opened k = info' := Option.some.inj hin.priv
        rcases accepted_transfersStartTransfer
            { v.ctx i with obj := v.obj.withPriv (info.opened k) } ret with h | ⟨hret, hasks, h⟩
        · exact Or.inl h
        · exact Or.inr ⟨hret, .window hpriv hst hin,
            ⟨hasks.fileType, hasks.url, hasks.username, hasks.password, hasks.free⟩, h⟩
      | gaveUp _ _ => exact Or.inl (congrArg accepted (calls_transfersTransferDone _))
  | timewindowEnded k =>
    simp only [handleDmEvent]
    rcases timewindowEnded_cases (v.ctx i) ret with ⟨-, h⟩ | ⟨info, -, h⟩
    · rw [h]
      exact Or.inl rfl
    · generalize timewindowEnded (v.ctx i) ret = c' at h
      cases h with
      | unchanged _ => exact Or.inl rfl
      | start _ hin =>
        -- no window is open now
        have hwithin := hin.within
        rw [← Option.some.inj hin.priv] at hwithin
        cases hwithin
      | gaveUp _ _ => exact Or.inl (congrArg accepted (calls_transfersTransferDone _))
  | scheduleDownloadTransferFailed =>
    simp only [handleDmEvent]
    have h := scheduleDownloadTransferFailed_outcome (v.ctx i) ret
    generalize scheduleDownloadTransferFailed (v.ctx i) ret = c' at h
    cases h with
    | ignored _ => exact Or.inl rfl
    | exhausted _ _ _ => exact Or.inl (congrArg accepted (calls_transfersTransferDone _))
    | @retried info w hr hmr =>
      rcases accepted_transfersStartTransfer (transfersTimewindowSetMaxretries (v.ctx i)
          info.lastTimeWindow (w.maxRetries - 1)) ret with h | ⟨hret, hasks, h⟩
      · exact Or.inl h
      · exact Or.inr ⟨hret, .retry hr hmr,
          ⟨hasks.fileType, hasks.url, hasks.username, hasks.password, hasks.free⟩, h⟩

variable {s t : Plugin} {i j : ℕ} {e : Event}

theorem downloads_onObject {obj : ScheduleDownload} {f : Ctx → Ctx} (hobj : s.dm i = some obj)
    (hidx : (f (s.ctx i obj)).index = i) :
    (s.onObject i f).downloads =
      s.downloads ++ (accepted (f (s.ctx i obj)).calls).map fun _ => i := by
  rw [onObject, hobj]
  simp [commit, hidx]

/-- A handler that makes no such call starts no download. -/
theorem downloads_onObject_silent {f : Ctx → Ctx}
    (hf : ∀ c : Ctx, accepted (f c).calls = accepted c.calls) :
    (s.onObject i f).downloads = s.downloads := by
  rw [onObject]
  split
  · rfl
  · simp [commit, hf, ctx]

theorem downloads_forEachInstance {f : ℕ → Ctx → Ctx}
    (hf : ∀ (j : ℕ) (c : Ctx), accepted (f j c).calls = accepted c.calls) :
    (s.forEachInstance f).downloads = s.downloads := by
  rw [forEachInstance]
  generalize s.indices = l
  induction l generalizing s with
  | nil => rfl
  | cons j l ih => exact ih.trans (downloads_onObject_silent (hf j))

/-! ### What would break the lock -/

/-- Event `e` makes the plugin run `transfers_start_transfer` for instance `i`. -/
def Starts (s : Plugin) (i : ℕ) (e : Event) : Prop :=
  ∃ v, s.view i = some v ∧ v.StartCause (s.act i e)

/-- Event `e` makes the plugin start a download for instance `i`: the attempt asks for it
and the device accepts. -/
def StartsDownload (s : Plugin) (i : ℕ) (e : Event) : Prop :=
  s.Starts i e ∧ e = .dispatch 0 ∧ ∃ obj, s.dm i = some obj ∧ Asks obj s.transferInProgress

/-- The steps that keep the lock: no attempt for the transfer that holds it, no download
while another is still running, and no deletion of its holder. -/
structure KeepsLock (s : Plugin) (e : Event) : Prop where
  holder : ∀ i, s.Starts i e → s.transferInProgress ≠ some i
  device : ∀ i, s.StartsDownload i e → s.downloads = []
  deleted : ∀ i, e = .delInst i → s.transferInProgress ≠ some i

theorem accepted_startTimerCb (k : ℕ) (c : Ctx) :
    accepted (timewindowStartTimerCb c k).calls = accepted c.calls := by
  have h : (timewindowStartTimerCb c k).calls = c.calls ++ [.startTimerCb k] := by
    unfold timewindowStartTimerCb timewindowSetStatus
    split <;> rfl
  rw [h, accepted_append]
  exact List.append_nil _

theorem accepted_endTimerCb (k : ℕ) (c : Ctx) :
    accepted (timewindowEndTimerCb c k).calls = accepted c.calls := by
  have h : (timewindowEndTimerCb c k).calls = c.calls ++ [.endTimerCb k] := by
    unfold timewindowEndTimerCb timewindowSetStatus
    split <;> rfl
  rw [h, accepted_append]
  exact List.append_nil _

theorem downloads_transfersSave : s.transfersSave.downloads = s.downloads :=
  downloads_forEachInstance fun _ _ => rfl

theorem downloadsLeft_sublist (s : Plugin) (cause : Option ℕ) (status : Option String) :
    (s.downloadsLeft cause status).Sublist s.downloads := by
  unfold downloadsLeft
  split
  · split
    · exact List.erase_sublist
    · exact List.Sublist.refl _
  · exact List.Sublist.refl _

/-- **The downloads that run after a step**: some of those before, or one more, that the
step has started. -/
theorem downloads_step (h : s.Stepped e t) :
    t.downloads.Sublist s.downloads ∨
      ∃ i, s.StartsDownload i e ∧ t.downloads = s.downloads ++ [i] := by
  have hsame : t.downloads = s.downloads → t.downloads.Sublist s.downloads := fun h =>
    h ▸ List.Sublist.refl _
  cases h with
  | restart reboot =>
    left
    cases reboot
    · exact List.Sublist.refl _
    · exact List.nil_sublist _
  | added _ _ => exact Or.inl (hsame rfl)
  | deleted _ _ => exact Or.inl (hsame rfl)
  | startTimer _ _ _ _ _ =>
    exact Or.inl (hsame (downloads_onObject_silent fun c => accepted_startTimerCb _ c))
  | endTimer _ _ _ _ _ =>
    exact Or.inl (hsame (downloads_onObject_silent fun c => accepted_endTimerCb _ c))
  | elapsed _ _ => exact Or.inl (hsame rfl)
  | @dispatched ret j obj ev rest _ hqueue hobj =>
    have hobj' : (s.dequeued rest).dm j = some obj := hobj
    have hidx := (Ctx.Own.handleDmEvent ret ev ((s.dequeued rest).ctx j obj)).index
    rw [downloads_onObject hobj' hidx]
    have hv := view_of_dm hobj
    rcases accepted_handleDmEvent ⟨obj, s.transferInProgress, own j s.queue, own j s.calls,
        s.deferredInitTimer⟩ j ev ret with hnone | ⟨rfl, hcause, hasks, hone⟩
    · left
      rw [show accepted (handleDmEvent ret ev ((s.dequeued rest).ctx j obj)).calls = [] from hnone]
      exact (List.append_nil s.downloads).symm ▸ List.Sublist.refl _
    · right
      rw [show accepted (handleDmEvent 0 ev ((s.dequeued rest).ctx j obj)).calls =
        [.download 0] from hone]
      refine ⟨j, ⟨⟨_, hv, ?_⟩, rfl, obj, hobj, hasks⟩, rfl⟩
      rw [show s.act j (.dispatch 0) = .dispatch ev 0 by simp [act, hqueue]]
      exact hcause
  | stale _ _ _ => exact Or.inl (hsame rfl)
  | @failure cause status log _ _ _ _ _ _ _ _ _ =>
    left
    have hsilent : ∀ c : Ctx, accepted (firmwareimageFailure (log.getD "") c).calls =
        accepted c.calls := fun c => by
      have hcalls := calls_of_upgrade (transfersFirmwareupgradeDone_outcome c
        (firmwareFaultCode (log.getD "")) (log.getD ""))
      exact congrArg accepted hcalls
    rw [downloads_onObject_silent hsilent]
    exact downloadsLeft_sublist s cause status
  | dangling _ _ _ _ _ _ => exact Or.inl (downloadsLeft_sublist s _ _)
  | validating _ _ _ _ =>
    left
    rw [downloads_transfersSave]
    exact downloadsLeft_sublist s _ _
  | unheard _ _ _ => exact Or.inl (downloadsLeft_sublist s _ _)
  | deferredInit _ _ status =>
    exact Or.inl (hsame (downloads_forEachInstance fun j c =>
      congrArg accepted (calls_deferredInit (status j) c)))
  | appStop _ => exact Or.inl (hsame downloads_transfersSave)

/-! ### The lock tells the truth -/

/-- The lock is free, or points to an instance that exists and is in progress. -/
def LockTrue (s : Plugin) : Prop :=
  ∀ i, s.transferInProgress = some i → ∃ r, s.result i = some r ∧ r.status = .inProgress

/-- One step that keeps the lock. -/
theorem lockTrue_step (hs : Reaches step free init s) (hlock : s.LockTrue) (hkeep : s.KeepsLock e)
    (h : step s e = some t) : t.LockTrue := by
  intro i hl
  have hst := stepped_of_step h
  have hwell := wellIndexed_of_reaches hs
  cases hv : s.view i with
  | none =>
    -- the lock cannot get to an instance that is not there
    rcases missing_step hst (dm_eq_none_of_view hv) with hmiss | ⟨rfl, args, l, -, rfl⟩
    · obtain ⟨r, hr, -⟩ := hlock i (hmiss.lock hl)
      rw [result_eq_view, hv] at hr
      cases hr
    · have := hwell.lock _ hl
      omega
  | some v =>
    have hvl : v.lock = s.transferInProgress := by
      obtain ⟨obj, -, rfl⟩ := exists_obj_of_view hv
      rfl
    have hold : v.lock = some i → v.obj.transferComplete.status = .inProgress := fun h => by
      obtain ⟨r, hr, hst⟩ := hlock i (hvl ▸ h)
      rw [result_of_view hv] at hr
      cases hr
      exact hst
    have hsound := sound_of_reaches hs hv
    rcases view_step hwell hst hv with ⟨rfl, -⟩ | ⟨v', hv', hstep⟩
    · cases hst
      exact absurd hl (hkeep.deleted i rfl)
    · have hvl' : v'.lock = some i := by
        obtain ⟨obj, -, rfl⟩ := exists_obj_of_view hv'
        exact hl
      refine ⟨_, result_of_view hv', ?_⟩
      have hno : v.StartCause (s.act i e) → v.lock ≠ some i := fun hc =>
        hvl ▸ hkeep.holder i ⟨v, hv, hc⟩
      cases hstep.effect with
      | quiet hresult hlock' _ _ =>
        rw [hresult]
        exact hold (hlock' hvl')
      | running _ _ _ hresult _ _ =>
        rw [hresult]
      | refused hcause _ _ hlock' => exact absurd (hlock' ▸ hvl') (hno hcause)
      | failed _ _ _ hlock' _ =>
        obtain ⟨hmine, hboot⟩ := hlock' hvl'
        exact absurd hmine (hsound.bootLock hboot)
      | done _ _ hlock' _ _ =>
        obtain ⟨hmine, hft⟩ := hlock' hvl'
        exact absurd (hsound.lock hmine).1 hft
      | marked _ _ hresult hlock' _ _ =>
        rw [hresult]
        exact hold (hlock' ▸ hvl')

theorem lockTrue_of_reaches (hs : Reaches step KeepsLock init s) : s.LockTrue := by
  refine Reaches.invariant_reached .refl (fun a e b ha htrue hkeep he => ?_) hs fun i hl => ?_
  · exact lockTrue_step ha htrue hkeep he
  · cases hl

/-- One step with at most one download running. -/
theorem downloads_length_step (hone : s.downloads.length ≤ 1) (hkeep : s.KeepsLock e)
    (h : step s e = some t) : t.downloads.length ≤ 1 := by
  rcases downloads_step (stepped_of_step h) with hsub | ⟨i, hi, hnew⟩
  · exact Nat.le_trans hsub.length_le hone
  · rw [hnew, hkeep.device i hi]
    exact Nat.le_refl 1

theorem downloads_of_reaches (hs : Reaches step KeepsLock init s) : s.downloads.length ≤ 1 := by
  have hstep : ∀ a e b, a.downloads.length ≤ 1 → a.KeepsLock e → step a e = some b →
      b.downloads.length ≤ 1 := fun _ _ _ hone hkeep he => downloads_length_step hone hkeep he
  exact hs.invariant hstep (Nat.zero_le 1)

/-- An attempt runs `transfers_start_transfer` on the transfer as it was asked for. -/
theorem handleDmEvent_of_start {v : View} {ev : DmEvent} {ret : ℤ}
    (h : v.StartCause (.dispatch ev ret)) (i : ℕ) :
    ∃ c : Ctx, handleDmEvent ret ev (v.ctx i) = transfersStartTransfer c ret ∧ c.index = i ∧
      c.calls = [] ∧ c.transferInProgress = v.lock ∧ c.obj.request = v.obj.request := by
  cases h with
  | @window k ret info hpriv hst hin =>
    refine ⟨{ v.ctx i with obj := v.obj.withPriv (info.opened k) }, ?_, rfl, rfl, rfl, rfl⟩
    have hdone : transferIsDone (v.obj.withPriv (info.opened k)) = false :=
      Bool.eq_false_iff.mpr fun hd => hst (transferIsDone_iff.mp hd)
    have hpriv' : (v.ctx i).obj.priv = some info := hpriv
    simp only [handleDmEvent, timewindowStarted, hpriv']
    unfold transfersHandleTransfer
    change (if transferIsDone (v.obj.withPriv (info.opened k)) then _ else _) = _
    rw [hdone, if_neg Bool.false_ne_true]
    change (if (info.opened k).lastTimeWindow = 0 then _ else
      if (lastMode (v.obj.withPriv (info.opened k)) (info.opened k)).Supported then
        if (info.opened k).withinTimeWindow then _ else _ else _) = _
    rw [if_neg hin.last, if_pos hin.mode, if_pos hin.within]
    rfl
  | @retry info w ret hr hmr =>
    refine ⟨transfersTimewindowSetMaxretries (v.ctx i) info.lastTimeWindow (w.maxRetries - 1), ?_,
      rfl, rfl, rfl, (Ctx.Own.setMaxretries _ _ _).request⟩
    have hpriv : (v.ctx i).obj.priv = some info := hr.priv
    have hfind : (v.ctx i).obj.timeWindowList.find info.lastTimeWindow = some w := hr.window
    simp only [handleDmEvent, scheduleDownloadTransferFailed, hpriv, hfind, if_pos hr.mode,
      hr.within, if_true, if_neg hmr]

/-- With a free lock, the attempt of a firmware transfer whose arguments can be read asks
the device for the download, and takes the lock if the device accepts. -/
theorem starts_of_free {obj : ScheduleDownload} {ret : ℤ} (hup : s.alive = true)
    (hobj : s.dm i = some obj) (hstart : s.Starts i (.dispatch ret))
    (hasks : Asks obj s.transferInProgress) :
    ∃ t, step s (.dispatch ret) = some t ∧
      t.calls = s.calls ++ [(i, .startTransfer), (i, .download ret)] ∧
      (ret = 0 → t.transferInProgress = some i) := by
  obtain ⟨v, hv, hcause⟩ := hstart
  obtain ⟨obj', hobj', rfl⟩ := exists_obj_of_view hv
  obtain rfl : obj = obj' := Option.some.inj (hobj.symm.trans hobj')
  have hact : ∃ ev, s.act i (.dispatch ret) = .dispatch ev ret := by
    cases ha : s.act i (.dispatch ret) with
    | dispatch ev ret' =>
      obtain ⟨he, -⟩ := act_eq_dispatch ha
      cases he
      exact ⟨ev, rfl⟩
    | _ =>
      rw [ha] at hcause
      cases hcause
  obtain ⟨ev, hact⟩ := hact
  obtain ⟨-, rest, hqueue⟩ := act_eq_dispatch hact
  rw [hact] at hcause
  obtain ⟨c, hrun, hidx, hcalls, hlock, hreq⟩ := handleDmEvent_of_start hcause i
  have hrun : handleDmEvent ret ev ((s.dequeued rest).ctx i obj) = transfersStartTransfer c ret :=
    hrun
  have hasks' : Asks c.obj c.transferInProgress := hlock ▸ hasks.of_request hreq
  have hidx' : (transfersStartTransfer c ret).index = i := by
    rw [(Ctx.Own.start (transfersStartTransfer_outcome c ret)).index, hidx]
  refine ⟨(s.dequeued rest).onObject i (handleDmEvent ret ev), ?_, ?_, fun hret => ?_⟩
  · simp [step, hup, Plugin.dispatch, hqueue, hobj, dequeued]
  · have hdm : (s.dequeued rest).dm i = some obj := hobj
    rw [onObject, hdm]
    simp only [hrun, commit, hidx', transfersStartTransfer_of_asks hasks' ret, hcalls]
    rfl
  · have hdm : (s.dequeued rest).dm i = some obj := hobj
    subst hret
    rw [onObject, hdm]
    simp only [hrun, commit, transfersStartTransfer_accepted hasks', hidx]

end Plugin

/-- **The lock tells the truth**, and one download runs at a time, in every state reached
by steps that keep the lock; and while no transfer is in progress, the attempt of a
waiting firmware transfer gets its download. -/
theorem lock_truthful {s : Plugin} (hs : Reaches step Plugin.KeepsLock Plugin.init s) :
    s.LockTrue ∧ s.downloads.length ≤ 1 ∧
      ((∀ j r, s.result j = some r → r.status ≠ .inProgress) → s.alive = true →
        ∀ i obj ret, s.dm i = some obj → s.Starts i (.dispatch ret) → Asks obj none →
          ∃ t, step s (.dispatch ret) = some t ∧
            t.calls = s.calls ++ [(i, .startTransfer), (i, .download ret)] ∧
            (ret = 0 → t.transferInProgress = some i)) := by
  have htrue := Plugin.lockTrue_of_reaches hs
  refine ⟨htrue, Plugin.downloads_of_reaches hs, fun hidle hup i obj ret hobj hstart hasks => ?_⟩
  have hfree : s.transferInProgress = none := by
    refine Option.eq_none_iff_forall_not_mem.mpr fun j hj => ?_
    obtain ⟨r, hr, hst⟩ := htrue j hj
    exact hidle j r hr hst
  exact Plugin.starts_of_free hup hobj hstart (hfree.symm ▸ hasks)

/-- A test for `KeepsLock`: an event is handled, or an instance deleted, only while the
lock is free and no download is running. -/
def Plugin.keepsLock (s : Plugin) : Event → Bool
  | .dispatch _ => s.transferInProgress.isNone && s.downloads.isEmpty
  | .delInst _ => s.transferInProgress.isNone
  | _ => true

theorem Plugin.keepsLock_sound (s : Plugin) (e : Event) (h : s.keepsLock e = true) :
    s.KeepsLock e := by
  have hdispatch : ∀ i, s.Starts i e → ∃ ret, e = .dispatch ret := by
    rintro i ⟨v, -, hc⟩
    generalize ha : s.act i e = a at hc
    cases hc with
    | window _ _ _ => exact ⟨_, (act_eq_dispatch ha).1⟩
    | retry _ _ => exact ⟨_, (act_eq_dispatch ha).1⟩
  have hfree : ∀ ret, e = .dispatch ret → s.transferInProgress = none ∧ s.downloads = [] := by
    rintro ret rfl
    simpa [keepsLock] using h
  refine ⟨fun i hi => ?_, fun i hi => ?_, fun i hi => ?_⟩
  · obtain ⟨ret, he⟩ := hdispatch i hi
    rw [(hfree ret he).1]
    nofun
  · obtain ⟨ret, he⟩ := hdispatch i hi.1
    exact (hfree ret he).2
  · subst hi
    have hnone : s.transferInProgress = none := by simpa [keepsLock] using h
    rw [hnone]
    nofun

/-- A download that fails and is tried again, while another transfer waits. -/
def retriedRun : List Event :=
  [.deferredInit fun _ => none, .addScheduleDownload (firmwareArgs [immediately 100 200 1]),
    .addScheduleDownload (firmwareArgs [immediately 300 400 0]), .dispatch 0, .dispatch 0,
    .startTimer 1 1, .dispatch 0, .firmwareimage (some 1) (some "DownloadFailed") (some ""),
    .dispatch 0]

theorem lock_truthful_retried :
    ∃ s, exec step Plugin.init retriedRun = some s ∧ s.transferInProgress = some 1 ∧
      s.LockTrue ∧ s.downloads.length ≤ 1 := by
  have hrun : (exec step Plugin.init retriedRun).map Plugin.transferInProgress = some (some 1) := by
    decide
  obtain ⟨s, hs, hl⟩ := Option.map_eq_some_iff.mp hrun
  have hmeets : Meets step Plugin.KeepsLock Plugin.init retriedRun :=
    meets_of_checks Plugin.keepsLock_sound (by decide)
  have htrue := lock_truthful (reaches_of_exec hs hmeets)
  exact ⟨s, hs, hl, htrue.1, htrue.2.1⟩

/-- The second window of a transfer opens while its download is running. -/
def secondWindowRun : List Event :=
  [.deferredInit fun _ => none,
    .addScheduleDownload (firmwareArgs [immediately 100 300 0, immediately 200 400 0]),
    .dispatch 0, .startTimer 1 1, .dispatch 0, .startTimer 1 2, .dispatch 0]

theorem lock_not_truthful :
    ¬∀ s, Reaches step free Plugin.init s → s.LockTrue ∧ s.downloads.length ≤ 1 := by
  intro htrue
  have hrun : (exec step Plugin.init secondWindowRun).map (fun s =>
      (s.transferInProgress, (s.result 1).map TransferComplete.status)) =
      some (some 1, some .failed) := by
    decide
  obtain ⟨s, hs, h⟩ := Option.map_eq_some_iff.mp hrun
  obtain ⟨hl, hfailed⟩ := Prod.mk.inj h
  obtain ⟨r, hr, hst⟩ := (htrue s (reaches_of_exec hs (meets_free _ _))).1 1 hl
  rw [hr] at hfailed
  have hst' : r.status = .failed := Option.some.inj hfailed
  rw [hst] at hst'
  cases hst'

end Tr069
