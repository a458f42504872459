import Mathlib.Data.List.Nodup
import Tr069Manager.ScheduleDownload.View

/-!
# A step of the plugin is a step of each of its instances

`Tr069.Plugin.Stepped` lists the steps of the plugin with all that is known when
they happen. From it, `Tr069.Plugin.view_step`: in every step an instance that
exists is deleted, or takes the `Tr069.View.Step` that `Tr069.Plugin.act` names; and
`Tr069.Plugin.view_fresh`: an instance that did not exist is a new one. Together
with an induction over the run this gives `Tr069.Plugin.view_invariant`, the rule
by which a fact about one transfer is proved for every reachable state.
-/

namespace Tr069

open Tagged Runs

namespace Plugin

variable {s t : Plugin} {e : Event} {i j : ℕ} {v v' : View}

/-! ### The steps of the plugin -/

/-- The plugin with the rest of its queue. -/
def dequeued (s : Plugin) (rest : List (ℕ × DmEvent)) : Plugin := { s with queue := rest }

/-- The plugin with other downloads running. -/
def withDownloads (s : Plugin) (downloads : List ℕ) : Plugin := { s with downloads := downloads }

/-- The plugin after its process has or has not survived. -/
def withAlive (s : Plugin) (alive : Bool) : Plugin := { s with alive := alive }

/-- **The steps of the plugin**, one by one. -/
inductive Stepped (s : Plugin) : Event → Plugin → Prop where
  | restart (reboot : Bool) : Stepped s (.restart reboot) (s.restart reboot)
  | added {args : ScheduleDownloadArgs} {l : TimeWindowList} (hup : s.alive = true)
      (hl : timeWindowListOfArgs args.timeWindowList = some l) :
      Stepped s (.addScheduleDownload args) (s.added args l)
  | deleted {i : ℕ} {obj : ScheduleDownload} (hup : s.alive = true) (hobj : s.dm i = some obj) :
      Stepped s (.delInst i) (s.scheduleDownloadDelInst i)
  | startTimer {i k : ℕ} {obj : ScheduleDownload} {w : TimeWindow} (hup : s.alive = true)
      (hboot : s.deferredInitTimer = false) (hobj : s.dm i = some obj)
      (hw : obj.timeWindowList.find k = some w) (htimer : w.StartPending) :
      Stepped s (.startTimer i k) (s.onObject i fun c => timewindowStartTimerCb c k)
  | endTimer {i k : ℕ} {obj : ScheduleDownload} {w : TimeWindow} (hup : s.alive = true)
      (hboot : s.deferredInitTimer = false) (hobj : s.dm i = some obj)
      (hw : obj.timeWindowList.find k = some w) (htimer : w.EndPending) :
      Stepped s (.endTimer i k) (s.onObject i fun c => timewindowEndTimerCb c k)
  | elapsed (hup : s.alive = true) (ms : ℕ) : Stepped s (.elapse ms) (s.elapse ms)
  | dispatched {ret : ℤ} {i : ℕ} {obj : ScheduleDownload} {ev : DmEvent}
      {rest : List (ℕ × DmEvent)} (hup : s.alive = true) (hqueue : s.queue = (i, ev) :: rest)
      (hobj : s.dm i = some obj) :
      Stepped s (.dispatch ret) ((s.dequeued rest).onObject i (handleDmEvent ret ev))
  | stale {ret : ℤ} {i : ℕ} {ev : DmEvent} {rest : List (ℕ × DmEvent)} (hup : s.alive = true)
      (hqueue : s.queue = (i, ev) :: rest) (hobj : s.dm i = none) :
      Stepped s (.dispatch ret) ((s.dequeued rest).withAlive ev.survivesMissing)
  | failure {cause : Option ℕ} {status log : Option String} {st : String} {i : ℕ}
      {obj : ScheduleDownload} (hup : s.alive = true) (hcause : cause.all (· ∈ s.downloads))
      (hstatus : status = some st) (hfailed : firmwareFailed st = true)
      (hlock : s.transferInProgress = some i) (hobj : s.dm i = some obj) :
      Stepped s (.firmwareimage cause status log)
        ((s.withDownloads (s.downloadsLeft cause status)).onObject i
          (firmwareimageFailure (log.getD "")))
  | dangling {cause : Option ℕ} {status log : Option String} {st : String} {i : ℕ}
      (hup : s.alive = true) (hcause : cause.all (· ∈ s.downloads)) (hstatus : status = some st)
      (hfailed : firmwareFailed st = true) (hlock : s.transferInProgress = some i)
      (hobj : s.dm i = none) :
      Stepped s (.firmwareimage cause status log)
        ((s.withDownloads (s.downloadsLeft cause status)).withAlive false)
  | validating {cause : Option ℕ} {status log : Option String} {i : ℕ} (hup : s.alive = true)
      (hcause : cause.all (· ∈ s.downloads)) (hstatus : status = some "Validating")
      (hlock : s.transferInProgress = some i) :
      Stepped s (.firmwareimage cause status log)
        (s.withDownloads (s.downloadsLeft cause status)).transfersSave
  | unheard {cause : Option ℕ} {status log : Option String} (hup : s.alive = true)
      (hcause : cause.all (· ∈ s.downloads))
      (hnot : s.transferInProgress = none ∨ ∀ st, status = some st →
        firmwareFailed st = false ∧ st ≠ "Validating") :
      Stepped s (.firmwareimage cause status log) (s.withDownloads (s.downloadsLeft cause status))
  | deferredInit (hup : s.alive = true) (hboot : s.deferredInitTimer = true)
      (status : ℕ → Option String) :
      Stepped s (.deferredInit status) (s.deferredInitTimerCb status)
  | appStop (hup : s.alive = true) : Stepped s .appStop s.transfersSave

theorem startTimerRuns_iff {k : ℕ} :
    s.startTimerRuns i k = true ↔
      ∃ obj w, s.dm i = some obj ∧ obj.timeWindowList.find k = some w ∧ w.StartPending := by
  unfold startTimerRuns TimeWindow.StartPending
  constructor
  · intro h
    split at h
    · next ms o hrun =>
      obtain ⟨w, hw, hpriv⟩ := Option.bind_eq_some_iff.mp hrun
      obtain ⟨obj, hobj, hfind⟩ := Option.bind_eq_some_iff.mp hw
      exact ⟨obj, w, hobj, hfind, _, ms, hpriv, rfl⟩
    · cases h
  · rintro ⟨obj, w, hobj, hw, ⟨start, stop⟩, ms, hpriv, rfl⟩
    simp [hobj, hw, hpriv]

theorem endTimerRuns_iff {k : ℕ} :
    s.endTimerRuns i k = true ↔
      ∃ obj w, s.dm i = some obj ∧ obj.timeWindowList.find k = some w ∧ w.EndPending := by
  unfold endTimerRuns TimeWindow.EndPending
  constructor
  · intro h
    split at h
    · next o ms hrun =>
      obtain ⟨w, hw, hpriv⟩ := Option.bind_eq_some_iff.mp hrun
      obtain ⟨obj, hobj, hfind⟩ := Option.bind_eq_some_iff.mp hw
      exact ⟨obj, w, hobj, hfind, _, ms, hpriv, rfl⟩
    · cases h
  · rintro ⟨obj, w, hobj, hw, ⟨start, stop⟩, ms, hpriv, rfl⟩
    simp [hobj, hw, hpriv]

/-- What a notification does, whatever caused it. -/
theorem firmwareimage_stepped {cause : Option ℕ} {status log : Option String}
    (hup : s.alive = true) (hcause : cause.all (· ∈ s.downloads)) :
    Stepped s (.firmwareimage cause status log)
      ((s.withDownloads (s.downloadsLeft cause status)).firmwareimageNotification status log) := by
  unfold firmwareimageNotification
  split
  · next hlock => exact .unheard hup hcause (Or.inl hlock)
  · next hlock => exact .unheard hup hcause (Or.inr fun st h => by cases h)
  · next i st hlock =>
    have hlock : s.transferInProgress = some i := hlock
    split
    · next hfailed =>
      split
      · next hobj => exact .dangling hup hcause rfl hfailed hlock hobj
      · next obj hobj => exact .failure hup hcause rfl hfailed hlock hobj
    · next hfailed =>
      split
      · next hval =>
        subst hval
        exact .validating hup hcause rfl hlock
      · next hval =>
        refine .unheard hup hcause (Or.inr fun st' h => ?_)
        cases h
        exact ⟨Bool.eq_false_iff.mpr hfailed, hval⟩

theorem stepped_of_step (h : step s e = some t) : s.Stepped e t := by
  unfold step at h
  split at h
  · cases h
    exact .restart _
  · split at h
    · next hup =>
      cases e with
      | addScheduleDownload args =>
        obtain ⟨l, hl, rfl⟩ := Option.map_eq_some_iff.mp h
        exact .added hup hl
      | delInst i =>
        simp only [Option.ite_none_right_eq_some, Option.some.injEq] at h
        obtain ⟨obj, hobj⟩ := Option.isSome_iff_exists.mp h.1
        exact h.2 ▸ .deleted hup hobj
      | startTimer i k =>
        simp only [Option.ite_none_right_eq_some, Option.some.injEq, Bool.and_eq_true,
          Bool.not_eq_true'] at h
        obtain ⟨obj, w, hobj, hw, htimer⟩ := startTimerRuns_iff.mp h.1.2
        exact h.2 ▸ .startTimer hup h.1.1 hobj hw htimer
      | endTimer i k =>
        simp only [Option.ite_none_right_eq_some, Option.some.injEq, Bool.and_eq_true,
          Bool.not_eq_true'] at h
        obtain ⟨obj, w, hobj, hw, htimer⟩ := endTimerRuns_iff.mp h.1.2
        exact h.2 ▸ .endTimer hup h.1.1 hobj hw htimer
      | elapse ms =>
        cases h
        exact .elapsed hup ms
      | dispatch ret =>
        simp only [dispatch] at h
        split at h
        · cases h
        · next i ev rest hqueue =>
          split at h
          · next hobj =>
            cases h
            exact .stale hup hqueue hobj
          · next obj hobj =>
            cases h
            exact .dispatched hup hqueue hobj
      | firmwareimage cause status log =>
        simp only [Option.ite_none_right_eq_some, Option.some.injEq] at h
        exact h.2 ▸ firmwareimage_stepped hup h.1
      | deferredInit status =>
        simp only [Option.ite_none_right_eq_some, Option.some.injEq] at h
        exact h.2 ▸ .deferredInit hup h.1 status
      | appStop =>
        cases h
        exact .appStop hup
      | restart reboot =>
        cases h
        exact .restart reboot
    · cases h

/-! ### Handlers run by the plugin -/

theorem exists_obj_of_view (h : s.view i = some v) :
    ∃ obj, s.dm i = some obj ∧
      v = ⟨obj, s.transferInProgress, own i s.queue, own i s.calls, s.deferredInitTimer⟩ := by
  obtain ⟨obj, hobj, rfl⟩ := Option.map_eq_some_iff.mp h
  exact ⟨obj, hobj, rfl⟩

theorem view_of_dm {obj : ScheduleDownload} (h : s.dm i = some obj) :
    s.view i =
      some ⟨obj, s.transferInProgress, own i s.queue, own i s.calls, s.deferredInitTimer⟩ := by
  rw [view, h, Option.map_some]

theorem view_eq_none (h : s.dm i = none) : s.view i = none := by
  rw [view, h, Option.map_none]

/-- Running a handler on an instance commits it to its view. -/
theorem view_onObject_self {f : Ctx → Ctx} (h : s.view i = some v)
    (hf : (v.ctx i).Own (f (v.ctx i))) :
    (s.onObject i f).view i = some (v.commit (f (v.ctx i))) := by
  obtain ⟨obj, hobj, rfl⟩ := exists_obj_of_view h
  have hidx : (f (s.ctx i obj)).index = i := hf.index
  rw [onObject, hobj]
  simp [view, commit, hidx, View.commit, View.ctx]
  exact ⟨rfl, rfl, rfl, rfl⟩

/-- Running a handler on another instance leaves all but the lock alone. -/
theorem view_onObject_ne (f : Ctx → Ctx)
    (hf : ∀ obj, s.dm j = some obj → (s.ctx j obj).Own (f (s.ctx j obj))) (hij : i ≠ j)
    (h : s.view i = some v) :
    ∃ lock, (v.lock = some i ↔ lock = some i) ∧
      (s.onObject j f).view i = some (v.withLock lock) := by
  obtain ⟨obj, hobj, rfl⟩ := exists_obj_of_view h
  rw [onObject]
  split
  · exact ⟨s.transferInProgress, Iff.rfl, view_of_dm hobj⟩
  · next objj hobjj =>
    have hown := hf objj hobjj
    have hidx : (f (s.ctx j objj)).index = j := hown.index
    refine ⟨(f (s.ctx j objj)).transferInProgress, (hown.lock i hij).symm, ?_⟩
    simp [view, commit, hidx, hij, hobj, own_map_ne hij.symm, View.withLock]

/-- Running handlers on other instances, one after the other. -/
theorem view_foldl_ne (f : ℕ → Ctx → Ctx) (hf : ∀ (j : ℕ) (c : Ctx), c.Own (f j c)) {l : List ℕ}
    (hl : i ∉ l) (h : s.view i = some v) :
    ∃ lock, (v.lock = some i ↔ lock = some i) ∧
      (l.foldl (fun s j => s.onObject j (f j)) s).view i = some (v.withLock lock) := by
  induction l generalizing s v with
  | nil => exact ⟨v.lock, Iff.rfl, h⟩
  | cons j l ih =>
    rw [List.mem_cons, not_or] at hl
    obtain ⟨hij, hl⟩ := hl
    obtain ⟨lock, hlock, hview⟩ := view_onObject_ne (f j) (fun _ _ => hf j _) hij h
    obtain ⟨lock', hlock', hview'⟩ := ih hl hview
    exact ⟨lock', hlock.trans hlock', hview'⟩

/-- Running a handler on every instance runs it once on each of them. -/
theorem view_forEachInstance (f : ℕ → Ctx → Ctx) (hf : ∀ (j : ℕ) (c : Ctx), c.Own (f j c))
    (hi : i ∈ s.indices) (h : s.view i = some v) :
    ∃ lock lock', (v.lock = some i ↔ lock = some i) ∧
      ((f i ((v.withLock lock).ctx i)).transferInProgress = some i ↔ lock' = some i) ∧
      (s.forEachInstance f).view i =
        some (((v.withLock lock).commit (f i ((v.withLock lock).ctx i))).withLock lock') := by
  obtain ⟨l₁, l₂, hsplit⟩ := List.append_of_mem hi
  have hnodup : s.indices.Nodup := by
    refine List.Nodup.map (fun a b hab => ?_) List.nodup_range
    exact Nat.succ.inj hab
  rw [hsplit, List.nodup_middle] at hnodup
  have hnot := (List.nodup_cons.mp hnodup).1
  rw [List.mem_append, not_or] at hnot
  rw [forEachInstance, hsplit, List.foldl_append, List.foldl_cons]
  obtain ⟨lock, hlock, hview⟩ := view_foldl_ne f hf hnot.1 h
  have hself := view_onObject_self hview (hf i _)
  obtain ⟨lock', hlock', hview'⟩ := view_foldl_ne f hf hnot.2 hself
  exact ⟨lock, lock', hlock, hlock', hview'⟩

/-! ### Indices -/

/-- Everything the plugin knows of has an index that was given out. -/
structure WellIndexed (s : Plugin) : Prop where
  dm : ∀ i, (s.dm i).isSome → 1 ≤ i ∧ i ≤ s.lastIndex
  queue : ∀ p ∈ s.queue, p.1 ≤ s.lastIndex
  calls : ∀ p ∈ s.calls, p.1 ≤ s.lastIndex
  lock : ∀ i, s.transferInProgress = some i → i ≤ s.lastIndex
  downloads : ∀ i ∈ s.downloads, i ≤ s.lastIndex

theorem wellIndexed_init : init.WellIndexed where
  dm i h := by cases h
  queue p h := by cases h
  calls p h := by cases h
  lock i h := by cases h
  downloads i h := by cases h

theorem mem_indices : i ∈ s.indices ↔ 1 ≤ i ∧ i ≤ s.lastIndex := by
  rw [indices, List.mem_map]
  constructor
  · rintro ⟨n, hn, rfl⟩
    rw [List.mem_range] at hn
    omega
  · intro h
    exact ⟨i - 1, List.mem_range.mpr (by omega), by omega⟩

@[simp] theorem lastIndex_onObject {f : Ctx → Ctx} :
    (s.onObject j f).lastIndex = s.lastIndex := by
  rw [onObject]
  split <;> rfl

namespace WellIndexed

/-- What stays well indexed when less is known. -/
theorem of_subset (hs : s.WellIndexed) (hlast : t.lastIndex = s.lastIndex)
    (hdm : ∀ i, (t.dm i).isSome → (s.dm i).isSome) (hqueue : t.queue ⊆ s.queue)
    (hcalls : t.calls ⊆ s.calls)
    (hlock : ∀ i, t.transferInProgress = some i → s.transferInProgress = some i)
    (hdown : t.downloads ⊆ s.downloads) : t.WellIndexed where
  dm i h := hlast ▸ hs.dm i (hdm i h)
  queue p h := hlast ▸ hs.queue p (hqueue h)
  calls p h := hlast ▸ hs.calls p (hcalls h)
  lock i h := hlast ▸ hs.lock i (hlock i h)
  downloads i h := hlast ▸ hs.downloads i (hdown h)

theorem onObject (hs : s.WellIndexed) {f : Ctx → Ctx}
    (hf : ∀ obj, s.dm j = some obj → (s.ctx j obj).Own (f (s.ctx j obj))) :
    (s.onObject j f).WellIndexed := by
  rw [Plugin.onObject]
  split
  · exact hs
  · next obj hobj =>
    have hj := hs.dm j (by rw [hobj]; rfl)
    have hown := hf obj hobj
    have hidx : (f (s.ctx j obj)).index = j := hown.index
    constructor
    · intro i hi
      by_cases hij : i = j
      · rw [hij]
        exact hj
      · refine hs.dm i ?_
        simpa [commit, hidx, hij] using hi
    · intro p hp
      rcases List.mem_append.mp hp with hp | hp
      · exact hs.queue p hp
      · obtain ⟨ev, -, rfl⟩ := List.mem_map.mp hp
        exact hidx.symm ▸ hj.2
    · intro p hp
      rcases List.mem_append.mp hp with hp | hp
      · exact hs.calls p hp
      · obtain ⟨call, -, rfl⟩ := List.mem_map.mp hp
        exact hidx.symm ▸ hj.2
    · intro i hi
      by_cases hij : i = j
      · exact hij ▸ hj.2
      · exact hs.lock i ((hown.lock i hij).mp hi)
    · intro i hi
      rcases List.mem_append.mp hi with hi | hi
      · exact hs.downloads i hi
      · obtain ⟨call, -, rfl⟩ := List.mem_map.mp hi
        exact hidx.symm ▸ hj.2

theorem forEachInstance (hs : s.WellIndexed) {f : ℕ → Ctx → Ctx}
    (hf : ∀ (j : ℕ) (c : Ctx), c.Own (f j c)) : (s.forEachInstance f).WellIndexed := by
  rw [Plugin.forEachInstance]
  generalize s.indices = l
  induction l generalizing s with
  | nil => exact hs
  | cons j l ih => exact ih (hs.onObject fun _ _ => hf j _)

theorem downloadsLeft_subset (s : Plugin) (cause : Option ℕ) (status : Option String) :
    s.downloadsLeft cause status ⊆ s.downloads := by
  unfold downloadsLeft
  split
  · split
    · exact List.erase_subset
    · exact List.Subset.refl _
  · exact List.Subset.refl _

theorem withDownloads (hs : s.WellIndexed) (cause : Option ℕ) (status : Option String) :
    (s.withDownloads (s.downloadsLeft cause status)).WellIndexed :=
  hs.of_subset rfl (fun _ h => h) (List.Subset.refl _) (List.Subset.refl _) (fun _ h => h)
    (downloadsLeft_subset s cause status)

theorem dequeued (hs : s.WellIndexed) {p : ℕ × DmEvent} {rest : List (ℕ × DmEvent)}
    (hqueue : s.queue = p :: rest) : (s.dequeued rest).WellIndexed := by
  refine hs.of_subset rfl (fun _ h => h) ?_ (List.Subset.refl _) (fun _ h => h)
    (List.Subset.refl _)
  rw [hqueue]
  exact List.subset_cons_self p rest

theorem withAlive (hs : s.WellIndexed) (alive : Bool) : (s.withAlive alive).WellIndexed :=
  hs.of_subset rfl (fun _ h => h) (List.Subset.refl _) (List.Subset.refl _) (fun _ h => h)
    (List.Subset.refl _)

theorem transfersSave (hs : s.WellIndexed) : s.transfersSave.WellIndexed :=
  hs.forEachInstance fun _ c => Ctx.Own.timewindowSave c

theorem added (hs : s.WellIndexed) (args : ScheduleDownloadArgs) (l : TimeWindowList) :
    (s.added args l).WellIndexed := by
  constructor
  · intro i hi
    by_cases h : i = s.lastIndex + 1
    · rw [h]
      exact ⟨Nat.le_add_left _ _, Nat.le_refl _⟩
    · have := hs.dm i (by simpa [Plugin.added, h] using hi)
      exact ⟨this.1, Nat.le_succ_of_le this.2⟩
  · intro p hp
    rcases List.mem_append.mp hp with hp | hp
    · exact Nat.le_succ_of_le (hs.queue p hp)
    · rw [List.mem_singleton.mp hp]
      exact Nat.le_refl _
  · exact fun p hp => Nat.le_succ_of_le (hs.calls p hp)
  · exact fun i hi => Nat.le_succ_of_le (hs.lock i hi)
  · exact fun i hi => Nat.le_succ_of_le (hs.downloads i hi)

/-- What the plugin knows of stays well indexed. -/
theorem step (hs : s.WellIndexed) (h : s.Stepped e t) : t.WellIndexed := by
  cases h with
  | restart reboot =>
    refine hs.of_subset rfl (fun i hi => ?_) (List.nil_subset _) (List.Subset.refl _)
      (fun i hi => by cases hi) ?_
    · simpa [Plugin.restart] using hi
    · cases reboot
      · exact List.Subset.refl _
      · exact List.nil_subset _
  | added _ _ => exact hs.added _ _
  | @deleted j =>
    refine hs.of_subset rfl (fun i hi => ?_) (List.Subset.refl _) (List.Subset.refl _)
      (fun _ h => h) (List.Subset.refl _)
    by_cases hij : i = j
    · simp [scheduleDownloadDelInst, hij] at hi
    · simpa [scheduleDownloadDelInst, hij] using hi
  | startTimer _ _ _ _ _ =>
    exact hs.onObject fun _ _ => Ctx.Own.startTimerCb _ _
  | endTimer _ _ _ _ _ =>
    exact hs.onObject fun _ _ => Ctx.Own.endTimerCb _ _
  | elapsed _ ms =>
    refine hs.of_subset rfl (fun i hi => ?_) (List.Subset.refl _) (List.Subset.refl _)
      (fun _ h => h) (List.Subset.refl _)
    simpa [Plugin.elapse] using hi
  | dispatched _ hqueue _ =>
    exact (hs.dequeued hqueue).onObject fun _ _ => Ctx.Own.handleDmEvent _ _ _
  | stale _ hqueue _ => exact (hs.dequeued hqueue).withAlive _
  | failure _ _ _ _ hlock _ =>
    exact (hs.withDownloads _ _).onObject fun _ _ => Ctx.Own.firmwareimageFailure _ hlock
  | dangling _ _ _ _ _ _ => exact (hs.withDownloads _ _).withAlive _
  | validating _ _ _ _ => exact (hs.withDownloads _ _).transfersSave
  | unheard _ _ _ => exact hs.withDownloads _ _
  | deferredInit _ _ status =>
    have hdown : { s with deferredInitTimer := false }.WellIndexed :=
      hs.of_subset rfl (fun _ h => h) (List.Subset.refl _) (List.Subset.refl _) (fun _ h => h)
        (List.Subset.refl _)
    exact hdown.forEachInstance fun j c => Ctx.Own.deferredInit (status j) c
  | appStop _ => exact hs.transfersSave

end WellIndexed

theorem wellIndexed_of_reaches {G : Plugin → Event → Prop} (h : Reaches Tr069.step G init s) :
    s.WellIndexed :=
  h.invariant (fun _ _ _ hs _ he => hs.step (stepped_of_step he)) wellIndexed_init

theorem lastIndex_forEachInstance {f : ℕ → Ctx → Ctx} :
    (s.forEachInstance f).lastIndex = s.lastIndex := by
  rw [forEachInstance]
  generalize s.indices = l
  induction l generalizing s with
  | nil => rfl
  | cons j l ih => exact ih.trans lastIndex_onObject

/-- No index is taken back. -/
theorem lastIndex_step (h : s.Stepped e t) : s.lastIndex ≤ t.lastIndex := by
  cases h with
  | added _ _ => exact Nat.le_succ _
  | startTimer _ _ _ _ _ => exact Nat.le_of_eq lastIndex_onObject.symm
  | endTimer _ _ _ _ _ => exact Nat.le_of_eq lastIndex_onObject.symm
  | @dispatched _ _ _ _ rest _ _ _ =>
    exact Nat.le_of_eq (lastIndex_onObject (s := s.dequeued rest)).symm
  | @failure cause status _ _ _ _ _ _ _ _ _ _ =>
    exact Nat.le_of_eq
      (lastIndex_onObject (s := s.withDownloads (s.downloadsLeft cause status))).symm
  | @validating cause status _ _ _ _ _ _ =>
    exact Nat.le_of_eq
      (lastIndex_forEachInstance (s := s.withDownloads (s.downloadsLeft cause status))).symm
  | deferredInit _ _ _ =>
    exact Nat.le_of_eq (lastIndex_forEachInstance (s := { s with deferredInitTimer := false })).symm
  | appStop _ => exact Nat.le_of_eq lastIndex_forEachInstance.symm
  | _ => exact Nat.le_refl _

/-! ### The step of an instance -/

/-- What event `e` is for instance `i`. -/
def act (s : Plugin) (i : ℕ) : Event → View.Act
  | .addScheduleDownload _ => .other
  | .delInst _ => .other
  | .startTimer j k => if j = i then .startTimer k else .other
  | .endTimer j k => if j = i then .endTimer k else .other
  | .elapse ms => .elapse ms
  | .dispatch ret =>
    match s.queue with
    | [] => .other
    | (j, ev) :: _ => if j = i then .dispatch ev ret else .other
  | .firmwareimage _ status log =>
    match s.transferInProgress, status with
    | none, _ => .other
    | some _, none => .other
    | some j, some st =>
      if firmwareFailed st then if j = i then .failure (log.getD "") else .other
      else if st = "Validating" then .save else .other
  | .deferredInit status => .deferredInit (status i)
  | .appStop => .save
  | .restart _ => .restart

/-- Nothing but the lock of `v` is new in `v'`, and it is the instance's as before. -/
theorem other_of_view {lock : Option ℕ} (hlock : v.lock = some i ↔ lock = some i)
    (ht : t.view i = some (v.withLock lock)) :
    ∃ v', t.view i = some v' ∧ View.Step i v .other v' :=
  ⟨_, ht, .other hlock⟩

theorem view_save (hs : s.WellIndexed) (hv : s.view i = some v) :
    ∃ v', s.transfersSave.view i = some v' ∧ View.Step i v .save v' := by
  obtain ⟨obj, hobj, -⟩ := exists_obj_of_view hv
  have hi : i ∈ s.indices := mem_indices.mpr (hs.dm i (by rw [hobj]; rfl))
  obtain ⟨lock, lock', hlock, hlock', hview⟩ :=
    view_forEachInstance (fun _ => transfersTimewindowSave)
      (fun _ c => Ctx.Own.timewindowSave c) hi hv
  refine ⟨_, hview, ?_⟩
  have hiff : v.lock = some i ↔ lock' = some i := hlock.trans hlock'
  have hstep : View.Step i v .save _ := .save hiff
  simpa [View.commit, View.withLock, View.ctx, transfersTimewindowSave] using hstep

/-- A handler that runs on an instance is a step of this one, and for the others at most a change
of the lock. -/
theorem view_onObject {j : ℕ} {f : Ctx → Ctx} {a : View.Act}
    (hf : ∀ obj, s.dm j = some obj → (s.ctx j obj).Own (f (s.ctx j obj)))
    (hv : s.view i = some v) (hstep : j = i → View.Step i v a (v.commit (f (v.ctx i)))) :
    ∃ v', (s.onObject j f).view i = some v' ∧
      View.Step i v (if j = i then a else .other) v' := by
  by_cases hij : j = i
  · subst hij
    obtain ⟨obj, hobj, rfl⟩ := exists_obj_of_view hv
    refine ⟨_, view_onObject_self hv (hf obj hobj), ?_⟩
    rw [if_pos rfl]
    exact hstep rfl
  · obtain ⟨lock, hlock, hview⟩ := view_onObject_ne f hf (Ne.symm hij) hv
    rw [if_neg hij]
    exact other_of_view hlock hview

/-- The head of the queue is an event of its own instance. -/
theorem view_dispatched {ret : ℤ} {obj : ScheduleDownload} {ev : DmEvent}
    {rest : List (ℕ × DmEvent)} (hqueue : s.queue = (j, ev) :: rest) (hobj : s.dm j = some obj)
    (hv : s.view i = some v) :
    ∃ v', ((s.dequeued rest).onObject j (handleDmEvent ret ev)).view i = some v' ∧
      View.Step i v (s.act i (.dispatch ret)) v' := by
  obtain ⟨obji, hobji, rfl⟩ := exists_obj_of_view hv
  by_cases hij : j = i
  · subst hij
    obtain rfl := Option.some.inj (hobj.symm.trans hobji)
    have hv' : (s.dequeued rest).view j =
        some ⟨obj, s.transferInProgress, own j rest, own j s.calls, s.deferredInitTimer⟩ :=
      view_of_dm hobj
    refine ⟨_, view_onObject_self hv' (Ctx.Own.handleDmEvent ret ev _), ?_⟩
    simp only [act, hqueue, if_pos]
    exact .dispatch (own_cons_self ev rest)
  · have hv' : (s.dequeued rest).view i =
        some ⟨obji, s.transferInProgress, own i s.queue, own i s.calls, s.deferredInitTimer⟩ := by
      rw [hqueue, own_cons_ne hij]
      exact view_of_dm hobji
    obtain ⟨lock, hlock, hview⟩ :=
      view_onObject_ne (handleDmEvent ret ev) (fun _ _ => Ctx.Own.handleDmEvent ret ev _)
        (Ne.symm hij) hv'
    have hact : s.act i (.dispatch ret) = .other := by simp [act, hqueue, hij]
    rw [hact]
    exact other_of_view hlock hview

/-- A download that has failed is a failure of the instance that has the lock. -/
theorem view_failure {cause : Option ℕ} {st : String} {log : Option String}
    (hfailed : firmwareFailed st = true) (hlock : s.transferInProgress = some j)
    (hv : s.view i = some v) :
    ∃ v', ((s.withDownloads (s.downloadsLeft cause (some st))).onObject j
        (firmwareimageFailure (log.getD ""))).view i = some v' ∧
      View.Step i v (s.act i (.firmwareimage cause (some st) log)) v' := by
  obtain ⟨obj, hobj, rfl⟩ := exists_obj_of_view hv
  have hv' : (s.withDownloads (s.downloadsLeft cause (some st))).view i =
      some ⟨obj, s.transferInProgress, own i s.queue, own i s.calls, s.deferredInitTimer⟩ :=
    view_of_dm hobj
  have hact : s.act i (.firmwareimage cause (some st) log) =
      if j = i then .failure (log.getD "") else .other := by
    simp only [act, hlock, hfailed, if_true]
  have hown : ∀ objk, ((s.withDownloads (s.downloadsLeft cause (some st))).ctx j objk).Own
      (firmwareimageFailure (log.getD "")
        ((s.withDownloads (s.downloadsLeft cause (some st))).ctx j objk)) :=
    fun objk => Ctx.Own.firmwareimageFailure _ hlock
  rw [hact]
  refine view_onObject (fun objk _ => hown objk) hv' ?_
  rintro rfl
  exact .failure hlock

/-- A change of the firmware image that the plugin does not listen to is nothing. -/
theorem act_of_unheard {cause : Option ℕ} {status log : Option String}
    (hnot : s.transferInProgress = none ∨ ∀ st, status = some st →
      firmwareFailed st = false ∧ st ≠ "Validating") :
    s.act i (.firmwareimage cause status log) = .other := by
  rcases hnot with hlock | hquiet
  · simp [act, hlock]
  · cases status with
    | none => cases hl : s.transferInProgress <;> simp [act, hl]
    | some st =>
      obtain ⟨hf, hval⟩ := hquiet st rfl
      cases hl : s.transferInProgress <;> simp [act, hl, hf, hval]

/-- The initialisation that was put off is one of every instance. -/
theorem view_deferredInit (hs : s.WellIndexed) (hboot : s.deferredInitTimer = true)
    (status : ℕ → Option String) (hv : s.view i = some v) :
    ∃ v', (s.deferredInitTimerCb status).view i = some v' ∧
      View.Step i v (.deferredInit (status i)) v' := by
  obtain ⟨obj, hobj, rfl⟩ := exists_obj_of_view hv
  have hi : i ∈ { s with deferredInitTimer := false }.indices :=
    mem_indices.mpr (hs.dm i (by rw [hobj]; rfl))
  have hv' : { s with deferredInitTimer := false }.view i =
      some ⟨obj, s.transferInProgress, own i s.queue, own i s.calls, false⟩ := view_of_dm hobj
  obtain ⟨lock, lock', hlock, hlock', hview⟩ :=
    view_forEachInstance (fun j => Tr069.deferredInit (status j))
      (fun j c => Ctx.Own.deferredInit (status j) c) hi hv'
  have hstep : View.Step i
      ⟨obj, s.transferInProgress, own i s.queue, own i s.calls, s.deferredInitTimer⟩
      (.deferredInit (status i)) _ := .deferredInit hboot hlock hlock'
  exact ⟨_, hview, hstep⟩

/-- **What a step of the plugin is for one instance**: its deletion, or the step
that `act` names. -/
theorem view_step (hs : s.WellIndexed) (h : s.Stepped e t) (hv : s.view i = some v) :
    e = .delInst i ∧ t.view i = none ∨
      ∃ v', t.view i = some v' ∧ View.Step i v (s.act i e) v' := by
  obtain ⟨obj, hobj, rfl⟩ := exists_obj_of_view hv
  cases h with
  | restart reboot =>
    have hdm : (s.restart reboot).dm i = some obj.reload := by
      simp [Plugin.restart, hobj]
    exact Or.inr ⟨_, view_of_dm hdm, .restart⟩
  | added _ _ =>
    have hi := hs.dm i (by rw [hobj]; rfl)
    have hne : s.lastIndex + 1 ≠ i := by omega
    refine Or.inr (other_of_view Iff.rfl ?_)
    simp [view, Plugin.added, Function.update, hne.symm, hobj, own_cons_ne hne, View.withLock]
  | @deleted j _ _ _ =>
    by_cases hij : i = j
    · subst hij
      refine Or.inl ⟨rfl, view_eq_none ?_⟩
      simp [scheduleDownloadDelInst]
    · refine Or.inr (other_of_view Iff.rfl ?_)
      simp [view, scheduleDownloadDelInst, hij, hobj, View.withLock]
  | @startTimer j k objj w _ hboot hobjj hw htimer =>
    refine Or.inr (view_onObject (fun _ _ => Ctx.Own.startTimerCb _ k) hv ?_)
    rintro rfl
    obtain rfl := Option.some.inj (hobjj.symm.trans hobj)
    exact .startTimer hboot hw htimer
  | @endTimer j k objj w _ hboot hobjj hw htimer =>
    refine Or.inr (view_onObject (fun _ _ => Ctx.Own.endTimerCb _ k) hv ?_)
    rintro rfl
    obtain rfl := Option.some.inj (hobjj.symm.trans hobj)
    exact .endTimer hboot hw htimer
  | elapsed _ ms =>
    have hdm : (s.elapse ms).dm i = some { obj with
        timeWindowList := obj.timeWindowList.map (TimeWindow.elapse ms) } := by
      simp [Plugin.elapse, hobj]
    exact Or.inr ⟨_, view_of_dm hdm, .elapse ms⟩
  | dispatched _ hqueue hobjj => exact Or.inr (view_dispatched hqueue hobjj hv)
  | @stale ret j ev rest _ hqueue hobjj =>
    have hij : j ≠ i := by
      rintro rfl
      rw [hobj] at hobjj
      cases hobjj
    simp only [act, hqueue, if_neg hij]
    refine Or.inr (other_of_view Iff.rfl ?_)
    rw [own_cons_ne hij]
    exact view_of_dm hobj
  | failure _ _ hstatus hfailed hlockj hobjj =>
    subst hstatus
    exact Or.inr (view_failure hfailed hlockj hv)
  | @dangling cause status log st j _ _ hstatus hfailed hlockj hobjj =>
    have hij : j ≠ i := by
      rintro rfl
      rw [hobj] at hobjj
      cases hobjj
    rw [show s.act i (.firmwareimage cause status log) = .other by
      simp [act, hstatus, hfailed, hlockj, hij]]
    exact Or.inr (other_of_view Iff.rfl (view_of_dm hobj))
  | @validating cause status log j _ _ hstatus hlockj =>
    have hnot : firmwareFailed "Validating" = false := by decide
    rw [show s.act i (.firmwareimage cause status log) = .save by
      simp [act, hstatus, hlockj, hnot]]
    have hs' : (s.withDownloads (s.downloadsLeft cause status)).WellIndexed :=
      hs.withDownloads cause status
    exact Or.inr (view_save hs' (view_of_dm hobj))
  | unheard _ _ hnot =>
    rw [act_of_unheard hnot]
    exact Or.inr (other_of_view Iff.rfl (view_of_dm hobj))
  | deferredInit _ hboot status => exact Or.inr (view_deferredInit hs hboot status hv)
  | appStop _ => exact Or.inr (view_save hs hv)

theorem dm_eq_none_of_view (h : s.view i = none) : s.dm i = none := Option.map_eq_none_iff.mp h

/-- Across a step there is no instance `i`: it does not get the lock and nothing is run
for it. -/
structure Missing (s t : Plugin) (i : ℕ) : Prop where
  dm : t.dm i = none
  lock : t.transferInProgress = some i → s.transferInProgress = some i
  calls : own i t.calls = own i s.calls

/-- A handler adds no instance. -/
theorem missing_onObject (s : Plugin) (j : ℕ) (f : Ctx → Ctx)
    (hf : ∀ obj, s.dm j = some obj → (s.ctx j obj).Own (f (s.ctx j obj))) (h : s.dm i = none) :
    Missing s (s.onObject j f) i := by
  rw [onObject]
  split
  · exact ⟨h, id, rfl⟩
  · next obj hobj =>
    have hown := hf obj hobj
    have hidx : (f (s.ctx j obj)).index = j := hown.index
    have hij : i ≠ j := by
      rintro rfl
      rw [h] at hobj
      cases hobj
    refine ⟨?_, (hown.lock i hij).mp, ?_⟩
    · simp [commit, hidx, hij, h]
    · simp [commit, hidx, own_map_ne hij.symm]

theorem missing_forEachInstance (s : Plugin) (f : ℕ → Ctx → Ctx)
    (hf : ∀ (j : ℕ) (c : Ctx), c.Own (f j c)) (h : s.dm i = none) :
    Missing s (s.forEachInstance f) i := by
  rw [forEachInstance]
  generalize s.indices = l
  induction l generalizing s with
  | nil => exact ⟨h, id, rfl⟩
  | cons j l ih =>
    have hhead := missing_onObject s j (f j) (fun _ _ => hf j _) h
    have htail := ih _ hhead.dm
    exact ⟨htail.dm, fun hl => hhead.lock (htail.lock hl), htail.calls.trans hhead.calls⟩

theorem missing_transfersSave (s : Plugin) (h : s.dm i = none) : Missing s s.transfersSave i :=
  missing_forEachInstance s _ (fun _ c => Ctx.Own.timewindowSave c) h

/-- Only a request adds an instance, and under the next index. -/
theorem missing_step (h : s.Stepped e t) (hdm : s.dm i = none) :
    Missing s t i ∨ i = s.lastIndex + 1 ∧ ∃ args l,
      timeWindowListOfArgs args.timeWindowList = some l ∧ t = s.added args l := by
  cases h with
  | restart reboot => exact Or.inl ⟨by simp [Plugin.restart, hdm], nofun, rfl⟩
  | @added args l _ hl =>
    by_cases hi : i = s.lastIndex + 1
    · exact Or.inr ⟨hi, args, l, hl, rfl⟩
    · exact Or.inl ⟨by simp [Plugin.added, hi, hdm], id, rfl⟩
  | @deleted j =>
    refine Or.inl ⟨?_, id, rfl⟩
    by_cases hij : i = j
    · simp [scheduleDownloadDelInst, hij]
    · simp [scheduleDownloadDelInst, hij, hdm]
  | startTimer _ _ _ _ _ =>
    exact Or.inl (missing_onObject s _ _ (fun _ _ => Ctx.Own.startTimerCb _ _) hdm)
  | endTimer _ _ _ _ _ =>
    exact Or.inl (missing_onObject s _ _ (fun _ _ => Ctx.Own.endTimerCb _ _) hdm)
  | elapsed _ ms => exact Or.inl ⟨by simp [Plugin.elapse, hdm], id, rfl⟩
  | @dispatched ret j _ ev rest _ _ _ =>
    have hmiss := missing_onObject (s.dequeued rest) j (handleDmEvent ret ev)
      (fun _ _ => Ctx.Own.handleDmEvent _ _ _) hdm
    exact Or.inl ⟨hmiss.dm, hmiss.lock, hmiss.calls⟩
  | stale _ _ _ => exact Or.inl ⟨hdm, id, rfl⟩
  | @failure cause status log _ j _ _ _ _ _ hlock _ =>
    have hmiss := missing_onObject (s.withDownloads (s.downloadsLeft cause status)) j
      (firmwareimageFailure (log.getD "")) (fun _ _ => Ctx.Own.firmwareimageFailure _ hlock) hdm
    exact Or.inl ⟨hmiss.dm, hmiss.lock, hmiss.calls⟩
  | dangling _ _ _ _ _ _ => exact Or.inl ⟨hdm, id, rfl⟩
  | @validating cause status _ _ _ _ _ _ =>
    have hmiss := missing_transfersSave (s.withDownloads (s.downloadsLeft cause status)) hdm
    exact Or.inl ⟨hmiss.dm, hmiss.lock, hmiss.calls⟩
  | unheard _ _ _ => exact Or.inl ⟨hdm, id, rfl⟩
  | deferredInit _ _ status =>
    have hmiss := missing_forEachInstance { s with deferredInitTimer := false } _
      (fun j c => Ctx.Own.deferredInit (status j) c) hdm
    exact Or.inl ⟨hmiss.dm, hmiss.lock, hmiss.calls⟩
  | appStop _ => exact Or.inl (missing_transfersSave s hdm)

/-- **An instance that did not exist is a new one**. -/
theorem view_fresh (hs : s.WellIndexed) (h : s.Stepped e t) (hnew : s.view i = none)
    (hv : t.view i = some v) : View.Fresh i v := by
  rcases missing_step h (dm_eq_none_of_view hnew) with hmiss | ⟨rfl, args, l, hl, rfl⟩
  · rw [view_eq_none hmiss.dm] at hv
    cases hv
  · obtain ⟨obj, hobj, rfl⟩ := exists_obj_of_view hv
    refine ⟨args, l, hl, ?_, ?_, ?_, ?_⟩
    · simpa [Plugin.added] using hobj.symm
    · intro hlock
      have := hs.lock _ hlock
      omega
    · have hq : own (s.lastIndex + 1) s.queue = [] := own_eq_nil fun p hp => by
        have := hs.queue p hp
        omega
      simp [Plugin.added, hq]
    · refine own_eq_nil fun p hp => ?_
      have := hs.calls p hp
      omega

/-- **An invariant of one instance**: what a new instance has and every step of the
instance preserves holds of it in every reachable state. -/
theorem view_invariant {G : Plugin → Event → Prop} {I : View → Prop}
    (hfresh : ∀ v, View.Fresh i v → I v)
    (hstep : ∀ s e v v', G s e → s.view i = some v → View.Step i v (s.act i e) v' → I v → I v')
    (h : Reaches Tr069.step G init s) (hv : s.view i = some v) : I v := by
  have hinit : ∀ v, Plugin.init.view i = some v → I v := fun v hv => by cases hv
  have hinv : ∀ v, s.view i = some v → I v := by
    refine Reaches.invariant_reached (I := fun s => ∀ v, s.view i = some v → I v) .refl
      (fun a e b hreach hI hg he v hv => ?_) h hinit
    have hwell := wellIndexed_of_reaches hreach
    have hst := stepped_of_step he
    cases ha : a.view i with
    | none => exact hfresh v (view_fresh hwell hst ha hv)
    | some u =>
      rcases view_step hwell hst ha with ⟨-, hnone⟩ | ⟨u', hu', hview⟩
      · rw [hnone] at hv
        cases hv
      · rw [hu'] at hv
        cases hv
        exact hstep a e u v hg ha hview (hI u ha)
  exact hinv v hv

/-- **An invariant of the calls of one instance**: what follows from an invariant of the
instance while it exists also holds once it is gone. -/
theorem calls_invariant {G : Plugin → Event → Prop} {I : View → Prop} {C : List Call → Prop}
    (hfresh : ∀ v, View.Fresh i v → I v)
    (hstep : ∀ s e v v', G s e → s.view i = some v → View.Step i v (s.act i e) v' → I v → I v')
    (hcalls : ∀ v, I v → C v.calls) (hnil : C []) (h : Reaches Tr069.step G init s) :
    C (own i s.calls) := by
  have hview : ∀ {s : Plugin} {v : View}, Reaches Tr069.step G init s → s.view i = some v →
      C (own i s.calls) := fun hs hv => by
    have hC := hcalls _ (view_invariant hfresh hstep hs hv)
    obtain ⟨obj, -, rfl⟩ := exists_obj_of_view hv
    exact hC
  induction h with
  | refl => exact hnil
  | @tail a b hrun hlast ih =>
    cases hb : b.view i with
    | some v => exact hview (hrun.tail hlast) hb
    | none =>
      obtain ⟨e, hg, he⟩ := hlast
      have hst := stepped_of_step he
      cases ha : a.view i with
      | none =>
        rcases missing_step hst (dm_eq_none_of_view ha) with hmiss | ⟨rfl, args, l, -, rfl⟩
        · rw [hmiss.calls]
          exact ih
        · exact ih
      | some v =>
        rcases view_step (wellIndexed_of_reaches hrun) hst ha with ⟨rfl, -⟩ | ⟨u, hu, -⟩
        · cases hst
          exact ih
        · rw [hb] at hu
          cases hu

/-! ### What an instance reports -/

/-- The result of instance `i`, as the data model has it. -/
def result (s : Plugin) (i : ℕ) : Option TransferComplete :=
  (s.dm i).map ScheduleDownload.transferComplete

theorem result_eq_view : s.result i = (s.view i).map fun v => v.obj.transferComplete := by
  rw [result, view, Option.map_map]
  rfl

/-- An instance with a result has a view. -/
theorem exists_view_of_result {r : TransferComplete} (h : s.result i = some r) :
    ∃ v, s.view i = some v ∧ v.obj.transferComplete = r := by
  rw [result_eq_view] at h
  exact Option.map_eq_some_iff.mp h

theorem result_of_view (h : s.view i = some v) : s.result i = some v.obj.transferComplete := by
  rw [result_eq_view, h, Option.map_some]

/-- What the step of an instance says about the event. -/
def ActOf (s : Plugin) (i : ℕ) (e : Event) : View.Act → Prop
  | .startTimer k => e = .startTimer i k
  | .endTimer k => e = .endTimer i k
  | .dispatch ev ret => e = .dispatch ret ∧ ∃ rest, s.queue = (i, ev) :: rest
  | .deferredInit st => ∃ status, e = .deferredInit status ∧ status i = st
  | .restart => ∃ reboot, e = .restart reboot
  | _ => True

theorem actOf_act (s : Plugin) (i : ℕ) (e : Event) : s.ActOf i e (s.act i e) := by
  cases e with
  | startTimer j k =>
    rw [act]
    split
    · next h => exact h ▸ rfl
    · trivial
  | endTimer j k =>
    rw [act]
    split
    · next h => exact h ▸ rfl
    · trivial
  | dispatch ret =>
    rw [act]
    split
    · trivial
    · next j ev rest hqueue =>
      split
      · next h => exact ⟨rfl, rest, h ▸ hqueue⟩
      · trivial
  | firmwareimage cause status log =>
    simp only [act]
    split
    · trivial
    · trivial
    · split
      · split <;> trivial
      · split <;> trivial
  | deferredInit status => exact ⟨status, rfl, rfl⟩
  | restart reboot => exact ⟨reboot, rfl⟩
  | _ => trivial

theorem act_eq {a : View.Act} (h : s.act i e = a) : s.ActOf i e a := h ▸ actOf_act s i e

/-- An event that is handled is the next of the queue. -/
theorem act_eq_dispatch {ev : DmEvent} {ret : ℤ} (h : s.act i e = .dispatch ev ret) :
    e = .dispatch ret ∧ ∃ rest, s.queue = (i, ev) :: rest := act_eq h

end Plugin

end Tr069
