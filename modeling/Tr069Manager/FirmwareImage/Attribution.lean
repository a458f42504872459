import Tr069Manager.AcsTransfers.FirmwareDownload
import Tr069Manager.AcsTransfers.TimedOut
import Tr069Manager.ScheduleDownload.Holder

/-!
# Whose download a notification is about

Two parts of the plugin call `Download` of the firmware image and listen to its
notifications: the `ScheduleDownload` transfers, with one subscription and a lock, and the
ACS transfers, with a subscription each. Neither knows of the other, and a notification does
not say which call it is about. A notification of one download is therefore taken by
everybody who listens: by the holder of the lock and by every subscribed ACS transfer.

As long as the device accepts a `Download` only when no other of the plugin is running, and
reports no failure of a foreign download to somebody who listens
(`Tr069.FirmwareClients.OneAtATime`), a notification changes its own transfer alone
(`Tr069.downloads_attributed`): whoever listens has a download running
(`Tr069.FirmwareClients.Listening`), so that it is the one the notification is about.
Nothing in the plugin sees to it. A transfer that is given up when its windows end has
returned the lock while the device goes on, an ACS download looks at no lock at all, and
in both cases the next `Download` is called beside the first
(`Tr069.downloads_not_attributed`).
-/

namespace Tr069

open Runs

/-! ### The two clients of the firmware image -/

/-- The transfer a `Download` has been called for. -/
inductive DownloadOwner where
  | scheduled (i : ℕ)
  | acs (j : ℕ)
  deriving DecidableEq

/-- The `ScheduleDownload` transfers and the ACS transfers, in the one process of the
plugin. -/
structure FirmwareClients where
  plugin : Plugin
  acs : AcsDownloads

/-- What can happen to the two: an event of one of them, a notification of the firmware
image about the download of `cause` – of none of the plugin's, if there is none –, and a
restart. -/
inductive FirmwareEvent where
  | scheduleDownload (e : Event)
  | acsTransfer (e : AcsEvent)
  | notification (cause : Option DownloadOwner) (status bootFailureLog : Option String)
  | restart (reboot : Bool)

/-- The events of the scheduled transfers that concern both clients. -/
def Event.isShared : Event → Bool
  | .firmwareimage _ _ _ => true
  | .restart _ => true
  | _ => false

namespace DownloadOwner

/-- The scheduled transfer that owns the download. -/
def scheduledIndex : Option DownloadOwner → Option ℕ
  | some (.scheduled i) => some i
  | _ => none

/-- The ACS downloads that are left when the firmware image reports `status` for the one of
`cause`. -/
def acsLeft (downloads : List ℕ) : Option DownloadOwner → Option String → List ℕ
  | some (.acs j), status => if status.any firmwareFailed then downloads.erase j else downloads
  | _, _ => downloads

end DownloadOwner

namespace FirmwareClients

/-- The two right after the first start of the plugin. -/
def init : FirmwareClients := ⟨Plugin.init, AcsDownloads.init⟩

/-- The downloads of the plugin that the device has accepted and not yet ended. -/
def outstanding (s : FirmwareClients) : List DownloadOwner :=
  s.plugin.downloads.map .scheduled ++ s.acs.downloads.map .acs

/-- The device has ended the download of `cause`, if `status` is one that does. -/
def ended (s : FirmwareClients) (cause : Option DownloadOwner) (status : Option String) :
    FirmwareClients :=
  ⟨s.plugin.withDownloads (s.plugin.downloadsLeft (DownloadOwner.scheduledIndex cause) status),
    { s.acs with downloads := DownloadOwner.acsLeft s.acs.downloads cause status }⟩

/-- The notification reaches the subscribers: first the scheduled transfers, which have
subscribed first, and then the ACS transfers, if the process is still up. -/
def notify (s : FirmwareClients) (status bootFailureLog : Option String) : FirmwareClients :=
  let plugin := s.plugin.firmwareimageNotification status bootFailureLog
  if plugin.alive then
    match s.acs.firmwareimageNotification status bootFailureLog with
    | (acs, up) => ⟨plugin.withAlive up, acs⟩
  else { s with plugin := plugin }

/-- One step of the two; `none` when the event cannot happen. -/
def step (s : FirmwareClients) : FirmwareEvent → Option FirmwareClients
  | .scheduleDownload e =>
    if e.isShared then none
    else (Tr069.step s.plugin e).map fun plugin => { s with plugin := plugin }
  | .acsTransfer e =>
    if s.plugin.alive then
      (s.acs.step e).map fun r => ⟨s.plugin.withAlive r.2, r.1⟩
    else none
  | .notification cause status bootFailureLog =>
    if cause.all (· ∈ s.outstanding) then
      -- a process that is down hears nothing
      some (if s.plugin.alive then (s.ended cause status).notify status bootFailureLog
        else s.ended cause status)
    else none
  | .restart reboot => some ⟨s.plugin.restart reboot, s.acs.restart reboot⟩

/-! ### What has to hold -/

/-- Event `e` makes the plugin call a `Download` that the device accepts. -/
inductive Downloads (s : FirmwareClients) : FirmwareEvent → Prop where
  | scheduled {i : ℕ} {e : Event} (h : s.plugin.StartsDownload i e) :
      Downloads s (.scheduleDownload e)
  | acs {j : ℕ} {ms : UInt32} {answers : DownloadAnswers} (h : s.acs.Accepts j answers) :
      Downloads s (.acsTransfer (.downloadTimer j ms answers))

/-- The steps that keep the downloads apart: no `Download` is accepted while another one of
the plugin is running, and a failure that none of its downloads has caused is reported to
nobody. -/
structure OneAtATime (s : FirmwareClients) (e : FirmwareEvent) : Prop where
  device : s.Downloads e → s.outstanding = []
  foreign : ∀ status log, e = .notification none status log → status.any firmwareFailed = true →
    s.plugin.transferInProgress = none ∧ s.acs.subscriptions = []

/-- From `s` to `t`, no transfer but the one that has caused the notification is changed. -/
structure Attributed (s t : FirmwareClients) (cause : Option DownloadOwner) : Prop where
  scheduled : ∀ i, cause ≠ some (.scheduled i) → t.plugin.result i = s.plugin.result i
  acs : ∀ j, cause ≠ some (.acs j) → t.acs.acsTransfers j = s.acs.acsTransfers j

/-- Whoever listens to the firmware image has a download running. -/
structure Listening (s : FirmwareClients) : Prop where
  holder : s.plugin.HolderDownloads
  subscribed : s.plugin.alive = true → s.acs.subscriptions ⊆ s.acs.downloads

variable {s t : FirmwareClients} {e : FirmwareEvent} {cause : Option DownloadOwner}
  {status log : Option String}

theorem mem_outstanding_scheduled {i : ℕ} :
    .scheduled i ∈ s.outstanding ↔ i ∈ s.plugin.downloads := by
  simp [outstanding]

theorem mem_outstanding_acs {j : ℕ} : .acs j ∈ s.outstanding ↔ j ∈ s.acs.downloads := by
  simp [outstanding]

theorem length_outstanding :
    s.outstanding.length = s.plugin.downloads.length + s.acs.downloads.length := by
  simp [outstanding]

/-- What a notification is for the scheduled transfers. -/
theorem stepped_of_notification (hup : s.plugin.alive = true)
    (hcause : cause.all (· ∈ s.outstanding)) :
    s.plugin.Stepped (.firmwareimage (DownloadOwner.scheduledIndex cause) status log)
      ((s.ended cause status).plugin.firmwareimageNotification status log) := by
  refine Plugin.firmwareimage_stepped hup ?_
  match cause with
  | none => rfl
  | some (.acs j) => rfl
  | some (.scheduled i) =>
    have hi : i ∈ s.plugin.downloads := mem_outstanding_scheduled.mp (of_decide_eq_true hcause)
    exact decide_eq_true hi

/-- **What a notification can end in**: nobody hears it, the scheduled transfers do not
survive it, or the ACS transfers are told as well. -/
inductive Notified (s : FirmwareClients) (cause : Option DownloadOwner)
    (status log : Option String) : FirmwareClients → Prop where
  | down (hup : s.plugin.alive ≠ true) : Notified s cause status log (s.ended cause status)
  | dangling {p : Plugin} (hup : s.plugin.alive = true)
      (hst : s.plugin.Stepped (.firmwareimage (DownloadOwner.scheduledIndex cause) status log) p)
      (hdead : p.alive ≠ true) : Notified s cause status log ⟨p, (s.ended cause status).acs⟩
  | told {p : Plugin} {a : AcsDownloads} {up : Bool} (hup : s.plugin.alive = true)
      (hst : s.plugin.Stepped (.firmwareimage (DownloadOwner.scheduledIndex cause) status log) p)
      (hup' : p.alive = true)
      (ha : (s.ended cause status).acs.firmwareimageNotification status log = (a, up)) :
      Notified s cause status log ⟨p.withAlive up, a⟩

theorem notified_of_step (h : step s (.notification cause status log) = some t) :
    cause.all (· ∈ s.outstanding) = true ∧ s.Notified cause status log t := by
  simp only [step, Option.ite_none_right_eq_some, Option.some.injEq] at h
  obtain ⟨hcause, rfl⟩ := h
  refine ⟨hcause, ?_⟩
  by_cases hup : s.plugin.alive = true
  · rw [if_pos hup]
    have hst :
        s.plugin.Stepped (.firmwareimage (DownloadOwner.scheduledIndex cause) status log) _ :=
      stepped_of_notification hup hcause
    rw [notify]
    generalize (s.ended cause status).plugin.firmwareimageNotification status log = p at hst ⊢
    by_cases hup' : p.alive = true
    · rw [if_pos hup']
      exact .told hup hst hup' rfl
    · rw [if_neg hup']
      exact .dangling hup hst hup'
  · rw [if_neg hup]
    exact .down hup

/-! ### Who listens has a download running -/

theorem listening_init : init.Listening :=
  ⟨fun _ => nofun, fun _ => List.Subset.refl _⟩

theorem downloads_notification {a a' : AcsDownloads} {up : Bool}
    (h : a.firmwareimageNotification status log = (a', up)) : a'.downloads = a.downloads := by
  unfold AcsDownloads.firmwareimageNotification at h
  split at h
  · have hdown := (AcsDownloads.notifyFailure_spec (log.getD "") a.subscriptions a).1
    rw [h] at hdown
    exact hdown
  · cases h
    rfl

/-- The subscribed ACS transfers after a notification that the process has survived. -/
theorem subscriptions_notification {a a' : AcsDownloads}
    (h : a.firmwareimageNotification status log = (a', true)) :
    a'.subscriptions ⊆ a.subscriptions ∧
      (status.any firmwareFailed = true → a'.subscriptions = []) := by
  unfold AcsDownloads.firmwareimageNotification at h
  split at h
  · obtain ⟨-, -, hsubs⟩ := AcsDownloads.notifyFailure_spec (log.getD "") a.subscriptions a
    rw [h] at hsubs
    refine ⟨fun k hk => (hsubs rfl k hk).1, fun _ => ?_⟩
    exact List.eq_nil_iff_forall_not_mem.mpr fun k hk => (hsubs rfl k hk).2 (hsubs rfl k hk).1
  · next hfailed =>
    cases h
    exact ⟨List.Subset.refl _, fun h => absurd h hfailed⟩

theorem acsLeft_of_not_failed {downloads : List ℕ} (h : status.any firmwareFailed = false) :
    DownloadOwner.acsLeft downloads cause status = downloads := by
  unfold DownloadOwner.acsLeft
  split
  · rw [if_neg (by rw [h]; exact Bool.false_ne_true)]
  · rfl

/-- **One step**: whoever listens after it has a download running, or the process is
down. -/
theorem listening_step (hs : s.Listening) (h : step s e = some t) : t.Listening := by
  cases e with
  | scheduleDownload e =>
    simp only [step, Option.ite_none_left_eq_some, Option.map_eq_some_iff] at h
    obtain ⟨hshared, p, hp, rfl⟩ := h
    have hst := Plugin.stepped_of_step hp
    refine ⟨Plugin.holderDownloads_step hst hs.holder, fun hup => hs.subscribed ?_⟩
    rcases Plugin.alive_of_stepped hst with hup' | ⟨reboot, rfl⟩
    · exact hup'
    · exact absurd rfl hshared
  | acsTransfer e =>
    simp only [step, Option.ite_none_right_eq_some, Option.map_eq_some_iff] at h
    obtain ⟨hup, ⟨a, up⟩, ha, rfl⟩ := h
    refine ⟨fun _ => hs.holder hup, fun _ k hk => ?_⟩
    rcases AcsDownloads.step_cases ha with ⟨j, ms, answers, rfl, -, hdown, hsubs⟩ | ⟨hdown, hsubs⟩
    · change k ∈ a.downloads
      rw [hdown]
      rcases hsubs k hk with hk | rfl
      · exact List.mem_append_left _ (hs.subscribed hup hk)
      · exact List.mem_append_right _ List.mem_cons_self
    · change k ∈ a.downloads
      rw [hdown]
      exact hs.subscribed hup (hsubs hk)
  | notification cause status log =>
    obtain ⟨-, hn⟩ := notified_of_step h
    cases hn with
    | down hup => exact ⟨fun h => absurd h hup, fun h => absurd h hup⟩
    | dangling hup hst hdead =>
      exact ⟨Plugin.holderDownloads_step hst hs.holder, fun h => absurd h hdead⟩
    | @told p a up hup hst hup' ha =>
      have hholder := Plugin.holderDownloads_step hst hs.holder hup'
      refine ⟨fun _ => hholder, fun hup'' => ?_⟩
      obtain rfl : up = true := hup''
      obtain ⟨hsubs, hnone⟩ := subscriptions_notification ha
      change a.subscriptions ⊆ a.downloads
      by_cases hfailed : status.any firmwareFailed = true
      · rw [hnone hfailed]
        exact List.nil_subset _
      · intro k hk
        rw [downloads_notification ha]
        change k ∈ DownloadOwner.acsLeft s.acs.downloads cause status
        rw [acsLeft_of_not_failed (Bool.eq_false_iff.mpr hfailed)]
        exact hs.subscribed hup (hsubs hk)
  | restart reboot =>
    cases h
    exact ⟨fun _ => nofun, fun _ => List.nil_subset _⟩

theorem listening_of_reaches {G : FirmwareClients → FirmwareEvent → Prop}
    (hs : Reaches step G init s) : s.Listening :=
  hs.invariant (fun _ _ _ h _ he => listening_step h he) listening_init

/-! ### One download at a time -/

theorem acsLeft_sublist (downloads : List ℕ) (cause : Option DownloadOwner)
    (status : Option String) :
    (DownloadOwner.acsLeft downloads cause status).Sublist downloads := by
  unfold DownloadOwner.acsLeft
  split
  · split
    · exact List.erase_sublist
    · exact List.Sublist.refl _
  · exact List.Sublist.refl _

/-- A notification starts no scheduled download. -/
theorem downloads_of_stepped {p : Plugin} {c : Option ℕ}
    (hst : s.plugin.Stepped (.firmwareimage c status log) p) :
    p.downloads.Sublist s.plugin.downloads := by
  rcases Plugin.downloads_step hst with h | ⟨i, ⟨-, he, -⟩, -⟩
  · exact h
  · cases he

/-- What is outstanding after a step: no more than before, or one download that the step has
started. -/
theorem length_outstanding_step (h : step s e = some t) :
    t.outstanding.length ≤ s.outstanding.length ∨
      s.Downloads e ∧ t.outstanding.length = s.outstanding.length + 1 := by
  simp only [length_outstanding]
  cases e with
  | scheduleDownload e =>
    simp only [step, Option.ite_none_left_eq_some, Option.map_eq_some_iff] at h
    obtain ⟨-, p, hp, rfl⟩ := h
    change p.downloads.length + _ ≤ _ ∨ _ ∧ p.downloads.length + s.acs.downloads.length = _
    rcases Plugin.downloads_step (Plugin.stepped_of_step hp) with hsub | ⟨i, hi, hnew⟩
    · exact Or.inl (Nat.add_le_add_right hsub.length_le _)
    · refine Or.inr ⟨.scheduled hi, ?_⟩
      rw [hnew, List.length_append, List.length_singleton]
      omega
  | acsTransfer e =>
    simp only [step, Option.ite_none_right_eq_some, Option.map_eq_some_iff] at h
    obtain ⟨-, ⟨a, up⟩, ha, rfl⟩ := h
    change s.plugin.downloads.length + a.downloads.length ≤ _ ∨
      _ ∧ s.plugin.downloads.length + a.downloads.length = _
    rcases AcsDownloads.step_cases ha with ⟨j, ms, answers, rfl, hacc, hdown, -⟩ | ⟨hdown, -⟩
    · refine Or.inr ⟨.acs hacc, ?_⟩
      rw [hdown, List.length_append, List.length_singleton]
      omega
    · exact Or.inl (Nat.add_le_add_left (Nat.le_of_eq (congrArg _ hdown)) _)
  | notification cause status log =>
    left
    obtain ⟨-, hn⟩ := notified_of_step h
    have hacs := (acsLeft_sublist s.acs.downloads cause status).length_le
    cases hn with
    | down _ =>
      exact Nat.add_le_add (s.plugin.downloadsLeft_sublist _ status).length_le hacs
    | dangling _ hst _ => exact Nat.add_le_add (downloads_of_stepped hst).length_le hacs
    | told _ hst _ ha =>
      refine Nat.add_le_add (downloads_of_stepped hst).length_le ?_
      rw [downloads_notification ha]
      exact hacs
  | restart reboot =>
    cases h
    left
    cases reboot
    · exact Nat.le_refl _
    · exact Nat.zero_le _

theorem outstanding_of_reaches (hs : Reaches step OneAtATime init s) :
    s.outstanding.length ≤ 1 := by
  refine hs.invariant (I := fun s => s.outstanding.length ≤ 1) (fun a e b hone hG he => ?_)
    (Nat.zero_le 1)
  rcases length_outstanding_step he with hle | ⟨hdown, hnew⟩
  · exact Nat.le_trans hle hone
  · rw [hnew, hG.device hdown]
    exact Nat.le_refl 1

/-! ### Whose download it is -/

/-- With one download running, a notification about a download of the plugin is about any
that is running. -/
theorem cause_of_outstanding {o : DownloadOwner} (hone : s.outstanding.length ≤ 1)
    (hcause : cause.all (· ∈ s.outstanding) = true) (ho : o ∈ s.outstanding) :
    cause = none ∨ cause = some o := by
  cases cause with
  | none => exact Or.inl rfl
  | some c =>
    right
    have hc : c ∈ s.outstanding := of_decide_eq_true hcause
    generalize s.outstanding = l at hone hc ho
    match l with
    | [] => cases hc
    | [x] => rw [List.mem_singleton.mp hc, List.mem_singleton.mp ho]
    | _ :: _ :: _ => exact absurd hone (by simp)

/-- **A notification changes its own transfer alone**, in a state where whoever listens has a
download running, and one download runs. -/
theorem attributed_of_notification (hs : s.Listening) (hone : s.outstanding.length ≤ 1)
    (hG : s.OneAtATime (.notification cause status log))
    (h : step s (.notification cause status log) = some t) : s.Attributed t cause := by
  obtain ⟨hcause, hn⟩ := notified_of_step h
  -- a listener that is told of a failure is the one that has caused it
  have hown : ∀ o, o ∈ s.outstanding → status.any firmwareFailed = true →
      (cause = none → False) → cause = some o := fun o ho _ hsome =>
    (cause_of_outstanding hone hcause ho).resolve_left hsome
  have hscheduled : ∀ i, cause ≠ some (.scheduled i) → s.plugin.alive = true →
      s.plugin.transferInProgress ≠ some i ∨ status.any firmwareFailed = false := by
    intro i hi hup
    by_cases hfailed : status.any firmwareFailed = true
    · left
      intro hlock
      refine hi (hown _ (mem_outstanding_scheduled.mpr (hs.holder hup i hlock)) hfailed ?_)
      rintro rfl
      rw [(hG.foreign status log rfl hfailed).1] at hlock
      cases hlock
    · exact Or.inr (Bool.eq_false_iff.mpr hfailed)
  have hacs : ∀ j, cause ≠ some (.acs j) → s.plugin.alive = true →
      status.any firmwareFailed = true → j ∉ s.acs.subscriptions := by
    intro j hj hup hfailed hsub
    refine hj (hown _ (mem_outstanding_acs.mpr (hs.subscribed hup hsub)) hfailed ?_)
    rintro rfl
    rw [(hG.foreign status log rfl hfailed).2] at hsub
    cases hsub
  cases hn with
  | down _ => exact ⟨fun _ _ => rfl, fun _ _ => rfl⟩
  | dangling hup hst _ =>
    exact ⟨fun i hi => Plugin.result_notification hst (hscheduled i hi hup), fun _ _ => rfl⟩
  | @told p a up hup hst _ ha =>
    refine ⟨fun i hi => ?_, fun j hj => ?_⟩
    · have h := Plugin.result_notification hst (hscheduled i hi hup)
      exact h
    · change a.acsTransfers j = s.acs.acsTransfers j
      unfold AcsDownloads.firmwareimageNotification at ha
      split at ha
      · next hfailed =>
        have hother := (AcsDownloads.notifyFailure_spec (log.getD "")
          (s.ended cause status).acs.subscriptions (s.ended cause status).acs).2.1 j
          (hacs j hj hup hfailed)
        rw [ha] at hother
        exact hother
      · cases ha
        rfl

end FirmwareClients

/-- **Every notification is about one download, and changes its transfer alone**, in every
run that starts one download at a time: at most one `Download` of the plugin is outstanding,
and a notification leaves every result but that of its cause as it is. -/
theorem downloads_attributed {s : FirmwareClients}
    (hs : Reaches FirmwareClients.step FirmwareClients.OneAtATime FirmwareClients.init s) :
    s.outstanding.length ≤ 1 ∧ ∀ cause status log t,
      s.OneAtATime (.notification cause status log) →
        FirmwareClients.step s (.notification cause status log) = some t → s.Attributed t cause := by
  have hone := FirmwareClients.outstanding_of_reaches hs
  refine ⟨hone, fun cause status log t hG h => ?_⟩
  exact FirmwareClients.attributed_of_notification (FirmwareClients.listening_of_reaches hs) hone
    hG h

/-- A test for `OneAtATime`: whatever may start a download comes only while none is running,
and a foreign notification only while nobody listens. -/
def FirmwareClients.oneAtATime (s : FirmwareClients) : FirmwareEvent → Bool
  | .scheduleDownload (.dispatch _) => s.outstanding.isEmpty
  | .acsTransfer (.downloadTimer _ _ _) => s.outstanding.isEmpty
  | .notification none _ _ => s.plugin.transferInProgress.isNone && s.acs.subscriptions.isEmpty
  | _ => true

theorem FirmwareClients.oneAtATime_sound (s : FirmwareClients) (e : FirmwareEvent)
    (h : s.oneAtATime e = true) : s.OneAtATime e := by
  constructor
  · intro hdown
    cases hdown with
    | scheduled hstart =>
      obtain ⟨-, rfl, -⟩ := hstart
      exact List.isEmpty_iff.mp h
    | acs _ => exact List.isEmpty_iff.mp h
  · rintro status log rfl -
    obtain ⟨hlock, hsubs⟩ := (Bool.and_eq_true _ _).mp h
    exact ⟨Option.isNone_iff_eq_none.mp hlock, List.isEmpty_iff.mp hsubs⟩

/-- A firmware download the ACS has asked for, which is to start at once. -/
def acsDownload (commandKey : String) : List FirmwareEvent :=
  [.acsTransfer (.addInst (newDownload commandKey "Initial")),
    .acsTransfer (.addTransfer ⟨1, true, some fileType1FirmwareUpgradeImage, 0⟩),
    .acsTransfer (.downloadTimer 1 0 ⟨0, 0⟩)]

/-- A scheduled transfer whose one window has opened, and whose download runs. -/
def scheduledDownload : List FirmwareEvent :=
  [.scheduleDownload (.addScheduleDownload (firmwareArgs [immediately 100 200 0])),
    .scheduleDownload (.dispatch 0), .scheduleDownload (.startTimer 1 1),
    .scheduleDownload (.dispatch 0)]

/-- An ACS download fails, and then a scheduled one runs. -/
def oneAfterTheOther : List FirmwareEvent :=
  .scheduleDownload (.deferredInit fun _ => none) :: acsDownload "1234" ++
    .notification (some (.acs 1)) (some "DownloadFailed") (some "(67) Error") :: scheduledDownload

theorem downloads_attributed_oneAfterTheOther :
    ∃ s t, exec FirmwareClients.step FirmwareClients.init oneAfterTheOther = some s ∧
      FirmwareClients.step s (.notification (some (.scheduled 1)) (some "DownloadFailed")
        (some "Protocol not supported")) = some t ∧
      s.outstanding.length ≤ 1 ∧ s.Attributed t (some (.scheduled 1)) ∧
      (t.acs.acsTransfers 1).map AcsTransfer.faultCode = some 9012 ∧
      (t.plugin.result 1).map TransferComplete.faultCode = some 9013 := by
  have hrun : ((exec FirmwareClients.step FirmwareClients.init oneAfterTheOther).bind fun s =>
      FirmwareClients.step s (.notification (some (.scheduled 1)) (some "DownloadFailed")
        (some "Protocol not supported"))).map (fun t =>
          ((t.acs.acsTransfers 1).map AcsTransfer.faultCode,
            (t.plugin.result 1).map TransferComplete.faultCode)) = some (some 9012, some 9013) := by
    decide
  obtain ⟨t, ht, hresults⟩ := Option.map_eq_some_iff.mp hrun
  obtain ⟨s, hs, hlast⟩ := Option.bind_eq_some_iff.mp ht
  obtain ⟨hacs, hscheduled⟩ := Prod.mk.inj hresults
  have hmeets : Meets FirmwareClients.step FirmwareClients.OneAtATime FirmwareClients.init
      oneAfterTheOther := meets_of_checks FirmwareClients.oneAtATime_sound (by decide)
  obtain ⟨hone, hattr⟩ := downloads_attributed (reaches_of_exec hs hmeets)
  have hG := FirmwareClients.oneAtATime_sound s (.notification (some (.scheduled 1))
    (some "DownloadFailed") (some "Protocol not supported")) rfl
  exact ⟨s, t, hs, hlast, hone, hattr _ _ _ t hG hlast, hacs, hscheduled⟩

/-- The window of a scheduled transfer ends while its download is running, and the ACS asks
for a download of its own. -/
def oneBesideTheOther : List FirmwareEvent :=
  .scheduleDownload (.deferredInit fun _ => none) :: scheduledDownload ++
    [.scheduleDownload (.endTimer 1 1), .scheduleDownload (.dispatch 0)] ++ acsDownload "1234"

theorem downloads_not_attributed :
    ¬∀ s, Reaches FirmwareClients.step free FirmwareClients.init s →
      s.outstanding.length ≤ 1 ∧ ∀ cause status log t,
        FirmwareClients.step s (.notification cause status log) = some t →
          s.Attributed t cause := by
  intro hattr
  have hrun : ((exec FirmwareClients.step FirmwareClients.init oneBesideTheOther).bind fun s =>
      (FirmwareClients.step s (.notification (some (.scheduled 1)) (some "DownloadFailed")
        none)).map fun t => ((s.acs.acsTransfers 1).map AcsTransfer.status,
          (t.acs.acsTransfers 1).map AcsTransfer.status)) =
      some (some (some "Applying"), some (some "Finished")) := by
    decide
  obtain ⟨s, hs, hlast⟩ := Option.bind_eq_some_iff.mp hrun
  obtain ⟨t, ht, hstatus⟩ := Option.map_eq_some_iff.mp hlast
  obtain ⟨hbefore, hafter⟩ := Prod.mk.inj hstatus
  -- the failure of the scheduled download ends the ACS transfer
  have hsame := ((hattr s (reaches_of_exec hs (meets_free _ _))).2 _ _ _ t ht).acs 1 (by decide)
  rw [hsame, hbefore] at hafter
  exact absurd hafter (by decide)

end Tr069
