import Tr069Manager.AcsTransfers.TimedTransfers

/-!
# The transfers a daemon finds when it starts

The transfers are persistent, and `DM_ENG_Device_UpDownloadInitialize` goes through them when
the daemon starts. One whose Status says Finished is put off to a timer that reports it, one
that has not started is timed out or started again, and one that is being applied is reported
if it is a firmware image. The loop leaves as soon as it meets a transfer without a Status, a
transfer of another file type that is being applied is passed over, and the timers are started
under names that may be taken.

Which tables lose a transfer is decided by the table, by the clock and by the names of the
daemon's own timers (`Tr069.upDownloadInitialize_recovers_iff`): the timer a transfer is for
(`Tr069.TimedTransfers.startupTimer`) is a function of the transfer, and of two timers
with one name the first is the one that is there.
-/

namespace Tr069

namespace TimedTransfers

variable {dateStringToTime : Option String → ℤ} {amxcTsParse : String → ℤ}
  {now : ObjectPath → ℤ} {bus : StartAnswers} {d d' : TimedTransfers} {name n : String}
  {h : TimerHandler}

/-! ### What the loop does not change -/

/-- Two tables of transfers have the same paths in the same order, with the same CommandKeys. -/
abbrev SameKeys (t u : Table ObjectPath AcsTransfer) : Prop :=
  Table.Agree AcsTransfer.commandKey t u

/-- The transfer a time-out finds is decided by the CommandKeys. -/
theorem SameKeys.first {t u : Table ObjectPath AcsTransfer} (hkeys : SameKeys t u) (key : String) :
    (t.first fun t => t.commandKey = some key).map Prod.fst =
      (u.first fun t => t.commandKey = some key).map Prod.fst :=
  Table.Agree.first hkeys fun k => k = some key

/-- What a transfer is known by: its CommandKey and the id of its subscription. -/
def keyOf (t : AcsTransfer) : Option String × Int32 := (t.commandKey, t.subscriptionId)

/-- From `d` to `d'` only timers change, and parameters of the transfers other than these. -/
structure Keeps (d d' : TimedTransfers) : Prop where
  table : Table.Agree keyOf d'.acsTransfers d.acsTransfers
  subs : d'.transferSubsList = d.transferSubsList
  reported : d'.reported = d.reported

theorem Keeps.sameKeys (hd : Keeps d d') : SameKeys d'.acsTransfers d.acsTransfers :=
  hd.table.comp Prod.fst

theorem Keeps.trans {d'' : TimedTransfers} (hd : Keeps d d') (hd' : Keeps d' d'') : Keeps d d'' :=
  ⟨hd'.table.trans hd.table, hd'.subs.trans hd.subs, hd'.reported.trans hd.reported⟩

/-- Starting a timer. -/
theorem keeps_timers (l : TimerList TimerHandler) : Keeps d { d with timers := l } :=
  ⟨Table.Agree.refl _, rfl, rfl⟩

theorem updateTransferState_spec {set : Bool} {path : ObjectPath} {code : UInt32}
    {faultString : String} {completeTime : Option String} :
    (d.updateTransferState set path code faultString completeTime).timers = d.timers ∧
      Keeps d (d.updateTransferState set path code faultString completeTime) := by
  rw [updateTransferState]
  split
  · exact ⟨rfl, Table.agree_modify fun _ => rfl, rfl, rfl⟩
  · exact ⟨rfl, Table.Agree.refl _, rfl, rfl⟩

variable (d bus) in
theorem handlePendingUpgrade_spec (path : ObjectPath) :
    (d.handlePendingUpgrade bus path).timers = d.timers ∧
      Keeps d (d.handlePendingUpgrade bus path) := by
  rw [handlePendingUpgrade]
  split
  · exact updateTransferState_spec
  · split
    · exact updateTransferState_spec
    · exact updateTransferState_spec

/-! ### The timer a transfer is for -/

section Clock

variable (amxcTsParse : String → ℤ) (now : ObjectPath → ℤ)

/-- The CompleteTime of a transfer has passed. -/
def Expired (e : ObjectPath × AcsTransfer) : Prop :=
  ∃ thenStr, e.2.completeTime = some thenStr ∧ thenStr ≠ "" ∧ amxcTsParse thenStr < now e.1

/-- The timer that the loop starts for a transfer: its name and its callback. -/
def startupTimer (e : ObjectPath × AcsTransfer) : Option (String × TimerHandler) :=
  if e.2.status = some "Initial" then
    match e.2.commandKey, e.2.completeTime with
    | some commandKey, some thenStr =>
      if thenStr ≠ "" then
        if amxcTsParse thenStr < now e.1 then some (commandKey, .transferTimedOut)
        else some (e.1.1, .restartTransfer)
      else none
    | _, _ => none
  else if e.2.status = some "Finished" then some (e.1.1, .transferCompleteEvent)
  else if e.2.status = some "Applying" ∧ e.2.fileType = some firmwareUpgradeImage then
    some (e.1.1, .transferCompleteEvent)
  else none

/-- The callback of the first of some transfers that is for a timer with a name. -/
def claim (es : List (ObjectPath × AcsTransfer)) (name : String) : Option TimerHandler :=
  if name = "" then none
  else (es.findSome? fun e => (startupTimer amxcTsParse now e).filter (·.1 = name)).map Prod.snd

end Clock

/-- **One turn of the loop**: the timer the transfer is for is started. -/
theorem initializeTransfer_spec {key : ObjectPath} {t : AcsTransfer} {status : String}
    (hstatus : t.status = some status)
    (hd : d.initializeTransfer amxcTsParse now bus key t status = some d') :
    Keeps d d' ∧ d'.timers =
      match startupTimer amxcTsParse now (key, t) with
      | none => d.timers
      | some x => (d.timers.cwmpTimerStart (some x.1) 0 0 x.2).1 := by
  rw [initializeTransfer] at hd
  simp only [startupTimer, hstatus, Option.some.injEq]
  by_cases hinit : status = "Initial"
  · rw [if_pos hinit] at hd ⊢
    rcases hck : t.commandKey with _ | commandKey
    · rw [hck] at hd
      obtain rfl := Option.some.inj hd
      exact ⟨keeps_timers _, rfl⟩
    rcases hct : t.completeTime with _ | thenStr
    · rw [hck, hct] at hd
      obtain rfl := Option.some.inj hd
      exact ⟨keeps_timers _, rfl⟩
    rw [hck, hct] at hd
    dsimp only at hd ⊢
    split at hd
    · next hne =>
      rw [if_pos hne]
      split at hd
      · next hlt =>
        obtain rfl := Option.some.inj hd
        rw [if_pos hlt]
        exact ⟨keeps_timers _, rfl⟩
      · next hlt =>
        obtain rfl := Option.some.inj hd
        rw [if_neg hlt]
        exact ⟨keeps_timers _, rfl⟩
    · next hne =>
      obtain rfl := Option.some.inj hd
      rw [if_neg hne]
      exact ⟨keeps_timers _, rfl⟩
  rw [if_neg hinit] at hd ⊢
  by_cases hfin : status = "Finished"
  · rw [if_pos hfin] at hd ⊢
    obtain rfl := Option.some.inj hd
    exact ⟨keeps_timers _, rfl⟩
  rw [if_neg hfin] at hd ⊢
  by_cases happ : status = "Applying"
  · rw [if_pos happ] at hd
    split at hd
    · cases hd
    · next fileType hft =>
      rw [hft]
      split at hd
      · next hfw =>
        obtain rfl := Option.some.inj hd
        obtain ⟨htimers, hkeys⟩ := handlePendingUpgrade_spec bus d key
        rw [if_pos ⟨happ, congrArg some hfw⟩]
        refine ⟨hkeys.trans (keeps_timers _), ?_⟩
        rw [timerStart, htimers]
      · next hfw =>
        obtain rfl := Option.some.inj hd
        rw [if_neg fun hc => hfw (Option.some.inj hc.2)]
        exact ⟨keeps_timers _, rfl⟩
  · rw [if_neg happ] at hd
    obtain rfl := Option.some.inj hd
    rw [if_neg fun hc => happ hc.1]
    exact ⟨keeps_timers _, rfl⟩

/-! ### The loop -/

section Claims

variable {es : List (ObjectPath × AcsTransfer)}

theorem claim_cons (e : ObjectPath × AcsTransfer) :
    claim amxcTsParse now (e :: es) n =
      match startupTimer amxcTsParse now e with
      | none => claim amxcTsParse now es n
      | some x => if n = x.1 ∧ x.1 ≠ "" then some x.2 else claim amxcTsParse now es n := by
  rw [claim, claim, List.findSome?_cons]
  by_cases hn : n = ""
  · subst hn
    cases startupTimer amxcTsParse now e with
    | none => rw [if_pos rfl, if_pos rfl]
    | some x =>
      dsimp only
      rw [if_pos rfl, if_pos rfl, if_neg fun hc => hc.2 hc.1.symm]
  · rw [if_neg hn, if_neg hn]
    cases startupTimer amxcTsParse now e with
    | none => rfl
    | some x =>
      rw [Option.filter_some]
      by_cases hx : x.1 = n
      · rw [if_pos (decide_eq_true hx)]
        dsimp only
        rw [if_pos ⟨hx.symm, hx ▸ hn⟩, Option.map_some]
      · rw [if_neg (by simpa using hx)]
        dsimp only
        rw [if_neg fun hc => hx hc.1.symm]

/-- The first claim of a name comes from one of the transfers. -/
theorem claim_eq_some : claim amxcTsParse now es n = some h ↔
    n ≠ "" ∧ ∃ pre e post, es = pre ++ e :: post ∧
      startupTimer amxcTsParse now e = some (n, h) ∧
      ∀ a ∈ pre, ∀ x, startupTimer amxcTsParse now a = some x → x.1 ≠ n := by
  have hfilter : ∀ e x, (startupTimer amxcTsParse now e).filter (·.1 = n) = some x ↔
      startupTimer amxcTsParse now e = some x ∧ x.1 = n := by
    intro e x
    rw [Option.filter_eq_some_iff, decide_eq_true_iff]
  have hnone : ∀ e, (startupTimer amxcTsParse now e).filter (·.1 = n) = none ↔
      ∀ x, startupTimer amxcTsParse now e = some x → x.1 ≠ n := by
    intro e
    rw [Option.eq_none_iff_forall_ne_some]
    exact forall_congr' fun x => by rw [Ne, hfilter, not_and]
  rw [claim]
  split
  · next hn => exact ⟨fun hc => absurd hc (by simp), fun hc => absurd hn hc.1⟩
  · next hn =>
    rw [Option.map_eq_some_iff]
    constructor
    · rintro ⟨⟨m, h'⟩, hfind, rfl⟩
      obtain ⟨pre, e, post, hsplit, he, hpre⟩ := List.findSome?_eq_some_iff.mp hfind
      obtain ⟨he, hm⟩ := (hfilter e _).mp he
      refine ⟨hn, pre, e, post, hsplit, ?_, fun a ha => (hnone a).mp (hpre a ha)⟩
      rw [he, ← hm]
    · rintro ⟨-, pre, e, post, hsplit, he, hpre⟩
      exact ⟨(n, h), List.findSome?_eq_some_iff.mpr ⟨pre, e, post, hsplit,
        (hfilter e _).mpr ⟨he, rfl⟩, fun a ha => (hnone a).mpr (hpre a ha)⟩, rfl⟩

end Claims

/-! ### Which timers are claimed -/

section StartupTimer

variable {e : ObjectPath × AcsTransfer}

theorem startupTimer_timedOut_iff :
    startupTimer amxcTsParse now e = some (n, .transferTimedOut) ↔
      e.2.status = some "Initial" ∧ e.2.commandKey = some n ∧ Expired amxcTsParse now e := by
  rw [startupTimer]
  by_cases hinit : e.2.status = some "Initial"
  · rw [if_pos hinit]
    rcases hck : e.2.commandKey with _ | commandKey
    · simp
    rcases hct : e.2.completeTime with _ | thenStr
    · simp [Expired, hct]
    by_cases hne : thenStr = ""
    · simp [Expired, hct, hne]
    by_cases hlt : amxcTsParse thenStr < now e.1
    · simp [Expired, hct, hne, hlt, hinit]
    · simp [Expired, hct, hne, hlt]
  · rw [if_neg hinit]
    by_cases hfin : e.2.status = some "Finished"
    · simp [hfin]
    · rw [if_neg hfin]
      split <;> simp [hinit]

theorem startupTimer_restart_iff :
    startupTimer amxcTsParse now e = some (n, .restartTransfer) ↔
      e.2.status = some "Initial" ∧ n = e.1.1 ∧ e.2.commandKey ≠ none ∧
        e.2.completeTime ≠ none ∧ e.2.completeTime ≠ some "" ∧ ¬Expired amxcTsParse now e := by
  rw [startupTimer]
  by_cases hinit : e.2.status = some "Initial"
  · rw [if_pos hinit]
    rcases hck : e.2.commandKey with _ | commandKey
    · simp
    rcases hct : e.2.completeTime with _ | thenStr
    · simp
    by_cases hne : thenStr = ""
    · simp [hne]
    by_cases hlt : amxcTsParse thenStr < now e.1
    · simp [Expired, hct, hne, hlt]
    · simp [Expired, hct, hne, hlt, hinit, eq_comm]
  · rw [if_neg hinit]
    by_cases hfin : e.2.status = some "Finished"
    · simp [hfin]
    · rw [if_neg hfin]
      split <;> simp [hinit]

theorem startupTimer_complete_iff :
    startupTimer amxcTsParse now e = some (n, .transferCompleteEvent) ↔ n = e.1.1 ∧
      (e.2.status = some "Finished" ∨
        e.2.status = some "Applying" ∧ e.2.fileType = some firmwareUpgradeImage) := by
  rw [startupTimer]
  by_cases hinit : e.2.status = some "Initial"
  · rw [if_pos hinit, hinit]
    split
    · split
      · split <;> simp
      · simp
    · simp
  · rw [if_neg hinit]
    by_cases hfin : e.2.status = some "Finished"
    · simp [hfin, eq_comm]
    · rw [if_neg hfin]
      split
      · next happ => simp [happ, eq_comm]
      · next happ => simp [hfin, happ]

theorem startupTimer_ne_daemon : startupTimer amxcTsParse now e ≠ some (n, .daemon) := by
  rw [startupTimer]
  split
  · split
    · split
      · split <;> simp
      · simp
    · simp
  · split
    · simp
    · split <;> simp

/-- Only a transfer with a Status is for a timer. -/
theorem status_of_startupTimer {x : String × TimerHandler}
    (hx : startupTimer amxcTsParse now e = some x) : e.2.status ≠ none := by
  obtain ⟨m, h⟩ := x
  cases h with
  | transferTimedOut => simp [(startupTimer_timedOut_iff.mp hx).1]
  | restartTransfer => simp [(startupTimer_restart_iff.mp hx).1]
  | transferCompleteEvent =>
    rcases (startupTimer_complete_iff.mp hx).2 with hs | ⟨hs, -⟩ <;> simp [hs]
  | daemon => exact absurd hx startupTimer_ne_daemon

end StartupTimer

/-! ### The whole function -/

/-- The transfers the loop gets to: those before the first one without a Status. -/
def readable (es : List (ObjectPath × AcsTransfer)) : List (ObjectPath × AcsTransfer) :=
  es.takeWhile (·.2.status.isSome)

/-- **What the loop does**: a timer that was there stays, and a name that was free goes to the
first transfer that claims it. -/
theorem initializeLoop_spec {es : List (ObjectPath × AcsTransfer)} {ret : Bool}
    (hd : initializeLoop amxcTsParse now bus d es = some (ret, d')) :
    Keeps d d' ∧ ∀ n, d'.timers.handlerOf n =
      (d.timers.handlerOf n).or (claim amxcTsParse now (readable es) n) := by
  induction es generalizing d with
  | nil =>
    rw [initializeLoop] at hd
    obtain ⟨-, rfl⟩ := Prod.mk.inj (Option.some.inj hd)
    refine ⟨keeps_timers _, fun n => ?_⟩
    simp [readable, claim]
  | cons e es ih =>
    obtain ⟨key, t⟩ := e
    rw [initializeLoop] at hd
    rcases hstatus : t.status with _ | status
    · rw [hstatus] at hd
      obtain ⟨-, rfl⟩ := Prod.mk.inj (Option.some.inj hd)
      refine ⟨keeps_timers _, fun n => ?_⟩
      simp [readable, claim, hstatus]
    · rw [hstatus] at hd
      obtain ⟨d₁, hd₁, hrest⟩ := Option.bind_eq_some_iff.mp hd
      obtain ⟨hkeys, htimers⟩ := initializeTransfer_spec hstatus hd₁
      obtain ⟨hkeys', hhandlers⟩ := ih hrest
      refine ⟨hkeys.trans hkeys', fun n => ?_⟩
      have hreadable : readable ((key, t) :: es) = (key, t) :: readable es := by
        simp [readable, hstatus]
      rw [hhandlers, htimers, hreadable, claim_cons]
      split
      · rfl
      · rw [TimerList.handlerOf_cwmpTimerStart]
        split
        · next hn =>
          rw [hn.1, Option.or_assoc]
          rfl
        · rfl

/-- A name that no transfer claims is left alone. -/
theorem initializeLoop_timerFind {es : List (ObjectPath × AcsTransfer)} {ret : Bool}
    (hd : initializeLoop amxcTsParse now bus d es = some (ret, d'))
    (hclaim : claim amxcTsParse now (readable es) n = none) :
    d'.timers.timerFind n = d.timers.timerFind n := by
  induction es generalizing d with
  | nil =>
    obtain ⟨-, rfl⟩ := Prod.mk.inj (Option.some.inj hd)
    rfl
  | cons e es ih =>
    obtain ⟨key, t⟩ := e
    rw [initializeLoop] at hd
    rcases hstatus : t.status with _ | status
    · rw [hstatus] at hd
      obtain ⟨-, rfl⟩ := Prod.mk.inj (Option.some.inj hd)
      rfl
    · rw [hstatus] at hd
      obtain ⟨d₁, hd₁, hrest⟩ := Option.bind_eq_some_iff.mp hd
      have hreadable : readable ((key, t) :: es) = (key, t) :: readable es := by
        simp [readable, hstatus]
      rw [hreadable, claim_cons] at hclaim
      have htimers := (initializeTransfer_spec hstatus hd₁).2
      split at hclaim
      · next hx =>
        rw [hx] at htimers
        rw [ih hrest hclaim, htimers]
      · next x hx =>
        split at hclaim
        · cases hclaim
        · next hn =>
          rw [hx] at htimers
          rw [ih hrest hclaim, htimers]
          dsimp only
          by_cases hempty : x.1 = ""
          · rw [hempty, TimerList.cwmpTimerStart_emptyName]
          · rw [TimerList.timerFind_cwmpTimerStart hempty, if_neg fun hc => hn ⟨hc, hempty⟩]

/-- The loop comes to an end unless the file type of a transfer that is being applied is
null. -/
theorem initializeLoop_isSome {es : List (ObjectPath × AcsTransfer)}
    (hes : ∀ e ∈ readable es, e.2.status = some "Applying" → e.2.fileType ≠ none) :
    ∃ ret d', initializeLoop amxcTsParse now bus d es = some (ret, d') := by
  induction es generalizing d with
  | nil => exact ⟨true, d, rfl⟩
  | cons e es ih =>
    obtain ⟨key, t⟩ := e
    rw [initializeLoop]
    rcases hstatus : t.status with _ | status
    · exact ⟨false, d, rfl⟩
    · have hreadable : readable ((key, t) :: es) = (key, t) :: readable es := by
        simp [readable, hstatus]
      rw [hreadable] at hes
      obtain ⟨d₁, hd₁⟩ :
          ∃ d₁, d.initializeTransfer amxcTsParse now bus key t status = some d₁ := by
        rw [initializeTransfer]
        split
        · split
          · split
            · split
              · exact ⟨_, rfl⟩
              · exact ⟨_, rfl⟩
            · exact ⟨_, rfl⟩
          · exact ⟨_, rfl⟩
        · split
          · exact ⟨_, rfl⟩
          · split
            · next happ =>
              split
              · next hft => exact absurd hft (hes _ List.mem_cons_self (happ ▸ hstatus))
              · split <;> exact ⟨_, rfl⟩
            · exact ⟨_, rfl⟩
      simp only [hd₁, Option.bind_some]
      exact ih fun a ha => hes a (List.mem_cons_of_mem _ ha)

/-- The loop starts timers that expire once. -/
theorem initializeLoop_oneShot {es : List (ObjectPath × AcsTransfer)} {ret : Bool}
    (hl : OneShot d.timers) (hd : initializeLoop amxcTsParse now bus d es = some (ret, d')) :
    OneShot d'.timers := by
  induction es generalizing d with
  | nil =>
    obtain ⟨-, rfl⟩ := Prod.mk.inj (Option.some.inj hd)
    exact hl
  | cons e es ih =>
    obtain ⟨key, t⟩ := e
    rw [initializeLoop] at hd
    rcases hstatus : t.status with _ | status
    · rw [hstatus] at hd
      obtain ⟨-, rfl⟩ := Prod.mk.inj (Option.some.inj hd)
      exact hl
    · rw [hstatus] at hd
      obtain ⟨d₁, hd₁, hrest⟩ := Option.bind_eq_some_iff.mp hd
      refine ih ?_ hrest
      rw [(initializeTransfer_spec hstatus hd₁).2]
      split
      · exact hl
      · exact hl.cwmpTimerStart _ _ _

/-! ### When every transfer is handled -/

/-- What is to be pending, once the daemon has started, for a transfer with a Status. -/
def HasPendingAction (dateStringToTime : Option String → ℤ) (amxcTsParse : String → ℤ)
    (now : ObjectPath → ℤ) (d : TimedTransfers) (e : ObjectPath × AcsTransfer)
    (status : String) : Prop :=
  (status = "Finished" → d.PendingCompletion e.1) ∧
  (status = "Initial" → Expired amxcTsParse now e → d.PendingTimeOut e.1) ∧
  (status = "Initial" → ¬Expired amxcTsParse now e → d.PendingRestart dateStringToTime e.1) ∧
  (status = "Applying" → d.PendingCompletion e.1 ∨ d.PendingTimeOut e.1) ∧
  (d.PendingCompletion e.1 ∨ d.PendingTimeOut e.1 ∨ d.PendingRestart dateStringToTime e.1)

/-- The daemon has started, and something is pending for every transfer that has a Status. -/
def RecoversAll (dateStringToTime : Option String → ℤ) (amxcTsParse : String → ℤ)
    (now : ObjectPath → ℤ) (d : TimedTransfers) (result : Option (Bool × TimedTransfers)) :
    Prop :=
  ∃ ret d', result = some (ret, d') ∧ ∀ e ∈ d.acsTransfers.entries, ∀ status,
    e.2.status = some status → d'.HasPendingAction dateStringToTime amxcTsParse now e status

/-- A daemon that starts: it has no timer of a transfer. -/
def Starting (d : TimedTransfers) : Prop :=
  ∀ n h, d.timers.handlerOf n = some h → h = .daemon

/-- The transfer is for a timer, whose name is not empty and not taken by the daemon; and if
it is started again, so is its CommandKey. -/
def Handled (amxcTsParse : String → ℤ) (now : ObjectPath → ℤ) (d : TimedTransfers)
    (e : ObjectPath × AcsTransfer) : Prop :=
  ∃ x, startupTimer amxcTsParse now e = some x ∧ x.1 ≠ "" ∧ d.timers.handlerOf x.1 = none ∧
    (x.2 = .restartTransfer → ∀ key, e.2.commandKey = some key →
      key ≠ "" ∧ d.timers.handlerOf key = none)

/-- Two transfers, the first of which stands before the other, are not in each other's way:
if the second has a Status, so has the first; they have different CommandKeys if the second is
Initial; and the timers they are for have different names, none of which is the CommandKey
under which the other one will be timed out when it has been started again. -/
structure Apart (amxcTsParse : String → ℤ) (now : ObjectPath → ℤ)
    (a b : ObjectPath × AcsTransfer) : Prop where
  status : b.2.status ≠ none → a.2.status ≠ none
  commandKey : b.2.status = some "Initial" → a.2.commandKey ≠ b.2.commandKey
  timers : ∀ x y, startupTimer amxcTsParse now a = some x →
    startupTimer amxcTsParse now b = some y →
    x.1 ≠ y.1 ∧ (x.2 = .restartTransfer → a.2.commandKey ≠ some y.1) ∧
      (y.2 = .restartTransfer → b.2.commandKey ≠ some x.1)

/-- **The tables from which no transfer is lost**: the bus answers the read, unless there is
nothing to read; every transfer with a Status is for a timer that can be started; and no two
transfers are in each other's way. -/
structure Recoverable (amxcTsParse : String → ℤ) (now : ObjectPath → ℤ) (d : TimedTransfers)
    (bus : StartAnswers) : Prop where
  getAll : bus.getAll = true ∨ ∀ e ∈ d.acsTransfers.entries, e.2.status = none
  handled : ∀ e ∈ d.acsTransfers.entries, e.2.status ≠ none → d.Handled amxcTsParse now e
  apart : d.acsTransfers.entries.Pairwise (Apart amxcTsParse now)

/-! ### Every transfer is handled -/

section Recovers

variable {e : ObjectPath × AcsTransfer} {pre post : List (ObjectPath × AcsTransfer)}

/-- If every transfer before one has a Status, the loop gets to it. -/
theorem readable_split (hpre : ∀ a ∈ pre, a.2.status ≠ none) (he : e.2.status ≠ none) :
    readable (pre ++ e :: post) = pre ++ e :: readable post := by
  have hhead : readable (e :: post) = e :: readable post :=
    List.takeWhile_cons_of_pos (Option.isSome_iff_ne_none.mpr he)
  rw [← hhead, readable, List.takeWhile_append_of_pos fun a ha =>
    Option.isSome_iff_ne_none.mpr (hpre a ha)]
  rfl

theorem apart_of_mem (hapart : (pre ++ e :: post).Pairwise (Apart amxcTsParse now)) :
    ∀ a ∈ pre, Apart amxcTsParse now a e := fun a ha =>
  (List.pairwise_append.mp hapart).2.2 a ha e List.mem_cons_self

/-- A transfer that no other one is in the way of claims its own timer. -/
theorem claim_own {x : String × TimerHandler}
    (hapart : (pre ++ e :: post).Pairwise (Apart amxcTsParse now))
    (hx : startupTimer amxcTsParse now e = some x) (hne : x.1 ≠ "") :
    claim amxcTsParse now (readable (pre ++ e :: post)) x.1 = some x.2 := by
  have he := status_of_startupTimer hx
  rw [readable_split (fun a ha => (apart_of_mem hapart a ha).status he) he]
  exact claim_eq_some.mpr ⟨hne, pre, e, _, rfl, hx, fun a ha y hy =>
    ((apart_of_mem hapart a ha).timers y x hy hx).1⟩

/-- The CommandKey of a transfer that is started again is free. -/
theorem claim_of_restart {key : String}
    (hapart : (pre ++ e :: post).Pairwise (Apart amxcTsParse now))
    (hx : startupTimer amxcTsParse now e = some (n, .restartTransfer))
    (hkey : e.2.commandKey = some key) (hne : key ≠ n) :
    claim amxcTsParse now (readable (pre ++ e :: post)) key = none := by
  refine Option.eq_none_iff_forall_ne_some.mpr fun h hclaim => ?_
  obtain ⟨-, pre', b, post', hsplit, hb, -⟩ := claim_eq_some.mp hclaim
  have hmem : b ∈ pre ++ e :: post :=
    (List.takeWhile_sublist _).subset (hsplit ▸ List.mem_append_right _ List.mem_cons_self)
  rcases List.mem_append.mp hmem with hpre | hpost
  · exact ((apart_of_mem hapart b hpre).timers _ _ hb hx).2.2 rfl hkey
  · rcases List.mem_cons.mp hpost with rfl | hpost
    · rw [hx] at hb
      exact hne (congrArg Prod.fst (Option.some.inj hb)).symm
    · have hab := (List.pairwise_cons.mp (List.pairwise_append.mp hapart).2.1).1 b hpost
      exact (hab.timers _ _ hx hb).2.1 rfl hkey

/-- The first transfer with the CommandKey of one that is Initial is that one. -/
theorem first_own {t : Table ObjectPath AcsTransfer} {key : String}
    (ht : t.entries = pre ++ e :: post)
    (hapart : (pre ++ e :: post).Pairwise (Apart amxcTsParse now))
    (hinit : e.2.status = some "Initial") (hkey : e.2.commandKey = some key) :
    t.first (fun t => t.commandKey = some key) = some e := by
  refine List.find?_eq_some_iff_append.mpr ⟨decide_eq_true hkey, pre, post, ht, fun a ha => ?_⟩
  have hne := (apart_of_mem hapart a ha).commandKey hinit
  rw [hkey] at hne
  simpa using hne

/-- What a restart leaves, when the bus takes all of it: the time-out is started. -/
theorem restartTransfer_spec (path : ObjectPath) {t : AcsTransfer} {uid : Int32}
    (ht : d.acsTransfers.find path = some t) :
    SameKeys (d.restartTransfer true ⟨none, true, some uid, true⟩ path).acsTransfers
        d.acsTransfers ∧
      (d.restartTransfer true ⟨none, true, some uid, true⟩ path).timers =
        (d.timers.cwmpTimerStart t.commandKey 3600 0 .transferTimedOut).1 := by
  rw [restartTransfer, if_pos rfl, ht]
  exact ⟨Table.agree_modify fun _ => rfl, rfl⟩

/-- The callback of the timer of a restart. -/
theorem timerTimeoutHandler_restart {bus : TimerAnswers} {path : ObjectPath}
    {i : TimerListItem TimerHandler} (hi : d.timers.timerFind path.1 = some i)
    (hh : i.handler = .restartTransfer) :
    d.timerTimeoutHandler dateStringToTime bus path.1 =
      { d with timers := d.timers.expired i }.restartTransfer bus.get bus.restart path := by
  have hpath : objectPath? path.1 = some path := by rw [objectPath?, dif_pos path.2]
  simp only [timerTimeoutHandler, hi, hpath, hh]

/-- The transfer found first under a CommandKey has it. -/
theorem commandKey_of_first {t : Table ObjectPath AcsTransfer} {key : String} {path : ObjectPath}
    {x : AcsTransfer} (hx : t.find path = some x)
    (hfirst : (t.first fun t => t.commandKey = some key).map Prod.fst = some path) :
    x.commandKey = some key := by
  obtain ⟨y, hy, rfl⟩ := Option.map_eq_some_iff.mp hfirst
  obtain ⟨hfind, hkey⟩ := Table.find_of_first hy
  obtain rfl := Option.some.inj (hfind.symm.trans hx)
  exact of_decide_eq_true hkey

/-- **What a pending restart is**: its timer is there, and the CommandKey is free for the
time-out, which will find the transfer. -/
theorem pendingRestart_iff {path : ObjectPath} {t : AcsTransfer} (hl : OneShot d.timers)
    (ht : d.acsTransfers.find path = some t) :
    d.PendingRestart dateStringToTime path ↔
      d.timers.handlerOf path.1 = some .restartTransfer ∧ ∃ key, t.commandKey = some key ∧
        key ≠ "" ∧ (d.acsTransfers.first fun t => t.commandKey = some key).map Prod.fst =
          some path ∧
        (key = path.1 ∨ ∀ h, d.timers.handlerOf key = some h → h = .transferTimedOut) := by
  rw [PendingRestart]
  refine and_congr_right fun hrestart => ?_
  obtain ⟨i, hi, hh⟩ := Option.map_eq_some_iff.mp hrestart
  have hexpired : ∀ n, (d.timers.expired i).handlerOf n =
      if n = path.1 then none else d.timers.handlerOf n := fun n =>
    handlerOf_expired hl hi (hh ▸ by decide)
  -- the state the callback of the restart leaves
  have hafter : ∀ uid, SameKeys (d.timerTimeoutHandler dateStringToTime
        ⟨⟨true, true, true⟩, ⟨none, true, some uid, true⟩⟩ path.1).acsTransfers d.acsTransfers ∧
      (d.timerTimeoutHandler dateStringToTime
        ⟨⟨true, true, true⟩, ⟨none, true, some uid, true⟩⟩ path.1).timers =
          ((d.timers.expired i).cwmpTimerStart t.commandKey 3600 0 .transferTimedOut).1 := by
    intro uid
    rw [timerTimeoutHandler_restart hi hh]
    exact restartTransfer_spec (d := { d with timers := d.timers.expired i }) path ht
  constructor
  · intro hpending
    obtain ⟨key, htimer, hfirst⟩ := hpending 0
    rw [(hafter 0).1.first] at hfirst
    have hkey := commandKey_of_first ht hfirst
    rw [(hafter 0).2, hkey, TimerList.handlerOf_cwmpTimerStart] at htimer
    by_cases hne : key = ""
    · subst hne
      rw [if_neg fun h => h.2 rfl, TimerList.handlerOf_emptyName] at htimer
      cases htimer
    refine ⟨key, hkey, hne, hfirst, ?_⟩
    rw [if_pos ⟨rfl, hne⟩, hexpired] at htimer
    by_cases hpath : key = path.1
    · exact Or.inl hpath
    · refine Or.inr fun h hk => ?_
      rw [if_neg hpath, hk] at htimer
      exact Option.some.inj htimer
  · rintro ⟨key, hkey, hne, hfirst, hfree⟩ uid
    refine ⟨key, ?_, (hafter uid).1.first key ▸ hfirst⟩
    rw [(hafter uid).2, hkey, TimerList.handlerOf_cwmpTimerStart, if_pos ⟨rfl, hne⟩, hexpired]
    split
    · rfl
    · next hpath =>
      rcases hk : d.timers.handlerOf key with _ | h
      · rfl
      · exact congrArg some ((hfree.resolve_left hpath) h hk)

end Recovers

section Theorem

variable {e : ObjectPath × AcsTransfer} {ret : Bool}

theorem Starting.oneShot (hstart : d.Starting) : OneShot d.timers := by
  intro n i hi hne
  exact absurd (hstart n i.handler (by rw [TimerList.handlerOf, hi, Option.map_some])) hne

/-- What the whole function leaves when the bus answers. -/
structure Initialized (amxcTsParse : String → ℤ) (now : ObjectPath → ℤ) (d d' : TimedTransfers) :
    Prop where
  keeps : Keeps { d with transferSubsList := [] } d'
  oneShot : OneShot d'.timers
  handlerOf : ∀ n, d'.timers.handlerOf n =
    (d.timers.handlerOf n).or (claim amxcTsParse now (readable d.acsTransfers.entries) n)
  timerFind : ∀ n, claim amxcTsParse now (readable d.acsTransfers.entries) n = none →
    d'.timers.timerFind n = d.timers.timerFind n

theorem Initialized.sameKeys (hi : Initialized amxcTsParse now d d') :
    SameKeys d'.acsTransfers d.acsTransfers := hi.keeps.sameKeys

theorem initialized (hstart : d.Starting) (hall : bus.getAll = true)
    (hd : d.upDownloadInitialize amxcTsParse now bus = some (ret, d')) :
    Initialized amxcTsParse now d d' := by
  rw [upDownloadInitialize, if_pos hall] at hd
  obtain ⟨hkeys, hhandlers⟩ := initializeLoop_spec hd
  have hl : OneShot ({ d with transferSubsList := [] } : TimedTransfers).timers := hstart.oneShot
  refine ⟨hkeys, initializeLoop_oneShot hl hd, hhandlers, fun n hn => ?_⟩
  exact initializeLoop_timerFind (d := { d with transferSubsList := [] }) hd hn

theorem commandKey_of_initialized (hinit : Initialized amxcTsParse now d d')
    (he : e ∈ d.acsTransfers.entries) :
    ∃ t, d'.acsTransfers.find e.1 = some t ∧ t.commandKey = e.2.commandKey := by
  have hfind := Table.Agree.find hinit.sameKeys e.1
  rw [Table.find_eq_some.mpr he, Option.map_some] at hfind
  exact Option.map_eq_some_iff.mp hfind

/-- If no transfer has a Status, nothing is to be pending. -/
theorem recoversAll_of_none (hnone : ∀ e ∈ d.acsTransfers.entries, e.2.status = none) :
    d.RecoversAll dateStringToTime amxcTsParse now
      (d.upDownloadInitialize amxcTsParse now bus) := by
  have hreadable : readable d.acsTransfers.entries = [] := by
    rcases hes : d.acsTransfers.entries with _ | ⟨e, es⟩
    · rfl
    · have he := hnone e (hes ▸ List.mem_cons_self)
      exact List.takeWhile_cons_of_neg (by simp [he])
  obtain ⟨ret, d', hd'⟩ :
      ∃ ret d', d.upDownloadInitialize amxcTsParse now bus = some (ret, d') := by
    rw [upDownloadInitialize]
    split
    · refine initializeLoop_isSome fun e he => ?_
      rw [hreadable] at he
      exact absurd he List.not_mem_nil
    · exact ⟨_, _, rfl⟩
  exact ⟨ret, d', hd', fun e he status hs => absurd ((hnone e he).symm.trans hs) (by simp)⟩

/-- A transfer with a Status that can be handled has a file type, if it is being applied. -/
theorem upDownloadInitialize_isSome (hall : bus.getAll = true)
    (hrec : d.Recoverable amxcTsParse now bus) :
    ∃ ret d', d.upDownloadInitialize amxcTsParse now bus = some (ret, d') := by
  rw [upDownloadInitialize, if_pos hall]
  refine initializeLoop_isSome fun e he happ hft => ?_
  obtain ⟨x, hx, -⟩ := hrec.handled e ((List.takeWhile_sublist _).subset he) (by rw [happ]; simp)
  simp [startupTimer, happ, hft] at hx

/-- The timer of a transfer is what is pending for it. -/
theorem Recoverable.hasPendingAction (hrec : d.Recoverable amxcTsParse now bus)
    (hi : Initialized amxcTsParse now d d') (he : e ∈ d.acsTransfers.entries) {status : String}
    (hstatus : e.2.status = some status) :
    d'.HasPendingAction dateStringToTime amxcTsParse now e status := by
  obtain ⟨x, hx, hne, hfree, hrestart⟩ := hrec.handled e he (by rw [hstatus]; simp)
  obtain ⟨pre, post, hsplit⟩ := List.append_of_mem he
  have hapart := hsplit ▸ hrec.apart
  have hown : d'.timers.handlerOf x.1 = some x.2 := by
    rw [hi.handlerOf, hfree, Option.none_or, hsplit]
    exact claim_own hapart hx hne
  have hfirst : ∀ key, e.2.status = some "Initial" → e.2.commandKey = some key →
      (d'.acsTransfers.first fun t => t.commandKey = some key).map Prod.fst = some e.1 := by
    intro key hinit hkey
    rw [hi.sameKeys.first, first_own hsplit hapart hinit hkey, Option.map_some]
  -- the timer the transfer is for says which of the three is pending
  obtain ⟨m, h⟩ := x
  cases h with
  | transferTimedOut =>
    obtain ⟨hinit, hkey, hexp⟩ := startupTimer_timedOut_iff.mp hx
    obtain rfl := Option.some.inj (hstatus.symm.trans hinit)
    have htimed : d'.PendingTimeOut e.1 := ⟨m, hown, hfirst m hinit hkey⟩
    exact ⟨fun h => absurd h (by decide), fun _ _ => htimed, fun _ hn => absurd hexp hn,
      fun h => absurd h (by decide), Or.inr (Or.inl htimed)⟩
  | restartTransfer =>
    obtain ⟨hinit, rfl, hkey, -, -, hexp⟩ := startupTimer_restart_iff.mp hx
    obtain rfl := Option.some.inj (hstatus.symm.trans hinit)
    obtain ⟨key, hkey⟩ := Option.ne_none_iff_exists'.mp hkey
    obtain ⟨hkeyne, hkeyfree⟩ := hrestart rfl key hkey
    obtain ⟨t, ht, htkey⟩ := commandKey_of_initialized hi he
    have hpending : d'.PendingRestart dateStringToTime e.1 := by
      refine (pendingRestart_iff hi.oneShot ht).mpr ⟨hown, key, htkey.trans hkey, hkeyne,
        hfirst key hinit hkey, ?_⟩
      by_cases hpath : key = e.1.1
      · exact Or.inl hpath
      · refine Or.inr fun h hh => ?_
        rw [hi.handlerOf, hkeyfree, Option.none_or, hsplit,
          claim_of_restart hapart hx hkey hpath] at hh
        cases hh
    exact ⟨fun h => absurd h (by decide), fun _ he => absurd he hexp, fun _ _ => hpending,
      fun h => absurd h (by decide), Or.inr (Or.inr hpending)⟩
  | transferCompleteEvent =>
    obtain ⟨rfl, hst⟩ := startupTimer_complete_iff.mp hx
    have hni : status ≠ "Initial" := by
      rintro rfl
      rw [hstatus] at hst
      simp at hst
    exact ⟨fun _ => hown, fun h => absurd h hni, fun h => absurd h hni, fun _ => Or.inl hown,
      Or.inl hown⟩
  | daemon => exact absurd hx startupTimer_ne_daemon

variable (dateStringToTime) in
/-- The first direction: nothing is lost from such a table. -/
theorem recoversAll_of_recoverable (hstart : d.Starting)
    (hrec : d.Recoverable amxcTsParse now bus) :
    d.RecoversAll dateStringToTime amxcTsParse now
      (d.upDownloadInitialize amxcTsParse now bus) := by
  rcases hrec.getAll with hall | hnone
  · obtain ⟨ret, d', hd'⟩ := upDownloadInitialize_isSome hall hrec
    have hi := initialized hstart hall hd'
    exact ⟨ret, d', hd', fun e he status hstatus => hrec.hasPendingAction hi he hstatus⟩
  · exact recoversAll_of_none hnone

/-- A transfer without a Status is in no one's way. -/
theorem apart_of_none {a b : ObjectPath × AcsTransfer} (hb : b.2.status = none) :
    Apart amxcTsParse now a b where
  status h := absurd hb h
  commandKey h := absurd (hb.symm.trans h) (by simp)
  timers x y _ hy := absurd hb (status_of_startupTimer hy)

/-- A timer of a transfer, after the start, has been claimed by one that the loop got to. -/
theorem Initialized.claimed (hi : Initialized amxcTsParse now d d') (hstart : d.Starting)
    (hh : h ≠ .daemon) (hn : d'.timers.handlerOf n = some h) :
    n ≠ "" ∧ d.timers.handlerOf n = none ∧ ∃ pre e post, d.acsTransfers.entries = pre ++ e :: post ∧
      startupTimer amxcTsParse now e = some (n, h) ∧ (∀ a ∈ pre, a.2.status ≠ none) ∧
      ∀ a ∈ pre, ∀ x, startupTimer amxcTsParse now a = some x → x.1 ≠ n := by
  rw [hi.handlerOf] at hn
  rcases hold : d.timers.handlerOf n with _ | h₀
  · rw [hold, Option.none_or] at hn
    obtain ⟨hne, pre, e, post, hsplit, he, hpre⟩ := claim_eq_some.mp hn
    refine ⟨hne, rfl, pre, e, post ++ d.acsTransfers.entries.dropWhile (·.2.status.isSome), ?_, he,
      fun a ha => ?_, hpre⟩
    · rw [← List.cons_append, ← List.append_assoc, ← hsplit]
      exact (List.takeWhile_append_dropWhile).symm
    · have hmem : a ∈ readable d.acsTransfers.entries := hsplit ▸ List.mem_append_left _ ha
      exact Option.isSome_iff_ne_none.mp (List.all_eq_true.mp List.all_takeWhile a hmem)
  · rw [hold, Option.some_or] at hn
    exact absurd ((Option.some.inj hn).symm.trans (hstart n h₀ hold)) hh

/-! ### From what is pending to the table -/

/-- The bus has answered, and something is pending for every transfer that has a Status. -/
structure Recovered (dateStringToTime : Option String → ℤ) (amxcTsParse : String → ℤ)
    (now : ObjectPath → ℤ) (d d' : TimedTransfers) : Prop where
  initialized : Initialized amxcTsParse now d d'
  pending : ∀ e ∈ d.acsTransfers.entries, ∀ status, e.2.status = some status →
    d'.HasPendingAction dateStringToTime amxcTsParse now e status

/-- Entries of the table with one path are one entry. -/
theorem eq_of_path {a b : ObjectPath × AcsTransfer} (ha : a ∈ d.acsTransfers.entries)
    (hb : b ∈ d.acsTransfers.entries) (hpath : a.1 = b.1) : a = b :=
  List.inj_on_of_nodup_map d.acsTransfers.nodup ha hb hpath

/-- A transfer whose time has passed is the first with its CommandKey. -/
theorem Recovered.first_of_expired (hrec : Recovered dateStringToTime amxcTsParse now d d')
    (he : e ∈ d.acsTransfers.entries) (hinit : e.2.status = some "Initial")
    (hpassed : Expired amxcTsParse now e) :
    ∃ key, e.2.commandKey = some key ∧
      (d.acsTransfers.first fun t => t.commandKey = some key).map Prod.fst = some e.1 := by
  obtain ⟨key, -, hfirst⟩ := (hrec.pending e he _ hinit).2.1 rfl hpassed
  rw [hrec.initialized.sameKeys.first] at hfirst
  exact ⟨key, commandKey_of_first (Table.find_eq_some.mpr he) hfirst, hfirst⟩

/-- The time-out that is started for a transfer finds it. -/
theorem Recovered.first_of_timedOut (hrec : Recovered dateStringToTime amxcTsParse now d d')
    (he : e ∈ d.acsTransfers.entries) {key : String}
    (hx : startupTimer amxcTsParse now e = some (key, .transferTimedOut)) :
    (d.acsTransfers.first fun t => t.commandKey = some key).map Prod.fst = some e.1 := by
  obtain ⟨hinit, hkey, hpassed⟩ := startupTimer_timedOut_iff.mp hx
  obtain ⟨key', hkey', hfirst⟩ := hrec.first_of_expired he hinit hpassed
  obtain rfl := Option.some.inj (hkey.symm.trans hkey')
  exact hfirst

/-- A transfer that is started again has its CommandKey free, and is the first with it. -/
theorem Recovered.free_of_restart (hrec : Recovered dateStringToTime amxcTsParse now d d')
    (he : e ∈ d.acsTransfers.entries) (hinit : e.2.status = some "Initial")
    (hnot : ¬Expired amxcTsParse now e) :
    ∃ key, e.2.commandKey = some key ∧ key ≠ "" ∧
      (d.acsTransfers.first fun t => t.commandKey = some key).map Prod.fst = some e.1 ∧
      (key = e.1.1 ∨ ∀ h, d'.timers.handlerOf key = some h → h = .transferTimedOut) := by
  obtain ⟨t, ht, htkey⟩ := commandKey_of_initialized hrec.initialized he
  obtain ⟨-, key, hkey, hne, hfirst, hfree⟩ := (pendingRestart_iff hrec.initialized.oneShot ht).mp
    ((hrec.pending e he _ hinit).2.2.1 rfl hnot)
  rw [hrec.initialized.sameKeys.first] at hfirst
  exact ⟨key, htkey ▸ hkey, hne, hfirst, hfree⟩

/-- What is pending for a transfer is a timer, which only that transfer can be for. -/
theorem Recovered.hits (hrec : Recovered dateStringToTime amxcTsParse now d d')
    (he : e ∈ d.acsTransfers.entries) (hst : e.2.status ≠ none) :
    ∃ n h, h ≠ TimerHandler.daemon ∧ d'.timers.handlerOf n = some h ∧
      ∀ b ∈ d.acsTransfers.entries, startupTimer amxcTsParse now b = some (n, h) → b.1 = e.1 := by
  obtain ⟨status, hstatus⟩ := Option.ne_none_iff_exists'.mp hst
  rcases (hrec.pending e he status hstatus).2.2.2.2 with hc | ⟨key, ht, hfirst⟩ | ⟨hr, -⟩
  · exact ⟨_, _, by decide, hc, fun b _ hx =>
      Subtype.ext (startupTimer_complete_iff.mp hx).1.symm⟩
  · refine ⟨_, _, by decide, ht, fun b hb hx => ?_⟩
    rw [hrec.initialized.sameKeys.first, hrec.first_of_timedOut hb hx] at hfirst
    exact Option.some.inj hfirst
  · exact ⟨_, _, by decide, hr, fun b _ hx =>
      Subtype.ext (startupTimer_restart_iff.mp hx).2.1.symm⟩

/-- Every transfer with a Status has claimed its own timer. -/
theorem Recovered.own (hrec : Recovered dateStringToTime amxcTsParse now d d')
    (hstart : d.Starting) (he : e ∈ d.acsTransfers.entries) (hst : e.2.status ≠ none) :
    ∃ x pre post, d.acsTransfers.entries = pre ++ e :: post ∧
      startupTimer amxcTsParse now e = some x ∧ x.1 ≠ "" ∧ d.timers.handlerOf x.1 = none ∧
      d'.timers.handlerOf x.1 = some x.2 ∧ (∀ a ∈ pre, a.2.status ≠ none) ∧
      ∀ a ∈ pre, ∀ y, startupTimer amxcTsParse now a = some y → y.1 ≠ x.1 := by
  obtain ⟨n, h, hh, hn, hits⟩ := hrec.hits he hst
  obtain ⟨hne, hfree, pre, b, post, hsplit, hb, hread, hpre⟩ :=
    hrec.initialized.claimed hstart hh hn
  have hmem : b ∈ d.acsTransfers.entries := hsplit ▸ List.mem_append_right _ List.mem_cons_self
  obtain rfl := eq_of_path hmem he (hits b hmem hb)
  exact ⟨(n, h), pre, post, hsplit, hb, hne, hfree, hn, hread, hpre⟩

/-- Every transfer with a Status is for a timer that can be started. -/
theorem Recovered.handled (hrec : Recovered dateStringToTime amxcTsParse now d d')
    (hstart : d.Starting) (he : e ∈ d.acsTransfers.entries) (hst : e.2.status ≠ none) :
    d.Handled amxcTsParse now e := by
  obtain ⟨⟨n, h⟩, -, -, -, hx, hne, hfree, -, -, -⟩ := hrec.own hstart he hst
  refine ⟨(n, h), hx, hne, hfree, fun hr key hkey => ?_⟩
  obtain rfl : h = .restartTransfer := hr
  obtain ⟨hinit, rfl, -, -, -, hnot⟩ := startupTimer_restart_iff.mp hx
  obtain ⟨key', hkey', hkeyne, -, hkeyfree⟩ := hrec.free_of_restart he hinit hnot
  obtain rfl := Option.some.inj (hkey.symm.trans hkey')
  refine ⟨hkeyne, ?_⟩
  rcases hkeyfree with rfl | hkeyfree
  · exact hfree
  · refine Option.eq_none_iff_forall_ne_some.mpr fun h hh => ?_
    have htimed := hkeyfree h (by rw [hrec.initialized.handlerOf, hh, Option.some_or])
    rw [hstart key h hh] at htimed
    cases htimed

/-- The timer of another transfer is not the CommandKey of one that is started again. -/
theorem Recovered.commandKey_ne (hrec : Recovered dateStringToTime amxcTsParse now d d')
    (hstart : d.Starting) {a b : ObjectPath × AcsTransfer} (ha : a ∈ d.acsTransfers.entries)
    (hb : b ∈ d.acsTransfers.entries) {x y : String × TimerHandler}
    (hx : startupTimer amxcTsParse now a = some x) (hy : startupTimer amxcTsParse now b = some y)
    (hne : x.1 ≠ y.1) (hr : x.2 = .restartTransfer) : a.2.commandKey ≠ some y.1 := by
  obtain ⟨n, h⟩ := x
  obtain rfl : h = .restartTransfer := hr
  intro hkey
  obtain ⟨hinit, rfl, -, -, -, hnot⟩ := startupTimer_restart_iff.mp hx
  obtain ⟨key, hkey', -, hfirst, hfree⟩ := hrec.free_of_restart ha hinit hnot
  obtain rfl := Option.some.inj (hkey.symm.trans hkey')
  obtain ⟨y', -, -, -, hy', -, -, hhandler, -⟩ := hrec.own hstart hb (status_of_startupTimer hy)
  obtain rfl := Option.some.inj (hy.symm.trans hy')
  have htimed := (hfree.resolve_left (Ne.symm hne)) _ hhandler
  have hfirst' := hrec.first_of_timedOut hb (hy.trans (congrArg some (Prod.ext rfl htimed)))
  obtain rfl := eq_of_path ha hb (Option.some.inj (hfirst.symm.trans hfirst'))
  rw [hx] at hy
  exact hne (congrArg Prod.fst (Option.some.inj hy))

/-- A transfer that is Initial is the first with its CommandKey. -/
theorem Recovered.first_of_initial (hrec : Recovered dateStringToTime amxcTsParse now d d')
    {pre post : List (ObjectPath × AcsTransfer)}
    (hsplit : d.acsTransfers.entries = pre ++ e :: post) (hinit : e.2.status = some "Initial")
    {a : ObjectPath × AcsTransfer} (ha : a ∈ pre) : a.2.commandKey ≠ e.2.commandKey := by
  have he : e ∈ d.acsTransfers.entries := hsplit ▸ List.mem_append_right _ List.mem_cons_self
  obtain ⟨key, hkey, hfirst⟩ : ∃ key, e.2.commandKey = some key ∧
      (d.acsTransfers.first fun t => t.commandKey = some key).map Prod.fst = some e.1 := by
    by_cases hpassed : Expired amxcTsParse now e
    · exact hrec.first_of_expired he hinit hpassed
    · obtain ⟨key, hkey, -, hfirst, -⟩ := hrec.free_of_restart he hinit hpassed
      exact ⟨key, hkey, hfirst⟩
  obtain ⟨c, hc, hce⟩ := Option.map_eq_some_iff.mp hfirst
  obtain ⟨-, as, bs, hsplit', has⟩ := List.find?_eq_some_iff_append.mp hc
  have hcmem : c ∈ d.acsTransfers.entries := hsplit' ▸ List.mem_append_right _ List.mem_cons_self
  obtain rfl := eq_of_path hcmem he hce
  obtain rfl := Table.split_unique hsplit' hsplit
  exact fun hkeys => absurd (hkeys.trans hkey) (by simpa using has a ha)

/-- A transfer and one that stands before it are not in each other's way. -/
theorem Recovered.apart (hrec : Recovered dateStringToTime amxcTsParse now d d')
    (hstart : d.Starting) {pre post : List (ObjectPath × AcsTransfer)}
    (hsplit : d.acsTransfers.entries = pre ++ e :: post) {a : ObjectPath × AcsTransfer}
    (ha : a ∈ pre) : Apart amxcTsParse now a e := by
  have he : e ∈ d.acsTransfers.entries := hsplit ▸ List.mem_append_right _ List.mem_cons_self
  have ha' : a ∈ d.acsTransfers.entries := hsplit ▸ List.mem_append_left _ ha
  by_cases hst : e.2.status = none
  · exact apart_of_none hst
  obtain ⟨y, pre', post', hsplit', hy, -, -, -, hread, hpre⟩ := hrec.own hstart he hst
  obtain rfl := Table.split_unique hsplit' hsplit
  refine ⟨fun _ => hread a ha, fun hinit => hrec.first_of_initial hsplit hinit ha,
    fun x y' hx hy' => ?_⟩
  obtain rfl := Option.some.inj (hy.symm.trans hy')
  have hne := hpre a ha x hx
  exact ⟨hne, hrec.commandKey_ne hstart ha' he hx hy hne,
    hrec.commandKey_ne hstart he ha' hy hx (Ne.symm hne)⟩

/-- Without an answer no timer is started: no transfer may have a Status. -/
theorem none_of_unanswered (hstart : d.Starting) (hall : bus.getAll ≠ true)
    (hrec : d.RecoversAll dateStringToTime amxcTsParse now
      (d.upDownloadInitialize amxcTsParse now bus)) :
    ∀ e ∈ d.acsTransfers.entries, e.2.status = none := by
  obtain ⟨ret, d', hd', hpending⟩ := hrec
  rw [upDownloadInitialize, if_neg hall] at hd'
  obtain ⟨-, rfl⟩ := Prod.mk.inj (Option.some.inj hd')
  refine fun e he => Option.eq_none_iff_forall_ne_some.mpr fun status hstatus => ?_
  rcases (hpending e he status hstatus).2.2.2.2 with hc | ⟨key, ht, -⟩ | ⟨hr, -⟩
  · exact absurd (hstart _ _ hc) (by decide)
  · exact absurd (hstart _ _ ht) (by decide)
  · exact absurd (hstart _ _ hr) (by decide)

/-- The other direction: a table from which nothing is lost is such a table. -/
theorem recoverable_of_recoversAll (hstart : d.Starting)
    (hrec : d.RecoversAll dateStringToTime amxcTsParse now
      (d.upDownloadInitialize amxcTsParse now bus)) :
    d.Recoverable amxcTsParse now bus := by
  by_cases hall : bus.getAll = true
  · obtain ⟨ret, d', hd', hpending⟩ := hrec
    have hrec : Recovered dateStringToTime amxcTsParse now d d' :=
      ⟨initialized hstart hall hd', hpending⟩
    exact ⟨Or.inl hall, fun e he hst => hrec.handled hstart he hst,
      List.pairwise_of_forall_split fun pre b post hsplit a ha => hrec.apart hstart hsplit ha⟩
  · have hnone := none_of_unanswered hstart hall hrec
    exact ⟨Or.inr hnone, fun e he hst => absurd (hnone e he) hst,
      List.pairwise_of_forall_split fun pre b post hsplit a _ => apart_of_none
        (hnone b (hsplit ▸ List.mem_append_right _ List.mem_cons_self))⟩

end Theorem

end TimedTransfers

/-- **When no transfer is forgotten across a restart**: for every table of transfers in every
order, and every way of reading times. -/
theorem upDownloadInitialize_recovers_iff (dateStringToTime : Option String → ℤ)
    (amxcTsParse : String → ℤ) (now : ObjectPath → ℤ) (d : TimedTransfers) (bus : StartAnswers)
    (hstart : d.Starting) :
    d.RecoversAll dateStringToTime amxcTsParse now
        (d.upDownloadInitialize amxcTsParse now bus) ↔
      d.Recoverable amxcTsParse now bus :=
  ⟨TimedTransfers.recoverable_of_recoversAll hstart,
    TimedTransfers.recoversAll_of_recoverable dateStringToTime hstart⟩

/-- A daemon that starts, with the transfers of a table and no timer yet. -/
def startingWith (t : Table ObjectPath AcsTransfer) : TimedTransfers :=
  ⟨t, [], TimerList.empty, []⟩

theorem starting_startingWith (t : Table ObjectPath AcsTransfer) : (startingWith t).Starting := by
  intro n h hn
  rw [TimerList.handlerOf, startingWith, TimerList.timerFind_empty] at hn
  cases hn

/-- The path of the second transfer. -/
def secondTransferPath : ObjectPath :=
  ⟨"ManagementServer.ACSTransfers.ACSTransfer.2.", by decide⟩

/-- A transfer that has not started, and one that has finished. -/
def startedAndFinished : Table ObjectPath AcsTransfer where
  entries := [(transferPath, newDownload "1234" "Initial"),
    (secondTransferPath, newDownload "5678" "Finished")]
  nodup := by decide

theorem upDownloadInitialize_recovers_startedAndFinished :
    (startingWith startedAndFinished).RecoversAll (fun _ => 0) (fun _ => 1) (fun _ => 0)
      ((startingWith startedAndFinished).upDownloadInitialize (fun _ => 1) (fun _ => 0)
        ⟨true, some "Active", true⟩) := by
  refine (upDownloadInitialize_recovers_iff (fun _ => 0) (fun _ => 1) (fun _ => 0) _ _
    (starting_startingWith _)).mpr ⟨Or.inl rfl, fun e he _ => ?_, ?_⟩
  · have hcases : e = (transferPath, newDownload "1234" "Initial") ∨
        e = (secondTransferPath, newDownload "5678" "Finished") := by
      simpa [startingWith, startedAndFinished] using he
    rcases hcases with rfl | rfl
    · refine ⟨(transferPath.1, .restartTransfer), by decide, by decide, by decide, ?_⟩
      rintro - key hkey
      obtain rfl := Option.some.inj hkey
      exact ⟨by decide, by decide⟩
    · exact ⟨(secondTransferPath.1, .transferCompleteEvent), by decide, by decide, by decide,
        fun h => absurd h (by decide)⟩
  · refine List.pairwise_pair.mpr ⟨fun _ => by decide, fun h => absurd h (by decide), ?_⟩
    intro x y hx hy
    have hx' : (transferPath.1, .restartTransfer) = x := Option.some.inj (by rw [← hx]; decide)
    have hy' : (secondTransferPath.1, .transferCompleteEvent) = y :=
      Option.some.inj (by rw [← hy]; decide)
    subst hx' hy'
    exact ⟨by decide, fun _ => by decide, fun h => absurd h (by decide)⟩

/-- A transfer with an empty CommandKey, which has not started. -/
def emptyCommandKey : Table ObjectPath AcsTransfer where
  entries := [(transferPath, newDownload "" "Initial")]
  nodup := List.nodup_singleton _

theorem upDownloadInitialize_forgets_emptyCommandKey :
    ¬∀ (dateStringToTime : Option String → ℤ) (amxcTsParse : String → ℤ) (now : ObjectPath → ℤ)
      (d : TimedTransfers) (firmwareImage : Option String), d.Starting →
      d.RecoversAll dateStringToTime amxcTsParse now
        (d.upDownloadInitialize amxcTsParse now ⟨true, firmwareImage, true⟩) := by
  intro hall
  have hrec := TimedTransfers.recoverable_of_recoversAll (starting_startingWith emptyCommandKey)
    (hall (fun _ => 0) (fun _ => 0) (fun _ => 1) (startingWith emptyCommandKey) none
      (starting_startingWith _))
  obtain ⟨x, hx, hne, -⟩ := hrec.handled (transferPath, newDownload "" "Initial")
    List.mem_cons_self (by decide)
  have hx' : ("", .transferTimedOut) = x := Option.some.inj (by rw [← hx]; decide)
  exact hne (hx' ▸ rfl)

end Tr069
