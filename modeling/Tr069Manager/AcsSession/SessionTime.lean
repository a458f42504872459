import Tr069Manager.AcsSession.Client
import Tr069Manager.Lib.MachineInt

/-!
# How long a session may last

`client_startSession` starts the timer of the session, and every message that is sent starts it
again (`DM_SendHttpMessage`), both with `session_timeout` of `dmmain/cwmpd_client.c`. The variable
is static, and the configured `SessionTimeout` is read into it only if it is not zero – which it is
until the first session of the daemon has been started. So the first session lasts 45 seconds,
whatever is configured, and all later ones what is configured when they start
(`honouredAfter_iff`).

What earlier sessions leave behind is whether the variable is zero, and no more than this plays a
part: `CwmpClient.sessionTimeout_ne_zero_iff` says when it is not, for any history. The parameter
is an unsigned number of 32 bits, and `atoi` makes an `int` of its text; a number that an `int`
cannot hold is never what the timer is started with (`read_eq_configuredSeconds`).
-/

namespace Tr069

namespace CwmpClient

/-! ### The timer -/

/-- What an event starts the timer of the session with, if it does. -/
def timerStart (s : CwmpClient) : ClientEvent → Option Int32
  | .startSession start => if start.acsIp then some (s.readSessionTimeout start) else none
  | .send _ connects =>
    if s.acsServerHost ≠ none ∧ connects = true then some s.sessionTimeout else none
  | .authRetry connects =>
    if s.pendingMsg ≠ none ∧ s.acsServerHost ≠ none ∧ connects = true then some s.sessionTimeout
    else none
  | _ => none

/-- What the timer of the session is started with, one after the other, while these events happen;
after one that is not possible nothing happens. -/
def timerStarts (lib : ClientLibrary) : CwmpClient → List ClientEvent → List Int32
  | _, [] => []
  | s, e :: es =>
    (s.timerStart e).toList ++
      match s.step lib e with
      | some t => timerStarts lib t es
      | none => []

/-- An event that starts a session: there is an address. -/
def StartsSession (e : ClientEvent) : Prop := ∃ start, e = .startSession start ∧ start.acsIp = true

variable {lib : ClientLibrary} {s t : CwmpClient} {e : ClientEvent}

theorem connectViaInfo_sessionTimeout {connects : Bool} :
    (s.connectViaInfo connects).sessionTimeout = s.sessionTimeout := by
  rw [connectViaInfo]
  split
  · rfl
  · rcases connects with - | -
    · rfl
    · rfl

/-- The timer is started again exactly if a connection is made, with the time of the session. -/
theorem connectViaInfo_sessionTimer {connects : Bool} :
    (s.connectViaInfo connects).sessionTimer =
      if s.acsServerHost ≠ none ∧ connects = true then some s.sessionTimeout.toInt.toNat
      else s.sessionTimer := by
  rw [connectViaInfo]
  rcases hhost : s.acsServerHost with - | host
  · simp
  · rcases connects with - | -
    · simp [freePendingMsg]
    · simp [startSessionTimer]

theorem cwmpClientGenAuthHdr_sessionTimeout {type : AuthType} {authD cnonce : CString}
    {username passwd : Option CString} :
    (s.cwmpClientGenAuthHdr lib type authD cnonce username passwd).sessionTimeout =
      s.sessionTimeout := by
  rcases username with - | username
  · rfl
  · rcases passwd with - | passwd
    · rfl
    · rfl

theorem cwmpClientPrepareSession_sessionTimeout {start : SessionStart} :
    (s.cwmpClientPrepareSession lib start).sessionTimeout = s.sessionTimeout := by
  rw [cwmpClientPrepareSession]
  split
  · exact cwmpClientGenAuthHdr_sessionTimeout
  · rfl

/-- What is read depends on the time of the session before, and on nothing else of the client. -/
theorem readSessionTimeout_congr {start : SessionStart} (h : s.sessionTimeout = t.sessionTimeout) :
    s.readSessionTimeout start = t.readSessionTimeout start := by
  rw [readSessionTimeout, readSessionTimeout, h]

/-- **The start of a session** reads the time, and starts the timer with it. -/
theorem clientStartSession_time {start : SessionStart} (hip : start.acsIp = true) :
    (s.clientStartSession lib start).sessionTimeout = s.readSessionTimeout start ∧
      (s.clientStartSession lib start).sessionTimer =
        some (s.readSessionTimeout start).toInt.toNat := by
  have hread : (({ s with
      acsServerHost := some start.host
      acsServerPath := start.path } : CwmpClient).cwmpClientPrepareSession
        lib start).readSessionTimeout start = s.readSessionTimeout start :=
    readSessionTimeout_congr cwmpClientPrepareSession_sessionTimeout
  rw [clientStartSession, if_neg (not_not.mpr hip), ← hread]
  exact ⟨rfl, rfl⟩

theorem clientStartSession_of_not_acsIp {start : SessionStart} (hip : start.acsIp = false) :
    (s.clientStartSession lib start).sessionTimeout = s.sessionTimeout := by
  rw [clientStartSession, hip]
  rfl

theorem cwmpClientConnectionEstablishedCb_sessionTimeout {response : AcsResponse} :
    (s.cwmpClientConnectionEstablishedCb lib response).sessionTimeout = s.sessionTimeout := by
  rw [cwmpClientConnectionEstablishedCb]
  split
  · rfl
  · split
    · rw [cwmpClientGetAuthenticationHdr]
      split
      · rfl
      · exact cwmpClientGenAuthHdr_sessionTimeout
    · rfl

theorem cwmpClientConnectionClosedCb_sessionTimeout :
    s.cwmpClientConnectionClosedCb.sessionTimeout = s.sessionTimeout := by
  rw [cwmpClientConnectionClosedCb]
  split
  · rfl
  · split
    · split
      · rfl
      · rfl
    · split
      · rfl
      · rfl

theorem cwmpClientAuthRetry_eq {connects : Bool} :
    (s.cwmpClientAuthRetry connects).sessionTimeout = s.sessionTimeout ∧
      (s.cwmpClientAuthRetry connects).sessionTimer =
        if s.pendingMsg ≠ none ∧ s.acsServerHost ≠ none ∧ connects = true then
          some s.sessionTimeout.toInt.toNat
        else s.sessionTimer := by
  rw [cwmpClientAuthRetry]
  rcases hpending : s.pendingMsg with - | soapMsg
  · simp
  · simp only [connectViaInfo_sessionTimeout, connectViaInfo_sessionTimer]
    simp

/-- **The time of the session changes** only where a session is started. -/
theorem step_sessionTimeout (h : s.step lib e = some t) (he : ¬StartsSession e) :
    t.sessionTimeout = s.sessionTimeout := by
  cases stepped_of_step h with
  | startSession start =>
    refine clientStartSession_of_not_acsIp ?_
    rw [← Bool.not_eq_true]
    exact fun hip => he ⟨start, rfl, hip⟩
  | send soapMsg connects => exact connectViaInfo_sessionTimeout
  | established response => exact cwmpClientConnectionEstablishedCb_sessionTimeout
  | closed => exact cwmpClientConnectionClosedCb_sessionTimeout
  | authRetry harmed connects => exact cwmpClientAuthRetry_eq.1
  | close | error | elapse | sessionTimedOut => rfl

/-- **What is read off an event is what the timer is started with.** -/
theorem sessionTimer_of_timerStart {timeout : Int32} (h : s.step lib e = some t)
    (hstart : s.timerStart e = some timeout) :
    t.sessionTimer = some timeout.toInt.toNat ∧ t.sessionTimeout = timeout := by
  cases stepped_of_step h with
  | startSession start =>
    obtain ⟨hip, htimeout⟩ := Option.ite_none_right_eq_some.mp hstart
    obtain rfl := Option.some.inj htimeout
    exact (clientStartSession_time hip).symm
  | send soapMsg connects =>
    obtain ⟨hconnects, htimeout⟩ := Option.ite_none_right_eq_some.mp hstart
    obtain rfl := Option.some.inj htimeout
    refine ⟨?_, connectViaInfo_sessionTimeout⟩
    rw [dmSendHttpMessage, connectViaInfo_sessionTimer]
    exact if_pos hconnects
  | authRetry harmed connects =>
    obtain ⟨hconnects, htimeout⟩ := Option.ite_none_right_eq_some.mp hstart
    obtain rfl := Option.some.inj htimeout
    obtain ⟨hkept, htimer⟩ := @cwmpClientAuthRetry_eq { s with authRetryTimer := false } connects
    refine ⟨?_, hkept⟩
    rw [htimer]
    exact if_pos hconnects
  | close | error | elapse | sessionTimedOut | established | closed => cases hstart

/-! ### What earlier sessions leave -/

/-- The time of a session is positive. -/
theorem readSessionTimeout_pos (s : CwmpClient) (start : SessionStart) :
    0 < (s.readSessionTimeout start).toInt := by
  have hpos : ∀ timeout : Int32, 0 < (if timeout ≤ 0 then 45 else timeout).toInt := by
    intro timeout
    split
    · decide
    · next hpos =>
      rw [Int32.le_iff_toInt_le] at hpos
      exact Int.not_le.mp hpos
  exact hpos _

/-- **The history of the variable**: it is not zero exactly if it was not before, or a session has
been started. -/
theorem sessionTimeout_ne_zero_of_exec {events : List ClientEvent}
    (h : Runs.exec (step lib) s events = some t) :
    t.sessionTimeout ≠ 0 ↔ s.sessionTimeout ≠ 0 ∨ ∃ e ∈ events, StartsSession e := by
  induction events generalizing s with
  | nil =>
    cases h
    simp
  | cons e events ih =>
    obtain ⟨u, hu, hrest⟩ := Option.bind_eq_some_iff.mp h
    rw [ih hrest, List.exists_mem_cons_iff, ← or_assoc]
    refine or_congr_left ?_
    by_cases he : StartsSession e
    · refine iff_of_true ?_ (Or.inr he)
      obtain ⟨start, rfl, hip⟩ := he
      obtain rfl : s.clientStartSession lib start = u := Option.some.inj hu
      rw [(clientStartSession_time hip).1]
      intro hzero
      have hpos := readSessionTimeout_pos s start
      rw [hzero] at hpos
      cases hpos
    · rw [step_sessionTimeout hu he]
      simp [he]

/-- **When the time has been read before**: a session has been started. -/
theorem sessionTimeout_ne_zero_iff {history : List ClientEvent}
    (h : Runs.exec (step lib) initial history = some s) :
    s.sessionTimeout ≠ 0 ↔ ∃ e ∈ history, StartsSession e := by
  rw [sessionTimeout_ne_zero_of_exec h]
  exact or_iff_right (fun hne => hne rfl)

/-- Within a session the timer is started with the time of the session only. -/
theorem mem_timerStarts {events : List ClientEvent} {timeout : Int32}
    (hnone : ∀ e ∈ events, ¬StartsSession e) (h : timeout ∈ timerStarts lib s events) :
    timeout = s.sessionTimeout := by
  induction events generalizing s with
  | nil => cases h
  | cons e events ih =>
    rw [timerStarts, List.mem_append, Option.mem_toList] at h
    have he := hnone e List.mem_cons_self
    rcases h with h | h
    · rcases e with start | ⟨soapMsg, connects⟩ | - | response | - | - | seconds | connects | -
      case startSession =>
        obtain ⟨hip, -⟩ := Option.ite_none_right_eq_some.mp h
        exact absurd ⟨start, rfl, hip⟩ he
      case send => exact (Option.some.inj (Option.ite_none_right_eq_some.mp h).2).symm
      case authRetry => exact (Option.some.inj (Option.ite_none_right_eq_some.mp h).2).symm
      all_goals cases h
    · rcases hstep : s.step lib e with - | t
      · rw [hstep] at h
        cases h
      · rw [hstep] at h
        rw [ih (fun e' he' => hnone e' (List.mem_cons_of_mem _ he')) h,
          step_sessionTimeout hstep he]

end CwmpClient

/-! ### The property and the condition -/

/-- The seconds a session is to last with a configured `SessionTimeout`. -/
def configuredSeconds (sessionTimeout : UInt32) : ℕ :=
  if 0 < sessionTimeout.toNat then sessionTimeout.toNat else 45

/-- **The property**, after a history: in every session that is started with the configured time,
until the next one is started, the timer is always started with that time. -/
def HonouredAfter (lib : ClientLibrary) (text : AtoiLibrary) (history : List ClientEvent)
    (sessionTimeout : UInt32) : Prop :=
  ∀ s start events, Runs.exec (CwmpClient.step lib) CwmpClient.initial history = some s →
    start.acsIp = true → start.sessionTimeout = some (text.atoi sessionTimeout) →
    (∀ e ∈ events, ¬CwmpClient.StartsSession e) →
    ∀ seconds ∈ CwmpClient.timerStarts lib s (.startSession start :: events),
      seconds.toInt = configuredSeconds sessionTimeout

section Honoured

variable {lib : ClientLibrary} {text : AtoiLibrary} {history : List ClientEvent}
  {sessionTimeout : UInt32} {s : CwmpClient}

/-- In a session the timer is started with what the start of the session read, each time. -/
theorem timerStarts_of_session {start : SessionStart} {events : List ClientEvent}
    (hip : start.acsIp = true) (hnone : ∀ e ∈ events, ¬CwmpClient.StartsSession e) :
    ∀ seconds, seconds ∈ CwmpClient.timerStarts lib s (.startSession start :: events) ↔
      seconds = s.readSessionTimeout start := by
  intro seconds
  have hfirst : s.timerStart (.startSession start) = some (s.readSessionTimeout start) :=
    if_pos hip
  rw [CwmpClient.timerStarts, hfirst, List.mem_append, Option.mem_toList, Option.some_inj]
  refine ⟨?_, fun h => Or.inl h.symm⟩
  rintro (h | h)
  · exact h.symm
  · rw [CwmpClient.mem_timerStarts hnone h]
    exact (CwmpClient.clientStartSession_time hip).1

/-- A start of a session with a configured time. -/
def startWith (timeout : Int32) : SessionStart :=
  ⟨"acs".toList, none, false, true, none, none, some timeout⟩

/-- What a history leaves is looked at by the start of the session alone. -/
theorem honouredAfter_iff_read
    (hrun : Runs.exec (CwmpClient.step lib) CwmpClient.initial history = some s) :
    HonouredAfter lib text history sessionTimeout ↔
      (s.readSessionTimeout (startWith (text.atoi sessionTimeout))).toInt =
        configuredSeconds sessionTimeout := by
  constructor
  · intro h
    exact h s (startWith (text.atoi sessionTimeout)) [] hrun rfl rfl (by simp) _
      ((timerStarts_of_session rfl (by simp) _).mpr rfl)
  · intro h s' start events hrun' hip htimeout hnone seconds hseconds
    obtain rfl : s = s' := Option.some.inj (hrun.symm.trans hrun')
    have hread : s.readSessionTimeout start =
        s.readSessionTimeout (startWith (text.atoi sessionTimeout)) := by
      rw [CwmpClient.readSessionTimeout, CwmpClient.readSessionTimeout, htimeout]
      rfl
    rw [(timerStarts_of_session hip hnone seconds).mp hseconds, hread, h]

/-- Where no session has been started, 45 seconds is what the time is set to. -/
theorem readSessionTimeout_of_zero {timeout : Int32} (h : s.sessionTimeout = 0) :
    s.readSessionTimeout (startWith timeout) = 45 := by
  rw [CwmpClient.readSessionTimeout, h]
  rfl

theorem readSessionTimeout_of_ne_zero {timeout : Int32} (h : s.sessionTimeout ≠ 0) :
    s.readSessionTimeout (startWith timeout) = if timeout ≤ 0 then 45 else timeout := by
  rw [CwmpClient.readSessionTimeout, startWith]
  simp only [if_pos h]

/-- A number is read as it is, if an `int` can hold it; nothing else is read in its place. -/
theorem read_eq_configuredSeconds :
    (if text.atoi sessionTimeout ≤ 0 then 45 else text.atoi sessionTimeout).toInt =
      configuredSeconds sessionTimeout ↔ sessionTimeout.toNat < 2 ^ 31 := by
  have hmax := Int32.toInt_lt
    (if text.atoi sessionTimeout ≤ 0 then 45 else text.atoi sessionTimeout)
  rw [configuredSeconds]
  by_cases hfits : sessionTimeout.toNat < 2 ^ 31
  · refine iff_of_true ?_ hfits
    have hread := text.atoi_of_lt sessionTimeout hfits
    have hle : text.atoi sessionTimeout ≤ 0 ↔ ¬0 < sessionTimeout.toNat := by
      rw [Int32.le_iff_toInt_le, hread, Int32.toInt_zero]
      omega
    by_cases hpos : 0 < sessionTimeout.toNat
    · rw [if_neg (fun h => hle.mp h hpos), if_pos hpos, hread]
    · rw [if_pos (hle.mpr hpos), if_neg hpos]
      rfl
  · refine iff_of_false (fun h => ?_) hfits
    rw [h, if_pos (by omega)] at hmax
    omega

end Honoured

/-- **The configuration alone decides how long sessions last** – after both of two histories –
exactly if a session has been started in each of them, or the first one lasts as long anyway: the
configured time is 0 or 45. It must be a number that an `int` can hold. -/
theorem honouredAfter_iff (lib : ClientLibrary) (text : AtoiLibrary) {history history' : List ClientEvent}
    {s s' : CwmpClient}
    (hrun : Runs.exec (CwmpClient.step lib) CwmpClient.initial history = some s)
    (hrun' : Runs.exec (CwmpClient.step lib) CwmpClient.initial history' = some s')
    (sessionTimeout : UInt32) :
    HonouredAfter lib text history sessionTimeout ∧ HonouredAfter lib text history' sessionTimeout ↔
      (sessionTimeout.toNat < 2 ^ 31 ∧ (∃ e ∈ history, CwmpClient.StartsSession e) ∧
        ∃ e ∈ history', CwmpClient.StartsSession e) ∨
      sessionTimeout = 0 ∨ sessionTimeout = 45 := by
  have hone : ∀ {history s},
      Runs.exec (CwmpClient.step lib) CwmpClient.initial history = some s →
      (HonouredAfter lib text history sessionTimeout ↔
        (sessionTimeout.toNat < 2 ^ 31 ∧ ∃ e ∈ history, CwmpClient.StartsSession e) ∨
          sessionTimeout = 0 ∨ sessionTimeout = 45) := by
    intro history s hrun
    have hdefault : (45 : Int32).toInt = configuredSeconds sessionTimeout ↔
        sessionTimeout = 0 ∨ sessionTimeout = 45 := by
      rw [configuredSeconds, ← UInt32.toNat_inj, ← UInt32.toNat_inj]
      have h0 : (0 : UInt32).toNat = 0 := rfl
      have h45 : (45 : UInt32).toNat = 45 := rfl
      have hi45 : (45 : Int32).toInt = 45 := rfl
      rw [h0, h45, hi45]
      split <;> omega
    rw [honouredAfter_iff_read hrun, ← CwmpClient.sessionTimeout_ne_zero_iff hrun]
    by_cases hzero : s.sessionTimeout = 0
    · rw [readSessionTimeout_of_zero hzero, hdefault]
      simp [hzero]
    · rw [readSessionTimeout_of_ne_zero hzero, read_eq_configuredSeconds]
      have hsmall : sessionTimeout = 0 ∨ sessionTimeout = 45 → sessionTimeout.toNat < 2 ^ 31 := by
        rintro (rfl | rfl) <;> decide
      simp only [ne_eq, hzero, not_false_eq_true, and_true]
      exact ⟨Or.inl, fun h => h.elim id hsmall⟩
  rw [hone hrun, hone hrun', ← and_or_right, ← and_and_left]

/-- A library that encodes credentials as they are. -/
def encodingLibrary : ClientLibrary := ⟨some, fun _ _ _ _ _ => none, id⟩

/-- After one session, or two, the configured minute is a minute. -/
theorem honouredAfter_iff_minute :
    HonouredAfter encodingLibrary AtoiLibrary.cut [.startSession (startWith 0)] 60 ∧
      HonouredAfter encodingLibrary AtoiLibrary.cut
        [.startSession (startWith 0), .close, .startSession (startWith 30)] 60 :=
  (honouredAfter_iff encodingLibrary AtoiLibrary.cut rfl rfl 60).mpr
    (Or.inl ⟨by decide, ⟨_, List.mem_cons_self, _, rfl, rfl⟩, _, List.mem_cons_self, _, rfl, rfl⟩)

/-- The configured minute: in the first session the timer is started with 45 seconds, by the start
of the session and by the message, and with a minute in the second one. -/
theorem first_session_ignores_configuration :
    CwmpClient.timerStarts encodingLibrary CwmpClient.initial
        [.startSession (startWith 60), .send "Inform".toList true] = [45, 45] ∧
      CwmpClient.timerStarts encodingLibrary CwmpClient.initial
        [.startSession (startWith 60), .close, .startSession (startWith 60)] = [45, 60] ∧
      ¬HonouredAfter encodingLibrary AtoiLibrary.cut [] 60 := by
  refine ⟨by decide, by decide, fun h => ?_⟩
  have hread := (honouredAfter_iff_read rfl).mp h
  revert hread
  decide

end Tr069
