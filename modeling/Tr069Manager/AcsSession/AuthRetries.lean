import Tr069Manager.AcsSession.Client

/-!
# Retries with authentication

A challenge that can be answered leads to another request with the same message, and nothing counts
how often. An ACS that answers every one of them with another 401 is asked for ever, and as every
request starts the timer of the session again, that one never expires
(`exists_retry`, `unbounded_retries`).

What bounds the retries is the ACS alone. A message is sent at most twice more than it has been
challenged – once for itself, and once for a retry that may be left of the message before – and the
session lasts no longer than its time-out for each of these (`retries_of_reaches`). Once the ACS
says nothing more, the timer closes the session (`CwmpClient.exists_close`).
-/

namespace Tr069

namespace CwmpClient

/-! ### The property and the condition -/

/-- The seconds of `session_timeout`. -/
def sessionSeconds (s : CwmpClient) : ℕ := s.sessionTimeout.toInt.toNat

/-- The pending message has been sent at most so often, and the session has not lasted longer since
than so many times its time-out. -/
structure SentWithin (s : CwmpClient) (times : ℕ) : Prop where
  sends : s.sends ≤ times
  since : 1 ≤ s.sends → s.since ≤ times * s.sessionSeconds

/-- **The condition on the events**: the pending message is challenged only a number of times. -/
def ChallengedWithin (times : ℕ) (s : CwmpClient) : ClientEvent → Prop
  | .closed => s.Challenged → s.challenges < times
  | _ => True

/-! ### What is sent is paid for by challenges -/

/-- **The invariant**: a challenge pays for each time the pending message is sent or is going to be,
but for two; and the timer of the session runs out before all that has been paid for is over. -/
structure Paid (s : CwmpClient) : Prop where
  sends : s.sends + (if s.authRetryTimer then 1 else 0) ≤ s.challenges + 2
  since : 1 ≤ s.sends → ∃ left, s.sessionTimer = some left ∧
    s.since + left ≤ s.sends * s.sessionSeconds

variable {lib : ClientLibrary} {s t : CwmpClient} {e : ClientEvent}

/-- Nothing has been sent. -/
theorem paid_of_sends_eq_zero (h : s.sends = 0) : s.Paid := by
  refine ⟨?_, fun hsent => absurd hsent (by omega)⟩
  rw [h]
  split <;> omega

theorem Paid.mono (h : s.Paid) (hsends : t.sends = s.sends) (htimer : t.authRetryTimer =
      s.authRetryTimer) (hchallenges : t.challenges = s.challenges)
    (hsession : t.sessionTimer = s.sessionTimer) (htimeout : t.sessionTimeout = s.sessionTimeout)
    (hsince : t.since = s.since) : t.Paid := by
  refine ⟨?_, ?_⟩
  · rw [hsends, htimer, hchallenges]
    exact h.sends
  · rw [hsends, hsession, hsince, sessionSeconds, htimeout]
    exact h.since

/-- One more time is paid for. -/
theorem Paid.connectViaInfo {connects : Bool} (h : s.Paid)
    (hroom : s.sends + 1 + (if s.authRetryTimer then 1 else 0) ≤ s.challenges + 2) :
    (s.connectViaInfo connects).Paid := by
  rw [CwmpClient.connectViaInfo]
  split
  · exact h
  · -- where no connection can be made the session is closed
    rcases connects with - | -
    · exact paid_of_sends_eq_zero rfl
    · refine ⟨hroom, fun _ => ⟨_, rfl, ?_⟩⟩
      show (if s.sends = 0 then 0 else s.since) + s.sessionSeconds ≤
        (s.sends + 1) * s.sessionSeconds
      rw [Nat.succ_mul]
      split
      · omega
      · next hsent =>
        -- the timer has been started before
        obtain ⟨left, -, hleft⟩ := h.since (by omega)
        omega

theorem paid_dmSendHttpMessage {soapMsg : CString} {connects : Bool} :
    (s.dmSendHttpMessage lib soapMsg connects).Paid := by
  rw [dmSendHttpMessage]
  refine Paid.connectViaInfo (paid_of_sends_eq_zero rfl) ?_
  show 0 + 1 + (if s.authRetryTimer then 1 else 0) ≤ 0 + 2
  split <;> omega

theorem Paid.cwmpClientAuthRetry {connects : Bool} (h : s.Paid) (harmed : s.authRetryTimer = true) :
    ({ s with authRetryTimer := false }.cwmpClientAuthRetry connects).Paid := by
  have hsends := h.sends
  rw [if_pos harmed] at hsends
  have hdisarmed : ({ s with authRetryTimer := false } : CwmpClient).Paid := by
    refine ⟨?_, h.since⟩
    show s.sends + 0 ≤ s.challenges + 2
    omega
  rw [CwmpClient.cwmpClientAuthRetry]
  split
  · exact hdisarmed
  · exact hdisarmed.connectViaInfo hsends

/-- A header is generated. -/
theorem Paid.cwmpClientGenAuthHdr {type : AuthType} {authD cnonce : CString}
    {username passwd : Option CString} (h : s.Paid) :
    (s.cwmpClientGenAuthHdr lib type authD cnonce username passwd).Paid := by
  rcases username with - | username
  · exact h
  · rcases passwd with - | passwd
    · exact h
    · exact h.mono rfl rfl rfl rfl rfl rfl

theorem Paid.cwmpClientConnectionEstablishedCb {response : AcsResponse} (h : s.Paid) :
    (s.cwmpClientConnectionEstablishedCb lib response).Paid := by
  rw [CwmpClient.cwmpClientConnectionEstablishedCb]
  split
  · exact paid_of_sends_eq_zero rfl
  · split
    · rw [cwmpClientGetAuthenticationHdr]
      split
      · exact h.mono rfl rfl rfl rfl rfl rfl
      · exact Paid.cwmpClientGenAuthHdr (h.mono rfl rfl rfl rfl rfl rfl)
    · exact h.mono rfl rfl rfl rfl rfl rfl

theorem Paid.cwmpClientConnectionClosedCb (h : s.Paid) : s.cwmpClientConnectionClosedCb.Paid := by
  have hsends := h.sends
  rw [CwmpClient.cwmpClientConnectionClosedCb]
  split
  · exact paid_of_sends_eq_zero rfl
  · split
    · split
      · -- the challenge pays for the retry
        refine ⟨?_, h.since⟩
        show s.sends + 1 ≤ s.challenges + 1 + 2
        omega
      · exact paid_of_sends_eq_zero rfl
    · split
      · exact paid_of_sends_eq_zero rfl
      · exact h

/-- A session is started: the timer runs anew, and so does the time. -/
theorem Paid.restart {timeout : Int32} (h : s.Paid) :
    ({ s with sessionTimeout := timeout, since := 0 }.startSessionTimer).Paid := by
  refine ⟨h.sends, fun hsent => ⟨_, rfl, ?_⟩⟩
  show 0 + timeout.toInt.toNat ≤ s.sends * timeout.toInt.toNat
  rw [Nat.zero_add]
  exact Nat.le_mul_of_pos_left _ hsent

theorem Paid.clientStartSession {start : SessionStart} (h : s.Paid) :
    (s.clientStartSession lib start).Paid := by
  have hparsed : ({ s with
      acsServerHost := some start.host
      acsServerPath := start.path } : CwmpClient).Paid := h.mono rfl rfl rfl rfl rfl rfl
  rw [CwmpClient.clientStartSession]
  split
  · exact hparsed
  · refine Paid.restart ?_
    rw [cwmpClientPrepareSession]
    split
    · exact hparsed.cwmpClientGenAuthHdr
    · exact hparsed

theorem Paid.elapse {seconds : ℕ} (h : s.Paid) (hdue : s.NoneDue seconds) :
    ({ s with
      sessionTimer := s.sessionTimer.map (· - seconds)
      since := s.since + seconds } : CwmpClient).Paid := by
  refine ⟨h.sends, fun hsent => ?_⟩
  obtain ⟨left, hleft, hle⟩ := h.since hsent
  refine ⟨left - seconds, ?_, ?_⟩
  · show s.sessionTimer.map (· - seconds) = some (left - seconds)
    rw [hleft, Option.map_some]
  · have hseconds : seconds ≤ left := hdue.2 left hleft
    show s.since + seconds + (left - seconds) ≤ s.sends * s.sessionSeconds
    omega

/-! ### Runs -/

/-- **One event** keeps the invariant. -/
theorem Paid.step (h : s.Paid) (hstep : s.step lib e = some t) : t.Paid := by
  cases stepped_of_step hstep with
  | startSession start => exact h.clientStartSession
  | send soapMsg connects => exact paid_dmSendHttpMessage
  | established response => exact h.cwmpClientConnectionEstablishedCb
  | closed => exact Paid.cwmpClientConnectionClosedCb (h.mono rfl rfl rfl rfl rfl rfl)
  | elapse hdue => exact h.elapse hdue
  | authRetry harmed connects => exact h.cwmpClientAuthRetry harmed
  | close | error | sessionTimedOut =>
    -- the session is closed, and nothing is pending any more
    exact paid_of_sends_eq_zero rfl

theorem connectViaInfo_challenges_le {connects : Bool} :
    (s.connectViaInfo connects).challenges ≤ s.challenges := by
  rw [connectViaInfo]
  split
  · exact Nat.le_refl _
  · rcases connects with - | -
    · exact Nat.zero_le _
    · exact Nat.le_refl _

theorem cwmpClientGenAuthHdr_challenges {type : AuthType} {authD cnonce : CString}
    {username passwd : Option CString} :
    (s.cwmpClientGenAuthHdr lib type authD cnonce username passwd).challenges = s.challenges := by
  rcases username with - | username
  · rfl
  · rcases passwd with - | passwd
    · rfl
    · rfl

theorem cwmpClientConnectionEstablishedCb_challenges_le {response : AcsResponse} :
    (s.cwmpClientConnectionEstablishedCb lib response).challenges ≤ s.challenges := by
  rw [cwmpClientConnectionEstablishedCb]
  split
  · exact Nat.zero_le _
  · split
    · rw [cwmpClientGetAuthenticationHdr]
      split
      · exact Nat.le_refl _
      · exact cwmpClientGenAuthHdr_challenges.le
    · exact Nat.le_refl _

theorem clientStartSession_challenges {start : SessionStart} :
    (s.clientStartSession lib start).challenges = s.challenges := by
  rw [clientStartSession]
  split
  · rfl
  · rw [cwmpClientPrepareSession]
    split
    · exact cwmpClientGenAuthHdr_challenges
    · rfl

/-- Only the end of a connection with a challenge counts as one. -/
theorem challenges_step (hstep : s.step lib e = some t) : t.challenges ≤ s.challenges ∨
    (e = .closed ∧ s.Challenged ∧ t.challenges = s.challenges + 1) := by
  cases stepped_of_step hstep with
  | startSession start => exact Or.inl clientStartSession_challenges.le
  | send soapMsg connects =>
    exact Or.inl (connectViaInfo_challenges_le.trans (Nat.zero_le _))
  | established response => exact Or.inl cwmpClientConnectionEstablishedCb_challenges_le
  | closed =>
    rw [cwmpClientConnectionClosedCb]
    split
    · exact Or.inl (Nat.zero_le _)
    · split
      · next hstatus =>
        split
        · next hheader => exact Or.inr ⟨rfl, ⟨hstatus, hheader⟩, rfl⟩
        · exact Or.inl (Nat.zero_le _)
      · split
        · exact Or.inl (Nat.zero_le _)
        · exact Or.inl (Nat.le_refl _)
  | elapse hdue => exact Or.inl (Nat.le_refl _)
  | authRetry harmed connects =>
    rw [CwmpClient.cwmpClientAuthRetry]
    split
    · exact Or.inl (Nat.le_refl _)
    · exact Or.inl connectViaInfo_challenges_le
  | close | error | sessionTimedOut => exact Or.inl (Nat.zero_le _)

end CwmpClient

/-- **Retries are bounded** by the challenges: where the pending message is challenged only a number
of times, it is sent at most twice more, and the session does not last longer than its time-out for
each of them. -/
theorem retries_of_reaches (lib : ClientLibrary) (times : ℕ) (s : CwmpClient)
    (h : Runs.Reaches (CwmpClient.step lib) (CwmpClient.ChallengedWithin times)
      CwmpClient.initial s) : s.SentWithin (times + 2) := by
  have hpaid : s.Paid ∧ s.challenges ≤ times := by
    refine Runs.Reaches.invariant (I := fun u => u.Paid ∧ u.challenges ≤ times)
      (fun u e v hu he hv => ⟨hu.1.step hv, ?_⟩) h
      ⟨CwmpClient.paid_of_sends_eq_zero rfl, Nat.zero_le _⟩
    rcases CwmpClient.challenges_step hv with hle | ⟨rfl, hchallenged, hmore⟩
    · exact hle.trans hu.2
    · rw [hmore]
      exact he hchallenged
  obtain ⟨⟨hsends, hsince⟩, hchallenges⟩ := hpaid
  have hle : s.sends ≤ times + 2 := by omega
  refine ⟨hle, fun hsent => ?_⟩
  obtain ⟨left, -, hleft⟩ := hsince hsent
  calc s.since ≤ s.sends * s.sessionSeconds := by omega
    _ ≤ (times + 2) * s.sessionSeconds := Nat.mul_le_mul_right _ hle

/-- **The end of a session**: if the ACS says nothing more, the timer closes the session. -/
theorem CwmpClient.exists_close {lib : ClientLibrary} {s : CwmpClient} (h : s.Paid)
    (hsent : 1 ≤ s.sends) (hidle : s.authRetryTimer = false) :
    ∃ t, Runs.Reaches (CwmpClient.step lib) Runs.free s t ∧ t.pendingMsg = none ∧
      t.acsServerHost = none := by
  obtain ⟨left, hleft, -⟩ := h.since hsent
  have hdue : s.NoneDue left := by
    refine ⟨hidle, fun left' hleft' => ?_⟩
    rw [hleft] at hleft'
    exact (Option.some.inj hleft').le
  have hover : (s.sessionTimer.map (· - left)) = some 0 := by
    rw [hleft, Option.map_some, Nat.sub_self]
  have hwaited : s.step lib (.elapse left) = some { s with
      sessionTimer := s.sessionTimer.map (· - left)
      since := s.since + left } := if_pos hdue
  have hclosed : ({ s with
      sessionTimer := s.sessionTimer.map (· - left)
      since := s.since + left } : CwmpClient).step lib .sessionTimedOut = some _ := if_pos hover
  exact ⟨_, (Runs.Reaches.single trivial hwaited).trans (Runs.Reaches.single trivial hclosed), rfl,
    rfl⟩

/-! ### An ACS that does not stop -/

namespace CwmpClient

variable {lib : ClientLibrary} {s : CwmpClient}

/-- The pending message has just been sent. -/
structure Waiting (s : CwmpClient) : Prop where
  host : s.acsServerHost ≠ none
  pending : s.pendingMsg ≠ none
  connection : 0 < s.wsis
  sent : 1 ≤ s.sends
  idle : s.authRetryTimer = false
  timer : s.sessionTimer = some s.sessionSeconds
  timeout : 1 ≤ s.sessionSeconds

/-- A challenge for the one kind of authentication. -/
def basicChallenge (username password : CString) : AcsResponse :=
  ⟨401, some "Basic".toList, some username, some password, []⟩

/-- A connection is closed with a challenge that can be answered. -/
theorem step_closed_of_challenged (h : s.Challenged) (hopen : 0 < s.wsis) :
    s.step lib .closed = some { s with
      wsis := s.wsis - 1
      authRetryTimer := true
      challenges := s.challenges + 1 } := by
  refine (if_pos hopen).trans (congrArg some ?_)
  have hstatus : s.httpStatus = 401 := h.1
  rw [cwmpClientConnectionClosedCb, if_neg (by show ¬s.httpStatus = 204; omega), if_pos hstatus]
  exact if_pos h.2

/-- The message is sent again. -/
theorem step_authRetry (harmed : s.authRetryTimer = true) (hpending : s.pendingMsg ≠ none)
    (hhost : s.acsServerHost ≠ none) :
    s.step lib (.authRetry true) = some { s with
      authRetryTimer := false
      wsis := s.wsis + 1
      sends := s.sends + 1
      since := if s.sends = 0 then 0 else s.since }.startSessionTimer := by
  obtain ⟨msg, hmsg⟩ := Option.ne_none_iff_exists'.mp hpending
  obtain ⟨host, hhost⟩ := Option.ne_none_iff_exists'.mp hhost
  refine (if_pos harmed).trans (congrArg some ?_)
  rw [cwmpClientAuthRetry, connectViaInfo]
  simp only [hmsg, hhost, if_true]

/-- **One round**: the ACS takes a second for a challenge, and the message is sent again. -/
theorem exists_retry (lib : ClientLibrary) {username password : CString}
    (hheader : cwmpClientAuthBasic lib username password ≠ none) (h : s.Waiting) :
    ∃ t, Runs.Reaches (step lib) Runs.free s t ∧ t.Waiting ∧ t.sends = s.sends + 1 ∧
      t.since = s.since + 1 := by
  have hdue : s.NoneDue 1 := by
    refine ⟨h.idle, fun left hleft => ?_⟩
    rw [h.timer] at hleft
    rw [← Option.some.inj hleft]
    exact h.timeout
  let waited : CwmpClient := { s with
    sessionTimer := s.sessionTimer.map (· - 1)
    since := s.since + 1 }
  let challenged : CwmpClient := { waited with
    httpStatus := 401
    authType := .basic
    authHdr := cwmpClientAuthBasic lib username password }
  have hwaited : s.step lib (.elapse 1) = some waited := if_pos hdue
  have hchallenged : waited.step lib (.established (basicChallenge username password)) =
      some challenged := if_pos h.connection
  have hclosed : challenged.step lib .closed = _ :=
    step_closed_of_challenged ⟨rfl, nofun, hheader⟩ h.connection
  have hretry : ({ challenged with
      wsis := s.wsis - 1
      authRetryTimer := true
      challenges := s.challenges + 1 } : CwmpClient).step lib (.authRetry true) = _ :=
    step_authRetry rfl h.pending h.host
  refine ⟨_, (Runs.Reaches.single trivial hwaited).trans ((Runs.Reaches.single trivial
    hchallenged).trans ((Runs.Reaches.single trivial hclosed).trans
      (Runs.Reaches.single trivial hretry))), ?_, rfl, if_neg ?_⟩
  · exact ⟨h.host, h.pending, Nat.succ_pos _, Nat.succ_pos _, rfl, rfl, h.timeout⟩
  · show ¬s.sends = 0
    have hsent := h.sent
    omega

/-- **Any number of rounds.** -/
theorem exists_retries (lib : ClientLibrary) {username password : CString}
    (hheader : cwmpClientAuthBasic lib username password ≠ none) (h : s.Waiting) (times : ℕ) :
    ∃ t, Runs.Reaches (step lib) Runs.free s t ∧ t.Waiting ∧ t.sends = s.sends + times ∧
      t.since = s.since + times := by
  induction times with
  | zero => exact ⟨s, Relation.ReflTransGen.refl, h, rfl, rfl⟩
  | succ times ih =>
    obtain ⟨t, hreaches, hwaiting, hsends, hsince⟩ := ih
    obtain ⟨u, hround, hagain, hsends', hsince'⟩ := exists_retry lib hheader hwaiting
    exact ⟨u, hreaches.trans hround, hagain, by omega, by omega⟩

end CwmpClient

/-- A library for the examples, in which everything succeeds. -/
def exampleClientLibrary : ClientLibrary where
  lwsB64EncodeString := some
  generateDigestResponseMd5 := fun _ cnonce _ _ _ => some cnonce
  smmTranslate := id

/-- A session that is started, and its first message. -/
def firstMessage : List ClientEvent :=
  [.startSession ⟨"acs.example".toList, none, false, true, none, none, none⟩,
    .send "Inform".toList true]

/-- The message is challenged once. -/
def challengedRun : List ClientEvent :=
  firstMessage ++ [.established (CwmpClient.basicChallenge "user".toList "pass".toList), .closed,
    .authRetry true]

theorem retries_of_challengedRun :
    ∃ s, Runs.exec (CwmpClient.step exampleClientLibrary) CwmpClient.initial challengedRun =
      some s ∧ s.SentWithin 3 := by
  have hmeets : Runs.Meets (CwmpClient.step exampleClientLibrary) (CwmpClient.ChallengedWithin 1)
      CwmpClient.initial challengedRun := by
    -- the message has not been challenged before its connection is closed
    refine ⟨trivial, fun s₁ h₁ => ?_⟩
    obtain rfl := Option.some.inj h₁
    refine ⟨trivial, fun s₂ h₂ => ?_⟩
    obtain rfl := Option.some.inj h₂
    refine ⟨trivial, fun s₃ h₃ => ?_⟩
    obtain rfl := Option.some.inj h₃
    exact ⟨fun _ => Nat.zero_lt_one, fun _ _ => ⟨trivial, fun _ _ => trivial⟩⟩
  exact ⟨_, rfl, retries_of_reaches exampleClientLibrary 1 _ (Runs.reaches_of_exec rfl hmeets)⟩

/-- **An ACS that challenges every request** is asked for ever: there is no bound on how often a
message is sent, nor on the time-outs the session lasts. -/
theorem unbounded_retries :
    ¬∃ times, ∀ s, Runs.Reaches (CwmpClient.step exampleClientLibrary) Runs.free
      CwmpClient.initial s → s.SentWithin times := by
  rintro ⟨times, h⟩
  have hfirst : ∃ s, Runs.exec (CwmpClient.step exampleClientLibrary) CwmpClient.initial
      firstMessage = some s ∧ s.Waiting ∧ s.sends = 1 := by
    refine ⟨_, rfl, ?_, rfl⟩
    exact ⟨Option.some_ne_none _, Option.some_ne_none _, Nat.zero_lt_one, Nat.le_refl 1, rfl, rfl,
      by decide⟩
  have hheader : CwmpClient.cwmpClientAuthBasic exampleClientLibrary [] [] ≠ none :=
    Option.some_ne_none _
  obtain ⟨s, hexec, hwaiting, hsent⟩ := hfirst
  obtain ⟨t, hreaches, -, hsends, -⟩ := CwmpClient.exists_retries exampleClientLibrary
    hheader hwaiting times
  have hle := (h t ((Runs.reaches_free_of_exec _ hexec).trans hreaches)).sends
  omega

end Tr069
