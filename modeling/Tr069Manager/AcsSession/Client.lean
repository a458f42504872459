import Tr069Manager.Lib.CString
import Tr069Manager.Lib.Runs

/-!
# The client of a session with the ACS

`dmmain/cwmpd_client.c`, as far as it sends a message and answers a challenge. The engine hands over
a SOAP message, which stays the pending one until another comes, the session is closed, or the ACS
has nothing more to say. A 401 makes the client generate a header for the kind of authentication the
ACS asks for; when the connection is closed then, a timer without delay sends the pending message
again. Every message that is sent starts the timer of the session, which closes the session.

The engine and libwebsockets are what goes on around the client: messages and the start and the end
of a session come from the one, and what becomes of the connections from the other. Timers do not
expire late. The history of the pending message is not read by the client.
-/

namespace Tr069

/-! ### The data -/

/-- `auth_t`. -/
inductive AuthType where
  | basic
  | digest
  | unsupported
  | none
  deriving DecidableEq

/-- What is not in the source: the encoding of the header for the one kind of authentication, the
response for the other, for the challenge, a nonce, the path and the credentials, and the mapping of
a message. A result may be missing. -/
structure ClientLibrary where
  lwsB64EncodeString : CString → Option CString
  generateDigestResponseMd5 : CString → CString → Option CString → CString → CString →
    Option CString
  smmTranslate : CString → CString

/-- The static variables of the client, as far as they play a part here, with its two timers: the
one of the retry, which has no delay, and the seconds left of the one of the session. A `wsi` is an
open connection. The history has how often the pending message has been sent and challenged, and how
long ago it was sent first, or the session was started if that was later. -/
structure CwmpClient where
  authType : AuthType
  acsServerHost : Option CString
  acsServerPath : Option CString
  httpStatus : ℕ
  sessionTimeout : Int32
  pendingMsg : Option CString
  authHdr : Option CString
  authRetryTimer : Bool
  sessionTimer : Option ℕ
  wsis : ℕ
  sends : ℕ
  challenges : ℕ
  since : ℕ

/-- What `client_startSession` finds, where the WAN is connected and the URL can be parsed: its
parts, whether there is an address, the credentials, as far as they can be read, and the time of the
data model, if it can be read. -/
structure SessionStart where
  host : CString
  path : Option CString
  https : Bool
  acsIp : Bool
  username : Option CString
  password : Option CString
  sessionTimeout : Option Int32

/-- What the ACS answers, and what there is to answer a challenge. -/
structure AcsResponse where
  status : ℕ
  wwwAuthenticate : Option CString
  username : Option CString
  password : Option CString
  cnonce : CString

namespace CwmpClient

/-- When the daemon comes up. -/
def initial : CwmpClient := ⟨.none, none, none, 0, 0, none, none, false, none, 0, 0, 0, 0⟩

/-- `CWMPD_FREE(pending_msg)`. -/
def freePendingMsg (s : CwmpClient) : CwmpClient :=
  { s with pendingMsg := none, sends := 0, challenges := 0, since := 0 }

/-! ### Authentication -/

/-- `cwmp_client_auth_basic`. -/
def cwmpClientAuthBasic (lib : ClientLibrary) (username passwd : CString) : Option CString :=
  (lib.lwsB64EncodeString (username ++ ":".toList ++ passwd)).map ("Basic ".toList ++ ·)

/-- `cwmp_client_gen_auth_hdr`: the header stays as it is where the credentials cannot be read. -/
def cwmpClientGenAuthHdr (lib : ClientLibrary) (s : CwmpClient) (type : AuthType)
    (authD cnonce : CString) (username passwd : Option CString) : CwmpClient :=
  match username, passwd with
  | some username, some passwd =>
    { s with
      authHdr := match type with
        | .basic => cwmpClientAuthBasic lib username passwd
        | .digest => lib.generateDigestResponseMd5 authD cnonce s.acsServerPath username passwd
        | _ => none }
  | _, _ => s

/-- `cwmp_client_get_authentication_hdr`, with the text of the header, if it can be copied. -/
def cwmpClientGetAuthenticationHdr (lib : ClientLibrary) (s : CwmpClient)
    (response : AcsResponse) : CwmpClient :=
  match response.wwwAuthenticate with
  | none => { s with authType := .unsupported }
  | some authD =>
    let type : AuthType :=
      if (authD.strstr "Basic".toList).isSome then .basic
      else if (authD.strstr "Digest".toList).isSome then .digest
      else .unsupported
    { s with authType := type }.cwmpClientGenAuthHdr lib type authD response.cnonce
      response.username response.password

/-! ### Sending -/

/-- `DM_ENG_NotificationInterface_timerStart` of the timer of the session. -/
def startSessionTimer (s : CwmpClient) : CwmpClient :=
  { s with sessionTimer := some s.sessionTimeout.toInt.toNat }

/-- The rest of `DM_SendHttpMessage`, once there is a pending message: it is sent if there is a
session and a connection can be made. -/
def connectViaInfo (s : CwmpClient) (connects : Bool) : CwmpClient :=
  match s.acsServerHost with
  | none => s
  | some _ =>
    if connects then
      { s with
        wsis := s.wsis + 1
        sends := s.sends + 1
        since := if s.sends = 0 then 0 else s.since }.startSessionTimer
    else s.freePendingMsg

/-- `DM_SendHttpMessage` for another message than the pending one. -/
def dmSendHttpMessage (lib : ClientLibrary) (s : CwmpClient) (soapMsg : CString)
    (connects : Bool) : CwmpClient :=
  { s.freePendingMsg with pendingMsg := some (lib.smmTranslate soapMsg) }.connectViaInfo connects

/-- `cwmp_client_auth_retry`: `DM_SendHttpMessage` for the pending message itself, if there is
one. -/
def cwmpClientAuthRetry (s : CwmpClient) (connects : Bool) : CwmpClient :=
  match s.pendingMsg with
  | none => s
  | some _ => s.connectViaInfo connects

/-! ### The session -/

/-- `DM_CloseHttpSession`, which the engine calls when it closes a session. -/
def dmCloseHttpSession (s : CwmpClient) : CwmpClient :=
  { s.freePendingMsg with
    httpStatus := 0
    authType := .none
    acsServerHost := none
    acsServerPath := none
    authHdr := none }

/-- `cwmp_client_prepare_session`: with TLS there is a header from the start. -/
def cwmpClientPrepareSession (lib : ClientLibrary) (s : CwmpClient) (start : SessionStart) :
    CwmpClient :=
  if start.https then s.cwmpClientGenAuthHdr lib .basic [] [] start.username start.password else s

/-- The time of a session, as `client_startSession` reads it: not before there is one. -/
def readSessionTimeout (s : CwmpClient) (start : SessionStart) : Int32 :=
  let timeout := match start.sessionTimeout with
    | some timeout => if s.sessionTimeout ≠ 0 then timeout else s.sessionTimeout
    | none => s.sessionTimeout
  if timeout ≤ 0 then 45 else timeout

/-- `client_startSession`, once the URL has been parsed. -/
def clientStartSession (lib : ClientLibrary) (s : CwmpClient) (start : SessionStart) : CwmpClient :=
  let s := { s with acsServerHost := some start.host, acsServerPath := start.path }
  if ¬start.acsIp then s
  else
    let s := s.cwmpClientPrepareSession lib start
    { s with sessionTimeout := s.readSessionTimeout start, since := 0 }.startSessionTimer

/-! ### The callbacks -/

/-- `cwmp_client_connection_established_cb`. -/
def cwmpClientConnectionEstablishedCb (lib : ClientLibrary) (s : CwmpClient)
    (response : AcsResponse) : CwmpClient :=
  let s := { s with httpStatus := response.status }
  if response.status = 204 then s.freePendingMsg
  else if response.status = 401 then s.cwmpClientGetAuthenticationHdr lib response
  else s

/-- A challenge that can be answered: there is a header for a kind of authentication the client
has. -/
def Challenged (s : CwmpClient) : Prop :=
  s.httpStatus = 401 ∧ s.authType ≠ .unsupported ∧ s.authHdr ≠ none

instance (s : CwmpClient) : Decidable s.Challenged := inferInstanceAs (Decidable (_ ∧ _))

/-- `cwmp_client_connection_closed_cb`: the session goes on after a 200. -/
def cwmpClientConnectionClosedCb (s : CwmpClient) : CwmpClient :=
  if s.httpStatus = 204 then s.dmCloseHttpSession
  else if s.httpStatus = 401 then
    if s.authType ≠ .unsupported ∧ s.authHdr ≠ none then
      { s with authRetryTimer := true, challenges := s.challenges + 1 }
    else s.dmCloseHttpSession
  else if s.httpStatus ≠ 200 then s.dmCloseHttpSession
  else s

end CwmpClient

/-! ### The system -/

/-- What can happen. -/
inductive ClientEvent where
  /-- the engine starts a session -/
  | startSession (start : SessionStart)
  /-- the engine sends a message, for which a connection can be made or not -/
  | send (soapMsg : CString) (connects : Bool)
  /-- the engine closes the session -/
  | close
  /-- the ACS answers on a connection -/
  | established (response : AcsResponse)
  /-- a connection is closed -/
  | closed
  /-- a connection fails -/
  | error
  /-- time goes by, in seconds -/
  | elapse (seconds : ℕ)
  /-- the timer of the retry expires -/
  | authRetry (connects : Bool)
  /-- the timer of the session expires -/
  | sessionTimedOut

namespace CwmpClient

/-- No timer is due before so many seconds. -/
def NoneDue (s : CwmpClient) (seconds : ℕ) : Prop :=
  s.authRetryTimer = false ∧ ∀ left ∈ s.sessionTimer, seconds ≤ left

instance (s : CwmpClient) (seconds : ℕ) : Decidable (s.NoneDue seconds) :=
  inferInstanceAs (Decidable (_ ∧ _))

/-- One event, if it is possible. -/
def step (lib : ClientLibrary) (s : CwmpClient) : ClientEvent → Option CwmpClient
  | .startSession start => some (s.clientStartSession lib start)
  | .send soapMsg connects => some (s.dmSendHttpMessage lib soapMsg connects)
  | .close => some s.dmCloseHttpSession
  | .established response =>
    if 0 < s.wsis then some (s.cwmpClientConnectionEstablishedCb lib response) else none
  | .closed =>
    if 0 < s.wsis then some { s with wsis := s.wsis - 1 }.cwmpClientConnectionClosedCb else none
  | .error => if 0 < s.wsis then some { s with wsis := s.wsis - 1 }.dmCloseHttpSession else none
  | .elapse seconds =>
    if s.NoneDue seconds then
      some { s with sessionTimer := s.sessionTimer.map (· - seconds), since := s.since + seconds }
    else none
  | .authRetry connects =>
    if s.authRetryTimer then some ({ s with authRetryTimer := false }.cwmpClientAuthRetry connects)
    else none
  | .sessionTimedOut =>
    if s.sessionTimer = some 0 then some { s with sessionTimer := none }.dmCloseHttpSession
    else none

/-- **The events**, one by one, with what is known when they happen. -/
inductive Stepped (lib : ClientLibrary) (s : CwmpClient) : ClientEvent → CwmpClient → Prop where
  | startSession (start : SessionStart) :
      Stepped lib s (.startSession start) (s.clientStartSession lib start)
  | send (soapMsg : CString) (connects : Bool) :
      Stepped lib s (.send soapMsg connects) (s.dmSendHttpMessage lib soapMsg connects)
  | close : Stepped lib s .close s.dmCloseHttpSession
  | established (response : AcsResponse) :
      Stepped lib s (.established response) (s.cwmpClientConnectionEstablishedCb lib response)
  | closed : Stepped lib s .closed { s with wsis := s.wsis - 1 }.cwmpClientConnectionClosedCb
  | error : Stepped lib s .error { s with wsis := s.wsis - 1 }.dmCloseHttpSession
  | elapse {seconds : ℕ} (hdue : s.NoneDue seconds) :
      Stepped lib s (.elapse seconds)
        { s with sessionTimer := s.sessionTimer.map (· - seconds), since := s.since + seconds }
  | authRetry (harmed : s.authRetryTimer = true) (connects : Bool) :
      Stepped lib s (.authRetry connects)
        ({ s with authRetryTimer := false }.cwmpClientAuthRetry connects)
  | sessionTimedOut : Stepped lib s .sessionTimedOut
      { s with sessionTimer := none }.dmCloseHttpSession

/-- **One event is one of those.** -/
theorem stepped_of_step {lib : ClientLibrary} {s t : CwmpClient} {e : ClientEvent}
    (h : s.step lib e = some t) : Stepped lib s e t := by
  rcases e with start | ⟨soapMsg, connects⟩ | - | response | - | - | seconds | connects | -
  case startSession => exact Option.some.inj h ▸ .startSession start
  case send => exact Option.some.inj h ▸ .send soapMsg connects
  case close => exact Option.some.inj h ▸ .close
  all_goals
    rw [step] at h
    split at h
    case isFalse => cases h
  case established.isTrue => exact Option.some.inj h ▸ .established response
  case closed.isTrue => exact Option.some.inj h ▸ .closed
  case error.isTrue => exact Option.some.inj h ▸ .error
  case elapse.isTrue hdue => exact Option.some.inj h ▸ .elapse hdue
  case authRetry.isTrue harmed => exact Option.some.inj h ▸ .authRetry harmed connects
  case sessionTimedOut.isTrue => exact Option.some.inj h ▸ .sessionTimedOut

end CwmpClient

end Tr069
