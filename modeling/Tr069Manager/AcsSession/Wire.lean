import Tr069Manager.AcsSession.Credentials
import Tr069Manager.Cookies.RoundTrip

/-!
# What the client puts on the wire

The headers of a request are written when libwebsockets asks for them
(`cwmp_client_handshake_cb` of `dmmain/cwmpd_client.c`), which may be some time after the engine has
handed the message over, and the body when the connection can be written
(`cwmp_client_http_writable_cb`). Both come from the static variables of the client: the pending
message, the cookie jar and the header for the authentication.

What these are depends on what has happened since the session was closed last. The cookies of a
request are those the responses of the session have set, and a server that reads them as the client
does gets its jar; the authorization has been generated in the session, for TLS or for a challenge;
and the length is that of the message the engine has sent last, as it is mapped
(`WireClient.request_of_run`). Nothing of an earlier session is sent to the ACS, whichever ACS that
was.
-/

namespace Tr069

/-! ### The headers -/

/-- A header of a request. The values of `User-Agent` and `Content-Type` are constants, and
`SOAPAction` has none. -/
inductive RequestHeader where
  | userAgent
  | contentLength (length : ℕ)
  | cookie (text : CString)
  | authorization (text : CString)
  | contentType
  | soapAction
  deriving DecidableEq

/-- `lws_add_http_header_by_token` and its kin, which fail if there is no room for the header behind
those before. -/
def addHttpHeader (fits : List RequestHeader → Bool) (headers : List RequestHeader)
    (header : RequestHeader) : Option (List RequestHeader) :=
  if fits (headers ++ [header]) then some (headers ++ [header]) else none

/-- A header that is added only if there is text for it. -/
def addHttpHeaderIfAny (fits : List RequestHeader → Bool) (headers : List RequestHeader) :
    Option RequestHeader → Option (List RequestHeader)
  | none => some headers
  | some header => addHttpHeader fits headers header

/-! ### The client -/

/-- The client of a session, with its cookie jar. -/
structure WireClient where
  client : CwmpClient
  jar : Option CookieJar

/-- What happens to the client, with the text of the `Set-Cookie` header where a response begins,
which is empty if there is none. -/
structure WireEvent where
  event : ClientEvent
  setCookie : CString

/-- The `Set-Cookie` header of a response with status 200. -/
def WireEvent.setCookies (e : WireEvent) : List CString :=
  match e.event with
  | .established response => if response.status = 200 then [e.setCookie] else []
  | _ => []

namespace CwmpClient

/-- The callbacks in which the engine closes the session: `DM_CloseHttpSession` is called. -/
def Closes (s : CwmpClient) : ClientEvent → Prop
  | .close | .error | .sessionTimedOut => True
  | .closed => s.httpStatus = 204 ∨
      s.httpStatus = 401 ∧ ¬(s.authType ≠ .unsupported ∧ s.authHdr ≠ none) ∨
      s.httpStatus ≠ 204 ∧ s.httpStatus ≠ 401 ∧ s.httpStatus ≠ 200
  | _ => False

instance (s : CwmpClient) (e : ClientEvent) : Decidable (s.Closes e) :=
  match e with
  | .close | .error | .sessionTimedOut => isTrue trivial
  | .closed => inferInstanceAs (Decidable (_ ∨ _))
  | .startSession _ | .send _ _ | .established _ | .elapse _ | .authRetry _ => isFalse id

/-- The events that put another message in the place of the pending one, or none. -/
def Replaces (s : CwmpClient) : ClientEvent → Prop
  | .send _ _ | .authRetry false => True
  | .established response => response.status = 204
  | e => s.Closes e

end CwmpClient

namespace WireClient

/-- When the daemon comes up. -/
def initial : WireClient := ⟨CwmpClient.initial, none⟩

/-- The jar after an event: the cookies of a response with status 200 are put into it, and it is
thrown away with the session. -/
def jarAfterEvent (s : WireClient) (e : WireEvent) : Option (Option CookieJar) :=
  match e.event with
  | .established response =>
    if response.status = 200 then cwmpClientHandleCookies s.jar e.setCookie else some s.jar
  | event => some (if s.client.Closes event then none else s.jar)

/-- One event, if it is possible. -/
def step (lib : ClientLibrary) (s : WireClient) (e : WireEvent) : Option WireClient :=
  (s.client.step lib e.event).bind fun client => (s.jarAfterEvent e).map fun jar => ⟨client, jar⟩

/-- `cwmp_client_handshake_cb`: the headers, if there is a pending message and room for all of
them. -/
def cwmpClientHandshakeCb (fits : List RequestHeader → Bool) (s : WireClient) :
    Option (List RequestHeader) := do
  let pendingMsg ← s.client.pendingMsg
  let p ← addHttpHeader fits [] .userAgent
  let p ← addHttpHeader fits p (.contentLength pendingMsg.length)
  let p ← addHttpHeaderIfAny fits p ((cwmpdCookieCookiejarToString s.jar).map .cookie)
  let p ← addHttpHeaderIfAny fits p (s.client.authHdr.map .authorization)
  if 0 < pendingMsg.length then
    (addHttpHeader fits p .contentType).bind fun p => addHttpHeader fits p .soapAction
  else some p

/-- `cwmp_client_http_writable_cb`: the body that is written, if there is a message. -/
def cwmpClientHttpWritableCb (s : WireClient) : Option CString := s.client.pendingMsg

/-! ### What has happened in a session -/

/-- The `Set-Cookie` headers of the responses with status 200. -/
def setCookies (es : List WireEvent) : List CString := es.flatMap WireEvent.setCookies

/-- The message the engine has sent last. -/
def lastSent (es : List WireEvent) : Option CString :=
  es.foldl (fun last e =>
    match e.event with
    | .send soapMsg _ => some soapMsg
    | _ => last) none

/-- An event generates a header for the authentication: with TLS the start of a session does, and a
challenge of a kind the client has. -/
def Generates (lib : ClientLibrary) (s : CwmpClient) (header : CString) : ClientEvent → Prop
  | .startSession start => start.https = true ∧ ∃ username passwd,
      start.username = some username ∧ start.password = some passwd ∧
        CwmpClient.cwmpClientAuthBasic lib username passwd = some header
  | .established response => response.status = 401 ∧ ∃ authD username passwd,
      response.wwwAuthenticate = some authD ∧ response.username = some username ∧
        response.password = some passwd ∧
        CwmpClient.authHeader lib s.acsServerPath authD response.cnonce username passwd
          (CwmpClient.schemeFound authD) = some header
  | _ => False

/-- **A request of a session**, in terms of what has happened in it: the headers are there in this
order, the message is the mapped one that has been sent last, the cookies are those that have been
set, and the header for the authentication has been generated. -/
structure RequestOf (lib : ClientLibrary) (u : WireClient) (since : List WireEvent)
    (headers : List RequestHeader) : Prop where
  sent : ∃ soapMsg jar cookie authorization, lastSent since = some soapMsg ∧
    headers = [.userAgent, .contentLength (lib.smmTranslate soapMsg).length] ++
      (Option.map RequestHeader.cookie cookie).toList ++
      (Option.map RequestHeader.authorization authorization).toList ++
      (if lib.smmTranslate soapMsg = [] then [] else [.contentType, .soapAction]) ∧
    jarAfter (setCookies since) = some jar ∧ cookie = cwmpdCookieCookiejarToString (some jar) ∧
    (∀ text, cookie = some text → cwmpdCookieCookiejarBuild Table.empty text = some (0, jar)) ∧
    ∀ text, authorization = some text → ∃ before e after v, since = before ++ e :: after ∧
      Runs.exec (step lib) u before = some v ∧ Generates lib v.client text e.event

variable {lib : ClientLibrary} {s t u : WireClient} {e : WireEvent} {es : List WireEvent}
  {headers : List RequestHeader} {fits : List RequestHeader → Bool}

/-! ### One event -/

theorem step_eq_some (h : s.step lib e = some t) :
    s.client.step lib e.event = some t.client ∧ s.jarAfterEvent e = some t.jar := by
  obtain ⟨client, hclient, hmap⟩ := Option.bind_eq_some_iff.mp h
  obtain ⟨jar, hjar, rfl⟩ := Option.map_eq_some_iff.mp hmap
  exact ⟨hclient, hjar⟩

/-- **Where the session is closed nothing is left** of it. -/
theorem closed_of_closes (h : s.step lib e = some t) (hcloses : s.client.Closes e.event) :
    t.client.SessionClosed ∧ t.jar = none := by
  obtain ⟨hclient, hjar⟩ := step_eq_some h
  obtain ⟨event, setCookie⟩ := e
  have hstepped := CwmpClient.stepped_of_step hclient
  dsimp only at hcloses hjar hstepped
  have hnone : ∀ event', event = event' → (∀ response, event' ≠ .established response) →
      t.jar = none := by
    rintro event' rfl hother
    rw [jarAfterEvent] at hjar
    split at hjar
    · next response hevent => exact absurd hevent (hother response)
    · rw [if_pos hcloses] at hjar
      exact (Option.some.inj hjar).symm
  generalize t.client = client at hstepped
  cases hstepped with
  | close | error | sessionTimedOut => exact ⟨⟨rfl, rfl, rfl⟩, hnone _ rfl nofun⟩
  | closed =>
    refine ⟨?_, hnone _ rfl nofun⟩
    rw [CwmpClient.cwmpClientConnectionClosedCb]
    rcases hcloses with h204 | ⟨h401, hnot⟩ | ⟨h204, h401, h200⟩
    · rw [if_pos h204]
      exact ⟨rfl, rfl, rfl⟩
    · rw [if_neg (by show ¬s.client.httpStatus = 204; omega), if_pos h401, if_neg hnot]
      exact ⟨rfl, rfl, rfl⟩
    · rw [if_neg h204, if_neg h401, if_pos h200]
      exact ⟨rfl, rfl, rfl⟩
  | startSession | send | established | elapse | authRetry => exact absurd hcloses id

/-! ### The cookies -/

/-- What one more header makes of a jar. -/
theorem jarAfter_concat (headers : List CString) (header : CString) :
    jarAfter (headers ++ [header]) =
      (jarAfter headers).bind fun jar => (cwmpdCookieCookiejarBuild jar header).map Prod.snd := by
  rw [jarAfter, List.foldlM_append, ← jarAfter]
  refine congrArg _ (funext fun jar => ?_)
  rw [List.foldlM_cons]
  rcases cwmpdCookieCookiejarBuild jar header with - | r
  · rfl
  · rfl

/-- A response sets its cookies, and no other event of the session touches the jar. -/
theorem jar_of_step (h : s.step lib e = some t) (hopen : ¬s.client.Closes e.event)
    {headers : List CString} (hs : jarAfter headers = some (s.jar.getD Table.empty)) :
    jarAfter (headers ++ e.setCookies) = some (t.jar.getD Table.empty) := by
  have hjar := (step_eq_some h).2
  rw [jarAfterEvent] at hjar
  rw [WireEvent.setCookies]
  split at hjar
  · next response hevent =>
    split at hjar
    · next h200 =>
      have hset := clientHandleCookies_getD s.jar e.setCookie
      rw [hjar, Option.map_some] at hset
      rw [if_pos h200, jarAfter_concat, hs, Option.bind_some, ← hset]
    · next h200 =>
      rw [if_neg h200, List.append_nil, hs, Option.some.inj hjar]
  · rw [if_neg hopen] at hjar
    rw [← Option.some.inj hjar, List.append_nil]
    exact hs

/-- The jar has what the responses of the session have set. -/
theorem jar_of_run (h : Runs.exec (step lib) u es = some t)
    (hopen : Runs.Meets (step lib) (fun s e => ¬s.client.Closes e.event) u es)
    (hu : u.jar = none) : jarAfter (setCookies es) = some (t.jar.getD Table.empty) := by
  rw [setCookies, List.flatMap_eq_foldl]
  refine Runs.exec_foldl (R := fun s headers => jarAfter headers = some (s.jar.getD Table.empty))
    (fun s e t headers hs hnot hstep => jar_of_step hstep hnot hs) h hopen ?_
  rw [hu]
  rfl

/-! ### The message -/

/-- The pending message after an event: none, the one before, or the one that is sent. -/
theorem pendingMsg_of_step {s t : CwmpClient} {e : ClientEvent} (h : s.step lib e = some t) :
    t.pendingMsg = s.pendingMsg ∨ s.Replaces e ∧ (t.pendingMsg = none ∨
      ∃ soapMsg connects, e = .send soapMsg connects ∧
        t.pendingMsg = some (lib.smmTranslate soapMsg)) := by
  cases CwmpClient.stepped_of_step h with
  | startSession start =>
    refine Or.inl ?_
    unfold CwmpClient.clientStartSession CwmpClient.cwmpClientPrepareSession
      CwmpClient.cwmpClientGenAuthHdr
    dsimp only
    split
    · rfl
    · split
      · split <;> rfl
      · rfl
  | send soapMsg connects =>
    refine Or.inr ⟨trivial, ?_⟩
    rw [CwmpClient.dmSendHttpMessage, CwmpClient.connectViaInfo]
    split
    · exact Or.inr ⟨soapMsg, connects, rfl, rfl⟩
    · rcases connects with - | -
      · exact Or.inl rfl
      · exact Or.inr ⟨soapMsg, true, rfl, rfl⟩
  | close | error | sessionTimedOut => exact Or.inr ⟨trivial, Or.inl rfl⟩
  | established response =>
    rw [CwmpClient.cwmpClientConnectionEstablishedCb]
    split
    · next h204 => exact Or.inr ⟨h204, Or.inl rfl⟩
    · refine Or.inl ?_
      split
      · unfold CwmpClient.cwmpClientGetAuthenticationHdr CwmpClient.cwmpClientGenAuthHdr
        dsimp only
        split
        · rfl
        · split <;> rfl
      · rfl
  | closed =>
    rw [CwmpClient.cwmpClientConnectionClosedCb]
    by_cases h204 : s.httpStatus = 204
    · rw [if_pos h204]
      exact Or.inr ⟨Or.inl h204, Or.inl rfl⟩
    rw [if_neg h204]
    by_cases h401 : s.httpStatus = 401
    · rw [if_pos h401]
      split
      · exact Or.inl rfl
      · next hnot => exact Or.inr ⟨Or.inr (Or.inl ⟨h401, hnot⟩), Or.inl rfl⟩
    · rw [if_neg h401]
      split
      · next h200 => exact Or.inr ⟨Or.inr (Or.inr ⟨h204, h401, h200⟩), Or.inl rfl⟩
      · exact Or.inl rfl
  | elapse hdue => exact Or.inl rfl
  | authRetry harmed connects =>
    rw [CwmpClient.cwmpClientAuthRetry]
    split
    · exact Or.inl rfl
    · rw [CwmpClient.connectViaInfo]
      split
      · exact Or.inl rfl
      · rcases connects with - | -
        · exact Or.inr ⟨trivial, Or.inl rfl⟩
        · exact Or.inl rfl

/-- **The pending message** is the one that has been sent last in the session. -/
theorem pendingMsg_of_run (h : Runs.exec (step lib) u es = some t)
    (hu : u.client.pendingMsg = none) {pendingMsg : CString}
    (ht : t.client.pendingMsg = some pendingMsg) :
    ∃ soapMsg, lastSent es = some soapMsg ∧ pendingMsg = lib.smmTranslate soapMsg := by
  refine Runs.exec_foldl (G := Runs.free)
    (R := fun s last => ∀ m, s.client.pendingMsg = some m →
      ∃ soapMsg, last = some soapMsg ∧ m = lib.smmTranslate soapMsg)
    (fun s e t last hs _ hstep m hm => ?_) h (Runs.meets_free _ _)
    (fun m hm => absurd (hu.symm.trans hm) nofun) pendingMsg ht
  have hclient := (step_eq_some hstep).1
  rcases hevent : e.event with start | ⟨soapMsg, connects⟩ | - | response | - | - | seconds |
    connects | -
  case send =>
    rw [hevent] at hclient
    obtain rfl | hfree : m = lib.smmTranslate soapMsg ∨ t.client.pendingMsg = none := by
      have hsent := Option.some.inj hclient
      rw [← hsent, CwmpClient.dmSendHttpMessage, CwmpClient.connectViaInfo] at hm ⊢
      split at hm
      · exact Or.inl (Option.some.inj hm).symm
      · rcases connects with - | -
        · cases hm
        · exact Or.inl (Option.some.inj hm).symm
    · exact ⟨soapMsg, rfl, rfl⟩
    · exact absurd (hfree.symm.trans hm) nofun
  all_goals
    rcases pendingMsg_of_step hclient with hsame | ⟨-, hnone | ⟨soapMsg, connects, hsend, -⟩⟩
    · exact hs m (hsame ▸ hm)
    · exact absurd (hnone.symm.trans hm) nofun
    · rw [hevent] at hsend
      cases hsend

/-! ### The header for the authentication -/

/-- **A header that is new has been generated** by the event. -/
theorem generates_of_step {s t : CwmpClient} {e : ClientEvent} (h : s.step lib e = some t)
    {header : CString} (ht : t.authHdr = some header) (hs : s.authHdr ≠ some header) :
    Generates lib s header e := by
  cases CwmpClient.stepped_of_step h with
  | startSession start =>
    unfold CwmpClient.clientStartSession CwmpClient.cwmpClientPrepareSession
      CwmpClient.cwmpClientGenAuthHdr at ht
    dsimp only at ht
    split at ht
    · exact absurd ht hs
    · split at ht
      · next https =>
        split at ht
        · next username passwd husername hpasswd =>
          exact ⟨https, username, passwd, husername, hpasswd, ht⟩
        · exact absurd ht hs
      · exact absurd ht hs
  | send soapMsg connects =>
    rw [CwmpClient.dmSendHttpMessage, CwmpClient.connectViaInfo] at ht
    split at ht
    · exact absurd ht hs
    · rcases connects with - | - <;> exact absurd ht hs
  | close | error | sessionTimedOut => cases ht
  | established response =>
    rw [CwmpClient.cwmpClientConnectionEstablishedCb] at ht
    split at ht
    · exact absurd ht hs
    · split at ht
      · next h401 =>
        rcases hauth : response.wwwAuthenticate with - | authD
        · rw [CwmpClient.cwmpClientGetAuthenticationHdr, hauth] at ht
          exact absurd ht hs
        · rw [CwmpClient.cwmpClientGetAuthenticationHdr_eq hauth] at ht
          unfold CwmpClient.headerFound at ht
          dsimp only at ht
          split at ht
          · next username passwd husername hpasswd =>
            exact ⟨h401, authD, username, passwd, hauth, husername, hpasswd, ht⟩
          · exact absurd ht hs
      · exact absurd ht hs
  | closed =>
    unfold CwmpClient.cwmpClientConnectionClosedCb at ht
    split at ht
    · cases ht
    · split at ht
      · split at ht
        · exact absurd ht hs
        · cases ht
      · split at ht
        · cases ht
        · exact absurd ht hs
  | elapse hdue => exact absurd ht hs
  | authRetry harmed connects =>
    rw [CwmpClient.cwmpClientAuthRetry] at ht
    split at ht
    · exact absurd ht hs
    · rw [CwmpClient.connectViaInfo] at ht
      split at ht
      · exact absurd ht hs
      · rcases connects with - | - <;> exact absurd ht hs

/-! ### The request -/

/-- The headers there are, where there is room for them. -/
theorem addHttpHeader_eq {p q : List RequestHeader} {header : RequestHeader}
    (h : addHttpHeader fits p header = some q) : q = p ++ [header] := by
  rw [addHttpHeader] at h
  split at h
  · exact (Option.some.inj h).symm
  · cases h

theorem addHttpHeaderIfAny_eq {p q : List RequestHeader} {header : Option RequestHeader}
    (h : addHttpHeaderIfAny fits p header = some q) : q = p ++ header.toList := by
  rcases header with - | header
  · rw [← Option.some.inj h]
    exact (List.append_nil _).symm
  · exact addHttpHeader_eq h

/-- **The headers of a request**, in terms of the client. -/
theorem handshake_eq (h : s.cwmpClientHandshakeCb fits = some headers) :
    ∃ pendingMsg, s.client.pendingMsg = some pendingMsg ∧
      headers = [.userAgent, .contentLength pendingMsg.length] ++
        (Option.map RequestHeader.cookie (cwmpdCookieCookiejarToString s.jar)).toList ++
        (Option.map RequestHeader.authorization s.client.authHdr).toList ++
        (if pendingMsg = [] then [] else [.contentType, .soapAction]) := by
  obtain ⟨pendingMsg, hmsg, h⟩ := Option.bind_eq_some_iff.mp h
  obtain ⟨p₁, hp₁, h⟩ := Option.bind_eq_some_iff.mp h
  obtain ⟨p₂, hp₂, h⟩ := Option.bind_eq_some_iff.mp h
  obtain ⟨p₃, hp₃, h⟩ := Option.bind_eq_some_iff.mp h
  obtain ⟨p₄, hp₄, h⟩ := Option.bind_eq_some_iff.mp h
  have h₂ : p₂ = [.userAgent, .contentLength pendingMsg.length] := by
    rw [addHttpHeader_eq hp₂, addHttpHeader_eq hp₁]
    rfl
  refine ⟨pendingMsg, hmsg, ?_⟩
  rw [← h₂, ← addHttpHeaderIfAny_eq hp₃, ← addHttpHeaderIfAny_eq hp₄]
  split at h
  · next hlength =>
    obtain ⟨p₅, hp₅, h⟩ := Option.bind_eq_some_iff.mp h
    rw [addHttpHeader_eq h, addHttpHeader_eq hp₅, if_neg (List.ne_nil_of_length_pos hlength),
      List.append_assoc]
    rfl
  · next hlength =>
    rw [if_pos (List.length_eq_zero_iff.mp (by omega)), List.append_nil]
    exact (Option.some.inj h).symm

/-- **A request of the session**: its headers, in terms of what has happened since nothing was
left. -/
theorem requestOf_of_run (h : Runs.exec (step lib) u es = some s)
    (hopen : Runs.Meets (step lib) (fun s e => ¬s.client.Closes e.event) u es)
    (hclosed : u.client.SessionClosed) (hjar : u.jar = none)
    (hrequest : s.cwmpClientHandshakeCb fits = some headers) : RequestOf lib u es headers := by
  obtain ⟨pendingMsg, hmsg, rfl⟩ := handshake_eq hrequest
  obtain ⟨soapMsg, hsent, rfl⟩ := pendingMsg_of_run h hclosed.message hmsg
  have hset := jar_of_run h hopen hjar
  have htext : cwmpdCookieCookiejarToString s.jar =
      cwmpdCookieCookiejarToString (some (s.jar.getD Table.empty)) := by
    rcases s.jar with - | jar
    · rfl
    · rfl
  refine ⟨soapMsg, s.jar.getD Table.empty, _, s.client.authHdr, hsent, rfl, hset, htext,
    fun text hcookie => ?_, fun text hauth => ?_⟩
  · obtain ⟨jar, hjar, -, hback⟩ := cookiejarBuild_cookiejarToString (setCookies es)
    obtain rfl := Option.some.inj (hjar.symm.trans hset)
    exact hback text (htext.symm.trans hcookie)
  · -- the header was not there when the session was closed
    obtain ⟨before, e, after, v, w, rfl, hv, -, hw, hnot, hnow⟩ :=
      Runs.exec_origin (P := fun s => s.client.authHdr = some text) h (Runs.meets_free _ _)
        (fun hold => absurd (hclosed.header.symm.trans hold) nofun) hauth
    exact ⟨before, e, after, v, rfl, hv, generates_of_step (step_eq_some hw).1 hnow hnot⟩

/-- **What is put on the wire is of the session**: whenever the headers of a request are written, in
any run of the client, the run has a part in which the session has not been closed, after the end of
an earlier session or from the start, and the request is one of that part alone. -/
theorem request_of_run (lib : ClientLibrary) (fits : List RequestHeader → Bool)
    (es : List WireEvent) (s : WireClient) (headers : List RequestHeader)
    (h : Runs.exec (step lib) initial es = some s)
    (hrequest : s.cwmpClientHandshakeCb fits = some headers) :
    ∃ before since u, es = before ++ since ∧ Runs.exec (step lib) initial before = some u ∧
      u.client.SessionClosed ∧ Runs.exec (step lib) u since = some s ∧
      Runs.Meets (step lib) (fun s e => ¬s.client.Closes e.event) u since ∧
      RequestOf lib u since headers := by
  obtain ⟨before, since, u, rfl, hbefore, hsince, hopen, hcut⟩ :=
    Runs.exec_since (fun (s : WireClient) e => s.client.Closes e.event) h
  have hclosed : u.client.SessionClosed ∧ u.jar = none := by
    rcases hcut with rfl | ⟨first, v, e, -, -, hcloses, hstep⟩
    · obtain rfl := Option.some.inj hbefore
      exact ⟨⟨rfl, rfl, rfl⟩, rfl⟩
    · exact closed_of_closes hstep hcloses
  exact ⟨before, since, u, rfl, hbefore, hclosed.1, hsince, hopen,
    requestOf_of_run hsince hopen hclosed.1 hclosed.2 hrequest⟩

/-- **The body is as long as the headers tell**: until an event puts another message in the place of
the pending one, the body that is written is the message the headers were written for. -/
theorem body_of_run (h : s.cwmpClientHandshakeCb fits = some headers)
    (hrun : Runs.exec (step lib) s es = some t)
    (hkept : Runs.Meets (step lib) (fun s e => ¬s.client.Replaces e.event) s es) :
    ∃ body, t.cwmpClientHttpWritableCb = some body ∧ .contentLength body.length ∈ headers := by
  obtain ⟨pendingMsg, hmsg, rfl⟩ := handshake_eq h
  refine ⟨pendingMsg, ?_, by simp⟩
  have hreach := Runs.reaches_of_exec hrun hkept
  refine Runs.Reaches.invariant (I := fun t => t.client.pendingMsg = some pendingMsg)
    (fun s e t hs hnot hstep => ?_) hreach hmsg
  rcases pendingMsg_of_step (step_eq_some hstep).1 with hsame | ⟨hreplaces, -⟩
  · exact hsame.trans hs
  · exact absurd hreplaces hnot

/-- A session over TLS, in which the first response sets a cookie; the second message goes with
it. -/
theorem request_of_run_cookie :
    ∃ (before since : List WireEvent) (u s : WireClient) (headers : List RequestHeader),
      .cookie "id=7".toList ∈ headers ∧ s.cwmpClientHandshakeCb (fun _ => true) = some headers ∧
      Runs.exec (step CwmpClient.plainLibrary) initial before = some u ∧
      Runs.exec (step CwmpClient.plainLibrary) u since = some s ∧
      RequestOf CwmpClient.plainLibrary u since headers := by
  let start : SessionStart :=
    ⟨"acs".toList, none, true, true, some "u".toList, some "p".toList, none⟩
  let es : List WireEvent := [⟨.startSession start, []⟩, ⟨.send "m".toList true, []⟩,
    ⟨.established ⟨200, none, none, none, []⟩, "id=7; Path=/".toList⟩, ⟨.closed, []⟩,
    ⟨.send "n".toList true, []⟩]
  have hrun : ((Runs.exec (step CwmpClient.plainLibrary) initial es).bind
      (cwmpClientHandshakeCb fun _ => true)) = some [.userAgent, .contentLength 1,
        .cookie "id=7".toList, .authorization "Basic u:p".toList, .contentType, .soapAction] := by
    decide
  obtain ⟨s, hs, hrequest⟩ := Option.bind_eq_some_iff.mp hrun
  obtain ⟨before, since, u, -, hbefore, -, hsince, -, hof⟩ :=
    request_of_run CwmpClient.plainLibrary (fun _ => true) es s _ hs hrequest
  exact ⟨before, since, u, s, _, by decide, hrequest, hbefore, hsince, hof⟩

end WireClient

end Tr069
