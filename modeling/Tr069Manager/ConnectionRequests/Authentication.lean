import Tr069Manager.ConnectionRequests.RateLimit
import Tr069Manager.ConnectionRequests.Server

/-!
# The authentication of connection requests

`cwmp_server_handle_request` (`dmmain/cwmpd_server.c`) asks the engine for a session if a request is
within the limit, is a GET of the path, and has a digest that is correct for the credentials and for
the nonce and the opaque value in two buffers. A request that fails the last of these is answered
with a 401, for which new values are put into the buffers.

The buffers belong to nobody in particular. They are empty before the first 401, they have values
nobody has been told where the response could not be written, and they stay as they are after a
request that was successful – so that its header will do for another one
(`not_authenticated_of_replay`). A run is as it should be exactly if every request that passes the
checks comes when the last of the server's doings was to send a 401
(`authenticated_iff_challenged`).

The digest itself is a parameter, and the generator fills in values that have not been used. The
header is the text that `lws_hdr_copy` gives, empty where there is none.
-/

namespace Tr069

/-! ### The data -/

/-- What is not in the source: the token of the header, and the two functions of `dm_com_digest.h`
on the message, the nonce, the opaque value and the credentials. -/
structure DigestLibrary where
  authorizationToken : CString
  checkDigestAuthMessageContent : CString → Bool
  performClientDigestAuthentication : CString → CString → CString → CString → CString → Bool

/-- `randomNonceStr` and `randomOpaqueStr`. -/
structure NoncePair where
  nonce : CString
  opaqueValue : CString
  deriving DecidableEq

/-- What a client sends, and what there is when it is handled: the limits and the clock, whether the
credentials can be read, the values for a challenge and whether the response with it could be
written, and whether the engine takes the request for a session. -/
structure ConnectionRequest where
  uri : CString
  getUri : Bool
  http : Bool
  authorization : CString
  limits : ConnectionLimits
  visit : SlidingWindow.Visit
  usernameRead : Bool
  passwordRead : Bool
  fresh : NoncePair
  replied : Bool
  connected : Bool

/-- What the server has done: it has made a challenge, which was sent or not, or it has asked for a
session for a digest with a pair of values. -/
inductive LogEntry where
  | challenged (pair : NoncePair) (replied : Bool)
  | requestedConnection (pair : NoncePair)
  deriving DecidableEq

/-- The pair of an entry. -/
def LogEntry.pair : LogEntry → NoncePair
  | .challenged pair _ => pair
  | .requestedConnection pair => pair

/-- The data model, the server and its buffers, and a log, the latest entry first, which the daemon
does not have. -/
structure ConnectionServer where
  dm : ManagementServer
  username : CString
  password : CString
  server : HttpServer
  buffers : NoncePair
  log : List LogEntry

/-- The response to a request. -/
inductive HttpReply where
  | badRequest
  | serviceUnavailable
  | notFound
  | unauthorized
  | noContent
  deriving DecidableEq

/-! ### The source -/

namespace ConnectionServer

/-- When the daemon comes up; the buffers are empty. -/
def initial (dm : ManagementServer) (username password : CString) : ConnectionServer :=
  ⟨dm, username, password, HttpServer.initial, ⟨[], []⟩, []⟩

/-- `cwmp_server_validate_uri`. -/
def cwmpServerValidateUri (s : ConnectionServer) (r : ConnectionRequest) : Bool :=
  r.getUri && r.http && decide (some (r.uri.drop 1) = s.server.randomCpeUrl)

/-- The message that is checked. -/
def digestMessage (lib : DigestLibrary) (r : ConnectionRequest) : CString :=
  let httpMethod := if r.getUri then "GET".toList else []
  httpMethod ++ " ".toList ++ r.uri ++ "\n\r".toList ++ lib.authorizationToken ++ " ".toList ++
    r.authorization

/-- `DM_COM_PerformClientDigestAuthentication`, for the buffers and the credentials there are. -/
def digestCorrect (lib : DigestLibrary) (s : ConnectionServer) (r : ConnectionRequest) : Bool :=
  lib.performClientDigestAuthentication (digestMessage lib r) s.buffers.nonce
    s.buffers.opaqueValue s.username s.password

/-- `cwmp_server_validate_authentication`. -/
def cwmpServerValidateAuthentication (lib : DigestLibrary) (s : ConnectionServer)
    (r : ConnectionRequest) : Bool :=
  if ¬r.usernameRead then false
  else if ¬r.passwordRead then false
  else if r.authorization = [] then false
  else if lib.checkDigestAuthMessageContent (digestMessage lib r) then digestCorrect lib s r
  else false

/-- `cwmp_server_check_availability`, on the list of the server. -/
def available (s : ConnectionServer) (r : ConnectionRequest) : List ℤ × Bool :=
  cwmpServerCheckAvailability r.limits s.server.connectionTimestampList r.visit

/-- `cwmp_server_reply_http_unauthorized`: `DM_COM_GenerateRequestDigestMsg` fills the buffers
before the response is written. -/
def cwmpServerReplyHttpUnauthorized (s : ConnectionServer) (r : ConnectionRequest) :
    ConnectionServer :=
  { s with buffers := r.fresh, log := .challenged r.fresh r.replied :: s.log }

/-- `DM_ENG_RequestConnection`. -/
def requestConnection (s : ConnectionServer) : ConnectionServer :=
  { s with log := .requestedConnection s.buffers :: s.log }

/-- `cwmp_server_handle_request`. -/
def cwmpServerHandleRequest (lib : DigestLibrary) (s : ConnectionServer) (r : ConnectionRequest) :
    ConnectionServer × HttpReply :=
  if r.uri.length < 1 then (s, .badRequest)
  else
    let available := s.available r
    let s := { s with server := { s.server with connectionTimestampList := available.1 } }
    if ¬available.2 then (s, .serviceUnavailable)
    else if ¬s.cwmpServerValidateUri r then (s, .notFound)
    else if ¬s.cwmpServerValidateAuthentication lib r then
      (s.cwmpServerReplyHttpUnauthorized r, .unauthorized)
    else (s.requestConnection, if r.connected then .noContent else .serviceUnavailable)

end ConnectionServer

/-! ### The system -/

/-- What can happen: a request, other credentials, or a restart of the server with the values the
data model has by then. -/
inductive ConnectionEvent where
  | request (r : ConnectionRequest)
  | credentials (username password : CString)
  | restart (dm : ManagementServer) (around : Surroundings)

namespace ConnectionServer

/-- Values that have not been used, not even as what is in the buffers at first. -/
def Unseen (s : ConnectionServer) (pair : NoncePair) : Prop :=
  pair ≠ ⟨[], []⟩ ∧ ∀ entry ∈ s.log, entry.pair ≠ pair

instance (s : ConnectionServer) (pair : NoncePair) : Decidable (s.Unseen pair) :=
  inferInstanceAs (Decidable (_ ∧ _))

/-- One event, if it is possible. -/
def step (lib : DigestLibrary) (s : ConnectionServer) : ConnectionEvent → Option ConnectionServer
  | .request r => if s.Unseen r.fresh then some (s.cwmpServerHandleRequest lib r).1 else none
  | .credentials username password => some { s with username := username, password := password }
  | .restart dm around =>
    some { s with dm := dm, server := (s.server.cwmpAppHttpServerRestart dm around).1 }

end ConnectionServer

/-! ### The property -/

namespace ConnectionServer

/-- The pair was sent in a 401. -/
def Issued (s : ConnectionServer) (pair : NoncePair) : Prop := .challenged pair true ∈ s.log

/-- The pair has led to a session. -/
def Used (s : ConnectionServer) (pair : NoncePair) : Prop := .requestedConnection pair ∈ s.log

/-- The engine is asked for a session. -/
def Requests (lib : DigestLibrary) (s : ConnectionServer) (r : ConnectionRequest) : Prop :=
  (s.cwmpServerHandleRequest lib r).1.log = .requestedConnection s.buffers :: s.log

/-- A request that may lead to a session: a GET of the path the data model has, within the limit,
with a header that is correct for the credentials and for a pair of values that was sent in a 401
and has not led to a session. -/
structure Authentic (lib : DigestLibrary) (s : ConnectionServer) (r : ConnectionRequest) :
    Prop where
  getUri : r.getUri = true
  path : r.uri.drop 1 = s.dm.connRequestPath
  withinLimit : (s.available r).2 = true
  header : r.authorization ≠ []
  digest : digestCorrect lib s r = true
  issued : s.Issued s.buffers
  unused : ¬s.Used s.buffers

/-- **What is wanted of an event**: a request leads to a session only if it may. -/
def Authenticated (lib : DigestLibrary) (s : ConnectionServer) : ConnectionEvent → Prop
  | .request r => s.Requests lib r → s.Authentic lib r
  | _ => True

/-- A request that passes the checks of the server. -/
structure Passes (lib : DigestLibrary) (s : ConnectionServer) (r : ConnectionRequest) : Prop where
  uri : 1 ≤ r.uri.length
  available : (s.available r).2 = true
  validUri : s.cwmpServerValidateUri r = true
  validAuthentication : s.cwmpServerValidateAuthentication lib r = true

/-- **The condition**: a request that passes the checks comes when the last of the server's doings
was to send a 401. -/
def Challenged (lib : DigestLibrary) (s : ConnectionServer) : ConnectionEvent → Prop
  | .request r => s.Passes lib r → .challenged s.buffers true ∈ s.log.head?
  | _ => True

end ConnectionServer

/-! ### What a request does -/

namespace ConnectionServer

variable {lib : DigestLibrary} {s t : ConnectionServer} {r : ConnectionRequest}
  {e : ConnectionEvent}

/-- The state in which the request is in the list of the limit. -/
def admitted (s : ConnectionServer) (r : ConnectionRequest) : ConnectionServer :=
  { s with server := { s.server with connectionTimestampList := (s.available r).1 } }

/-- **The ways of a request**: it asks for a session if it passes the checks; otherwise there is a
challenge, or nothing but the list of the limit changes. -/
theorem handleRequest_cases (lib : DigestLibrary) (s : ConnectionServer) (r : ConnectionRequest) :
    (s.Passes lib r ∧ (s.cwmpServerHandleRequest lib r).1 = (s.admitted r).requestConnection) ∨
    (¬s.Passes lib r ∧ ((s.cwmpServerHandleRequest lib r).1 = s ∨
      (s.cwmpServerHandleRequest lib r).1 = s.admitted r ∨
      (s.cwmpServerHandleRequest lib r).1 = (s.admitted r).cwmpServerReplyHttpUnauthorized r)) := by
  rw [cwmpServerHandleRequest]
  split
  · next huri => exact Or.inr ⟨fun hpasses => absurd hpasses.uri (by omega), Or.inl rfl⟩
  · next huri =>
    simp only
    split
    · next hlimit =>
      exact Or.inr ⟨fun hpasses => hlimit hpasses.available, Or.inr (Or.inl rfl)⟩
    · next hlimit =>
      split
      · next hpath => exact Or.inr ⟨fun hpasses => hpath hpasses.validUri, Or.inr (Or.inl rfl)⟩
      · next hpath =>
        split
        · next hauth =>
          exact Or.inr ⟨fun hpasses => hauth hpasses.validAuthentication, Or.inr (Or.inr rfl)⟩
        · next hauth =>
          exact Or.inl ⟨⟨by omega, not_not.mp hlimit, not_not.mp hpath, not_not.mp hauth⟩, rfl⟩

/-- The engine is asked for a session exactly if the request passes the checks. -/
theorem requests_iff_passes : s.Requests lib r ↔ s.Passes lib r := by
  rw [Requests]
  rcases handleRequest_cases lib s r with ⟨hpasses, hhandled⟩ | ⟨hnot, hways⟩
  · rw [hhandled]
    exact iff_of_true rfl hpasses
  · refine iff_of_false (fun hlog => ?_) hnot
    rcases hways with hhandled | hhandled | hhandled
    · rw [hhandled] at hlog
      exact List.cons_ne_self _ _ hlog.symm
    · rw [hhandled] at hlog
      exact List.cons_ne_self _ _ hlog.symm
    · rw [hhandled] at hlog
      cases (List.cons.inj hlog).1

theorem validUri_eq_true : s.cwmpServerValidateUri r = true ↔
    (r.getUri = true ∧ r.http = true) ∧ some (r.uri.drop 1) = s.server.randomCpeUrl := by
  rw [cwmpServerValidateUri, Bool.and_eq_true, Bool.and_eq_true, decide_eq_true_iff]

theorem validAuthentication_eq_true (h : s.cwmpServerValidateAuthentication lib r = true) :
    r.authorization ≠ [] ∧ digestCorrect lib s r = true := by
  rw [cwmpServerValidateAuthentication] at h
  -- a read that fails and a missing header are refused first
  split at h
  · cases h
  · split at h
    · cases h
    · split at h
      · cases h
      · next hheader =>
        split at h
        · exact ⟨hheader, h⟩
        · cases h

/-! ### The values of a challenge -/

/-- **The invariant**: the path is that of the data model, if there is one; the buffers have the
values of the latest entry of the log; and no entry before a challenge has its values. -/
structure Tracked (s : ConnectionServer) : Prop where
  path : s.server.randomCpeUrl = none ∨ s.server.randomCpeUrl = some s.dm.connRequestPath
  buffers : ∀ entry ∈ s.log.head?, s.buffers = entry.pair
  fresh : s.log.Pairwise fun later earlier => ∀ pair replied,
    later = .challenged pair replied → earlier.pair ≠ pair

theorem Tracked.mono (h : s.Tracked) (hpath : t.server.randomCpeUrl = s.server.randomCpeUrl)
    (hdm : t.dm = s.dm) (hbuffers : t.buffers = s.buffers) (hlog : t.log = s.log) : t.Tracked := by
  refine ⟨?_, ?_, ?_⟩
  · rw [hpath, hdm]
    exact h.path
  · rw [hlog, hbuffers]
    exact h.buffers
  · rw [hlog]
    exact h.fresh

theorem Tracked.challenge (h : s.Tracked) (hunseen : s.Unseen r.fresh) :
    (s.cwmpServerReplyHttpUnauthorized r).Tracked := by
  refine ⟨h.path, ?_, List.pairwise_cons.mpr ⟨?_, h.fresh⟩⟩
  · rintro entry hentry
    obtain rfl := Option.some.inj hentry
    rfl
  · rintro entry hentry pair replied heq
    obtain ⟨rfl, -⟩ := LogEntry.challenged.inj heq
    exact hunseen.2 entry hentry

theorem Tracked.requestConnection (h : s.Tracked) : s.requestConnection.Tracked := by
  refine ⟨h.path, ?_, List.pairwise_cons.mpr ⟨?_, h.fresh⟩⟩
  · rintro entry hentry
    obtain rfl := Option.some.inj hentry
    rfl
  · rintro entry hentry pair replied heq
    cases heq

/-- **One event** keeps the invariant. -/
theorem Tracked.step (h : s.Tracked) (hstep : s.step lib e = some t) : t.Tracked := by
  rcases e with r | ⟨username, password⟩ | ⟨dm, around⟩
  · rw [ConnectionServer.step] at hstep
    split at hstep
    · next hunseen =>
      obtain rfl := Option.some.inj hstep
      have hadmitted : (s.admitted r).Tracked := h.mono rfl rfl rfl rfl
      rcases handleRequest_cases lib s r with ⟨-, hhandled⟩ | ⟨-, hhandled | hhandled | hhandled⟩
      · rw [hhandled]
        exact hadmitted.requestConnection
      · rw [hhandled]
        exact h
      · rw [hhandled]
        exact hadmitted
      · rw [hhandled]
        exact hadmitted.challenge hunseen
    · cases hstep
  · obtain rfl := Option.some.inj hstep
    exact h.mono rfl rfl rfl rfl
  · obtain rfl := Option.some.inj hstep
    exact ⟨HttpServer.randomCpeUrl_restart, h.buffers, h.fresh⟩

/-- **The pair in the buffers** was sent and has not led to a session exactly if the last of the
server's doings was to send it. -/
theorem Tracked.issued_unused_iff (h : s.Tracked) :
    (s.Issued s.buffers ∧ ¬s.Used s.buffers) ↔ .challenged s.buffers true ∈ s.log.head? := by
  rw [Issued, Used]
  rcases hlog : s.log with - | ⟨entry, earlier⟩
  · exact iff_of_false (fun hissued => List.not_mem_nil hissued.1) (Option.not_mem_none _)
  have hbuffers : s.buffers = entry.pair := h.buffers entry (hlog ▸ rfl)
  have hfresh := (List.pairwise_cons.mp (hlog ▸ h.fresh)).1
  rw [List.head?_cons]
  rcases entry with ⟨pair, replied⟩ | pair
  · -- no earlier entry has the values of the challenge
    have hbefore : ∀ entry ∈ earlier, entry.pair ≠ s.buffers := fun entry hentry => by
      rw [hbuffers]
      exact hfresh entry hentry pair replied rfl
    rw [Option.mem_some_iff]
    constructor
    · rintro ⟨hissued, -⟩
      rcases List.mem_cons.mp hissued with hsame | hearlier
      · exact hsame.symm
      · exact absurd rfl (hbefore _ hearlier)
    · intro hsame
      refine ⟨List.mem_cons.mpr (Or.inl hsame.symm), fun hused => ?_⟩
      rcases List.mem_cons.mp hused with hsession | hearlier
      · cases hsession
      · exact absurd rfl (hbefore _ hearlier)
  · -- the pair has led to a session
    refine iff_of_false (fun hunused => hunused.2 ?_) fun hsame => ?_
    · rw [hbuffers]
      exact List.mem_cons_self
    · cases Option.some.inj hsame

/-! ### Runs -/

/-- A request that passes the checks is authentic if the last of the server's doings was to send a
401. -/
theorem Tracked.authenticated_iff (h : s.Tracked) (e : ConnectionEvent) :
    s.Authenticated lib e ↔ s.Challenged lib e := by
  rcases e with r | ⟨username, password⟩ | ⟨dm, around⟩
  · rw [Authenticated, Challenged, requests_iff_passes]
    refine imp_congr_right fun hpasses => ⟨fun hauthentic => ?_, fun hchallenged => ?_⟩
    · exact h.issued_unused_iff.mp ⟨hauthentic.issued, hauthentic.unused⟩
    · obtain ⟨hissued, hunused⟩ := h.issued_unused_iff.mpr hchallenged
      obtain ⟨⟨hget, -⟩, hpath⟩ := validUri_eq_true.mp hpasses.validUri
      obtain ⟨hheader, hdigest⟩ := validAuthentication_eq_true hpasses.validAuthentication
      refine ⟨hget, ?_, hpasses.available, hheader, hdigest, hissued, hunused⟩
      rcases h.path with hnone | hsome
      · rw [hnone] at hpath
        cases hpath
      · rw [hsome] at hpath
        exact Option.some.inj hpath
  · exact Iff.rfl
  · exact Iff.rfl

end ConnectionServer

/-- **Connection requests are authenticated and cannot be replayed** in a run exactly if every
request that passes the checks comes when the last of the server's doings was to send a 401. -/
theorem authenticated_iff_challenged (lib : DigestLibrary) (dm : ManagementServer)
    (username password : CString) (events : List ConnectionEvent) :
    Runs.Meets (ConnectionServer.step lib) (ConnectionServer.Authenticated lib)
        (ConnectionServer.initial dm username password) events ↔
      Runs.Meets (ConnectionServer.step lib) (ConnectionServer.Challenged lib)
        (ConnectionServer.initial dm username password) events := by
  refine Runs.meets_iff (I := ConnectionServer.Tracked) (fun s e t hs hstep => hs.step hstep)
    (fun s e hs => hs.authenticated_iff e) ⟨Or.inl rfl, ?_, List.Pairwise.nil⟩
  intro entry hentry
  cases hentry

/-- A digest for the example: the nonce and the password at the end of the header. -/
def exampleDigest : DigestLibrary where
  authorizationToken := "Authorization: Digest".toList
  checkDigestAuthMessageContent := fun _ => true
  performClientDigestAuthentication := fun message nonce _ _ password =>
    (nonce ++ password).isSuffixOf message

/-- A GET of the path, with a header, and the values for a challenge. -/
def exampleRequest (authorization nonce : String) : ConnectionRequest where
  uri := "/path".toList
  getUri := true
  http := true
  authorization := authorization.toList
  limits := ⟨1, 60⟩
  visit := ⟨0, 0⟩
  usernameRead := true
  passwordRead := true
  fresh := ⟨nonce.toList, nonce.toList⟩
  replied := true
  connected := true

/-- A challenge, its response, and the response again, from anybody. -/
def replayRun : List ConnectionEvent :=
  [.restart exampleServer .good, .request (exampleRequest "" "n1"),
    .request (exampleRequest "n1 secret" "n2"), .request (exampleRequest "n1 secret" "n2")]

/-- The header of a request that has led to a session leads to another one. -/
theorem not_authenticated_of_replay :
    ¬∀ (lib : DigestLibrary) (dm : ManagementServer) (username password : CString)
      (events : List ConnectionEvent),
      Runs.Meets (ConnectionServer.step lib) (ConnectionServer.Authenticated lib)
        (ConnectionServer.initial dm username password) events := by
  intro h
  have hrun := h exampleDigest exampleServer "acs".toList " secret".toList replayRun
  have hreplay := ((((hrun.2 _ rfl).2 _ rfl).2 _ rfl).1 rfl).unused
  exact hreplay List.mem_cons_self

end Tr069
