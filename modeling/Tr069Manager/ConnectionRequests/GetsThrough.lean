import Tr069Manager.ConnectionRequests.Authentication
import Tr069Manager.ConnectionRequests.ComesToRest

/-!
# A connection request gets through

What the URL, the server and the authentication are there for: the ACS asks for the URL that is
published, is sent a challenge, asks again with the digest of it, and is given a session.

Between the two requests there may be those of others. There is one pair of buffers for the values of
all challenges, so that another challenge, to whomever it is sent, takes the place of the first one.
Where the published URL is served, the second request of the ACS gets through exactly if nobody else
has been challenged since the first (`ConnReqSystem.getsThrough_iff`) – somebody who knows the path
can keep the ACS out without a digest of his own, and somebody who does not cannot.
-/

namespace Tr069

open Runs

/-! ### Challenges -/

namespace ConnectionServer

variable {lib : DigestLibrary} {s t u : ConnectionServer} {r : ConnectionRequest}
  {e : ConnectionEvent} {es : List ConnectionEvent} {pair : NoncePair}

/-- A request is not answered with a 401. -/
def Unchallenged (lib : DigestLibrary) (s : ConnectionServer) : ConnectionEvent → Prop
  | .request r => (s.cwmpServerHandleRequest lib r).2 ≠ .unauthorized
  | _ => True

/-- **The answers to a request**: a 401 puts new values into the buffers; any other answer leaves the
buffers as they are, and the values in the log are those of the buffers. -/
theorem handleRequest_reply (lib : DigestLibrary) (s : ConnectionServer) (r : ConnectionRequest) :
    ((s.cwmpServerHandleRequest lib r).2 = .unauthorized ∧
      (s.cwmpServerHandleRequest lib r).1 = (s.admitted r).cwmpServerReplyHttpUnauthorized r) ∨
    ((s.cwmpServerHandleRequest lib r).2 ≠ .unauthorized ∧
      ((s.cwmpServerHandleRequest lib r).1 = s ∨ (s.cwmpServerHandleRequest lib r).1 = s.admitted r ∨
        (s.cwmpServerHandleRequest lib r).1 = (s.admitted r).requestConnection)) := by
  rw [cwmpServerHandleRequest]
  split
  · exact Or.inr ⟨HttpReply.noConfusion, Or.inl rfl⟩
  · simp only
    split
    · exact Or.inr ⟨HttpReply.noConfusion, Or.inr (Or.inl rfl)⟩
    · split
      · exact Or.inr ⟨HttpReply.noConfusion, Or.inr (Or.inl rfl)⟩
      · split
        · exact Or.inl ⟨rfl, rfl⟩
        · refine Or.inr ⟨?_, Or.inr (Or.inr rfl)⟩
          split <;> exact HttpReply.noConfusion

/-- A pair of values has been used by the server. -/
def Seen (s : ConnectionServer) (pair : NoncePair) : Prop := ∃ entry ∈ s.log, entry.pair = pair

/-- **One event** leaves the buffers as they are, unless it is a request that is challenged; and what
has been used stays used, and does not come back into the buffers. -/
theorem buffers_of_step (hseen : s.Seen pair) (h : s.step lib e = some t) :
    t.Seen pair ∧ (s.Unchallenged lib e → t.buffers = s.buffers) ∧
      (¬s.Unchallenged lib e → t.buffers ≠ pair) ∧ (s.buffers ≠ pair → t.buffers ≠ pair) := by
  obtain ⟨entry, hentry, hpair⟩ := hseen
  cases e with
  | request r =>
    obtain ⟨hunseen, heq⟩ := Option.ite_none_right_eq_some.mp h
    obtain rfl := Option.some.inj heq
    rcases handleRequest_reply lib s r with ⟨hreply, hstate⟩ | ⟨hreply, hstate | hstate | hstate⟩
    · -- the values of the challenge have not been used before
      have hne : r.fresh ≠ pair := fun hsame => hunseen.2 entry hentry (hpair.trans hsame.symm)
      rw [hstate]
      exact ⟨⟨entry, List.mem_cons_of_mem _ hentry, hpair⟩, fun hnot => absurd hreply hnot,
        fun _ => hne, fun _ => hne⟩
    · rw [hstate]
      exact ⟨⟨entry, hentry, hpair⟩, fun _ => rfl, fun hnot => absurd hreply hnot, id⟩
    · rw [hstate]
      exact ⟨⟨entry, hentry, hpair⟩, fun _ => rfl, fun hnot => absurd hreply hnot, id⟩
    · rw [hstate]
      exact ⟨⟨entry, List.mem_cons_of_mem _ hentry, hpair⟩, fun _ => rfl,
        fun hnot => absurd hreply hnot, id⟩
  | credentials username password =>
    obtain rfl := Option.some.inj h
    exact ⟨⟨entry, hentry, hpair⟩, fun _ => rfl, fun hnot => absurd trivial hnot, id⟩
  | restart dm around =>
    obtain rfl := Option.some.inj h
    exact ⟨⟨entry, hentry, hpair⟩, fun _ => rfl, fun hnot => absurd trivial hnot, id⟩

/-- Values that have been replaced do not come back. -/
theorem buffers_ne_of_run (hseen : s.Seen pair) (hne : s.buffers ≠ pair)
    (h : exec (step lib) s es = some t) : t.buffers ≠ pair := by
  induction es generalizing s with
  | nil =>
    obtain rfl := Option.some.inj h
    exact hne
  | cons e es ih =>
    obtain ⟨v, hv, hrest⟩ := Option.bind_eq_some_iff.mp h
    obtain ⟨hseenv, -, -, hback⟩ := buffers_of_step hseen hv
    exact ih hseenv (hback hne) hrest

/-- **The values of a challenge are there until the next one**, and no longer. -/
theorem buffers_of_run (hseen : s.Seen s.buffers) (h : exec (step lib) s es = some t) :
    t.buffers = s.buffers ↔ Meets (step lib) (Unchallenged lib) s es := by
  induction es generalizing s with
  | nil =>
    obtain rfl := Option.some.inj h
    exact iff_of_true rfl trivial
  | cons e es ih =>
    obtain ⟨v, hv, hrest⟩ := Option.bind_eq_some_iff.mp h
    obtain ⟨hseenv, hkept, hreplaced, -⟩ := buffers_of_step hseen hv
    by_cases he : s.Unchallenged lib e
    · have hsame := hkept he
      rw [← hsame, ih (hsame ▸ hseenv) hrest]
      refine ⟨fun hmeets => ⟨he, fun w hw => ?_⟩, fun hmeets => hmeets.2 v hv⟩
      obtain rfl := Option.some.inj (hv.symm.trans hw)
      exact hmeets
    · exact iff_of_false (buffers_ne_of_run hseenv (hreplaced he) hrest) fun hmeets => he hmeets.1

/-- Requests leave the credentials and the path as they are. -/
theorem kept_of_requests {rs : List ConnectionRequest}
    (h : exec (step lib) s (rs.map .request) = some t) :
    t.username = s.username ∧ t.password = s.password ∧
      t.server.randomCpeUrl = s.server.randomCpeUrl := by
  induction rs generalizing s with
  | nil =>
    obtain rfl := Option.some.inj h
    exact ⟨rfl, rfl, rfl⟩
  | cons r rs ih =>
    obtain ⟨v, hv, hrest⟩ := Option.bind_eq_some_iff.mp h
    obtain ⟨-, heq⟩ := Option.ite_none_right_eq_some.mp hv
    obtain rfl := Option.some.inj heq
    obtain ⟨husername, hpassword, hpath⟩ := ih hrest
    rcases handleRequest_reply lib s r with ⟨-, hstate⟩ | ⟨-, hstate | hstate | hstate⟩ <;>
      rw [hstate] at husername hpassword hpath <;> exact ⟨husername, hpassword, hpath⟩

/-- A request within the limit for the path is answered with a 401, unless it is authenticated. -/
theorem handleRequest_of_path (huri : r.uri ≠ []) (hlimit : (s.available r).2 = true)
    (hpath : s.cwmpServerValidateUri r = true) :
    (s.cwmpServerHandleRequest lib r).2 =
      if s.cwmpServerValidateAuthentication lib r then
        (if r.connected then .noContent else .serviceUnavailable) else .unauthorized := by
  have hlength : ¬r.uri.length < 1 := fun h => huri (List.length_eq_zero_iff.mp (by omega))
  rw [cwmpServerHandleRequest, if_neg hlength]
  show (if ¬(s.available r).2 = true then (s.admitted r, HttpReply.serviceUnavailable)
    else if ¬s.cwmpServerValidateUri r = true then (s.admitted r, .notFound)
    else if ¬s.cwmpServerValidateAuthentication lib r = true then
      ((s.admitted r).cwmpServerReplyHttpUnauthorized r, .unauthorized)
    else ((s.admitted r).requestConnection,
      if r.connected then .noContent else .serviceUnavailable)).2 = _
  rw [if_neg (not_not_intro hlimit), if_neg (not_not_intro hpath)]
  by_cases hauth : s.cwmpServerValidateAuthentication lib r = true
  · rw [if_neg (not_not_intro hauth), if_pos hauth]
  · rw [if_pos hauth, if_neg hauth]

end ConnectionServer

/-! ### The ACS -/

namespace ConnReqSystem

variable {isAddressIpV6 : CString → Bool} {s : ConnReqSystem} {d : Cwmpd}

/-- What stands before the path in a URL: the scheme, the host and the port. -/
def authority (isAddressIpV6 : CString → Bool) (host : CString) (port : UInt16) : CString :=
  "http://".toList ++ (if isAddressIpV6 host then "[".toList ++ host ++ "]".toList else host) ++
    ":".toList ++ (toString port.toNat).toList

/-- **A request for the published URL**, which is the authority and the path of the request. -/
structure AsksFor (isAddressIpV6 : CString → Bool) (s : ConnReqSystem) (r : ConnectionRequest) :
    Prop where
  getUri : r.getUri = true
  http : r.http = true
  url : authority isAddressIpV6 s.dm.localIpAddress s.plugin.connRequestPort ++ r.uri =
    s.plugin.connectionRequestUrl

/-- **A response to a challenge**: a request with a header that is correct for the credentials and
for the values of the challenge, and for no others. -/
structure Responds (lib : DigestLibrary) (username password : CString) (pair : NoncePair)
    (r : ConnectionRequest) : Prop where
  usernameRead : r.usernameRead = true
  passwordRead : r.passwordRead = true
  header : r.authorization ≠ []
  content : lib.checkDigestAuthMessageContent (ConnectionServer.digestMessage lib r) = true
  digest : ∀ values : NoncePair,
    lib.performClientDigestAuthentication (ConnectionServer.digestMessage lib r) values.nonce
      values.opaqueValue username password = decide (values = pair)

/-- The path of a request for the published URL is the one of the server. -/
theorem Served.uri (h : s.Served isAddressIpV6 d) {r : ConnectionRequest}
    (hr : s.AsksFor isAddressIpV6 r) : r.uri = '/' :: s.plugin.connRequestPath := by
  have hurl := hr.url.trans h.url
  have hsplit : s.plugin.assembleConnectionRequestUrl isAddressIpV6 s.dm.localIpAddress
      s.plugin.connRequestPort =
      authority isAddressIpV6 s.dm.localIpAddress s.plugin.connRequestPort ++
        '/' :: s.plugin.connRequestPath :=
    List.append_assoc _ ['/'] s.plugin.connRequestPath
  exact List.append_cancel_left (hurl.trans hsplit)

/-- The server takes the path of such a request. -/
theorem Served.validUri (h : s.Served isAddressIpV6 d) {c : ConnectionServer}
    {r : ConnectionRequest} (hpath : c.server.randomCpeUrl = d.server.randomCpeUrl)
    (hr : s.AsksFor isAddressIpV6 r) : c.cwmpServerValidateUri r = true := by
  obtain ⟨n, -, -, -, hserved⟩ := h.serving
  refine ConnectionServer.validUri_eq_true.mpr ⟨⟨hr.getUri, hr.http⟩, ?_⟩
  rw [hpath, hserved, h.uri hr]
  rfl

/-- **A connection request gets through.** Where the published URL is served, a request for it
without a header is challenged; and a response to that, after any requests of others, is given a
session if none of them was challenged, and challenged again if one was. -/
theorem getsThrough_iff {lib : DigestLibrary} {c t u : ConnectionServer}
    {first response : ConnectionRequest} {others : List ConnectionRequest}
    (h : s.Served isAddressIpV6 d) (hserver : c.server = d.server)
    (hfirst : s.AsksFor isAddressIpV6 first) (hnone : first.authorization = [])
    (hlimit : (c.available first).2 = true) (ht : c.step lib (.request first) = some t)
    (hu : exec (ConnectionServer.step lib) t (others.map .request) = some u)
    (hresponse : s.AsksFor isAddressIpV6 response)
    (hresponds : Responds lib c.username c.password first.fresh response)
    (hlimit' : (u.available response).2 = true) :
    (c.cwmpServerHandleRequest lib first).2 = .unauthorized ∧
      (Meets (ConnectionServer.step lib) (ConnectionServer.Unchallenged lib) t
          (others.map .request) →
        u.Requests lib response ∧ (u.cwmpServerHandleRequest lib response).2 =
          if response.connected then .noContent else .serviceUnavailable) ∧
      (¬Meets (ConnectionServer.step lib) (ConnectionServer.Unchallenged lib) t
          (others.map .request) →
        ¬u.Requests lib response ∧
          (u.cwmpServerHandleRequest lib response).2 = .unauthorized) := by
  -- the first request
  have hunauthorized : (c.cwmpServerHandleRequest lib first).2 = .unauthorized := by
    rw [ConnectionServer.handleRequest_of_path (by rw [h.uri hfirst]; exact List.cons_ne_nil _ _)
      hlimit (h.validUri (by rw [hserver]) hfirst)]
    refine if_neg fun hauth => ?_
    exact (ConnectionServer.validAuthentication_eq_true hauth).1 hnone
  obtain ⟨-, heq⟩ := Option.ite_none_right_eq_some.mp ht
  have hstate : t = (c.admitted first).cwmpServerReplyHttpUnauthorized first := by
    rcases ConnectionServer.handleRequest_reply lib c first with ⟨-, hstate⟩ | ⟨hnot, -⟩
    · exact (Option.some.inj heq).symm.trans hstate
    · exact absurd hunauthorized hnot
  -- what there is when the response comes
  obtain ⟨husername, hpassword, hpath⟩ := ConnectionServer.kept_of_requests hu
  have hseen : t.Seen t.buffers := by
    rw [hstate]
    exact ⟨_, List.mem_cons_self, rfl⟩
  have hbuffers := ConnectionServer.buffers_of_run hseen hu
  have hpair : t.buffers = first.fresh := by
    rw [hstate]
    rfl
  have huri : u.cwmpServerValidateUri response = true := by
    refine h.validUri (hpath.trans ?_) hresponse
    rw [hstate, ← hserver]
    rfl
  have hne : response.uri ≠ [] := by
    rw [h.uri hresponse]
    exact List.cons_ne_nil _ _
  have hauth : u.cwmpServerValidateAuthentication lib response =
      decide (u.buffers = first.fresh) := by
    rw [ConnectionServer.cwmpServerValidateAuthentication,
      if_neg (not_not_intro hresponds.usernameRead), if_neg (not_not_intro hresponds.passwordRead),
      if_neg hresponds.header, if_pos hresponds.content, ConnectionServer.digestCorrect, husername,
      hpassword, hstate]
    exact hresponds.digest u.buffers
  have hreply := @ConnectionServer.handleRequest_of_path lib u response hne hlimit' huri
  refine ⟨hunauthorized, fun hmeets => ?_, fun hmeets => ?_⟩
  · have hvalid : u.cwmpServerValidateAuthentication lib response = true := by
      rw [hauth]
      exact decide_eq_true ((hbuffers.mpr hmeets).trans hpair)
    refine ⟨ConnectionServer.requests_iff_passes.mpr
      ⟨List.length_pos_iff.mpr hne, hlimit', huri, hvalid⟩, ?_⟩
    rw [hreply, if_pos hvalid]
  · have hinvalid : ¬u.cwmpServerValidateAuthentication lib response = true := by
      rw [hauth]
      exact fun hsame => hmeets (hbuffers.mp ((of_decide_eq_true hsame).trans hpair.symm))
    refine ⟨fun hrequests => ?_, ?_⟩
    · exact hinvalid (ConnectionServer.requests_iff_passes.mp hrequests).validAuthentication
    · rw [hreply, if_neg hinvalid]

/-- An address has come, the path has been generated, and the daemon has been started for it. -/
def addressServed : List ConnReqSystemEvent :=
  [.plugin (.deferredInit ⟨none, none⟩), .plugin (.ipv4Changed "192.0.2.1".toList),
    .plugin (.dispatch (some "path".toList) ⟨none, none⟩), .connected,
    .plugin (.dispatch none ⟨none, none⟩), .engine .good]

/-- What there is then. -/
def servedSystem : ConnReqSystem :=
  (exec (step fun _ => false) (initial (.initial 7547 "p".toList "lan".toList [] 0 false) true)
    addressServed).get (by decide)

/-- The daemon then. -/
def servedDaemon : Cwmpd := servedSystem.daemon.get (by decide)

/-- What is asked of the daemon. -/
def servedServer : ConnectionServer :=
  ⟨servedSystem.dm, "acs".toList, "secret".toList, servedDaemon.server, ⟨[], []⟩, []⟩

theorem served_servedSystem : servedSystem.Served (fun _ => false) servedDaemon := by
  have hreach : Reaches (step fun _ => false) Undisturbed
      (initial (.initial 7547 "p".toList "lan".toList [] 0 false) true) servedSystem :=
    reaches_of_exec (Option.some_get _).symm
      (meets_of_checks (g := fun s e => decide (s.Undisturbed e)) (fun _ _ => of_decide_eq_true)
        (by decide))
  have hs : servedSystem.Serviceable fun _ => false :=
    hreach.invariant (fun _ _ _ hs hok hstep => hs.step hok hstep)
      ⟨settles_initial .., ConnReqPlugin.daemonComes_initial .., rfl⟩
  have hquiet : servedSystem.Quiet servedDaemon := by
    have hqueue : servedSystem.plugin.queue.isEmpty = true := by decide
    refine ⟨?_, by decide, (Option.some_get _).symm, by decide⟩
    rintro ⟨a, b, c, hmem⟩
    rw [List.isEmpty_iff.mp hqueue] at hmem
    exact absurd hmem List.not_mem_nil
  exact hs.served hquiet (by decide)

/-- A digest for the example: the header is both values. -/
def headerDigest : DigestLibrary where
  authorizationToken := "Authorization: Digest".toList
  checkDigestAuthMessageContent := fun _ => true
  performClientDigestAuthentication := fun message nonce opaqueValue _ _ =>
    let header := message.drop "GET /path\n\rAuthorization: Digest ".length
    decide (nonce = header ∧ opaqueValue = header)

/-- The ACS asks and is challenged, somebody asks for another path, and the ACS responds. -/
theorem getsThrough_iff_otherPath :
    ∃ t u, servedServer.step headerDigest (.request (exampleRequest "" "n1")) = some t ∧
      exec (ConnectionServer.step headerDigest) t
        ([{ exampleRequest "" "n2" with uri := "/".toList }].map .request) = some u ∧
      u.Requests headerDigest (exampleRequest "n1" "n3") := by
  have hurl : authority (fun _ => false) servedSystem.dm.localIpAddress
      servedSystem.plugin.connRequestPort ++ "/path".toList =
        servedSystem.plugin.connectionRequestUrl := by decide
  have hasks : ∀ authorization nonce, servedSystem.AsksFor (fun _ => false)
      (exampleRequest authorization nonce) := fun _ _ => ⟨rfl, rfl, hurl⟩
  obtain ⟨t, ht, hu, hother, hlimit⟩ : ∃ t,
      servedServer.step headerDigest (.request (exampleRequest "" "n1")) = some t ∧
      (exec (ConnectionServer.step headerDigest) t
        ([{ exampleRequest "" "n2" with uri := "/".toList }].map .request)).isSome = true ∧
      (t.cwmpServerHandleRequest headerDigest
        { exampleRequest "" "n2" with uri := "/".toList }).2 ≠ .unauthorized ∧
      ∀ u ∈ exec (ConnectionServer.step headerDigest) t
        ([{ exampleRequest "" "n2" with uri := "/".toList }].map .request),
        (u.available (exampleRequest "n1" "n3")).2 = true :=
    ⟨_, rfl, by decide, by decide, by decide⟩
  obtain ⟨u, hu⟩ := Option.isSome_iff_exists.mp hu
  have hdigest : Responds headerDigest servedServer.username servedServer.password
      (exampleRequest "" "n1").fresh (exampleRequest "n1" "n3") := by
    refine ⟨rfl, rfl, by decide, rfl, fun values => ?_⟩
    refine decide_eq_decide.mpr ⟨fun h => ?_, fun h => ?_⟩
    · obtain ⟨nonce, opaqueValue⟩ := values
      exact NoncePair.mk.injEq .. ▸ h
    · rw [h]
      exact ⟨rfl, rfl⟩
  exact ⟨t, u, ht, hu, ((getsThrough_iff served_servedSystem rfl (hasks "" "n1") rfl (by decide) ht
    hu (hasks "n1" "n3") hdigest (hlimit u hu)).2.1 ⟨hother, fun _ _ => trivial⟩).1⟩

end ConnReqSystem

end Tr069
