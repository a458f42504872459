import Tr069Manager.AcsSession.Client

/-!
# The credentials an answer carries

The scheme of a challenge is the word it begins with. The client looks for `Basic`
and then for `Digest` anywhere in the text, so a Digest challenge whose realm says
“Basic” is answered with the password itself (`Tr069.CwmpClient.not_followsChallenge_realm`).
And the header it has stays when the credentials cannot be read, so an answer to an
earlier challenge is sent again.

`Tr069.CwmpClient.followsChallenge_iff` says when the client does what it should, in terms of
the text, the credentials and the header it already has. Nothing limits what is
copied to the 512 characters there is room for; a longer text is none of these cases.
-/

namespace Tr069

namespace CwmpClient

/-! ### The challenge -/

/-- The scheme of a challenge: its first word, in any letter case. -/
def challengeScheme (authD : CString) : AuthType :=
  let scheme := authD.takeWhile fun c => c ≠ ' ' && c ≠ ','
  if CString.EqIgnoringCase scheme "Basic".toList then .basic
  else if CString.EqIgnoringCase scheme "Digest".toList then .digest
  else .unsupported

/-- The kind of authentication `cwmp_client_get_authentication_hdr` takes for that of a
challenge. -/
def schemeFound (authD : CString) : AuthType :=
  if "Basic".toList <:+: authD then .basic
  else if "Digest".toList <:+: authD then .digest
  else .unsupported

/-- The header of a kind of authentication for a challenge. -/
def authHeader (lib : ClientLibrary) (path : Option CString)
    (authD cnonce username passwd : CString) : AuthType → Option CString
  | .basic => cwmpClientAuthBasic lib username passwd
  | .digest => lib.generateDigestResponseMd5 authD cnonce path username passwd
  | _ => none

/-- The header that a challenge asks for, if it can be computed. -/
def challengeHeader (lib : ClientLibrary) (path : Option CString) (response : AcsResponse) :
    Option CString :=
  match response.wwwAuthenticate, response.username, response.password with
  | some authD, some username, some passwd =>
    authHeader lib path authD response.cnonce username passwd (challengeScheme authD)
  | _, _, _ => none

/-- The room for the text of a challenge, with its NUL. -/
def authDSize : ℕ := 512

/-! ### The property and the condition -/

/-- The session is closed: nothing is left to be sent, and nothing to be sent with it. -/
structure SessionClosed (s : CwmpClient) : Prop where
  host : s.acsServerHost = none
  header : s.authHdr = none
  message : s.pendingMsg = none

/-- **The credentials follow the challenge**: its text has room, and once the connection is
closed the session is closed as well, or a retry is due with the header that the challenge
asks for. -/
structure FollowsChallenge (lib : ClientLibrary) (s : CwmpClient) (response : AcsResponse) :
    Prop where
  room : ∀ authD ∈ response.wwwAuthenticate, authD.length < authDSize
  answer : ∀ t, Runs.exec (step lib) s [.established response, .closed] = some t →
    t.SessionClosed ∨
      t.authRetryTimer = true ∧ ∃ header, t.authHdr = some header ∧
        challengeHeader lib s.acsServerPath response = some header

/-- **The condition**: the text has room; and it has none of the two words in it, or the one
that is found is its scheme, or no header comes of it, where the credentials can be read –
or they cannot, and there is no header from before. -/
def Answerable (lib : ClientLibrary) (s : CwmpClient) (response : AcsResponse) : Prop :=
  match response.wwwAuthenticate with
  | none => True
  | some authD =>
    authD.length < authDSize ∧
      (schemeFound authD = .unsupported ∨
        match response.username, response.password with
        | some username, some passwd =>
          authHeader lib s.acsServerPath authD response.cnonce username passwd
              (schemeFound authD) = none ∨ schemeFound authD = challengeScheme authD
        | _, _ => s.authHdr = none)

instance (lib : ClientLibrary) (s : CwmpClient) (response : AcsResponse) :
    Decidable (s.Answerable lib response) := by
  unfold Answerable
  split
  · infer_instance
  · split <;> infer_instance

/-! ### What the client does -/

variable {lib : ClientLibrary} {s t : CwmpClient} {response : AcsResponse}

/-- What the search finds is what the text contains. -/
theorem schemeFound_eq (authD : CString) :
    (if (authD.strstr "Basic".toList).isSome then AuthType.basic
      else if (authD.strstr "Digest".toList).isSome then .digest else .unsupported) =
      schemeFound authD := by
  unfold schemeFound
  exact if_congr CString.strstr_isSome rfl (if_congr CString.strstr_isSome rfl rfl)

/-- The client after a challenge and the end of its connection. -/
def afterChallenge (lib : ClientLibrary) (s : CwmpClient) (response : AcsResponse) : CwmpClient :=
  let t := { s with httpStatus := response.status }.cwmpClientGetAuthenticationHdr lib response
  { t with wsis := t.wsis - 1 }.cwmpClientConnectionClosedCb

theorem exec_challenge (hopen : 0 < s.wsis) (h401 : response.status = 401) :
    Runs.exec (step lib) s [.established response, .closed] =
      some (afterChallenge lib s response) := by
  have hne : response.status ≠ 204 := by omega
  have hwsis : ∀ s : CwmpClient,
      (s.cwmpClientGetAuthenticationHdr lib response).wsis = s.wsis := by
    intro s
    unfold cwmpClientGetAuthenticationHdr cwmpClientGenAuthHdr
    split
    · rfl
    · dsimp only
      split <;> rfl
  have hopened : step lib s (.established response) =
      some ({ s with httpStatus := response.status }.cwmpClientGetAuthenticationHdr lib
        response) := by
    rw [step, if_pos hopen, cwmpClientConnectionEstablishedCb, if_neg hne, if_pos h401]
  have hopen' : 0 < ({ s with httpStatus := response.status }.cwmpClientGetAuthenticationHdr lib
      response).wsis := by
    rw [hwsis]
    exact hopen
  rw [Runs.exec, hopened, Option.bind_some, Runs.exec, step, if_pos hopen', Option.bind_some,
    Runs.exec, afterChallenge]

/-- The header the client has for the retry: the new one, or the old one where the credentials
cannot be read. -/
def headerFound (lib : ClientLibrary) (s : CwmpClient) (response : AcsResponse) (authD : CString) :
    Option CString :=
  match response.username, response.password with
  | some username, some passwd =>
    authHeader lib s.acsServerPath authD response.cnonce username passwd (schemeFound authD)
  | _, _ => s.authHdr

theorem cwmpClientGetAuthenticationHdr_eq {authD : CString}
    (h : response.wwwAuthenticate = some authD) :
    s.cwmpClientGetAuthenticationHdr lib response =
      { s with authType := schemeFound authD, authHdr := s.headerFound lib response authD } := by
  unfold cwmpClientGetAuthenticationHdr cwmpClientGenAuthHdr headerFound
  simp only [h, schemeFound_eq]
  rcases response.username with - | username
  · rfl
  · rcases response.password with - | passwd
    · rfl
    · rcases schemeFound authD with - | - | - | - <;> rfl

/-- A 401 that cannot be answered closes the session with its connection. -/
theorem sessionClosed_of_not_challenged (h401 : s.httpStatus = 401)
    (h : s.authType = .unsupported ∨ s.authHdr = none) :
    s.cwmpClientConnectionClosedCb.SessionClosed := by
  have hne : ¬(s.authType ≠ .unsupported ∧ s.authHdr ≠ none) := by tauto
  have h204 : s.httpStatus ≠ 204 := by omega
  rw [cwmpClientConnectionClosedCb, if_neg h204, if_pos h401, if_neg hne]
  exact ⟨rfl, rfl, rfl⟩

/-- A 401 that can be answered is, once its connection is closed. -/
theorem cwmpClientConnectionClosedCb_of_challenged (h : s.Challenged) :
    s.cwmpClientConnectionClosedCb =
      { s with authRetryTimer := true, challenges := s.challenges + 1 } := by
  have h204 : s.httpStatus ≠ 204 := by
    have := h.1
    omega
  rw [cwmpClientConnectionClosedCb, if_neg h204, if_pos h.1, if_pos h.2]

/-- A challenge that cannot be copied ends the session. -/
theorem afterChallenge_of_none (h401 : response.status = 401)
    (h : response.wwwAuthenticate = none) : (afterChallenge lib s response).SessionClosed := by
  rw [afterChallenge, cwmpClientGetAuthenticationHdr, h]
  exact sessionClosed_of_not_challenged h401 (Or.inl rfl)

/-- **What a challenge leads to**: the end of the session, or a retry with the header the client
has. -/
theorem afterChallenge_cases {authD : CString} (h401 : response.status = 401)
    (h : response.wwwAuthenticate = some authD) :
    (schemeFound authD = .unsupported ∨ s.headerFound lib response authD = none) ∧
        (afterChallenge lib s response).SessionClosed ∨
      ∃ header, schemeFound authD ≠ .unsupported ∧
        s.headerFound lib response authD = some header ∧
        (afterChallenge lib s response).authHdr = some header ∧
        (afterChallenge lib s response).authRetryTimer = true := by
  rw [afterChallenge, cwmpClientGetAuthenticationHdr_eq h]
  by_cases hno : schemeFound authD = .unsupported ∨ s.headerFound lib response authD = none
  · exact Or.inl ⟨hno, sessionClosed_of_not_challenged h401 hno⟩
  · obtain ⟨htype, hheader⟩ := not_or.mp hno
    obtain ⟨header, hheader⟩ := Option.ne_none_iff_exists'.mp hheader
    refine Or.inr ⟨header, htype, hheader, ?_⟩
    rw [cwmpClientConnectionClosedCb_of_challenged ⟨h401, htype, (not_or.mp hno).2⟩]
    exact ⟨hheader, rfl⟩

/-- **The schemes are told apart by their headers**, where a Digest response begins with that
word. -/
theorem scheme_of_authHeader
    (hdigest : ∀ authD cnonce path username passwd header,
      lib.generateDigestResponseMd5 authD cnonce path username passwd = some header →
        "Digest".toList <+: header)
    {path : Option CString} {authD cnonce username passwd header : CString} {type type' : AuthType}
    (h : authHeader lib path authD cnonce username passwd type = some header)
    (h' : authHeader lib path authD cnonce username passwd type' = some header) : type = type' := by
  have hbasic : cwmpClientAuthBasic lib username passwd = some header →
      lib.generateDigestResponseMd5 authD cnonce path username passwd ≠ some header := by
    intro hb hd
    obtain ⟨code, -, rfl⟩ := Option.map_eq_some_iff.mp hb
    obtain ⟨rest, hrest⟩ := hdigest _ _ _ _ _ _ hd
    simp at hrest
  rcases type with - | - | - | - <;> rcases type' with - | - | - | -
  case basic.basic | digest.digest => rfl
  case basic.digest => exact absurd h' (hbasic h)
  case digest.basic => exact absurd h (hbasic h')
  all_goals first | cases h | cases h'

/-! ### When the client follows the challenge -/

/-- **The credentials follow the challenge exactly where it can be answered.** -/
theorem followsChallenge_iff
    (hdigest : ∀ authD cnonce path username passwd header,
      lib.generateDigestResponseMd5 authD cnonce path username passwd = some header →
        "Digest".toList <+: header)
    (hopen : 0 < s.wsis) (h401 : response.status = 401) :
    s.FollowsChallenge lib response ↔ s.Answerable lib response := by
  rcases htext : response.wwwAuthenticate with - | authD
  · simp only [Answerable, htext, iff_true]
    refine ⟨by simp [htext], fun t ht => Or.inl ?_⟩
    obtain rfl := Option.some.inj ((exec_challenge hopen h401).symm.trans ht)
    exact afterChallenge_of_none h401 htext
  · have hanswer : s.FollowsChallenge lib response ↔ authD.length < authDSize ∧
        (schemeFound authD = .unsupported ∨ s.headerFound lib response authD = none ∨
          s.headerFound lib response authD = challengeHeader lib s.acsServerPath response) := by
      constructor
      · intro hf
        refine ⟨hf.room authD htext, ?_⟩
        rcases @afterChallenge_cases lib s response authD h401 htext with
          ⟨hno, -⟩ | ⟨header, -, hheader, hsent, -⟩
        · exact hno.imp_right Or.inl
        · rcases hf.answer _ (exec_challenge hopen h401) with hclosed | ⟨-, header', hsent', hwant⟩
          · rw [hclosed.header] at hsent
            cases hsent
          · rw [hsent] at hsent'
            exact Or.inr (Or.inr (by rw [hheader, hwant, hsent']))
      · rintro ⟨hroom, hwant⟩
        refine ⟨fun text hmem => ?_, fun t ht => ?_⟩
        · obtain rfl := Option.some.inj (htext.symm.trans hmem)
          exact hroom
        · obtain rfl := Option.some.inj ((exec_challenge hopen h401).symm.trans ht)
          rcases @afterChallenge_cases lib s response authD h401 htext with
            ⟨-, hclosed⟩ | ⟨header, htype, hheader, hsent, hdue⟩
          · exact Or.inl hclosed
          · rw [hheader] at hwant
            refine Or.inr ⟨hdue, header, hsent, ?_⟩
            rcases hwant with h | h | h
            · exact absurd h htype
            · cases h
            · exact h.symm
    rw [hanswer]
    simp only [Answerable, htext, headerFound, challengeHeader]
    refine and_congr_right fun _ => or_congr_right' fun htype => ?_
    rcases response.username with - | username
    · simp
    rcases response.password with - | passwd
    · simp
    dsimp only
    rcases hheader : authHeader lib s.acsServerPath authD response.cnonce username passwd
      (schemeFound authD) with - | header
    · exact ⟨fun _ => Or.inl rfl, fun _ => Or.inl rfl⟩
    · refine or_congr_right ⟨fun h => scheme_of_authHeader hdigest hheader h.symm, fun h => ?_⟩
      rw [← h, hheader]

/-! ### A challenge that is answered, and one that is not -/

/-- Some library: a code that is the text itself, and a response that is the word alone. -/
def plainLibrary : ClientLibrary := ⟨some, fun _ _ _ _ _ => some "Digest".toList, id⟩

/-- A client that waits for the answer to a message. -/
def waiting : CwmpClient :=
  { initial with acsServerHost := some "acs".toList, pendingMsg := some [], wsis := 1 }

/-- A 401 with a challenge, and the credentials. -/
def challenge (authD : CString) : AcsResponse :=
  ⟨401, some authD, some "u".toList, some "p".toList, []⟩

theorem followsChallenge_digest :
    waiting.FollowsChallenge plainLibrary (challenge "Digest realm=\"acs\"".toList) ↔
      waiting.Answerable plainLibrary (challenge "Digest realm=\"acs\"".toList) :=
  followsChallenge_iff
    (fun _ _ _ _ _ _ h => Option.some.inj h ▸ List.prefix_rfl) (by decide) (by decide)

/-- Not every challenge is followed: with “Basic” in the realm of a Digest challenge, the password
is sent. -/
theorem not_followsChallenge_realm :
    ¬∀ (lib : ClientLibrary) (s : CwmpClient) (response : AcsResponse),
      (∀ authD cnonce path username passwd header,
        lib.generateDigestResponseMd5 authD cnonce path username passwd = some header →
          "Digest".toList <+: header) →
      0 < s.wsis → response.status = 401 → s.FollowsChallenge lib response := by
  intro h
  have hf := h plainLibrary waiting (challenge "Digest realm=\"Basic\"".toList)
    (fun _ _ _ _ _ _ h => Option.some.inj h ▸ List.prefix_rfl) (by decide) (by decide)
  have hsent : ((Runs.exec (step plainLibrary) waiting
      [.established (challenge "Digest realm=\"Basic\"".toList), .closed]).bind authHdr) =
      some "Basic u:p".toList := by
    decide
  obtain ⟨t, ht, hhdr⟩ := Option.bind_eq_some_iff.mp hsent
  rcases hf.answer t ht with hclosed | ⟨-, header, hhdr', hwant⟩
  · rw [hclosed.header] at hhdr
    cases hhdr
  · obtain rfl := Option.some.inj (hhdr.symm.trans hhdr')
    exact absurd hwant (by decide)

end CwmpClient

end Tr069
