import Mathlib.Data.Nat.Notation
import Mathlib.Logic.Function.Basic
import Tr069Manager.Lib.Runs

/-!
# The buffer for what the ACS answers

The body of a response comes in chunks, and `dmmain/cwmpd_client.c` puts them together in a static
buffer, `rcv_buf` with `rcv_buf_len`. There is one buffer for all connections. It is emptied when a
connection is made and when the session is closed, and at no other time: not where a response
begins, and not where it has been completed. When a response has been completed, and the last status
was 200, the buffer is searched for a SOAP envelope, whether there is a buffer or not.

The system is made of the callbacks, in any order libwebsockets may call them for any connections,
with the close of the session by the engine among them; for each connection the history has the
response that it is receiving. What the memory allows is kept: an allocation may fail, and writing
outside of the buffer and searching `NULL` are faults, after which nothing more happens.

Nothing in the callbacks makes sure that the buffer is that of the response which is completed. It
is as long as a response begins with an empty buffer and has it for itself, and has a chunk at all
(`reassembled_of_reaches`).
-/

namespace Tr069

/-! ### The data -/

/-- `strncpy` of as many bytes as a text has: those in front of the first NUL, and NULs for the
others. -/
def strncpy (bytes : List UInt8) : List UInt8 :=
  bytes.takeWhile (· ≠ 0) ++
    List.replicate (bytes.length - (bytes.takeWhile (· ≠ 0)).length) 0

/-- What is not in the source: the copy of libwebsockets, which is that of `strncpy` with a NUL
behind it, whether there is a SOAP envelope in a text, and the mapping of a message, which puts the
length of what it makes into its second argument. -/
structure ReceiveLibrary where
  lwsStrnncpy : List UInt8 → List UInt8
  lwsStrnncpy_eq : ∀ bytes, lwsStrnncpy bytes = strncpy bytes
  hasEnvelope : List UInt8 → Bool
  smmTranslate : List UInt8 → List UInt8

/-- A response that is being received: its status and the chunks so far. -/
structure AcsAnswer where
  status : ℕ
  chunks : List (List UInt8)

/-- The buffer, without the NUL at its end, its length and the last status, and whether something
outside of the memory of the client has been touched. The history has the response that each
connection is receiving. -/
structure ReceiveBuffer where
  rcvBuf : Option (List UInt8)
  rcvBufLen : ℕ
  httpStatus : ℕ
  faulted : Bool
  answers : ℕ → Option AcsAnswer

namespace ReceiveBuffer

/-- When the daemon comes up. -/
def initial : ReceiveBuffer := ⟨none, 0, 0, false, fun _ => none⟩

/-! ### The callbacks -/

/-- `cwmp_client_new_wsi_cb`. -/
def cwmpClientNewWsiCb (s : ReceiveBuffer) : ReceiveBuffer :=
  { s with rcvBuf := none, rcvBufLen := 0 }

/-- `DM_CloseHttpSession`, which the engine calls when it closes a session. -/
def dmCloseHttpSession (s : ReceiveBuffer) : ReceiveBuffer :=
  { s with rcvBuf := none, rcvBufLen := 0, httpStatus := 0 }

/-- `cwmp_client_connection_established_cb`. -/
def cwmpClientConnectionEstablishedCb (s : ReceiveBuffer) (status : ℕ) : ReceiveBuffer :=
  { s with httpStatus := status }

/-- The copy at `rcv_buf + rcv_buf_len`, into a block that has room for it behind what it holds. -/
def copyData (lib : ReceiveLibrary) (s : ReceiveBuffer) (held bytes : List UInt8) :
    ReceiveBuffer :=
  if s.rcvBufLen ≤ held.length then
    { s with
      rcvBuf := some (held.take s.rcvBufLen ++ lib.lwsStrnncpy bytes)
      rcvBufLen := s.rcvBufLen + bytes.length }
  else { s with faulted := true }

/-- `cwmp_client_receive_http_cb`, where `malloc` or `realloc` gives memory or not. A block from
`malloc` has room for the chunk alone. -/
def cwmpClientReceiveHttpCb (lib : ReceiveLibrary) (s : ReceiveBuffer) (bytes : List UInt8)
    (allocated : Bool) : ReceiveBuffer :=
  match s.rcvBuf with
  | none => if allocated then s.copyData lib [] bytes else s
  | some held => if allocated then s.copyData lib held bytes else { s with rcvBuf := none }

/-- `cwmp_client_http_complete_cb`. -/
def cwmpClientHttpCompleteCb (lib : ReceiveLibrary) (s : ReceiveBuffer) : ReceiveBuffer :=
  if s.httpStatus = 200 then
    match s.rcvBuf with
    | none => { s with faulted := true }
    | some held =>
      if lib.hasEnvelope held then
        { s with
          rcvBuf := some (lib.smmTranslate held)
          rcvBufLen := (lib.smmTranslate held).length }
      else s
  else s

/-- `cwmp_client_connection_closed_cb`, with a challenge that can be answered or not. -/
def cwmpClientConnectionClosedCb (s : ReceiveBuffer) (answerable : Bool) : ReceiveBuffer :=
  if s.httpStatus = 204 then s.dmCloseHttpSession
  else if s.httpStatus = 401 then if answerable then s else s.dmCloseHttpSession
  else if s.httpStatus ≠ 200 then s.dmCloseHttpSession
  else s

end ReceiveBuffer

/-! ### The system -/

/-- What can happen, with the connection that it happens on. -/
inductive ReceiveEvent where
  /-- a connection is made -/
  | newWsi
  /-- a response begins -/
  | established (wsi status : ℕ)
  /-- a chunk of a body -/
  | receive (wsi : ℕ) (bytes : List UInt8) (allocated : Bool)
  /-- a response has been completed -/
  | completed (wsi : ℕ)
  /-- a connection is closed -/
  | closed (wsi : ℕ) (answerable : Bool)
  /-- a connection fails -/
  | error (wsi : ℕ)
  /-- the engine closes the session -/
  | close

namespace ReceiveBuffer

/-- What a connection is receiving from now on. -/
def setAnswer (s : ReceiveBuffer) (wsi : ℕ) (answer : Option AcsAnswer) : ReceiveBuffer :=
  { s with answers := Function.update s.answers wsi answer }

/-- One event, if it is possible: chunks and the end of a response come on a connection that is
receiving one. -/
def step (lib : ReceiveLibrary) (s : ReceiveBuffer) (e : ReceiveEvent) : Option ReceiveBuffer :=
  if s.faulted then none
  else
    match e with
    | .newWsi => some s.cwmpClientNewWsiCb
    | .established wsi status =>
      some ((s.cwmpClientConnectionEstablishedCb status).setAnswer wsi (some ⟨status, []⟩))
    | .receive wsi bytes allocated =>
      (s.answers wsi).map fun answer =>
        (s.cwmpClientReceiveHttpCb lib bytes allocated).setAnswer wsi
          (some { answer with chunks := answer.chunks ++ [bytes] })
    | .completed wsi =>
      (s.answers wsi).map fun _ => (s.cwmpClientHttpCompleteCb lib).setAnswer wsi none
    | .closed wsi answerable =>
      some ((s.cwmpClientConnectionClosedCb answerable).setAnswer wsi none)
    | .error wsi => some (s.dmCloseHttpSession.setAnswer wsi none)
    | .close => some s.dmCloseHttpSession

/-! ### The property and the condition -/

/-- The length is that of what the buffer holds, and nothing else has been touched. -/
structure Sound (s : ReceiveBuffer) : Prop where
  length : s.rcvBufLen = (s.rcvBuf.getD []).length
  defined : s.faulted = false

/-- **The property** of the end of a response with status 200: the buffer is searched and parsed,
and is what the chunks are together. -/
structure Reassembled (s : ReceiveBuffer) (chunks : List (List UInt8)) : Prop where
  searched : s.httpStatus = 200
  present : s.rcvBuf = some chunks.flatten

/-- A connection is receiving a response with status 200. -/
def Receiving (s : ReceiveBuffer) (wsi : ℕ) : Prop := ∃ chunks, s.answers wsi = some ⟨200, chunks⟩

/-- Behind a NUL there are only NULs. -/
def NulAtEnd (bytes : List UInt8) : Prop := strncpy bytes = bytes

/-- **The condition on the events**: memory is given and no text is behind a NUL; a response with
status 200 begins with an empty buffer; while one is received, no connection is made or fails, the
session is not closed, and no other response begins or goes on; and where the last status was 200,
a response that is completed has that status, and a chunk. -/
def Undisturbed (s : ReceiveBuffer) : ReceiveEvent → Prop
  | .newWsi | .close => ∀ wsi, ¬s.Receiving wsi
  | .established wsi status =>
    (∀ wsi' ≠ wsi, ¬s.Receiving wsi') ∧ (status = 200 → s.rcvBuf = none)
  | .receive wsi bytes allocated =>
    allocated = true ∧ NulAtEnd bytes ∧ ∀ wsi' ≠ wsi, ¬s.Receiving wsi'
  | .completed wsi =>
    s.httpStatus = 200 → ∃ chunks, chunks ≠ [] ∧ s.answers wsi = some ⟨200, chunks⟩
  | .closed _ _ => True
  | .error wsi => ∀ wsi' ≠ wsi, ¬s.Receiving wsi'

/-- **The invariant**: a response with status 200 that is being received is the only one, and the
buffer is its own. -/
structure Own (s : ReceiveBuffer) : Prop extends Sound s where
  status : ∀ wsi, s.Receiving wsi → s.httpStatus = 200
  alone : ∀ wsi wsi', s.Receiving wsi → s.Receiving wsi' → wsi = wsi'
  buffer : ∀ wsi chunks, s.answers wsi = some ⟨200, chunks⟩ →
    s.rcvBuf = if chunks = [] then none else some chunks.flatten

variable {lib : ReceiveLibrary} {s t : ReceiveBuffer} {e : ReceiveEvent} {wsi : ℕ}

/-! ### One event -/

@[simp]
theorem setAnswer_answers {answer : Option AcsAnswer} {wsi' : ℕ} :
    (s.setAnswer wsi answer).answers wsi' = if wsi' = wsi then answer else s.answers wsi' := by
  show Function.update s.answers wsi answer wsi' = _
  rw [Function.update_apply]

/-- Another connection goes on with what it is receiving. -/
theorem receiving_setAnswer {answer : Option AcsAnswer} {wsi' : ℕ} :
    (s.setAnswer wsi answer).Receiving wsi' ↔
      (wsi' = wsi ∧ ∃ chunks, answer = some ⟨200, chunks⟩) ∨ (wsi' ≠ wsi ∧ s.Receiving wsi') := by
  simp only [Receiving, setAnswer_answers]
  by_cases hwsi : wsi' = wsi
  · simp [hwsi]
  · simp [hwsi]

theorem Sound.setAnswer {answer : Option AcsAnswer} (h : s.Sound) :
    (s.setAnswer wsi answer).Sound :=
  ⟨h.length, h.defined⟩

/-- Where nothing with status 200 is received, soundness is the invariant. -/
theorem Sound.own (h : s.Sound) (hnone : ∀ wsi, ¬s.Receiving wsi) : s.Own :=
  ⟨h, fun wsi hwsi => absurd hwsi (hnone wsi), fun wsi _ hwsi => absurd hwsi (hnone wsi),
    fun wsi chunks hwsi => absurd ⟨chunks, hwsi⟩ (hnone wsi)⟩

/-- An emptied buffer is sound. -/
theorem sound_of_empty (hbuf : t.rcvBuf = none) (hlen : t.rcvBufLen = 0)
    (hdefined : t.faulted = false) : t.Sound :=
  ⟨by rw [hbuf, hlen]; rfl, hdefined⟩

/-- **A chunk in a sound buffer** is put behind what it holds. -/
theorem receive_eq (h : s.Sound) {bytes : List UInt8} (hnul : NulAtEnd bytes) :
    s.cwmpClientReceiveHttpCb lib bytes true =
      { s with
        rcvBuf := some (s.rcvBuf.getD [] ++ bytes)
        rcvBufLen := s.rcvBufLen + bytes.length } := by
  have hcopy : ∀ held : List UInt8, s.rcvBufLen = held.length → s.copyData lib held bytes =
      { s with
        rcvBuf := some (held ++ bytes)
        rcvBufLen := s.rcvBufLen + bytes.length } := by
    intro held hheld
    rw [copyData, if_pos (Nat.le_of_eq hheld), hheld, List.take_length, lib.lwsStrnncpy_eq, hnul]
  rw [cwmpClientReceiveHttpCb]
  have hlen := h.length
  rcases hbuf : s.rcvBuf with - | held
  · rw [hbuf] at hlen
    exact hcopy [] hlen
  · rw [hbuf] at hlen
    exact hcopy held hlen

/-- The end of a response touches nothing else if there is a buffer, or nothing to search for. -/
theorem sound_complete (h : s.Sound) (hpresent : s.httpStatus = 200 → s.rcvBuf ≠ none) :
    (s.cwmpClientHttpCompleteCb lib).Sound := by
  rw [cwmpClientHttpCompleteCb]
  split
  · next hstatus =>
    rcases hbuf : s.rcvBuf with - | held
    · exact absurd hbuf (hpresent hstatus)
    · simp only
      split
      · exact ⟨rfl, h.defined⟩
      · exact h
  · exact h

theorem complete_answers : (s.cwmpClientHttpCompleteCb lib).answers = s.answers := by
  rw [cwmpClientHttpCompleteCb]
  split
  · rcases s.rcvBuf with - | held
    · rfl
    · simp only
      split <;> rfl
  · rfl

/-- The close of a connection closes the session, and with it the buffer, unless the last status
was 200, or was a challenge that is going to be answered. -/
theorem closed_cases {answerable : Bool} :
    s.cwmpClientConnectionClosedCb answerable = s ∨
      (s.httpStatus ≠ 200 ∧ s.cwmpClientConnectionClosedCb answerable = s.dmCloseHttpSession) := by
  rw [cwmpClientConnectionClosedCb]
  split
  · next hstatus => exact Or.inr ⟨by omega, rfl⟩
  · split
    · next hstatus =>
      cases answerable
      · exact Or.inr ⟨by omega, rfl⟩
      · exact Or.inl rfl
    · split
      · next hstatus => exact Or.inr ⟨hstatus, rfl⟩
      · exact Or.inl rfl

/-- What ends the response of a connection, and leaves a sound buffer of which the others are not
receiving anything, keeps the invariant. -/
theorem own_end (h : t.Sound) (hanswers : t.answers = s.answers)
    (hothers : ∀ wsi' ≠ wsi, ¬s.Receiving wsi') : (t.setAnswer wsi none).Own := by
  refine h.setAnswer.own fun wsi' hwsi' => ?_
  rcases receiving_setAnswer.mp hwsi' with ⟨-, chunks, hnone⟩ | ⟨hne, hreceiving⟩
  · cases hnone
  · refine hothers wsi' hne ?_
    rw [Receiving, ← hanswers]
    exact hreceiving

/-- Where no other connection is receiving a response with status 200, one that goes on keeps the
invariant if the buffer is its own. -/
theorem own_goesOn (h : t.Sound) (hanswers : t.answers = s.answers)
    (hothers : ∀ wsi' ≠ wsi, ¬s.Receiving wsi') {status : ℕ} {chunks : List (List UInt8)}
    (hstatus : status = 200 → t.httpStatus = 200)
    (hbuffer : status = 200 →
      t.rcvBuf = if chunks = [] then none else some chunks.flatten) :
    (t.setAnswer wsi (some ⟨status, chunks⟩)).Own := by
  have hsame : ∀ wsi', (t.setAnswer wsi (some ⟨status, chunks⟩)).Receiving wsi' →
      wsi' = wsi ∧ status = 200 := by
    intro wsi' hwsi'
    rcases receiving_setAnswer.mp hwsi' with ⟨heq, chunks', hanswer⟩ | ⟨hne, hreceiving⟩
    · exact ⟨heq, congrArg AcsAnswer.status (Option.some.inj hanswer)⟩
    · rw [Receiving, hanswers] at hreceiving
      exact absurd hreceiving (hothers wsi' hne)
  refine ⟨h.setAnswer, fun wsi' hwsi' => hstatus (hsame wsi' hwsi').2,
    fun wsi₁ wsi₂ h₁ h₂ => (hsame wsi₁ h₁).1.trans (hsame wsi₂ h₂).1.symm,
    fun wsi' chunks' hanswer => ?_⟩
  obtain ⟨rfl, rfl⟩ := hsame wsi' ⟨chunks', hanswer⟩
  rw [setAnswer_answers, if_pos rfl] at hanswer
  obtain rfl : chunks = chunks' := congrArg AcsAnswer.chunks (Option.some.inj hanswer)
  exact hbuffer rfl

/-- The invariant does not depend on what a connection that is gone was receiving. -/
theorem Own.forget (h : s.Own) : (s.setAnswer wsi none).Own := by
  have hstill : ∀ wsi', (s.setAnswer wsi none).Receiving wsi' → s.Receiving wsi' := by
    intro wsi' hwsi'
    rcases receiving_setAnswer.mp hwsi' with ⟨-, chunks, hnone⟩ | ⟨-, hreceiving⟩
    · cases hnone
    · exact hreceiving
  refine ⟨h.toSound.setAnswer, fun wsi' hwsi' => h.status wsi' (hstill wsi' hwsi'),
    fun wsi₁ wsi₂ h₁ h₂ => h.alone wsi₁ wsi₂ (hstill wsi₁ h₁) (hstill wsi₂ h₂),
    fun wsi' chunks hanswer => ?_⟩
  rw [setAnswer_answers] at hanswer
  split at hanswer
  · cases hanswer
  · exact h.buffer wsi' chunks hanswer

/-- **A chunk** is behind those before it. -/
theorem Own.receive (h : s.Own) {bytes : List UInt8} (hnul : NulAtEnd bytes)
    (hothers : ∀ wsi' ≠ wsi, ¬s.Receiving wsi') {status : ℕ} {chunks : List (List UInt8)}
    (hanswer : s.answers wsi = some ⟨status, chunks⟩) :
    ((s.cwmpClientReceiveHttpCb lib bytes true).setAnswer wsi
      (some ⟨status, chunks ++ [bytes]⟩)).Own := by
  rw [receive_eq h.toSound hnul]
  have hlength : s.rcvBufLen + bytes.length = (s.rcvBuf.getD [] ++ bytes).length := by
    rw [List.length_append, h.length]
  have hsound : Sound { s with
      rcvBuf := some (s.rcvBuf.getD [] ++ bytes)
      rcvBufLen := s.rcvBufLen + bytes.length } := ⟨hlength, h.defined⟩
  refine own_goesOn (s := s) hsound rfl hothers ?_ ?_
  · rintro rfl
    exact h.status wsi ⟨chunks, hanswer⟩
  · rintro rfl
    have hheld : s.rcvBuf.getD [] = chunks.flatten := by
      rw [h.buffer wsi chunks hanswer]
      split
      · next hnil =>
        rw [hnil]
        rfl
      · rfl
    show some (s.rcvBuf.getD [] ++ bytes) = _
    rw [if_neg (by simp), hheld, List.flatten_append, List.flatten_singleton]

/-- **One event** keeps the invariant. -/
theorem Own.step (h : s.Own) (hg : s.Undisturbed e) (hstep : s.step lib e = some t) : t.Own := by
  rw [ReceiveBuffer.step.eq_def, if_neg (by rw [h.defined]; exact Bool.false_ne_true)] at hstep
  rcases e with - | ⟨wsi, status⟩ | ⟨wsi, bytes, allocated⟩ | wsi | ⟨wsi, answerable⟩ | wsi | -
  case newWsi =>
    obtain rfl := Option.some.inj hstep
    have hsound : s.cwmpClientNewWsiCb.Sound := sound_of_empty rfl rfl h.defined
    exact hsound.own hg
  case close =>
    obtain rfl := Option.some.inj hstep
    have hsound : s.dmCloseHttpSession.Sound := sound_of_empty rfl rfl h.defined
    exact hsound.own hg
  case error =>
    obtain rfl := Option.some.inj hstep
    exact own_end (sound_of_empty rfl rfl h.defined) rfl hg
  case established =>
    obtain rfl := Option.some.inj hstep
    obtain ⟨hothers, hempty⟩ := hg
    have hsound : (s.cwmpClientConnectionEstablishedCb status).Sound := ⟨h.length, h.defined⟩
    exact own_goesOn hsound rfl hothers id hempty
  case receive =>
    obtain ⟨rfl, hnul, hothers⟩ := hg
    obtain ⟨⟨status, chunks⟩, hanswer, rfl⟩ := Option.map_eq_some_iff.mp hstep
    exact h.receive hnul hothers hanswer
  case completed =>
    obtain ⟨answer, hanswer, rfl⟩ := Option.map_eq_some_iff.mp hstep
    refine own_end (sound_complete h.toSound fun hstatus => ?_) complete_answers
      fun wsi' hne hwsi' => ?_
    · obtain ⟨chunks, hne, hchunks⟩ := hg hstatus
      rw [h.buffer wsi chunks hchunks, if_neg hne]
      exact Option.some_ne_none _
    · obtain ⟨chunks, -, hchunks⟩ := hg (h.status wsi' hwsi')
      exact hne (h.alone wsi' wsi hwsi' ⟨chunks, hchunks⟩)
  case closed =>
    obtain rfl := Option.some.inj hstep
    rcases @closed_cases s answerable with hsame | ⟨hstatus, hclosed⟩
    · rw [hsame]
      exact h.forget
    · rw [hclosed]
      exact own_end (sound_of_empty rfl rfl h.defined) rfl
        fun wsi' _ hwsi' => hstatus (h.status wsi' hwsi')

theorem own_initial : initial.Own := by
  refine (sound_of_empty rfl rfl rfl).own fun wsi hwsi => ?_
  obtain ⟨chunks, hnone⟩ := hwsi
  cases hnone

/-! ### Runs -/

/-- **Responses are put together** in every run without a disturbance: the length is always that of
what the buffer holds and nothing else is touched, and where a response with status 200 has been
completed, the buffer is searched and is what its chunks are together. -/
theorem reassembled_of_reaches (lib : ReceiveLibrary) (s : ReceiveBuffer)
    (h : Runs.Reaches (step lib) Undisturbed initial s) :
    s.Sound ∧ ∀ wsi chunks, s.answers wsi = some ⟨200, chunks⟩ → s.Undisturbed (.completed wsi) →
      s.Reassembled chunks := by
  have hown : s.Own := h.invariant (fun _ _ _ hs hg hstep => hs.step hg hstep) own_initial
  refine ⟨hown.toSound, fun wsi chunks hanswer hg => ?_⟩
  have hstatus := hown.status wsi ⟨chunks, hanswer⟩
  obtain ⟨chunks', hne, hchunks⟩ := hg hstatus
  obtain rfl : chunks = chunks' :=
    congrArg AcsAnswer.chunks (Option.some.inj (hanswer.symm.trans hchunks))
  exact ⟨hstatus, (hown.buffer wsi chunks hanswer).trans (if_neg hne)⟩

/-- A library that finds an envelope by its first byte, and maps nothing. -/
def plainReceiveLibrary : ReceiveLibrary :=
  ⟨strncpy, fun _ => rfl, fun bytes => bytes.head? = some 60, id⟩

/-- Only one connection is receiving anything. -/
theorem not_receiving_of_update {answer : Option AcsAnswer} (h : s.answers = Function.update
    (fun _ => none) 0 answer) : ∀ wsi ≠ 0, ¬s.Receiving wsi := by
  rintro wsi hwsi ⟨chunks, hchunks⟩
  rw [h, Function.update_of_ne hwsi] at hchunks
  cases hchunks

/-- Two chunks of one response. -/
theorem reassembled_two_chunks :
    ∃ s, Runs.exec (step plainReceiveLibrary) initial
        [.newWsi, .established 0 200, .receive 0 [60, 97] true, .receive 0 [62] true] = some s ∧
      s.Sound ∧ s.Reassembled [[60, 97], [62]] := by
  have hidle : ∀ wsi, ¬(initial).Receiving wsi := by
    rintro wsi ⟨chunks, hchunks⟩
    cases hchunks
  have hmeets : Runs.Meets (step plainReceiveLibrary) Undisturbed initial
      [.newWsi, .established 0 200, .receive 0 [60, 97] true, .receive 0 [62] true] := by
    refine ⟨hidle, fun t ht => ?_⟩
    obtain rfl := Option.some.inj ht
    refine ⟨⟨fun wsi _ => hidle wsi, fun _ => rfl⟩, fun t ht => ?_⟩
    obtain rfl := Option.some.inj ht
    refine ⟨⟨rfl, rfl, not_receiving_of_update rfl⟩, fun t ht => ?_⟩
    obtain rfl := Option.some.inj ht
    refine ⟨⟨rfl, rfl, not_receiving_of_update (Function.update_idem _ _ _)⟩, fun t ht => ?_⟩
    trivial
  refine ⟨_, rfl, ?_⟩
  obtain ⟨hsound, hreassembled⟩ :=
    reassembled_of_reaches plainReceiveLibrary _ (Runs.reaches_of_exec rfl hmeets)
  exact ⟨hsound, hreassembled 0 [[60, 97], [62]] rfl fun _ => ⟨_, by decide, rfl⟩⟩

/-- A response with status 200 that has no body: there is no buffer to be searched. And one that
comes on a connection that is kept: the buffer has the response before it as well. -/
theorem empty_body_faults :
    (∃ s, Runs.exec (step plainReceiveLibrary) initial
        [.newWsi, .established 0 200, .completed 0] = some s ∧ s.faulted = true) ∧
      ∃ s, Runs.exec (step plainReceiveLibrary) initial
        [.newWsi, .established 0 200, .receive 0 [60, 97] true, .completed 0, .established 0 200,
          .receive 0 [60, 98] true] = some s ∧
        s.rcvBuf = some [60, 97, 60, 98] ∧ ¬s.Reassembled [[60, 98]] := by
  refine ⟨⟨_, rfl, rfl⟩, _, rfl, rfl, fun h => ?_⟩
  have hpresent := h.present
  revert hpresent
  decide

end ReceiveBuffer

end Tr069
