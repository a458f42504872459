import Tr069Manager.Reports.System
import Tr069Manager.SoftwareModules.Results

/-!
# The requests of the ACS for a change of software modules

`DM_ENG_Device_DoChangeDUState` (`DM_AmxChangeDUState.c`) is where a request of the ACS enters: the
daemon writes the operation into the arguments of `changeDUState` and calls the plugin, which asks
the manager of the modules and makes a record. The operation comes as a structure with a kind and
the texts of that kind, each of which may be missing.

The request gets through as it was made (`Smm.doChangeDuState_accepts_iff`): it is accepted exactly
if the operation is of a supported kind and has all its texts, the call goes well and the manager
gives an identifier; what the manager is asked is what the ACS has asked
(`OperationStruct.request`), and the record that is made has the CommandKey and that one
operation. A request that is not accepted leaves no record, unless the answer of the plugin has
come too late: then the operation is run all the same
(`Smm.doChangeDuState_refused`).
-/

namespace Tr069

/-! ### The source -/

/-- `OperationStruct`: the texts are those of its `type`. -/
inductive OperationStruct where
  | install (url uuid username password executionEnvRef : Option CString)
  | update (uuid version url username password : Option CString)
  | uninstall (uuid version executionEnvRef : Option CString)
  | unsupported

/-- The entry of `Operations` that is written for it. -/
def OperationStruct.arg : OperationStruct → Option OperationArg
  | .install url uuid username password executionEnvRef =>
    some ⟨"Install".toList, url, uuid, username, password, executionEnvRef, none⟩
  | .update uuid version url username password =>
    some ⟨"Update".toList, url, uuid, username, password, none, version⟩
  | .uninstall uuid version executionEnvRef =>
    some ⟨"Uninstall".toList, none, uuid, none, none, executionEnvRef, version⟩
  | .unsupported => none

/-- The initiator of the requests of the ACS. -/
def acsInitiator : CString := "ACS".toList

namespace Smm

/-- The status of `_changeDUState` is `amxd_status_ok`. -/
def changeDuStateOk (operations : List OperationArg) (answer : DuRequest → Option UInt32) : Bool :=
  match operations with
  | [] => false
  | operation :: _ => ((opRequest operation).bind answer).any (· ≠ 0)

/-- `DM_ENG_Device_DoChangeDUState`, with what it returns. -/
def doChangeDuState (s : Smm) (bus : CallAnswers) (operations : Option OperationStruct)
    (commandKey : Option CString) (answer : DuRequest → Option UInt32) : ℤ × Smm :=
  match commandKey, operations with
  | some commandKey, some operations =>
    match operations.arg with
    | none => (dmEngFaultcode9002, s)
    | some operation =>
      if bus.reached then
        (if bus.answered ∧ changeDuStateOk [operation] answer then 0 else dmEngFaultcode9002,
          s.changeDuState acsInitiator commandKey [operation] answer)
      else (dmEngFaultcode9002, s)
  | _, _ => (dmEngFaultcode9002, s)

end Smm

/-! ### What is asked -/

/-- **What the ACS asks of the manager** of the modules, if it says all that is needed. -/
def OperationStruct.request : OperationStruct → Option DuRequest
  | .install (some url) (some uuid) (some username) (some password) (some executionEnvRef) =>
    some ⟨"InstallDU".toList, some url, some uuid, some username, some password,
      some executionEnvRef, none⟩
  | .update (some uuid) (some version) (some url) (some username) (some password) =>
    some ⟨"UpdateDU".toList, some url, some uuid, some username, some password, none,
      some version⟩
  | .uninstall (some uuid) (some version) (some executionEnvRef) =>
    some ⟨"UninstallDU".toList, none, some uuid, none, none, some executionEnvRef, some version⟩
  | _ => none

/-- The text of the kind. -/
def OperationStruct.type : OperationStruct → CString
  | .install .. => "Install".toList
  | .update .. => "Update".toList
  | .uninstall .. => "Uninstall".toList
  | .unsupported => []

/-- The arguments the daemon writes are read back by the plugin as what was asked. -/
theorem OperationStruct.opRequest_arg (o : OperationStruct) :
    o.arg.bind opRequest = o.request := by
  rcases o with ⟨url, uuid, username, password, env⟩ | ⟨uuid, version, url, username, password⟩ |
    ⟨uuid, version, env⟩ | -
  · rcases url <;> rcases uuid <;> rcases username <;> rcases password <;> rcases env <;> rfl
  · rcases url <;> rcases uuid <;> rcases username <;> rcases password <;> rcases version <;> rfl
  · rcases uuid <;> rcases version <;> rcases env <;> rfl
  · rfl

theorem OperationStruct.type_arg {o : OperationStruct} {a : OperationArg} (h : o.arg = some a) :
    a.type = o.type := by
  cases o with
  | unsupported => cases h
  | install | update | uninstall =>
    obtain rfl := Option.some.inj h
    rfl

namespace Smm

variable {s t : Smm} {bus : CallAnswers} {operations : Option OperationStruct}
  {commandKey : Option CString} {answer : DuRequest → Option UInt32}

/-! ### The call -/

/-- A call that goes well adds the record of its operation. -/
theorem changeDuState_of_ok {initiator key : CString} {a : OperationArg}
    {rest : List OperationArg} {request : DuRequest} {id : UInt32}
    (hrequest : opRequest a = some request) (hanswer : answer request = some id) (hid : id ≠ 0) :
    s.changeDuState initiator key (a :: rest) answer =
      { s with records := s.records ++ [⟨[], initiator, key, [newOperation a.type request id]⟩] } := by
  simp only [changeDuState, hrequest, hanswer, if_neg hid]

/-- One that does not changes nothing. -/
theorem changeDuState_of_not_ok {initiator key : CString} {as : List OperationArg}
    (h : changeDuStateOk as answer = false) : s.changeDuState initiator key as answer = s := by
  rcases as with - | ⟨a, rest⟩
  · rfl
  · rw [changeDuStateOk] at h
    rw [changeDuState]
    rcases hrequest : opRequest a with - | request
    · rfl
    · rw [hrequest, Option.bind_some] at h
      dsimp only
      rcases hanswer : answer request with - | id
      · rfl
      · rw [hanswer, Option.any_some, decide_eq_false_iff_not, not_not] at h
        exact if_pos h

theorem changeDuStateOk_iff {a : OperationArg} {rest : List OperationArg} :
    changeDuStateOk (a :: rest) answer = true ↔
      ∃ request id, opRequest a = some request ∧ answer request = some id ∧ id ≠ 0 := by
  rw [changeDuStateOk, Option.any_eq_true_iff_get]
  constructor
  · rintro ⟨hsome, hne⟩
    obtain ⟨request, hrequest, hanswer⟩ :=
      Option.bind_eq_some_iff.mp (Option.some_get hsome).symm
    exact ⟨request, _, hrequest, hanswer, of_decide_eq_true hne⟩
  · rintro ⟨request, id, hrequest, hanswer, hid⟩
    have hbind : (opRequest a).bind answer = some id := by rw [hrequest, Option.bind_some, hanswer]
    exact ⟨hbind ▸ rfl, by simpa [hbind] using hid⟩

/-! ### The request -/

/-- **A request gets through as it was made**: what it takes to be accepted, what the manager is
asked then, and the record that is made. -/
theorem doChangeDuState_accepts_iff :
    s.doChangeDuState bus operations commandKey answer = (0, t) ↔
      ∃ key o request id, commandKey = some key ∧ operations = some o ∧
        bus.reached = true ∧ bus.answered = true ∧
        o.request = some request ∧ answer request = some id ∧ id ≠ 0 ∧
        t = { s with
          records := s.records ++ [⟨[], acsInitiator, key, [newOperation o.type request id]⟩] } := by
  have hfault : (dmEngFaultcode9002 : ℤ) ≠ 0 := by decide
  unfold doChangeDuState
  rcases commandKey with - | key
  · refine ⟨fun h => absurd (Prod.mk.inj h).1 hfault, ?_⟩
    rintro ⟨key, o, request, id, hkey, -⟩
    cases hkey
  rcases operations with - | o
  · refine ⟨fun h => absurd (Prod.mk.inj h).1 hfault, ?_⟩
    rintro ⟨-, o, request, id, -, ho, -⟩
    cases ho
  have harg := o.opRequest_arg
  dsimp only
  rcases ha : o.arg with - | a
  · rw [ha, Option.bind_none] at harg
    refine ⟨fun h => absurd (Prod.mk.inj h).1 hfault, ?_⟩
    rintro ⟨-, o', request, id, -, ho, -, -, hrequest, -⟩
    obtain rfl := Option.some.inj ho
    rw [hrequest] at harg
    cases harg
  rw [ha, Option.bind_some] at harg
  have htype := OperationStruct.type_arg ha
  dsimp only
  constructor
  · intro h
    split at h
    · next hreached =>
      obtain ⟨hret, rfl⟩ := Prod.mk.inj h
      by_cases hok : bus.answered = true ∧ changeDuStateOk [a] answer = true
      · obtain ⟨request, id, hrequest, hanswer, hid⟩ := changeDuStateOk_iff.mp hok.2
        refine ⟨key, o, request, id, rfl, rfl, hreached, hok.1, harg ▸ hrequest, hanswer, hid, ?_⟩
        rw [changeDuState_of_ok hrequest hanswer hid, htype]
      · rw [if_neg hok] at hret
        exact absurd hret hfault
    · exact absurd (Prod.mk.inj h).1 hfault
  · rintro ⟨key', o', request, id, hkey, ho, hreached, hanswered, hrequest, hanswer, hid, rfl⟩
    obtain rfl := Option.some.inj hkey
    obtain rfl := Option.some.inj ho
    have hrequest' : opRequest a = some request := harg.trans hrequest
    have hok : changeDuStateOk [a] answer = true :=
      changeDuStateOk_iff.mpr ⟨request, id, hrequest', hanswer, hid⟩
    rw [if_pos hreached, if_pos ⟨hanswered, hok⟩, changeDuState_of_ok hrequest' hanswer hid, htype]

/-- A request that is refused leaves everything as it is, or its answer has come too late. -/
theorem doChangeDuState_refused {error : ℤ}
    (h : s.doChangeDuState bus operations commandKey answer = (error, t)) (herror : error ≠ 0) :
    error = dmEngFaultcode9002 ∧ (t = s ∨ bus.answered = false) := by
  have hsame : (dmEngFaultcode9002, s) = (error, t) →
      error = dmEngFaultcode9002 ∧ (t = s ∨ bus.answered = false) := fun h =>
    ⟨(Prod.mk.inj h).1.symm, Or.inl (Prod.mk.inj h).2.symm⟩
  unfold doChangeDuState at h
  rcases commandKey with - | key
  · exact hsame h
  rcases operations with - | o
  · exact hsame h
  dsimp only at h
  rcases ha : o.arg with - | a
  · rw [ha] at h
    exact hsame h
  rw [ha] at h
  dsimp only at h
  split at h
  · obtain ⟨hret, hstate⟩ := Prod.mk.inj h
    by_cases hok : bus.answered = true ∧ changeDuStateOk [a] answer = true
    · rw [if_pos hok] at hret
      exact absurd hret.symm herror
    · rw [if_neg hok] at hret
      refine ⟨hret.symm, ?_⟩
      by_cases hanswered : bus.answered = true
      · -- the answer has come, and it is that of a call that has failed
        have hnot : changeDuStateOk [a] answer = false :=
          Bool.eq_false_iff.mpr fun hyes => hok ⟨hanswered, hyes⟩
        exact Or.inl (hstate.symm.trans (changeDuState_of_not_ok hnot))
      · exact Or.inr (Bool.eq_false_iff.mpr hanswered)
  · exact hsame h

end Smm

end Tr069
