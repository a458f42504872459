import Tr069Manager.Lib.CString
import Tr069Manager.Lib.Runs

/-!
# Changes of software modules

What the plugin keeps of the operations on software modules (`smm.c`). A call of
`changeDUState` has an operation run by the manager of the modules and makes a record
of it; a record is an instance of `DUStateChangeComplete.` with the operations under it,
each with the results it gets. The manager sends notifications with the identifier of
an operation and what has come of it.

A result is recorded in three stages: the instance is added, the operation is marked
`Done`, and – when that change is handled, as an event of its own – the operations of
the record that are `Done` are counted. Instances are not removed here, so a path is a
position in a list.
-/

namespace Tr069

open Runs

/-! ### The data -/

/-- `op_status_t`. -/
inductive OpStatus where
  | none
  | inProgress
  | done
  deriving DecidableEq

/-- The text of a status. -/
def OpStatus.text : OpStatus → CString
  | .none => []
  | .inProgress => "In Progress".toList
  | .done => "Done".toList

/-- `amxc_ts_t`. -/
structure Timestamp where
  sec : ℤ
  nsec : ℤ
  offset : ℤ
  deriving DecidableEq

/-- The `OpResultStruct` of a notification. -/
structure OpResultStruct where
  currentState : Option CString
  deploymentUnitRef : Option CString
  executionUnitRefList : Option CString
  faultCode : UInt32
  faultString : Option CString
  resolved : Bool
  startTime : Option Timestamp
  completeTime : Option Timestamp
  uuid : Option CString
  version : Option CString
  deriving DecidableEq

/-- A notification `OpResultDU!`. -/
structure OpResultDu where
  operationId : UInt32
  opResultStruct : Option OpResultStruct
  deriving DecidableEq

/-- An instance of `Results.`; a time that was never set is `none`. -/
structure OperationResult where
  uuid : CString
  deploymentUnitRef : CString
  version : CString
  currentState : CString
  resolved : Bool
  executionUnitRefList : CString
  startTime : Option Timestamp
  completeTime : Option Timestamp
  faultCode : UInt32
  faultString : CString
  deriving DecidableEq

/-- The instance `op_add_result` adds. -/
def OpResultStruct.entry (r : OpResultStruct) : OperationResult where
  uuid := r.uuid.getD []
  deploymentUnitRef := r.deploymentUnitRef.getD []
  version := r.version.getD []
  currentState := r.currentState.getD []
  resolved := r.resolved
  executionUnitRefList := r.executionUnitRefList.getD []
  startTime := r.startTime
  completeTime := r.completeTime
  faultCode := r.faultCode
  faultString := r.faultString.getD []

/-- An instance of `Operations.`. -/
structure Operation where
  type : CString
  status : CString
  id : UInt32
  url : CString
  uuid : CString
  username : CString
  password : CString
  executionEnvRef : CString
  version : CString
  results : List OperationResult
  deriving DecidableEq

/-- An instance of `DUStateChangeComplete.`. -/
structure DuStateChange where
  status : CString
  initiator : CString
  commandKey : CString
  operations : List Operation
  deriving DecidableEq

/-- An operation, as an argument of `changeDUState`. -/
structure OperationArg where
  type : CString
  url : Option CString
  uuid : Option CString
  username : Option CString
  password : Option CString
  executionEnvRef : Option CString
  version : Option CString

/-- A call of the manager of the software modules, with the arguments it has. -/
structure DuRequest where
  rpc : CString
  url : Option CString
  uuid : Option CString
  username : Option CString
  password : Option CString
  executionEnvRef : Option CString
  version : Option CString

/-- The records, and the changes to `Done` that are still to be handled: the positions of a record
and of the operation in it. -/
structure Smm where
  records : List DuStateChange
  doneEvents : List (ℕ × ℕ)

/-! ### The operations of the source -/

/-- The call `op_run` makes, if the arguments of its type are there. -/
def opRequest (o : OperationArg) : Option DuRequest :=
  if o.type = "Install".toList then
    if o.url.isSome ∧ o.uuid.isSome ∧ o.username.isSome ∧ o.password.isSome ∧
        o.executionEnvRef.isSome then
      some ⟨"InstallDU".toList, o.url, o.uuid, o.username, o.password, o.executionEnvRef, none⟩
    else none
  else if o.type = "Update".toList then
    if o.uuid.isSome ∧ o.version.isSome ∧ o.url.isSome ∧ o.username.isSome ∧ o.password.isSome then
      some ⟨"UpdateDU".toList, o.url, o.uuid, o.username, o.password, none, o.version⟩
    else none
  else if o.type = "Uninstall".toList then
    if o.uuid.isSome ∧ o.version.isSome ∧ o.executionEnvRef.isSome then
      some ⟨"UninstallDU".toList, none, o.uuid, none, none, o.executionEnvRef, o.version⟩
    else none
  else none

/-- The operation `_changeDUState` adds: with the arguments of the request, which are those of its
type. -/
def newOperation (type : CString) (request : DuRequest) (id : UInt32) : Operation where
  type := type
  status := OpStatus.inProgress.text
  id := id
  url := request.url.getD []
  uuid := request.uuid.getD []
  username := request.username.getD []
  password := request.password.getD []
  executionEnvRef := request.executionEnvRef.getD []
  version := request.version.getD []
  results := []

/-- `op_status_get`. -/
def opStatusGet (o : Operation) : OpStatus :=
  if o.status = OpStatus.inProgress.text then .inProgress
  else if o.status = OpStatus.done.text then .done
  else .none

namespace Smm

/-- The operation at a position. -/
def opAt (s : Smm) (p : ℕ × ℕ) : Option Operation := (s.records[p.1]?).bind (·.operations[p.2]?)

/-- The records with another operation at a position. -/
def modifyOp (records : List DuStateChange) (p : ℕ × ℕ) (f : Operation → Operation) :
    List DuStateChange :=
  records.modify p.1 fun r => { r with operations := r.operations.modify p.2 f }

/-- `_changeDUState`, with what the manager answers: the identifier of the operation, if the call
succeeds. Only the first operation of the list is run. -/
def changeDuState (s : Smm) (initiator commandKey : CString) (operations : List OperationArg)
    (answer : DuRequest → Option UInt32) : Smm :=
  match operations with
  | [] => s
  | operation :: _ =>
    match opRequest operation with
    | none => s
    | some request =>
      match answer request with
      | none => s
      | some id =>
        if id = 0 then s
        else
          { s with
            records := s.records ++
              [⟨[], initiator, commandKey, [newOperation operation.type request id]⟩] }

/-- `op_obj_get_by_id`: the first operation that has the identifier. -/
def opObjGetById (s : Smm) (id : UInt32) : Option (ℕ × ℕ) :=
  if id = 0 then none
  else
    s.records.zipIdx.findSome? fun r =>
      (r.1.operations.findIdx? fun o => o.id = id).map fun j => (r.2, j)

/-- `op_add_result`. -/
def opAddResult (s : Smm) (p : ℕ × ℕ) (result : OpResultStruct) : Smm :=
  { s with
    records := modifyOp s.records p fun o => { o with results := o.results ++ [result.entry] } }

/-- `op_status_set`; a change to `Done` is an event. -/
def opStatusSet (s : Smm) (p : ℕ × ℕ) (status : OpStatus) : Smm where
  records := modifyOp s.records p fun o => { o with status := status.text }
  doneEvents :=
    if status = .done ∧ (s.opAt p).any (fun o => o.status ≠ OpStatus.done.text) then
      s.doneEvents ++ [p]
    else s.doneEvents

/-- `op_handle_results`. -/
def opHandleResults (s : Smm) (n : OpResultDu) : Smm :=
  match s.opObjGetById n.operationId with
  | none => s
  | some p =>
    if (s.opAt p).map opStatusGet = some .inProgress then
      match n.opResultStruct with
      | none => s
      | some result => (s.opAddResult p result).opStatusSet p .done
    else s

/-- The operations of a record that are `Done`. -/
def countDone (r : DuStateChange) : ℕ :=
  r.operations.countP fun o => o.status = OpStatus.done.text

/-- `_dscc_op_done`, with `dscc_status_done`. -/
def dsccOpDone (s : Smm) (p : ℕ × ℕ) : Smm :=
  match s.opAt p, s.records[p.1]? with
  | some _, some r =>
    if r.operations.length = 0 then s
    else if countDone r = r.operations.length then
      { s with records := s.records.modify p.1 fun r => { r with status := OpStatus.done.text } }
    else s
  | _, _ => s

/-! ### The system -/

/-- What can happen. -/
inductive Event where
  /-- somebody calls `changeDUState`; the manager answers -/
  | changeDuState (initiator commandKey : CString) (operations : List OperationArg)
      (answer : DuRequest → Option UInt32)
  /-- the manager sends a notification -/
  | notification (n : OpResultDu)
  /-- the next change to `Done` is handled -/
  | dispatch

/-- One event, if it is possible. -/
def step (s : Smm) : Event → Option Smm
  | .changeDuState initiator commandKey operations answer =>
    some (s.changeDuState initiator commandKey operations answer)
  | .notification n => some (s.opHandleResults n)
  | .dispatch =>
    match s.doneEvents with
    | [] => none
    | p :: rest => some ({ s with doneEvents := rest }.dsccOpDone p)

end Smm

end Tr069
