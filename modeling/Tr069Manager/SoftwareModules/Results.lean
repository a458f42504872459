import Tr069Manager.SoftwareModules.DuStateChange

/-!
# The results of operations on software modules

Every operation is a function of the notifications that have come since it was made
(`Tr069.Operation.after`): it has the result of the first one with its identifier and a
result, and is `Done` since. And a record is `Done` when all its operations are.

Two guards of the source limit that. A notification without a result is passed over, and
the next one counts. And a record without operations is never `Done`: it is the change of
an operation that has the record looked at.

What ties the three stages of a result together is that the identifiers are distinct over
all records, and that of a record whose operations are all `Done` one of their changes is
still to be handled if the record is not `Done` (`Tr069.Smm.SmmInv`).
-/

namespace Tr069

open Runs

/-! ### What an operation comes to -/

/-- The result an event has for an operation. -/
def Smm.resultFor (id : UInt32) : Smm.Event → Option OpResultStruct
  | .notification n => if n.operationId = id then n.opResultStruct else none
  | _ => none

/-- The operation with its result. -/
def Operation.finished (o : Operation) (result : OpResultStruct) : Operation :=
  { o with status := OpStatus.done.text, results := o.results ++ [result.entry] }

/-- The operation after some events: with the first result, unless it has one. -/
def Operation.after (o : Operation) (es : List Smm.Event) : Operation :=
  if o.status = OpStatus.done.text then o
  else
    match es.findSome? (Smm.resultFor o.id) with
    | none => o
    | some result =>
      { o with status := OpStatus.done.text, results := [result.entry] }

/-- The record has operations, and all of them are `Done`. -/
def DuStateChange.Complete (r : DuStateChange) : Prop :=
  r.operations ≠ [] ∧ ∀ o ∈ r.operations, o.status = OpStatus.done.text

namespace Smm

variable {s t : Smm} {e : Event} {p q : ℕ × ℕ} {o : Operation}

/-- **What is to hold between two states**: the operations are what the events make of them; a
record is `Done` only if all its operations are, and is once the changes are handled;
and no notification and no change says anything of another record. -/
structure Settled (es : List Event) (s t : Smm) : Prop where
  result : ∀ p o, s.opAt p = some o → t.opAt p = some (o.after es)
  complete : ∀ r ∈ t.records, r.status = OpStatus.done.text → r.Complete
  completed : t.doneEvents = [] → ∀ r ∈ t.records, r.Complete → r.status = OpStatus.done.text
  notified : ∀ (n : OpResultDu) (i : ℕ) (r : DuStateChange), t.records[i]? = some r →
    (∀ o ∈ r.operations, o.id ≠ n.operationId) → (t.opHandleResults n).records[i]? = some r
  handled : ∀ p i, i ≠ p.1 → (t.dsccOpDone p).records[i]? = t.records[i]?

/-- No two operations have the same identifier, and none has zero. -/
structure Identified (s : Smm) : Prop where
  nonzero : ∀ p o, s.opAt p = some o → o.id ≠ 0
  distinct : ∀ p q o o', s.opAt p = some o → s.opAt q = some o' → o.id = o'.id → p = q

/-- The records before any notification. -/
structure Fresh (s : Smm) : Prop where
  identified : s.Identified
  operations : ∀ p o, s.opAt p = some o → o.status = OpStatus.inProgress.text ∧ o.results = []
  records : ∀ r ∈ s.records, r.status ≠ OpStatus.done.text
  events : s.doneEvents = []

/-- The manager gives no identifier twice. -/
def FreshIds (s : Smm) : Event → Prop
  | .changeDuState _ _ _ answer =>
    ∀ request id, answer request = some id → ∀ p o, s.opAt p = some o → o.id ≠ id
  | _ => True

/-! ### Positions -/

theorem opAt_eq_some (s : Smm) (p : ℕ × ℕ) :
    s.opAt p = some o ↔ ∃ r, s.records[p.1]? = some r ∧ r.operations[p.2]? = some o :=
  Option.bind_eq_some_iff

/-- A record after a change at a position. -/
theorem getElem?_modifyOp (records : List DuStateChange) (p : ℕ × ℕ) (f : Operation → Operation)
    (i : ℕ) :
    (modifyOp records p f)[i]? =
      if p.1 = i then
        records[i]?.map fun r => { r with operations := r.operations.modify p.2 f }
      else records[i]? := by
  rw [modifyOp, List.getElem?_modify]
  split
  · rfl
  · exact congrFun Option.map_id_fun' _

/-- An operation after a change at a position. -/
theorem opAt_modifyOp {u : Smm} {f : Operation → Operation}
    (hu : u.records = modifyOp s.records p f) (q : ℕ × ℕ) :
    u.opAt q = if p = q then (s.opAt q).map f else s.opAt q := by
  rw [opAt, opAt, hu, getElem?_modifyOp]
  by_cases h1 : p.1 = q.1
  · rw [if_pos h1]
    rcases hr : s.records[q.1]? with - | r
    · simp
    · by_cases h2 : p.2 = q.2
      · rw [if_pos (Prod.ext h1 h2)]
        simp [h2]
      · rw [if_neg fun h => h2 (congrArg Prod.snd h)]
        simp [h2]
  · rw [if_neg h1, if_neg fun h => h1 (congrArg Prod.fst h)]

/-- The search finds an operation with the identifier. -/
theorem opAt_of_opObjGetById {id : UInt32} (h : s.opObjGetById id = some p) :
    ∃ o, s.opAt p = some o ∧ o.id = id := by
  unfold opObjGetById at h
  split at h
  · cases h
  · obtain ⟨⟨r, i⟩, hmem, hfound⟩ := List.exists_of_findSome?_eq_some h
    obtain ⟨j, hj, rfl⟩ := Option.map_eq_some_iff.mp hfound
    obtain ⟨hlt, hid, -⟩ := List.findIdx?_eq_some_iff_getElem.mp hj
    refine ⟨r.operations[j], (opAt_eq_some s _).mpr ⟨r, ?_, ?_⟩, of_decide_eq_true hid⟩
    · exact List.mem_zipIdx_iff_getElem?.mp hmem
    · exact List.getElem?_eq_getElem hlt

/-- The search finds the operation that has the identifier. -/
theorem opObjGetById_eq (hs : s.Identified) (h : s.opAt p = some o) :
    s.opObjGetById o.id = some p := by
  obtain ⟨r, hr, ho⟩ := (opAt_eq_some s p).mp h
  have hsome : (s.opObjGetById o.id).isSome = true := by
    rw [opObjGetById, if_neg (hs.nonzero p o h), List.findSome?_isSome_iff]
    refine ⟨(r, p.1), List.mem_zipIdx_iff_getElem?.mpr hr, ?_⟩
    rw [Option.isSome_map, List.findIdx?_isSome, List.any_eq_true]
    exact ⟨o, List.mem_of_getElem? ho, decide_eq_true rfl⟩
  obtain ⟨q, hq⟩ := Option.isSome_iff_exists.mp hsome
  obtain ⟨o', ho', hid⟩ := opAt_of_opObjGetById hq
  rw [hq, hs.distinct q p o' o ho' h hid]

/-! ### The invariant -/

/-- An operation waits for its result, or has one. -/
def HasResult (o : Operation) : Prop :=
  o.status = OpStatus.inProgress.text ∧ o.results = [] ∨
    o.status = OpStatus.done.text ∧ o.results.length = 1

/-- **The invariant**: the identifiers are distinct, every operation waits or has one result, a
`Done` record is complete, and of a complete one that is not `Done` a change is to be handled. -/
structure SmmInv (s : Smm) : Prop where
  identified : s.Identified
  operations : ∀ p o, s.opAt p = some o → HasResult o
  complete : ∀ (i : ℕ) (r : DuStateChange), s.records[i]? = some r →
    r.status = OpStatus.done.text → r.Complete
  pending : ∀ (i : ℕ) (r : DuStateChange), s.records[i]? = some r → r.Complete →
    r.status ≠ OpStatus.done.text → ∃ j, (i, j) ∈ s.doneEvents
  events : ∀ p ∈ s.doneEvents, ∃ o, s.opAt p = some o

theorem Fresh.smmInv (h : s.Fresh) : s.SmmInv := by
  refine ⟨h.identified, fun p o ho => Or.inl (h.operations p o ho), fun i r hr hdone => ?_,
    fun i r hr hcomplete _ => ?_, fun p hp => ?_⟩
  · exact absurd hdone (h.records r (List.mem_of_getElem? hr))
  · -- an operation of a complete record would be `Done`
    obtain ⟨o, rest, hcons⟩ := List.exists_cons_of_ne_nil hcomplete.1
    have hop : s.opAt (i, 0) = some o := (opAt_eq_some s _).mpr ⟨r, hr, by rw [hcons]; rfl⟩
    have hdone := hcomplete.2 o (by rw [hcons]; exact List.mem_cons_self)
    exact absurd ((h.operations _ o hop).1.symm.trans hdone) (by decide)
  · rw [h.events] at hp
    cases hp

/-! ### A notification -/

/-- The state with a result for the operation at a position. -/
def finished (s : Smm) (p : ℕ × ℕ) (result : OpResultStruct) : Smm where
  records := modifyOp s.records p (·.finished result)
  doneEvents := s.doneEvents ++ [p]

theorem opAt_finished (s : Smm) (p q : ℕ × ℕ) (result : OpResultStruct) :
    (s.finished p result).opAt q =
      if p = q then (s.opAt q).map (·.finished result) else s.opAt q :=
  opAt_modifyOp rfl q

theorem modifyOp_modifyOp (records : List DuStateChange) (p : ℕ × ℕ) (f g : Operation → Operation) :
    modifyOp (modifyOp records p f) p g = modifyOp records p (g ∘ f) := by
  rw [modifyOp, modifyOp, modifyOp, List.modify_modify_eq]
  refine congrArg (List.modify records p.1) (funext fun r => ?_)
  rw [Function.comp_apply, List.modify_modify_eq]

/-- The two transactions, on an operation in progress. -/
theorem addResult_statusSet {result : OpResultStruct} (ho : s.opAt p = some o)
    (hstatus : o.status = OpStatus.inProgress.text) :
    (s.opAddResult p result).opStatusSet p .done = s.finished p result := by
  have hadded := @opAt_modifyOp s p (s.opAddResult p result) _ rfl p
  rw [if_pos rfl, ho, Option.map_some] at hadded
  have hchanged : OpStatus.done = .done ∧
      ((s.opAddResult p result).opAt p).any (fun o => o.status ≠ OpStatus.done.text) := by
    rw [hadded]
    exact ⟨rfl, decide_eq_true (by rw [hstatus]; decide)⟩
  rw [opStatusSet, if_pos hchanged]
  exact congrArg (fun records => (⟨records, s.doneEvents ++ [p]⟩ : Smm))
    (modifyOp_modifyOp s.records p _ _)

/-- **A notification** gives the operation in progress that has its identifier the result it
carries, and does nothing else. -/
theorem opHandleResults_cases (hs : s.SmmInv) (n : OpResultDu) :
    (s.opHandleResults n = s ∧ ∀ p o, s.opAt p = some o → o.id = n.operationId →
      o.status = OpStatus.done.text ∨ n.opResultStruct = none) ∨
    ∃ p o result, s.opAt p = some o ∧ o.id = n.operationId ∧
      o.status = OpStatus.inProgress.text ∧ o.results = [] ∧ n.opResultStruct = some result ∧
      s.opHandleResults n = s.finished p result := by
  by_cases hfound : ∃ p o, s.opAt p = some o ∧ o.id = n.operationId
  · obtain ⟨p, o, ho, hid⟩ := hfound
    have honly : ∀ q o', s.opAt q = some o' → o'.id = n.operationId → o' = o := by
      intro q o' ho' hid'
      obtain rfl := hs.identified.distinct q p o' o ho' ho (hid'.trans hid.symm)
      exact Option.some.inj (ho'.symm.trans ho)
    have hget : s.opObjGetById n.operationId = some p := hid ▸ opObjGetById_eq hs.identified ho
    rw [opHandleResults, hget]
    dsimp only
    rw [ho, Option.map_some]
    rcases hs.operations p o ho with ⟨hstatus, hresults⟩ | ⟨hstatus, -⟩
    · have hget : opStatusGet o = .inProgress := if_pos hstatus
      rw [if_pos (congrArg some hget)]
      rcases hresult : n.opResultStruct with - | result
      · exact Or.inl ⟨rfl, fun _ _ _ _ => Or.inr rfl⟩
      · exact Or.inr ⟨p, o, result, ho, hid, hstatus, hresults, rfl, addResult_statusSet ho hstatus⟩
    · have hget : opStatusGet o ≠ .inProgress := by
        rw [opStatusGet, hstatus]
        decide
      rw [if_neg fun h => hget (Option.some.inj h)]
      exact Or.inl ⟨rfl, fun q o' ho' hid' => Or.inl (honly q o' ho' hid' ▸ hstatus)⟩
  · have hnone : s.opObjGetById n.operationId = none := by
      rcases h : s.opObjGetById n.operationId with - | p
      · rfl
      · obtain ⟨o, ho, hid⟩ := opAt_of_opObjGetById h
        exact absurd ⟨p, o, ho, hid⟩ hfound
    rw [opHandleResults, hnone]
    exact Or.inl ⟨rfl, fun p o ho hid => absurd ⟨p, o, ho, hid⟩ hfound⟩

/-- A record after a result for the operation at a position. -/
theorem record_finished {result : OpResultStruct} {i : ℕ} {r : DuStateChange}
    (hr : (s.finished p result).records[i]? = some r) :
    ∃ r', s.records[i]? = some r' ∧ (p.1 ≠ i ∧ r = r' ∨ p.1 = i ∧
      r = { r' with operations := r'.operations.modify p.2 (·.finished result) }) := by
  change (modifyOp s.records p _)[i]? = _ at hr
  rw [getElem?_modifyOp] at hr
  split at hr
  · next hi =>
    obtain ⟨r', hr', rfl⟩ := Option.map_eq_some_iff.mp hr
    exact ⟨r', hr', Or.inr ⟨hi, rfl⟩⟩
  · next hi => exact ⟨r, hr, Or.inl ⟨hi, rfl⟩⟩

/-- A result keeps the invariant. -/
theorem SmmInv.finished (hs : s.SmmInv) (result : OpResultStruct) (ho : s.opAt p = some o)
    (hstatus : o.status = OpStatus.inProgress.text) (hresults : o.results = []) :
    (s.finished p result).SmmInv := by
  have hback : ∀ q o', (s.finished p result).opAt q = some o' →
      ∃ o'', s.opAt q = some o'' ∧ o'.id = o''.id := by
    intro q o' ho'
    rw [opAt_finished] at ho'
    split at ho'
    · obtain ⟨o'', ho'', rfl⟩ := Option.map_eq_some_iff.mp ho'
      exact ⟨o'', ho'', rfl⟩
    · exact ⟨o', ho', rfl⟩
  refine ⟨⟨fun q o' ho' => ?_, fun q q' a b ha hb hid => ?_⟩, fun q o' ho' => ?_,
    fun i r hr hdone => ?_, fun i r hr hcomplete hnot => ?_, fun q hq => ?_⟩
  · obtain ⟨o'', ho'', hid⟩ := hback q o' ho'
    rw [hid]
    exact hs.identified.nonzero q o'' ho''
  · obtain ⟨a', ha', hida⟩ := hback q a ha
    obtain ⟨b', hb', hidb⟩ := hback q' b hb
    exact hs.identified.distinct q q' a' b' ha' hb' (hida.symm.trans (hid.trans hidb))
  · rw [opAt_finished] at ho'
    split at ho'
    · next hq =>
      rw [← hq, ho] at ho'
      obtain rfl := Option.some.inj ho'
      refine Or.inr ⟨rfl, ?_⟩
      change (o.results ++ [result.entry]).length = 1
      rw [hresults]
      rfl
    · exact hs.operations q o' ho'
  · obtain ⟨r', hr', hops⟩ := record_finished hr
    rcases hops with ⟨-, rfl⟩ | ⟨rfl, rfl⟩
    · exact hs.complete i r hr' hdone
    · -- the record of an operation in progress was not `Done`
      have hcomplete := hs.complete p.1 r' hr' hdone
      obtain ⟨r'', hr'', hop⟩ := (opAt_eq_some s p).mp ho
      obtain rfl := Option.some.inj (hr'.symm.trans hr'')
      have hopdone := hcomplete.2 o (List.mem_of_getElem? hop)
      exact absurd (hstatus.symm.trans hopdone) (by decide)
  · obtain ⟨r', hr', hops⟩ := record_finished hr
    rcases hops with ⟨-, rfl⟩ | ⟨rfl, rfl⟩
    · obtain ⟨j, hj⟩ := hs.pending i r hr' hcomplete hnot
      exact ⟨j, List.mem_append_left _ hj⟩
    · exact ⟨p.2, List.mem_append_right _ List.mem_cons_self⟩
  · rw [opAt_finished]
    rcases List.mem_append.mp hq with hold | hnew
    · obtain ⟨o', ho'⟩ := hs.events q hold
      split
      · exact ⟨_, by rw [ho', Option.map_some]⟩
      · exact ⟨o', ho'⟩
    · obtain rfl := List.mem_singleton.mp hnew
      exact ⟨_, by rw [if_pos rfl, ho, Option.map_some]⟩

/-! ### A change to `Done` -/

/-- A record is complete if the count says so. -/
theorem countDone_eq_iff (r : DuStateChange) :
    countDone r = r.operations.length ↔ ∀ o ∈ r.operations, o.status = OpStatus.done.text := by
  rw [countDone, List.countP_eq_length]
  simp only [decide_eq_true_eq]

/-- **The handler of a change** makes the record `Done` if it is complete. -/
theorem dsccOpDone_eq (ho : s.opAt p = some o) {r : DuStateChange}
    (hr : s.records[p.1]? = some r) :
    (r.Complete → s.dsccOpDone p = { s with
      records := s.records.modify p.1 fun r => { r with status := OpStatus.done.text } }) ∧
    (¬r.Complete → s.dsccOpDone p = s) := by
  obtain ⟨r', hr', hop⟩ := (opAt_eq_some s p).mp ho
  obtain rfl := Option.some.inj (hr.symm.trans hr')
  have hne : r.operations ≠ [] := List.ne_nil_of_mem (List.mem_of_getElem? hop)
  have hlength : r.operations.length ≠ 0 := fun h => hne (List.length_eq_zero_iff.mp h)
  rw [dsccOpDone, ho, hr]
  dsimp only
  rw [if_neg hlength]
  refine ⟨fun hcomplete => ?_, fun hnot => ?_⟩
  · rw [if_pos ((countDone_eq_iff r).mpr hcomplete.2)]
  · rw [if_neg fun h => hnot ⟨hne, (countDone_eq_iff r).mp h⟩]

/-- The status of a record is no matter of its operations. -/
theorem opAt_modify_status (s : Smm) (i : ℕ) (status : CString) (q : ℕ × ℕ) :
    ({ s with records := s.records.modify i fun r => { r with status := status } } : Smm).opAt q =
      s.opAt q := by
  rw [opAt, opAt, List.getElem?_modify]
  rcases s.records[q.1]? with - | r
  · rfl
  · change (Option.bind (some (if i = q.1 then _ else r)) _) = _
    split <;> rfl

/-- A record after the status of one has been set. -/
theorem record_modify_status {records : List DuStateChange} {i k : ℕ} {status : CString}
    {r : DuStateChange}
    (hr : (records.modify i fun r => { r with status := status })[k]? = some r) :
    ∃ r', records[k]? = some r' ∧ (i ≠ k ∧ r = r' ∨ i = k ∧ r = { r' with status := status }) := by
  rw [List.getElem?_modify] at hr
  obtain ⟨r', hr', rfl⟩ := Option.map_eq_some_iff.mp hr
  refine ⟨r', hr', ?_⟩
  split
  · next hi => exact Or.inr ⟨hi, rfl⟩
  · next hi => exact Or.inl ⟨hi, rfl⟩

/-- The handler keeps the invariant. -/
theorem SmmInv.dispatch (hs : s.SmmInv) {rest : List (ℕ × ℕ)} (hevents : s.doneEvents = p :: rest) :
    ({ s with doneEvents := rest }.dsccOpDone p).SmmInv := by
  obtain ⟨o, ho⟩ := hs.events p (by rw [hevents]; exact List.mem_cons_self)
  obtain ⟨r, hr, -⟩ := (opAt_eq_some s p).mp ho
  have hrest : ∀ q ∈ rest, ∃ o, s.opAt q = some o := fun q hq =>
    hs.events q (by rw [hevents]; exact List.mem_cons_of_mem p hq)
  have hothers : ∀ i ≠ p.1, ∀ r', s.records[i]? = some r' → r'.Complete →
      r'.status ≠ OpStatus.done.text → ∃ j, (i, j) ∈ rest := by
    intro i hi r' hr' hcomplete hnot
    obtain ⟨j, hj⟩ := hs.pending i r' hr' hcomplete hnot
    rw [hevents] at hj
    exact ⟨j, (List.mem_cons.mp hj).resolve_left fun h => hi (congrArg Prod.fst h)⟩
  obtain ⟨hdone, hstays⟩ := @dsccOpDone_eq { s with doneEvents := rest } p o ho r hr
  by_cases hcomplete : r.Complete
  · rw [hdone hcomplete]
    have hop := opAt_modify_status { s with doneEvents := rest } p.1 OpStatus.done.text
    refine ⟨⟨fun q o' ho' => ?_, fun q q' a b ha hb hid => ?_⟩, fun q o' ho' => ?_,
      fun i r' hr' hstatus => ?_, fun i r' hr' hcomplete' hnot => ?_, fun q hq => ?_⟩
    · rw [hop] at ho'
      exact hs.identified.nonzero q o' ho'
    · rw [hop] at ha hb
      exact hs.identified.distinct q q' a b ha hb hid
    · rw [hop] at ho'
      exact hs.operations q o' ho'
    · obtain ⟨r'', hr'', ⟨-, rfl⟩ | ⟨rfl, rfl⟩⟩ := record_modify_status hr'
      · exact hs.complete i r' hr'' hstatus
      · obtain rfl := Option.some.inj (hr.symm.trans hr'')
        exact hcomplete
    · obtain ⟨r'', hr'', ⟨hi, rfl⟩ | ⟨-, rfl⟩⟩ := record_modify_status hr'
      · exact hothers i (Ne.symm hi) r' hr'' hcomplete' hnot
      · exact absurd rfl hnot
    · rw [hop]
      exact hrest q hq
  · rw [hstays hcomplete]
    refine ⟨⟨hs.identified.nonzero, hs.identified.distinct⟩, hs.operations, hs.complete,
      fun i r' hr' hcomplete' hnot => ?_, hrest⟩
    by_cases hi : i = p.1
    · rw [hi] at hr'
      exact absurd (Option.some.inj (hr.symm.trans hr') ▸ hcomplete') hcomplete
    · exact hothers i hi r' hr' hcomplete' hnot

/-! ### A call -/

/-- **A call** leaves everything as it is, or adds a record with one operation in progress. -/
theorem changeDuState_cases (s : Smm) (initiator commandKey : CString)
    (operations : List OperationArg) (answer : DuRequest → Option UInt32) :
    s.changeDuState initiator commandKey operations answer = s ∨
      ∃ type request id, answer request = some id ∧ id ≠ 0 ∧
        s.changeDuState initiator commandKey operations answer =
          { s with
            records := s.records ++
              [⟨[], initiator, commandKey, [newOperation type request id]⟩] } := by
  unfold changeDuState
  rcases operations with - | ⟨operation, rest⟩
  · exact Or.inl rfl
  · dsimp only
    rcases opRequest operation with - | request
    · exact Or.inl rfl
    · dsimp only
      rcases hanswer : answer request with - | id
      · exact Or.inl rfl
      · dsimp only
        split
        · exact Or.inl rfl
        · next hid => exact Or.inr ⟨operation.type, request, id, hanswer, hid, rfl⟩

/-- The records once one has been added. -/
theorem record_append {records : List DuStateChange} {record r : DuStateChange} {i : ℕ} :
    (records ++ [record])[i]? = some r ↔
      records[i]? = some r ∨ i = records.length ∧ r = record := by
  rw [List.getElem?_append]
  split
  · next hlt =>
    refine ⟨Or.inl, fun h => h.resolve_right ?_⟩
    rintro ⟨rfl, -⟩
    exact Nat.lt_irrefl _ hlt
  · next hge =>
    rw [List.getElem?_eq_none (Nat.le_of_not_lt hge), List.getElem?_singleton]
    constructor
    · intro h
      split at h
      · exact Or.inr ⟨by omega, (Option.some.inj h).symm⟩
      · cases h
    · rintro (h | ⟨rfl, rfl⟩)
      · cases h
      · rw [Nat.sub_self, if_pos rfl]

/-- The operations once a record with one has been added. -/
theorem opAt_append {record : DuStateChange} (hone : record.operations = [o]) (q : ℕ × ℕ)
    (o' : Operation) :
    ({ s with records := s.records ++ [record] } : Smm).opAt q = some o' ↔
      s.opAt q = some o' ∨ q = (s.records.length, 0) ∧ o' = o := by
  have hnew : record.operations[q.2]? = some o' ↔ q.2 = 0 ∧ o' = o := by
    rw [hone, List.getElem?_singleton]
    split
    · next h0 => exact ⟨fun h => ⟨h0, (Option.some.inj h).symm⟩, fun h => congrArg some h.2.symm⟩
    · next h0 => exact ⟨nofun, fun h => absurd h.1 h0⟩
  rw [opAt_eq_some, opAt_eq_some]
  constructor
  · rintro ⟨r, hr, ho'⟩
    rcases record_append.mp hr with hold | ⟨hlast, rfl⟩
    · exact Or.inl ⟨r, hold, ho'⟩
    · obtain ⟨h0, rfl⟩ := hnew.mp ho'
      exact Or.inr ⟨Prod.ext hlast h0, rfl⟩
  · rintro (⟨r, hr, ho'⟩ | ⟨rfl, rfl⟩)
    · exact ⟨r, record_append.mpr (Or.inl hr), ho'⟩
    · exact ⟨record, record_append.mpr (Or.inr ⟨rfl, rfl⟩), hnew.mpr ⟨rfl, rfl⟩⟩

/-- A new record keeps the invariant. -/
theorem SmmInv.append (hs : s.SmmInv) {type : CString} {request : DuRequest} {id : UInt32}
    (hid : id ≠ 0) (hfresh : ∀ p o, s.opAt p = some o → o.id ≠ id)
    (initiator commandKey : CString) :
    ({ s with
      records := s.records ++
        [⟨[], initiator, commandKey, [newOperation type request id]⟩] } : Smm).SmmInv := by
  have hop := @opAt_append s (newOperation type request id)
    ⟨[], initiator, commandKey, [newOperation type request id]⟩ rfl
  have hrecord : ∀ (i : ℕ) (r : DuStateChange), (s.records ++
      [⟨[], initiator, commandKey, [newOperation type request id]⟩])[i]? = some r →
      s.records[i]? = some r ∨ r.status = [] ∧ ¬r.Complete := by
    intro i r hr
    rcases record_append.mp hr with hold | ⟨-, rfl⟩
    · exact Or.inl hold
    · refine Or.inr ⟨rfl, fun hcomplete => ?_⟩
      exact absurd (hcomplete.2 _ List.mem_cons_self) (by decide : OpStatus.inProgress.text ≠ _)
  refine ⟨⟨fun q o' ho' => ?_, fun q q' a b ha hb hid' => ?_⟩, fun q o' ho' => ?_,
    fun i r hr hstatus => ?_, fun i r hr hcomplete hnot => ?_, fun q hq => ?_⟩
  · rcases (hop q o').mp ho' with hold | ⟨-, rfl⟩
    · exact hs.identified.nonzero q o' hold
    · exact hid
  · rcases (hop q a).mp ha with ha' | ⟨hq, rfl⟩ <;> rcases (hop q' b).mp hb with hb' | ⟨hq', rfl⟩
    · exact hs.identified.distinct q q' a b ha' hb' hid'
    · exact absurd hid' (hfresh q a ha')
    · exact absurd hid'.symm (hfresh q' b hb')
    · rw [hq, hq']
  · rcases (hop q o').mp ho' with hold | ⟨-, rfl⟩
    · exact hs.operations q o' hold
    · exact Or.inl ⟨rfl, rfl⟩
  · rcases hrecord i r hr with hold | ⟨hnew, -⟩
    · exact hs.complete i r hold hstatus
    · exact absurd (hnew.symm.trans hstatus) (by decide)
  · rcases hrecord i r hr with hold | ⟨-, hnew⟩
    · exact hs.pending i r hold hcomplete hnot
    · exact absurd hcomplete hnew
  · obtain ⟨o', ho'⟩ := hs.events q hq
    exact ⟨o', (hop q o').mpr (Or.inl ho')⟩

/-! ### One event -/

/-- The handler of a change leaves the operations alone. -/
theorem opAt_dsccOpDone (s : Smm) (p q : ℕ × ℕ) : (s.dsccOpDone p).opAt q = s.opAt q := by
  unfold dsccOpDone
  split
  · split
    · rfl
    · split
      · exact opAt_modify_status s p.1 _ q
      · rfl
  · rfl

/-- The handler of a change leaves the other records alone. -/
theorem records_dsccOpDone (s : Smm) {i : ℕ} (hi : i ≠ p.1) :
    (s.dsccOpDone p).records[i]? = s.records[i]? := by
  unfold dsccOpDone
  split
  · split
    · rfl
    · split
      · exact List.getElem?_modify_ne _ _ (Ne.symm hi)
      · rfl
  · rfl

/-- **One event keeps the invariant.** -/
theorem SmmInv.step (hs : s.SmmInv) (hfresh : s.FreshIds e) (h : s.step e = some t) :
    t.SmmInv := by
  rcases e with ⟨initiator, commandKey, operations, answer⟩ | n | -
  · obtain rfl := Option.some.inj h
    rcases s.changeDuState_cases initiator commandKey operations answer with hsame |
      ⟨type, request, id, hanswer, hid, heq⟩
    · rw [hsame]
      exact hs
    · rw [heq]
      exact hs.append hid (hfresh request id hanswer) initiator commandKey
  · obtain rfl := Option.some.inj h
    rcases opHandleResults_cases hs n with ⟨hsame, -⟩ |
      ⟨p, o, result, ho, -, hstatus, hresults, -, heq⟩
    · rw [hsame]
      exact hs
    · rw [heq]
      exact hs.finished result ho hstatus hresults
  · rcases hevents : s.doneEvents with - | ⟨p, rest⟩
    · rw [Smm.step, hevents] at h
      cases h
    · rw [Smm.step, hevents] at h
      obtain rfl := Option.some.inj h
      exact hs.dispatch hevents

/-- An operation after one event that has no result for it. -/
theorem after_of_resultFor_eq_none (h : resultFor o.id e = none) : o.after [e] = o := by
  rw [Operation.after, List.findSome?_singleton, h]
  exact ite_self o

/-- **One event** makes of an operation what the result it has for it makes. -/
theorem opAt_step (hs : s.SmmInv) (h : s.step e = some t) (ho : s.opAt p = some o) :
    t.opAt p = some (o.after [e]) := by
  rcases e with ⟨initiator, commandKey, operations, answer⟩ | n | -
  · obtain rfl := Option.some.inj h
    rw [after_of_resultFor_eq_none rfl]
    rcases s.changeDuState_cases initiator commandKey operations answer with hsame |
      ⟨type, request, id, -, -, heq⟩
    · rw [hsame]
      exact ho
    · rw [heq]
      exact (opAt_append rfl p o).mpr (Or.inl ho)
  · obtain rfl := Option.some.inj h
    rcases opHandleResults_cases hs n with ⟨hsame, hnone⟩ |
      ⟨q, o', result, ho', hid, hstatus, hresults, hresult, heq⟩
    · rw [hsame, ho]
      by_cases hid : o.id = n.operationId
      · rcases hnone p o ho hid with hdone | hstruct
        · rw [Operation.after, if_pos hdone]
        · rw [after_of_resultFor_eq_none]
          rw [resultFor, hstruct]
          exact ite_self _
      · rw [after_of_resultFor_eq_none]
        exact if_neg (Ne.symm hid)
    · rw [heq, opAt_finished]
      by_cases hq : q = p
      · rw [hq, ho] at ho'
        obtain rfl := Option.some.inj ho'
        have hnot : o.status ≠ OpStatus.done.text := by
          rw [hstatus]
          decide
        rw [if_pos hq, ho, Option.map_some, Operation.after, if_neg hnot, List.findSome?_singleton,
          resultFor, if_pos hid.symm, hresult, Operation.finished, hresults]
        rfl
      · rw [if_neg hq, ho, after_of_resultFor_eq_none]
        refine if_neg fun hsame => hq ?_
        exact hs.identified.distinct q p o' o ho' ho (hid.trans hsame)
  · rw [after_of_resultFor_eq_none rfl]
    rcases hevents : s.doneEvents with - | ⟨q, rest⟩
    · rw [Smm.step, hevents] at h
      cases h
    · rw [Smm.step, hevents] at h
      obtain rfl := Option.some.inj h
      rw [opAt_dsccOpDone]
      exact ho

/-- Once the result is there, nothing changes it. -/
theorem after_cons (ho : HasResult o) (es : List Event) :
    (o.after [e]).after es = o.after (e :: es) := by
  rcases ho with ⟨hstatus, -⟩ | ⟨hstatus, -⟩
  · have hnot : o.status ≠ OpStatus.done.text := by
      rw [hstatus]
      decide
    rcases hresult : resultFor o.id e with - | result
    · rw [after_of_resultFor_eq_none hresult, Operation.after, Operation.after,
        List.findSome?_cons, hresult]
    · have hfirst : o.after (e :: es) =
          { o with status := OpStatus.done.text, results := [result.entry] } := by
        rw [Operation.after, if_neg hnot, List.findSome?_cons, hresult]
      have hone : o.after [e] =
          { o with status := OpStatus.done.text, results := [result.entry] } := by
        rw [Operation.after, if_neg hnot, List.findSome?_singleton, hresult]
      rw [hfirst, hone]
      exact if_pos rfl
  · have hstay : ∀ es, o.after es = o := fun es => if_pos hstatus
    rw [hstay, hstay, hstay]

/-! ### The main results -/

theorem SmmInv.of_exec {es : List Event} (hs : s.SmmInv) (h : exec Smm.step s es = some t)
    (hm : Meets Smm.step FreshIds s es) : t.SmmInv :=
  (reaches_of_exec h hm).invariant (fun _ _ _ hs hfresh hstep => hs.step hfresh hstep) hs

/-- **An operation is a function of the events** that have come since a state of the invariant. -/
theorem opAt_of_exec {es : List Event} (hs : s.SmmInv) (h : exec step s es = some t)
    (hm : Meets step FreshIds s es) (ho : s.opAt p = some o) : t.opAt p = some (o.after es) := by
  induction es generalizing s o with
  | nil =>
    obtain rfl := Option.some.inj h
    rw [ho, Operation.after]
    exact congrArg some (ite_self o).symm
  | cons e es ih =>
    obtain ⟨u, hu, hrest⟩ := Option.bind_eq_some_iff.mp h
    rw [← after_cons (hs.operations p o ho)]
    exact ih (hs.step hm.1 hu) hrest (hm.2 u hu) (opAt_step hs hu ho)

/-- **The results are settled** in every run: from any state of it, the operations are what the
notifications since make of them, and the records follow. -/
theorem settled_of_exec {s₀ : Smm} {es₁ es₂ : List Event} (h₀ : s₀.Fresh)
    (h₁ : exec step s₀ es₁ = some s) (hm₁ : Meets step FreshIds s₀ es₁)
    (h₂ : exec step s es₂ = some t) (hm₂ : Meets step FreshIds s es₂) : Settled es₂ s t := by
  have hs := h₀.smmInv.of_exec h₁ hm₁
  have ht := hs.of_exec h₂ hm₂
  refine ⟨fun p o ho => opAt_of_exec hs h₂ hm₂ ho, fun r hr hdone => ?_,
    fun hnone r hr hcomplete => ?_, fun n i r hr hothers => ?_, fun p i hi => ?_⟩
  · obtain ⟨i, hi⟩ := List.mem_iff_getElem?.mp hr
    exact ht.complete i r hi hdone
  · obtain ⟨i, hi⟩ := List.mem_iff_getElem?.mp hr
    by_contra hnot
    obtain ⟨j, hj⟩ := ht.pending i r hi hcomplete hnot
    rw [hnone] at hj
    cases hj
  · rcases opHandleResults_cases ht n with ⟨hsame, -⟩ |
      ⟨p, o, result, ho, hid, -, -, -, heq⟩
    · rw [hsame]
      exact hr
    · rw [heq]
      change (modifyOp t.records p _)[i]? = _
      rw [getElem?_modifyOp, if_neg]
      · exact hr
      · -- the operation is one of another record
        rintro rfl
        obtain ⟨r', hr', hop⟩ := (opAt_eq_some t p).mp ho
        obtain rfl := Option.some.inj (hr.symm.trans hr')
        exact hothers o (List.mem_of_getElem? hop) hid
  · exact records_dsccOpDone t hi

/-- An operation is called for, has its result, and the record is done. -/
theorem settled_installed :
    ∃ s t : Smm, t.records.map (·.status) = ["Done".toList] ∧
      Settled [.notification ⟨7, some ⟨none, none, none, 0, none, true, none, none, none, none⟩⟩,
        .dispatch] s t := by
  have hnone : ∀ p o, opAt ⟨[], []⟩ p ≠ some o := by
    intro p o ho
    obtain ⟨r, hr, -⟩ := (opAt_eq_some _ p).mp ho
    cases hr
  have h₀ : Fresh ⟨[], []⟩ :=
    ⟨⟨fun p o ho => absurd ho (hnone p o), fun p _ o _ ho => absurd ho (hnone p o)⟩,
      fun p o ho => absurd ho (hnone p o), nofun, rfl⟩
  have hcalled : exec step ⟨[], []⟩ [.changeDuState "ACS".toList "k".toList
      [⟨"Install".toList, some [], some [], some [], some [], some [], none⟩] fun _ => some 7] =
      some _ := rfl
  refine ⟨_, _, ?_, settled_of_exec h₀ hcalled
    ⟨fun _ _ _ p o ho => absurd ho (hnone p o), fun _ _ => trivial⟩
    rfl ⟨trivial, fun _ _ => ⟨trivial, fun _ _ => trivial⟩⟩⟩
  decide

/-- Not every notification counts, and not every record is done: one without a result is passed
over, and so is a record without operations. -/
theorem not_settled_without :
    (¬∀ (s t : Smm) (es : List Event), s.Fresh → exec step s es = some t →
      ∀ p o n, s.opAt p = some o → .notification n ∈ es → n.operationId = o.id →
        ∃ o', t.opAt p = some o' ∧ o'.results.length = 1) ∧
    ¬∀ (s t : Smm) (es : List Event), s.Fresh → exec step s es = some t → t.doneEvents = [] →
      ∀ r ∈ t.records, (∀ o ∈ r.operations, o.status = OpStatus.done.text) →
        r.status = OpStatus.done.text := by
  constructor
  · intro h
    let operation : Operation :=
      ⟨"Install".toList, OpStatus.inProgress.text, 7, [], [], [], [], [], [], []⟩
    let s : Smm := ⟨[⟨[], "ACS".toList, "k".toList, [operation]⟩], []⟩
    have hone : ∀ p o, s.opAt p = some o → p = (0, 0) ∧ o = operation := by
      intro p o ho
      rcases (@opAt_append ⟨[], []⟩ operation _ rfl p o).mp ho with hold | hnew
      · obtain ⟨r, hr, -⟩ := (opAt_eq_some _ p).mp hold
        cases hr
      · exact hnew
    have hfresh : s.Fresh := by
      refine ⟨⟨fun p o ho => ?_, fun p q o o' ho ho' _ => ?_⟩, fun p o ho => ?_, fun r hr => ?_,
        rfl⟩
      · rw [(hone p o ho).2]
        decide
      · rw [(hone p o ho).1, (hone q o' ho').1]
      · rw [(hone p o ho).2]
        exact ⟨rfl, rfl⟩
      · obtain rfl := List.mem_singleton.mp hr
        decide
    obtain ⟨o', ho', hlength⟩ := h s s [.notification ⟨7, none⟩] hfresh rfl (0, 0) operation
      ⟨7, none⟩ rfl List.mem_cons_self rfl
    rw [(hone _ o' ho').2] at hlength
    cases hlength
  · intro h
    have hfresh : Fresh ⟨[⟨[], "ACS".toList, "k".toList, []⟩], []⟩ := by
      have hnone : ∀ p o, opAt ⟨[⟨[], "ACS".toList, "k".toList, []⟩], []⟩ p ≠ some o := by
        intro p o ho
        obtain ⟨r, hr, hop⟩ := (opAt_eq_some _ p).mp ho
        obtain rfl := List.mem_singleton.mp (List.mem_of_getElem? hr)
        cases hop
      refine ⟨⟨fun p o ho => absurd ho (hnone p o), fun p _ o _ ho => absurd ho (hnone p o)⟩,
        fun p o ho => absurd ho (hnone p o), fun r hr => ?_, rfl⟩
      obtain rfl := List.mem_singleton.mp hr
      decide
    have hdone := h _ _ [] hfresh rfl rfl _ List.mem_cons_self nofun
    exact absurd hdone (by decide)

end Smm

end Tr069
