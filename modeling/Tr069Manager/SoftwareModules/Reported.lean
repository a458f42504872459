import Tr069Manager.SoftwareModules.Requests

/-!
# From the request for a change of software modules to its report

The records of `smm.c`, and `DM_AmxChangeDUState.c`, which reads them over the bus and hands the
finished ones to the engine: a plugin that keeps results (`Tr069.duPlugin`) with the daemon that
reports them. A result that the ACS has acknowledged is deleted by the daemon
(`DM_ENG_Device_DUStateChangeCompleteAcknowledged`); its record is kept here on the side of the
plugin, where it is `Done` and nothing finds it any more.

The request of the ACS comes back: once, with its CommandKey and with the first result of its
operation (`Tr069.changeDuState_reported`).
-/

namespace Tr069

open Runs

/-! ### What the daemon sees of the records -/

section Bus

variable (time : Option Timestamp → ℤ)

/-- A result as it is read over the bus. -/
def OperationResult.opResult (r : OperationResult) : OpResult where
  uuid := String.ofList r.uuid
  deploymentUnitRef := String.ofList r.deploymentUnitRef
  version := String.ofList r.version
  currentState := String.ofList r.currentState
  resolved := r.resolved
  executionUnitRefList := String.ofList r.executionUnitRefList
  startTime := time r.startTime
  completeTime := time r.completeTime
  faultCode := r.faultCode.toNat
  faultString := String.ofList r.faultString

/-- The results of a record, which the search path `Operations.*.Results.*.` selects. -/
def DuStateChange.opResults (r : DuStateChange) : List OpResult :=
  r.operations.flatMap fun o => o.results.map (OperationResult.opResult time)

/-- A record as it is read over the bus. -/
def DuStateChange.record (r : DuStateChange) : Record :=
  .duStateChangeComplete ⟨String.ofList r.status, String.ofList r.initiator,
    String.ofList r.commandKey, r.opResults time⟩

/-- What is told of the operations of a record: those whose Status is another one now. -/
def changedOperations : Option DuStateChange → Option DuStateChange → List (ℕ × String)
  | some old, some new => new.operations.zipIdx.filterMap fun o =>
    if (old.operations[o.2]?).all (fun o' => o'.status = o.1.status) then none
    else some (o.2 + 1, String.ofList o.1.status)
  | _, _ => []

/-- **The plugin, as the daemon sees it**: the record at a position has the next number. -/
def duPlugin : ResultPlugin Smm Smm.Event where
  step := Smm.step
  kind := .duStateChangeComplete
  last s := s.records.length
  record s
    | 0 => none
    | i + 1 => s.records[i]?.map (DuStateChange.record time)
  below s t
    | 0 => []
    | i + 1 => changedOperations s.records[i]? t.records[i]?
  keeps := true

end Bus

/-- One step of the plugin and the daemon. -/
def duStep (time : Option Timestamp → ℤ) (amxcTcToTimeUtc : ℤ → ℤ) :
    Smm × Reporter → Smm.Event ⊕ ReportEvent → Option (Smm × Reporter) :=
  (duPlugin time).systemStep amxcTcToTimeUtc

/-- **The condition on the steps**: the manager gives no identifier twice, and no record of the ACS
becomes `Done` between the read of the daemon and its subscription. -/
def DuOrdered (time : Option Timestamp → ℤ) : Smm × Reporter → Smm.Event ⊕ ReportEvent → Prop :=
  (duPlugin time).Ordered Smm.FreshIds

/-- No record, and the daemon about to start. -/
def duInit : Smm × Reporter := (⟨[], []⟩, Reporter.init)

/-! ### Texts -/

/-- The texts of the bus are those of the plugin. -/
theorem ofList_eq_ofList {a b : CString} : String.ofList a = String.ofList b ↔ a = b :=
  ⟨fun h => by simpa using congrArg String.toList h, congrArg String.ofList⟩

section Records

variable {time : Option Timestamp → ℤ} {r : DuStateChange}

theorem status_record : (r.record time).status = "Done" ↔ r.status = OpStatus.done.text :=
  ofList_eq_ofList (b := "Done".toList)

theorem initiator_record : (r.record time).initiator = "ACS" ↔ r.initiator = acsInitiator :=
  ofList_eq_ofList (b := "ACS".toList)

theorem due_record : (r.record time).Due ↔
    r.initiator = acsInitiator ∧ r.status = OpStatus.done.text :=
  and_congr initiator_record status_record

end Records

/-! ### What a step of the plugin does to the records -/

/-- A place of a list that is set to what it has is left as it is. -/
theorem modify_eq_self {α : Type*} {l : List α} {i : ℕ} {g : α → α} {a : α} (ha : l[i]? = some a)
    (hg : g a = a) : l.modify i g = l := by
  refine List.ext_getElem? fun j => ?_
  rw [List.getElem?_modify]
  rcases hj : l[j]? with - | b
  · rfl
  · show some (if i = j then g b else b) = some b
    split
    · next hij =>
      rw [← hij, ha] at hj
      obtain rfl := Option.some.inj hj
      exact congrArg some hg
    · rfl

/-- What is never another: who has asked for a record, its CommandKey, and how many operations it
has. -/
def DuStateChange.SameRequest (r r' : DuStateChange) : Prop :=
  r.initiator = r'.initiator ∧ r.commandKey = r'.commandKey ∧
    r.operations.length = r'.operations.length

/-- **A step of the plugin** leaves the records as they are, adds one that is not `Done`, or changes
one that is not `Done`, without its request. -/
theorem Smm.step_records {s t : Smm} {e : Smm.Event} (hs : s.SmmInv) (h : s.step e = some t) :
    t.records = s.records ∨
      (∃ initiator key o, t.records = s.records ++ [⟨[], initiator, key, [o]⟩]) ∨
      ∃ i old g, s.records[i]? = some old ∧ old.status ≠ OpStatus.done.text ∧
        (g old).SameRequest old ∧ t.records = s.records.modify i g := by
  rcases e with ⟨initiator, key, operations, answer⟩ | n | -
  · obtain rfl := Option.some.inj h
    rcases s.changeDuState_cases initiator key operations answer with hsame |
      ⟨type, request, id, -, -, heq⟩
    · exact Or.inl (congrArg Smm.records hsame)
    · exact Or.inr (Or.inl ⟨initiator, key, _, congrArg Smm.records heq⟩)
  · obtain rfl := Option.some.inj h
    rcases Smm.opHandleResults_cases hs n with ⟨hsame, -⟩ |
      ⟨p, o, result, ho, -, hstatus, -, -, heq⟩
    · exact Or.inl (congrArg Smm.records hsame)
    · obtain ⟨old, hold, hop⟩ := (Smm.opAt_eq_some s p).mp ho
      refine Or.inr (Or.inr ⟨p.1, old, _, hold, fun hdone => ?_,
        ⟨rfl, rfl, List.length_modify ..⟩, congrArg Smm.records heq⟩)
      -- a `Done` record has no operation in progress
      have hopdone := (hs.complete p.1 old hold hdone).2 o (List.mem_of_getElem? hop)
      exact absurd (hstatus.symm.trans hopdone) (by decide)
  · rcases hevents : s.doneEvents with - | ⟨p, rest⟩
    · rw [Smm.step, hevents] at h
      cases h
    · rw [Smm.step, hevents] at h
      obtain rfl := Option.some.inj h
      obtain ⟨o, ho⟩ := hs.events p (by rw [hevents]; exact List.mem_cons_self)
      obtain ⟨old, hold, -⟩ := (Smm.opAt_eq_some s p).mp ho
      obtain ⟨hdone, hstays⟩ :=
        @Smm.dsccOpDone_eq { s with doneEvents := rest } p o ho old hold
      by_cases hcomplete : old.Complete
      · rw [hdone hcomplete]
        by_cases hstatus : old.status = OpStatus.done.text
        · exact Or.inl (modify_eq_self hold (by rw [← hstatus]))
        · exact Or.inr (Or.inr ⟨p.1, old, _, hold, hstatus, ⟨rfl, rfl, rfl⟩, rfl⟩)
      · rw [hstays hcomplete]
        exact Or.inl rfl

/-- A record that is `Done` stays as it is. -/
theorem Smm.record_of_done {s t : Smm} {e : Smm.Event} {i : ℕ} {r : DuStateChange}
    (hs : s.SmmInv) (h : s.step e = some t) (hr : s.records[i]? = some r)
    (hdone : r.status = OpStatus.done.text) : t.records[i]? = some r := by
  rcases Smm.step_records hs h with hsame | ⟨initiator, key, o, hadd⟩ | 
    ⟨j, old, g, hold, hnot, -, hmod⟩
  · rw [hsame]
    exact hr
  · rw [hadd]
    exact Smm.record_append.mpr (Or.inl hr)
  · have hne : j ≠ i := by
      rintro rfl
      obtain rfl := Option.some.inj (hold.symm.trans hr)
      exact hnot hdone
    rw [hmod, List.getElem?_modify_ne _ _ hne]
    exact hr

/-- A record stays where it is, with its request. -/
theorem Smm.record_of_step {s t : Smm} {e : Smm.Event} {i : ℕ} {r : DuStateChange}
    (hs : s.SmmInv) (h : s.step e = some t) (hr : s.records[i]? = some r) :
    ∃ r', t.records[i]? = some r' ∧ r'.SameRequest r := by
  rcases Smm.step_records hs h with hsame | ⟨initiator, key, o, hadd⟩ |
    ⟨j, old, g, hold, -, hrequest, hmod⟩
  · exact ⟨r, by rw [hsame, hr], rfl, rfl, rfl⟩
  · exact ⟨r, by rw [hadd]; exact Smm.record_append.mpr (Or.inl hr), rfl, rfl, rfl⟩
  · by_cases hj : j = i
    · subst hj
      obtain rfl := Option.some.inj (hold.symm.trans hr)
      refine ⟨g old, ?_, hrequest⟩
      rw [hmod, List.getElem?_modify_eq, hold]
      rfl
    · refine ⟨r, ?_, rfl, rfl, rfl⟩
      rw [hmod, List.getElem?_modify_ne _ _ hj, hr]

theorem Smm.record_of_exec {s t : Smm} {es : List Smm.Event} {i : ℕ} {r : DuStateChange}
    (hs : s.SmmInv) (h : exec Smm.step s es = some t) (hm : Meets Smm.step Smm.FreshIds s es)
    (hr : s.records[i]? = some r) : ∃ r', t.records[i]? = some r' ∧ r'.SameRequest r := by
  induction es generalizing s r with
  | nil =>
    obtain rfl := Option.some.inj h
    exact ⟨r, hr, rfl, rfl, rfl⟩
  | cons e es ih =>
    obtain ⟨u, hu, hrest⟩ := Option.bind_eq_some_iff.mp h
    obtain ⟨r', hr', hfrom, hkey, hlength⟩ := Smm.record_of_step hs hu hr
    obtain ⟨r'', hr'', hfrom', hkey', hlength'⟩ :=
      ih (hs.step hm.1 hu) hrest (hm.2 u hu) hr'
    exact ⟨r'', hr'', hfrom'.trans hfrom, hkey'.trans hkey, hlength'.trans hlength⟩

/-! ### The plugin keeps to what the daemon relies on -/

section Lawful

variable {time : Option Timestamp → ℤ} {amxcTcToTimeUtc : ℤ → ℤ}

theorem duPlugin_record {s : Smm} {n : ℕ} {x : Record} (h : (duPlugin time).record s n = some x) :
    ∃ i r, n = i + 1 ∧ s.records[i]? = some r ∧ x = r.record time := by
  rcases n with - | i
  · cases h
  · obtain ⟨r, hr, rfl⟩ := Option.map_eq_some_iff.mp h
    exact ⟨i, r, rfl, hr, rfl⟩

theorem changedOperations_self (r : DuStateChange) : changedOperations (some r) (some r) = [] := by
  refine List.eq_nil_iff_forall_not_mem.mpr fun b hb => ?_
  obtain ⟨⟨o, j⟩, ho, hchanged⟩ := List.mem_filterMap.mp hb
  obtain ⟨k, hk⟩ := List.mem_iff_getElem?.mp ho
  rw [List.getElem?_zipIdx] at hk
  obtain ⟨o', ho', heq⟩ := Option.map_eq_some_iff.mp hk
  obtain ⟨rfl, rfl⟩ := Prod.mk.inj heq
  have hsame : r.operations[0 + k]? = some o' := by rw [Nat.zero_add, ho']
  simp only [hsame, Option.all_some, decide_true, if_true] at hchanged
  cases hchanged

theorem duPlugin_lawful : (duPlugin time).Lawful Smm.FreshIds Smm.SmmInv where
  kind _ hr := by
    obtain ⟨i, r, -, -, rfl⟩ := duPlugin_record hr
    rfl
  bounded _ hr := by
    obtain ⟨i, r, rfl, hi, -⟩ := duPlugin_record hr
    obtain ⟨hlt, -⟩ := List.getElem?_eq_some_iff.mp hi
    exact ⟨Nat.succ_pos i, hlt⟩
  inv hs hG h := hs.step hG h
  last {s e t} hs _ h := by
    show s.records.length ≤ t.records.length
    rcases Smm.step_records hs h with hsame | ⟨_, _, _, hadd⟩ | ⟨_, _, _, -, -, -, hmod⟩
    · exact (congrArg List.length hsame).ge
    · rw [hadd, List.length_append]
      exact Nat.le_add_right _ _
    · rw [hmod, List.length_modify]
  added {s e t n x} hs _ h hnone hx := by
    obtain ⟨i, r, rfl, hr, rfl⟩ := duPlugin_record hx
    have hnone : s.records[i]? = none := Option.map_eq_none_iff.mp hnone
    have hlast : s.records.length ≤ i := List.getElem?_eq_none_iff.mp hnone
    refine ⟨Nat.lt_succ_of_le hlast, fun hdone => ?_⟩
    rcases Smm.step_records hs h with hsame | ⟨_, _, _, hadd⟩ | ⟨_, _, _, -, -, -, hmod⟩
    · rw [hsame, hnone] at hr
      cases hr
    · rw [hadd] at hr
      rcases Smm.record_append.mp hr with hr | ⟨-, rfl⟩
      · rw [hnone] at hr
        cases hr
      · exact absurd (status_record.mp hdone) (show ([] : CString) ≠ OpStatus.done.text by decide)
    · obtain ⟨hlt, -⟩ := List.getElem?_eq_some_iff.mp hr
      rw [hmod, List.length_modify] at hlt
      omega
  final {s e t n x} hs _ h hx hdone := by
    obtain ⟨i, r, rfl, hr, rfl⟩ := duPlugin_record hx
    have hsame := Smm.record_of_done hs h hr (status_record.mp hdone)
    exact Or.inl (congrArg (Option.map (DuStateChange.record time)) hsame)
  removed {s e t n x} hs _ h hx hnone := by
    obtain ⟨i, r, rfl, hr, -⟩ := duPlugin_record hx
    obtain ⟨r', hr', -⟩ := Smm.record_of_step hs h hr
    rw [Option.map_eq_none_iff.mp hnone] at hr'
    cases hr'
  below {s e t n b} hs _ h hb := by
    refine ⟨nofun, fun _ x hx hdone => ?_⟩
    obtain ⟨i, r, rfl, hr, rfl⟩ := duPlugin_record hx
    have hsame := Smm.record_of_done hs h hr (status_record.mp hdone)
    have hb : b ∈ changedOperations s.records[i]? t.records[i]? := hb
    rw [hr, hsame, changedOperations_self] at hb
    cases hb

theorem smmInv_empty : Smm.SmmInv ⟨[], []⟩ := by
  have hnone : ∀ p o, Smm.opAt ⟨[], []⟩ p ≠ some o := by
    intro p o ho
    obtain ⟨r, hr, -⟩ := (Smm.opAt_eq_some _ p).mp ho
    cases hr
  refine ⟨⟨fun p o ho => absurd ho (hnone p o), fun p _ o _ ho => absurd ho (hnone p o)⟩,
    fun p o ho => absurd ho (hnone p o), fun i r hr => ?_, fun i r hr => ?_, fun p hp => ?_⟩
  · cases hr
  · cases hr
  · cases hp

theorem duPlugin_record_empty (n : ℕ) : (duPlugin time).record ⟨[], []⟩ n = none := by
  rcases n with - | i <;> rfl

/-! ### The main results -/

/-- A test for `DuOrdered`, for runs with one call. -/
def duOrdered (s : Smm × Reporter) : Smm.Event ⊕ ReportEvent → Bool
  | .inl (.changeDuState ..) => s.1.records.isEmpty && s.2.phase .duStateChangeComplete != .reading
  | .inl _ => s.2.phase .duStateChangeComplete != .reading
  | .inr _ => true

theorem duOrdered_sound (s : Smm × Reporter) (e : Smm.Event ⊕ ReportEvent)
    (h : duOrdered s e = true) : DuOrdered time s e := by
  rcases e with e | d
  · have hgap (hphase : s.2.phase .duStateChangeComplete ≠ .reading) (t : Smm)
        (_ : s.1.step e = some t) (n : ℕ) (x : Record)
        (_ : (duPlugin time).record t n = some x) (_ : x.Due)
        (hreading : s.2.phase .duStateChangeComplete = .reading) :
        (duPlugin time).record s.1 n = some x :=
      absurd hreading hphase
    cases e with
    | changeDuState initiator key operations answer =>
      obtain ⟨hnone, hphase⟩ := (Bool.and_eq_true _ _).mp h
      refine ⟨fun request id _ p o ho => ?_, hgap (bne_iff_ne.mp hphase)⟩
      obtain ⟨r, hr, -⟩ := (Smm.opAt_eq_some _ p).mp ho
      rw [List.isEmpty_iff.mp hnone] at hr
      cases hr
    | notification | dispatch => exact ⟨trivial, hgap (bne_iff_ne.mp h)⟩
  · trivial

/-- The ACS asks for an installation. -/
def installAsked : OperationStruct :=
  .install (some "http://a/".toList) (some "u".toList) (some []) (some []) (some "E".toList)

/-- The entry that is written for it. -/
def installArg : OperationArg :=
  ⟨"Install".toList, some "http://a/".toList, some "u".toList, some [], some [],
    some "E".toList, none⟩

/-- Its call. -/
def installCall : Smm.Event ⊕ ReportEvent :=
  .inl (.changeDuState acsInitiator "k".toList [installArg] fun _ => some 7)

/-- It is run while the daemon starts, and its result comes. -/
def installed : List (Smm.Event ⊕ ReportEvent) :=
  [.inr (.read .duStateChangeComplete []), .inr (.subscribe .duStateChangeComplete),
    .inl (.notification ⟨7, some ⟨some "Installed".toList, none, none, 0, none, true, none, none,
      some "u".toList, none⟩⟩),
    .inl .dispatch, .inr .notification, .inr .notification]

/-- No time is set. -/
def noTime (_ : Option Timestamp) : ℤ := 0

/-- What has come of a request, whose record has a number and whose operation the notifications
have made what it is. -/
structure DuReported (time : Option Timestamp → ℤ) (amxcTcToTimeUtc : ℤ → ℤ) (t : Smm × Reporter)
    (i : ℕ) (key : CString) (operation : Operation) : Prop where
  record : ∃ r, t.1.records[i]? = some r ∧ r.initiator = acsInitiator ∧ r.commandKey = key ∧
    r.operations = [operation] ∧
    (r.status = OpStatus.done.text → operation.status = OpStatus.done.text) ∧
    (operation.status = OpStatus.done.text → t.1.doneEvents = [] →
      r.status = OpStatus.done.text)
  once : t.2.handed ((duPlugin time).path (i + 1)) ≤ 1
  content : ∀ x ∈ t.2.reported, x.path = (duPlugin time).path (i + 1) →
    operation.status = OpStatus.done.text ∧
    x = .sendDUStateChangeComplete (operation.results.map (·.opResult time)) (String.ofList key)
      ((duPlugin time).path (i + 1))
  comes : ∀ r, t.1.records[i]? = some r → r.status = OpStatus.done.text →
    (t.2.dm ((duPlugin time).path (i + 1))).isSome →
    ∃ v, Reaches (Reporter.step amxcTcToTimeUtc) Reporter.NoneMissed t.2 v ∧ v.dm = t.2.dm ∧
      v.handed ((duPlugin time).path (i + 1)) = 1

/-- **A request for a change of software modules comes back.** If the daemon has told the ACS that
it is accepted, then after any run there is the record of it, with the CommandKey and the one
operation, which has the first result that has come for it; the record is `Done` when the operation
is, once the changes are handled; it is reported at most once to each run of the daemon, only if it
is `Done`, and the report says the CommandKey and that result; and as long as the ACS has not
acknowledged it, the daemon gets to report it. -/
theorem changeDuState_reported {s t : Smm × Reporter} {bus : CallAnswers} {o : OperationStruct}
    {a : OperationArg} {key : CString} {answer : DuRequest → Option UInt32}
    {es : List (Smm.Event ⊕ ReportEvent)}
    (hs : Reaches (duStep time amxcTcToTimeUtc) (DuOrdered time) duInit s) (harg : o.arg = some a)
    (haccepted : (s.1.doChangeDuState bus (some o) (some key) answer).1 = 0)
    (hrun : exec (duStep time amxcTcToTimeUtc) s
      (.inl (.changeDuState acsInitiator key [a] answer) :: es) = some t)
    (hordered : Meets (duStep time amxcTcToTimeUtc) (DuOrdered time) s
      (.inl (.changeDuState acsInitiator key [a] answer) :: es)) :
    ∃ request id, o.request = some request ∧ answer request = some id ∧
      DuReported time amxcTcToTimeUtc t s.1.records.length key
        ((newOperation o.type request id).after (Feed.ofProducer es)) := by
  obtain ⟨-, o', request, id, -, ho, -, -, hrequest, hanswer, hid, -⟩ :=
    Smm.doChangeDuState_accepts_iff.mp (Prod.ext haccepted rfl)
  obtain rfl := Option.some.inj ho
  refine ⟨request, id, hrequest, hanswer, ?_⟩
  obtain ⟨u, hu, hrest⟩ := Option.bind_eq_some_iff.mp hrun
  have hmeets := hordered.2 u hu
  -- what the call has made
  have hadded : u.1 = { s.1 with records := s.1.records ++
      [⟨[], acsInitiator, key, [newOperation o.type request id]⟩] } := by
    have hstep := ResultPlugin.systemStep_plugin (P := duPlugin time) hu
    have hok : opRequest a = some request := by
      rw [← hrequest, ← o.opRequest_arg, harg, Option.bind_some]
    obtain heq := Option.some.inj hstep
    rw [← heq, Smm.changeDuState_of_ok hok hanswer hid, OperationStruct.type_arg harg]
  have hreachu : Reaches (duStep time amxcTcToTimeUtc) (DuOrdered time) duInit u :=
    hs.tail ⟨_, hordered.1, hu⟩
  have hreach := hreachu.trans (reaches_of_exec hrest hmeets)
  obtain ⟨hagreeu, -, -⟩ :=
    ResultPlugin.system_agrees duPlugin_lawful smmInv_empty duPlugin_record_empty hreachu
  obtain ⟨hagree, hdaemon, -⟩ :=
    ResultPlugin.system_agrees duPlugin_lawful smmInv_empty duPlugin_record_empty hreach
  obtain ⟨hplugin, hfresh⟩ := ResultPlugin.exec_plugin (P := duPlugin time) hrest hmeets
  -- the record and its operation, then and now
  have hrecordu : u.1.records[s.1.records.length]? =
      some ⟨[], acsInitiator, key, [newOperation o.type request id]⟩ := by
    rw [hadded]
    exact Smm.record_append.mpr (Or.inr ⟨rfl, rfl⟩)
  have hopu : u.1.opAt (s.1.records.length, 0) = some (newOperation o.type request id) :=
    (Smm.opAt_eq_some _ _).mpr ⟨_, hrecordu, rfl⟩
  have hop := Smm.opAt_of_exec hagreeu.plugin hplugin hfresh hopu
  obtain ⟨r, hr, hinitiator, hkey, hlength⟩ :=
    Smm.record_of_exec hagreeu.plugin hplugin hfresh hrecordu
  have hops : r.operations = [(newOperation o.type request id).after (Feed.ofProducer es)] := by
    obtain ⟨r', hr', hget⟩ := (Smm.opAt_eq_some _ _).mp hop
    obtain rfl := Option.some.inj (hr.symm.trans hr')
    obtain ⟨x, hx⟩ := List.length_eq_one_iff.mp hlength
    rw [hx] at hget ⊢
    exact congrArg (fun y => [y]) (Option.some.inj hget)
  have hsmm : t.1.SmmInv := hagree.plugin
  have hdone : r.status = OpStatus.done.text →
      ((newOperation o.type request id).after (Feed.ofProducer es)).status =
        OpStatus.done.text := fun hstatus =>
    (hsmm.complete _ r hr hstatus).2 _ (by rw [hops]; exact List.mem_cons_self)
  have hwhat : ∀ p, (r.record time).report amxcTcToTimeUtc p =
      .sendDUStateChangeComplete
        (((newOperation o.type request id).after (Feed.ofProducer es)).results.map
          (·.opResult time)) (String.ofList key) p := by
    intro p
    show Report.sendDUStateChangeComplete (r.opResults time) (String.ofList r.commandKey) p = _
    rw [DuStateChange.opResults, hops, hkey, List.flatMap_singleton]
  have hrecord : (duPlugin time).record t.1 (s.1.records.length + 1) = some (r.record time) :=
    congrArg (Option.map (DuStateChange.record time)) hr
  have hhanded := hagree.handedOnce hdaemon hrecord
  refine ⟨⟨r, hr, hinitiator, hkey, hops, hdone, fun hopdone hevents => ?_⟩, hhanded.once,
    fun x hx hpath => ?_, fun r' hr' hstatus hsome => ?_⟩
  · by_contra hnot
    have hcomplete : r.Complete := by
      refine ⟨by rw [hops]; exact List.cons_ne_nil _ _, fun y hy => ?_⟩
      rw [hops] at hy
      exact List.mem_singleton.mp hy ▸ hopdone
    obtain ⟨j, hj⟩ := hsmm.pending _ r hr hcomplete hnot
    rw [hevents] at hj
    cases hj
  · obtain ⟨hdue, hsaid⟩ := hhanded.content x hx hpath
    exact ⟨hdone (due_record.mp hdue).2, hsaid.trans (hwhat _)⟩
  · obtain rfl := Option.some.inj (hr.symm.trans hr')
    exact hhanded.comes (due_record.mpr ⟨hinitiator, hstatus⟩) hsome

theorem changeDuState_reported_installed :
    ∃ t request number, exec (duStep noTime id) duInit (installCall :: installed) = some t ∧
      t.2.reported.length = 1 ∧ installAsked.request = some request ∧
      DuReported noTime id t 0 "k".toList
        ((newOperation "Install".toList request number).after (Feed.ofProducer installed)) := by
  have hrun : (exec (duStep noTime id) duInit (installCall :: installed)).map
      (fun s => s.2.reported.length) = some 1 := by
    decide
  obtain ⟨t, ht, hlength⟩ := Option.map_eq_some_iff.mp hrun
  have hmeets : Meets (duStep noTime id) (DuOrdered noTime) duInit (installCall :: installed) :=
    meets_of_checks duOrdered_sound (by decide)
  have haccepted : (Smm.doChangeDuState duInit.1 ⟨true, true⟩ (some installAsked)
      (some "k".toList) fun _ => some 7).1 = 0 := by
    decide
  obtain ⟨request, number, hrequest, -, hreported⟩ := changeDuState_reported
    Relation.ReflTransGen.refl (o := installAsked) rfl haccepted ht hmeets
  exact ⟨t, request, number, ht, hlength, hrequest, hreported⟩

end Lawful

end Tr069
