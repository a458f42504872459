import Tr069Manager.Parameters.AnsweredNames
import Tr069Manager.Parameters.InstanceMode
import Tr069Manager.Parameters.SortedValues
import Tr069Manager.Subscriptions.OwnWrites

/-!
# What is set is what is read

The ACS sets parameters by lists, which the code cuts into groups of one object and sends to the bus
group by group, and reads them by paths, for which the code asks the bus once and makes a sorted list
of the answer. In between, the bus may refuse groups, requests may fail to pass the validation,
sessions are opened, and the device changes its values.

Seen from the ACS, none of this is more than a register for each parameter (`register`): it has the
value that was in the last group the bus took, or that the device has given it since. After every
run, each of the three implementations of `GetParameterValues` answers with exactly that, for the
parameters a request can show (`values_of_run`) – what a refused group would have written is not
there, though the request may have been answered as a success.
-/

namespace Tr069.Parameters

open Runs

variable {C : Type*}

/-! ### Registers -/

/-- The value a parameter is given by the groups of a list that the bus takes. -/
def lastTaken (env : SetEnv) (list : List ParameterValueStruct) (answers : ℕ → BusAnswer)
    (path : CString) : Option CString :=
  ((appliedEntries answers (objectGroups list)).reverse.find? fun q =>
    env.resolve q.parameterName = path).map ParameterValueStruct.value

/-- What an event leaves in the register of a parameter. -/
def register (path value : CString) : ValueEvent → CString
  | .setParameterValues env answers list _ =>
    if PassesValidation env list then (lastTaken env list answers path).getD value else value
  | .openSession _ => value
  | .deviceChanges values => values path

/-- What a run leaves in it. -/
def registerAfter (path : CString) (es : List ValueEvent) (value : CString) : CString :=
  es.foldl (register path) value

section Run

variable {ops : AttributesCache C} {env : SessionEnv} {s t : ValueStore C} {e : ValueEvent}
  {es : List ValueEvent} {path : CString}

/-- **One event** is one of the registers. -/
theorem values_of_step (h : s.step ops env e = some t) :
    t.world.values path = register path (s.world.values path) e := by
  cases e with
  | setParameterValues setEnv answers list status =>
    obtain ⟨r, hr, rfl⟩ := Option.map_eq_some_iff.mp h
    rw [register]
    by_cases hvalid : PassesValidation setEnv list
    · obtain ⟨faults, hresult⟩ := setParameterValues_of_passes ops answers status s.world hvalid
      obtain rfl := Option.some.inj (hresult.symm.trans hr)
      rw [if_pos hvalid, lastTaken]
      show (applied setEnv ops answers s.world faults (objectGroups list)).world.values path = _
      rw [values_applied fun _ hg => hg]
      exact foldl_update_apply _ _ _ _ _
    · obtain ⟨error, faults, hresult, -⟩ :=
        setParameterValues_of_not_passes ops answers status s.world hvalid
      obtain rfl := Option.some.inj (hresult.symm.trans hr)
      rw [if_neg hvalid]
  | openSession bus =>
    obtain rfl := Option.some.inj h
    rw [register, ValueStore.openSession]
    split
    · rfl
    · split <;> rfl
  | deviceChanges values =>
    obtain rfl := Option.some.inj h
    rfl

/-- **A run** is one of the registers. -/
theorem values_after_run (h : exec (ValueStore.step ops env) s es = some t) :
    t.world.values path = registerAfter path es (s.world.values path) := by
  induction es generalizing s with
  | nil =>
    obtain rfl := Option.some.inj h
    rfl
  | cons e es ih =>
    obtain ⟨u, hu, hrest⟩ := Option.bind_eq_some_iff.mp h
    rw [ih hrest, values_of_step hu]
    rfl

end Run

/-! ### The device -/

/-- The path of a parameter, as a text. -/
def parameterText (o : List Component) (n : String) : CString :=
  pathText false (DmPath.mk o (some n)).parts

/-- The values of the device are those of the store. -/
def Device.Holds (d : Device) (values : CString → CString) : Prop :=
  ∀ o n v, d.objects.value o n = some v → v.text.toList = values (parameterText o n)

/-- An answer has, for the parameters a request can show, what is in the registers. -/
def AnswersWith (env : ReadEnv) (d : Device) (has : List Component → Bool) (path : DmPath)
    (depth : ℤ) (held : CString → CString) (entry : DmPath → String → Prop) : Prop :=
  ∀ k x, entry k x ↔ ∃ o n, (d.objects.value o n).isSome = true ∧
    MayShowValue env has path depth o n ∧ k = returnedName env d path ⟨o, some n⟩ ∧
      x.toList = held (parameterText o n)

/-- What shows the values of a device answers with what the device holds. -/
theorem ShowsValues.answersWith {env : ReadEnv} {d : Device} {has : List Component → Bool}
    {path : DmPath} {depth : ℤ} {entry : Device → DmPath → String → Prop}
    {held : CString → CString} (hshows : ShowsValues env has path depth entry)
    (hd : d.Holds held) : AnswersWith env d has path depth held (entry d) := by
  intro k x
  rw [hshows d k x]
  constructor
  · rintro ⟨o, n, v, hv, hmay, hk, rfl⟩
    exact ⟨o, n, hv ▸ rfl, hmay, hk, hd o n v hv⟩
  · rintro ⟨o, n, hsome, hmay, hk, hx⟩
    obtain ⟨v, hv⟩ := Option.isSome_iff_exists.mp hsome
    exact ⟨o, n, v, hv, hmay, hk, String.toList_inj.mp (hx.trans (hd o n v hv).symm)⟩

/-! ### The main result -/

/-- **What is set is what is read.** After every run of `SetParameterValues` requests, whatever the
bus takes of them, openings of sessions and changes of the device, each implementation of
`GetParameterValues` answers an allowed request with the parameters it can show and, for each of
them, the value in its register. -/
theorem values_of_run {ops : AttributesCache C} {sessionEnv : SessionEnv} {w : SetWorld C}
    {external : Option CString} {es : List ValueEvent} {s : ValueStore C} {env : ReadEnv}
    {d : Device} {path : DmPath}
    (hrun : exec (ValueStore.step ops sessionEnv) ⟨w, external⟩ es = some s)
    (hd : d.Holds s.world.values) (hallowed : env.amxaIsGetAllowed (requestPath path) = true) :
    AnswersWith env d (fun _ => true) (requestPath path) (getValuesDepth (requestPath path))
        (fun p => registerAfter p es (w.values p))
        (InList (fun d => getParameterValuesPrpl env d path) d) ∧
      AnswersWith env d (fun _ => true) (requestPath path) (getValuesDepth (requestPath path))
        (fun p => registerAfter p es (w.values p))
        (InList (fun d => getParameterValues env d path) d) ∧
      AnswersWith env d (hasGsdmInfo env) (requestPath path)
        (requestDepth (requestPath path) false) (fun p => registerAfter p es (w.values p))
        (InGetValues env path d) := by
  have hheld : d.Holds fun p => registerAfter p es (w.values p) := fun o n v hv =>
    (hd o n v hv).trans (values_after_run hrun)
  exact ⟨(showsValues_getParameterValuesPrpl hallowed).answersWith hheld,
    (showsValues_getParameterValues hallowed).answersWith hheld,
    (showsValues_getValues hallowed).answersWith hheld⟩

/-- `Device.Time.Enable`. -/
def timeEnable : DmPath := ⟨[.name "Device", .name "Time"], some "Enable"⟩

theorem timeEnable_concrete : ∀ c ∈ timeEnable.object, c.IsConcrete := by
  intro c hc
  simp only [timeEnable, List.mem_cons, List.not_mem_nil, or_false] at hc
  rcases hc with rfl | rfl <;> exact trivial

/-- The ACS switches on two objects, and the bus refuses the first. The request is answered as a
success, and the ACS reads that the first object is off. -/
theorem values_of_run_firstRefused :
    ∃ s, exec (ValueStore.step plainCache ValueStore.deviceEnv) ⟨allOff, none⟩
        [.setParameterValues plainEnv (refuses 0) enableBoth .undefined] = some s ∧
      (setParameterValues plainEnv plainCache (refuses 0) enableBoth .undefined allOff).map
        SetResult.status = some .applied ∧
      InList (fun d => getParameterValuesPrpl firstNameDenied.toReadEnv d timeEnable)
        (supportDevice timeEnable timeEnable_concrete "0") timeEnable "0" := by
  obtain ⟨s, hs⟩ : ∃ s, exec (ValueStore.step plainCache ValueStore.deviceEnv) ⟨allOff, none⟩
      [.setParameterValues plainEnv (refuses 0) enableBoth .undefined] = some s :=
    Option.isSome_iff_exists.mp (by decide)
  have hoff : (exec (ValueStore.step plainCache ValueStore.deviceEnv) ⟨allOff, none⟩
      [.setParameterValues plainEnv (refuses 0) enableBoth .undefined]).map
        (fun s => s.world.values "Device.Time.Enable".toList) = some "0".toList := by decide
  rw [hs] at hoff
  have hd : (supportDevice timeEnable timeEnable_concrete "0").Holds s.world.values := by
    intro o n v hv
    obtain ⟨-, hn, rfl, rfl⟩ := value_supportDevice.mp hv
    obtain rfl := Option.some.inj hn
    exact (Option.some.inj hoff).symm
  refine ⟨s, hs, by decide, ((values_of_run hs hd rfl).1 _ _).mpr
    ⟨timeEnable.object, "Enable", rfl, ?_, rfl, rfl⟩⟩
  exact ⟨List.cons_ne_nil _ _, timeEnable_concrete, rfl, ⟨rfl, fun m hm => (Option.some.inj hm).symm⟩,
    fun hpartial => absurd hpartial Bool.false_ne_true⟩

end Tr069.Parameters
