import Mathlib.Data.List.Basic
import Tr069Manager.Lib.MachineInt

/-!
# The parameters of the table `InformParameter`

For an Inform `DM_ENG_Device_GetInformParameterValues` goes over the table and adds, for each of
its entries that is enabled and passes three tests, what the name in it stands for: the parameters
of all objects that match, if it is a search path, otherwise the one parameter. The tests are on
the events of the Inform, on `PeriodicInformInterval` and on `PeriodicInformCounter`, and the two
numbers are read as text, with `atoi`.

What the bus gives may be another thing for each of the entries: each has what is read while it is
looked at (`EntryReads`). The variable `pResult` is one for all of them, and is `NULL` again behind
each parameter; so nothing is ever added a second time (`InformEnv.getParameter_eq`).

Of the tests, each can go wrong. The one on the events cleans two variables on its way out which
it has set only where the list of the entry is not empty; what happens otherwise depends on what
they hold by chance, and may be anything (`none`). It takes the events for others than
`4 VALUE CHANGE` if that is there twice. A number that cannot be read is no match, and the counter
is increased as one of 32 bits. `InformEnv.EntryKept` is what an entry needs so that none of this
is seen.
-/

namespace Tr069

/-! ### The data -/

/-- `DM_ENG_EVENT_VALUE_CHANGE`. -/
def valueChange : String := "4 VALUE CHANGE"

/-- What an Inform depends on: paths and lists as the library has them, `atoi`, the codes of the
events, of which there is one, and the two numbers of the configuration. -/
structure InformEnv where
  isSearchPath : String → Bool
  getParam : String → Option String
  csvToVar : String → List String
  containsEvent : List String → String → Bool
  containsEvent_iff : ∀ eventList eventCode,
    containsEvent eventList eventCode = true ↔ eventCode ∈ eventList
  text : AtoiLibrary
  eventList : List String
  eventList_ne : eventList ≠ []
  periodicInformInterval : UInt32
  periodicInformCounter : UInt32

/-- What `DM_ENG_GetParameterValues` does with its variable, for the path of one parameter: it has
the value, or is `NULL`, or is left as it is. -/
inductive ReadOutcome (V : Type) where
  | value (v : V)
  | null
  | untouched

/-- What is read while an entry is looked at: whether what two variables hold that are not set can
be cleaned, whether the two numbers can be read, the objects that match a path, each with the names
of its parameters, and the values of parameters. -/
structure EntryReads (V : Type) where
  cleanable : Bool
  periodicInformInterval : Bool
  periodicInformCounter : Bool
  amxbGet : String → Option (List (String × List String))
  getParameterValues : String → ReadOutcome V

/-- An entry of the table `InformParameter`, with what is read for it. -/
structure InformParameter (V : Type) where
  enable : Bool
  parameterName : Option String
  eventList : Option String
  interval : UInt32
  count : UInt32
  reads : EntryReads V

/-- The list of the Inform, and the variable for the values that are read. -/
structure InformResults (V : Type) where
  pvsList : List V
  pResult : Option V

variable {V : Type}

/-- The variable after a read. -/
def ReadOutcome.into (pResult : Option V) : ReadOutcome V → Option V
  | .value v => some v
  | .null => none
  | .untouched => pResult

/-- The value, where there is one. -/
def ReadOutcome.value? : ReadOutcome V → Option V
  | .value v => some v
  | _ => none

namespace InformEnv

variable (env : InformEnv)

/-! ### The code -/

/-- `DM_ENG_Device_MatchingEvent`; `none` where what is cleaned cannot be. -/
def matchingEvent (value : InformParameter V) : Option Bool :=
  let dmEvents := value.eventList.getD ""
  if dmEvents = "" then
    if value.reads.cleanable then
      some !decide (env.eventList.head? = some valueChange ∧ env.eventList.tail = [])
    else none
  else some ((env.csvToVar dmEvents).any (env.containsEvent env.eventList))

/-- `DM_ENG_Device_MatchingInterval`. -/
def matchingInterval (value : InformParameter V) : Bool :=
  value.interval = 0 ||
    (value.reads.periodicInformInterval &&
      (env.text.atoi env.periodicInformInterval).toUInt32 = value.interval)

/-- `DM_ENG_Device_MatchingCount`. -/
def matchingCount (value : InformParameter V) : Bool :=
  value.count = 0 ||
    (value.reads.periodicInformCounter &&
      ((env.text.atoi env.periodicInformCounter).toUInt32 + 1) % value.count = 0)

/-- One parameter is read, and added if there is a value. -/
def getParameter (read : ReadOutcome V) (s : InformResults V) : InformResults V :=
  match read.into s.pResult with
  | some v => ⟨s.pvsList ++ [v], none⟩
  | none => ⟨s.pvsList, none⟩

/-- What a name stands for is read and added. -/
def getParameters (reads : EntryReads V) (parameterName : String) (s : InformResults V) :
    InformResults V :=
  if env.isSearchPath parameterName then
    match reads.amxbGet parameterName with
    | none => s
    | some rsearch => rsearch.foldl (fun s object =>
        object.2.foldl (fun s kv => getParameter (reads.getParameterValues (object.1 ++ kv)) s) s) s
  else if env.getParam parameterName = none then s
  else getParameter (reads.getParameterValues parameterName) s

/-- The body of the loop over the table. -/
def informEntry (value : InformParameter V) (s : InformResults V) : Option (InformResults V) :=
  if value.enable then
    (env.matchingEvent value).map fun event =>
      if event && env.matchingInterval value && env.matchingCount value then
        match value.parameterName with
        | none => s
        | some parameterName => env.getParameters value.reads parameterName s
      else s
  else some s

/-- The loop over the table. -/
def informLoop : List (InformParameter V) → InformResults V → Option (InformResults V)
  | [], s => some s
  | value :: rvalues, s => (env.informEntry value s).bind (informLoop rvalues)

/-- `DM_ENG_Device_GetInformParameterValues`: the error and the list, which is deleted where the
table cannot be read. -/
def getInformParameterValues (values : Option (List (InformParameter V))) (pvsList : List V) :
    Option (Int × List V) :=
  match values with
  | none => some (9002, [])
  | some rvalues => (env.informLoop rvalues ⟨pvsList, none⟩).map fun s => (0, s.pvsList)

/-! ### What should be added -/

/-- The entry is for an event of the Inform. -/
def ForEvent (value : InformParameter V) : Prop :=
  if value.eventList.getD "" = "" then ∃ eventCode ∈ env.eventList, eventCode ≠ valueChange
  else ∃ eventCode ∈ env.csvToVar (value.eventList.getD ""), eventCode ∈ env.eventList

/-- **The entry is for the Inform.** -/
structure Selected (value : InformParameter V) : Prop where
  enable : value.enable = true
  event : env.ForEvent value
  interval : value.interval = 0 ∨ value.interval = env.periodicInformInterval
  count : value.count = 0 ∨ value.count.toNat ∣ env.periodicInformCounter.toNat + 1

/-- The parameters that the name of an entry stands for. -/
def denoted (value : InformParameter V) : List String :=
  match value.parameterName with
  | none => []
  | some parameterName =>
    if env.isSearchPath parameterName then
      ((value.reads.amxbGet parameterName).getD []).flatMap fun object =>
        object.2.map (object.1 ++ ·)
    else if env.getParam parameterName = none then []
    else [parameterName]

/-- The values of those that can be read. -/
def values (value : InformParameter V) : List V :=
  (env.denoted value).filterMap fun path => (value.reads.getParameterValues path).value?

open Classical in
/-- What an entry should add. -/
noncomputable def expected (value : InformParameter V) : List V :=
  if env.Selected value then env.values value else []

/-- **The property**, for a table: after each of its entries the list has what they should have
added, and there is no error. -/
def AddsExactly (table : List (InformParameter V)) (pvsList : List V) : Prop :=
  ∀ n, env.getInformParameterValues (some (table.take n)) pvsList =
    some (0, pvsList ++ (table.take n).flatMap env.expected)

/-- One more than what is read of the counter, as a number of 32 bits. -/
def nextCounter : UInt32 := (env.text.atoi env.periodicInformCounter).toUInt32 + 1

/-- **The condition**, for an entry. With an empty list of events the variables that are not set
can be cleaned. And where it has a value to add: if the entry is for the Inform, the numbers it is
compared with can be read, the interval is read as it is, and the count divides what the counter
is taken for; if it is not, one of the tests says so, as they are. -/
structure EntryKept (value : InformParameter V) : Prop where
  cleaned : value.eventList.getD "" = "" → value.reads.cleanable = true
  taken : env.values value ≠ [] → env.Selected value →
    (value.interval ≠ 0 → value.reads.periodicInformInterval = true ∧
      (env.text.atoi env.periodicInformInterval).toUInt32 = env.periodicInformInterval) ∧
    (value.count ≠ 0 → value.reads.periodicInformCounter = true ∧
      value.count.toNat ∣ env.nextCounter.toNat)
  left : env.values value ≠ [] → ¬env.Selected value →
    (¬env.ForEvent value ∧ (value.eventList.getD "" = "" → env.eventList.length = 1)) ∨
    (value.interval ≠ 0 ∧ (value.reads.periodicInformInterval = true →
      (env.text.atoi env.periodicInformInterval).toUInt32 ≠ value.interval)) ∨
    (value.count ≠ 0 ∧ (value.reads.periodicInformCounter = true →
      ¬value.count.toNat ∣ env.nextCounter.toNat))

variable {env} {value : InformParameter V} {pvsList : List V}

/-! ### What is read -/

/-- **Nothing is added a second time**: the variable has no value before a read, and none behind
it. -/
theorem getParameter_eq (read : ReadOutcome V) :
    getParameter read ⟨pvsList, none⟩ = ⟨pvsList ++ read.value?.toList, none⟩ := by
  cases read with
  | value v => rfl
  | null => exact congrArg (InformResults.mk · none) (List.append_nil pvsList).symm
  | untouched => exact congrArg (InformResults.mk · none) (List.append_nil pvsList).symm

theorem foldl_getParameter (read : String → ReadOutcome V) (paths : List String) :
    paths.foldl (fun s path => getParameter (read path) s) ⟨pvsList, none⟩ =
      ⟨pvsList ++ paths.filterMap fun path => (read path).value?, none⟩ := by
  induction paths generalizing pvsList with
  | nil => exact congrArg (InformResults.mk · none) (List.append_nil pvsList).symm
  | cons path paths ih =>
    rw [List.foldl_cons, getParameter_eq, ih, List.append_assoc, List.filterMap_cons]
    cases (read path).value? with
    | none => rfl
    | some v => rfl

/-- **What a name stands for is added**, as far as it can be read. -/
theorem getParameters_eq {parameterName : String} (h : value.parameterName = some parameterName) :
    env.getParameters value.reads parameterName ⟨pvsList, none⟩ =
      ⟨pvsList ++ env.values value, none⟩ := by
  have hnone : (⟨pvsList, none⟩ : InformResults V) = ⟨pvsList ++ [], none⟩ :=
    congrArg (InformResults.mk · none) (List.append_nil pvsList).symm
  rw [getParameters, values, denoted, h]
  dsimp only
  split
  · rcases value.reads.amxbGet parameterName with - | rsearch
    · exact hnone
    · have hfold := @foldl_getParameter V pvsList value.reads.getParameterValues
        (rsearch.flatMap fun object => object.2.map (object.1 ++ ·))
      rw [List.foldl_flatMap] at hfold
      simp only [List.foldl_map] at hfold
      exact hfold
  · split
    · exact hnone
    · rw [getParameter_eq, List.filterMap_cons, List.filterMap_nil]
      cases (value.reads.getParameterValues parameterName).value? with
      | none => rfl
      | some v => rfl

/-! ### The tests -/

theorem matchingEvent_eq_none : env.matchingEvent value = none ↔
    value.eventList.getD "" = "" ∧ value.reads.cleanable = false := by
  rw [matchingEvent]
  split
  · next hempty =>
    cases value.reads.cleanable <;> simp [hempty]
  · next hempty => simp [hempty]

/-- The events are those of an Inform for a change of a value only. -/
theorem only_valueChange_iff : env.eventList.head? = some valueChange ∧ env.eventList.tail = [] ↔
    (¬∃ eventCode ∈ env.eventList, eventCode ≠ valueChange) ∧ env.eventList.length = 1 := by
  rcases hlist : env.eventList with - | ⟨eventCode, rest⟩
  · exact absurd hlist env.eventList_ne
  · cases rest with
    | nil => simp
    | cons next rest => simp

/-- **The test on the events fails** where no event of the Inform is one of the entry's, but not if
an Inform has `4 VALUE CHANGE` more than once. -/
theorem matchingEvent_eq_false {event : Bool} (h : env.matchingEvent value = some event) :
    event = false ↔
      ¬env.ForEvent value ∧ (value.eventList.getD "" = "" → env.eventList.length = 1) := by
  rw [matchingEvent] at h
  rw [ForEvent]
  by_cases hempty : value.eventList.getD "" = ""
  · rw [if_pos hempty] at h
    rw [if_pos hempty]
    split at h
    · obtain rfl := Option.some.inj h
      rw [Bool.not_eq_false', decide_eq_true_iff, only_valueChange_iff]
      exact and_congr_right fun _ => ⟨fun hlength _ => hlength, fun hlength => hlength hempty⟩
    · cases h
  · rw [if_neg hempty] at h
    rw [if_neg hempty]
    obtain rfl := Option.some.inj h
    rw [← Bool.not_eq_true, List.any_eq_true]
    simp only [env.containsEvent_iff]
    exact ⟨fun hany => ⟨hany, fun h => absurd h hempty⟩, fun hany => hany.1⟩

theorem matchingInterval_eq_false : env.matchingInterval value = false ↔
    value.interval ≠ 0 ∧ (value.reads.periodicInformInterval = true →
      (env.text.atoi env.periodicInformInterval).toUInt32 ≠ value.interval) := by
  rw [matchingInterval, Bool.or_eq_false_iff, Bool.and_eq_false_iff, decide_eq_false_iff_not,
    decide_eq_false_iff_not, ← Bool.not_eq_true]
  exact and_congr_right fun _ => (imp_iff_not_or).symm

theorem matchingCount_eq_false : env.matchingCount value = false ↔
    value.count ≠ 0 ∧ (value.reads.periodicInformCounter = true →
      ¬value.count.toNat ∣ env.nextCounter.toNat) := by
  have hdvd : (env.nextCounter % value.count = 0) ↔ value.count.toNat ∣ env.nextCounter.toNat := by
    rw [Nat.dvd_iff_mod_eq_zero, ← UInt32.toNat_inj, UInt32.toNat_mod]
    rfl
  rw [← hdvd, matchingCount, Bool.or_eq_false_iff, Bool.and_eq_false_iff, decide_eq_false_iff_not,
    decide_eq_false_iff_not, ← Bool.not_eq_true]
  exact and_congr_right fun _ => (imp_iff_not_or).symm

/-! ### An entry -/

/-- What an enabled entry adds. -/
theorem informEntry_eq {event : Bool} (henable : value.enable = true)
    (hevent : env.matchingEvent value = some event) :
    env.informEntry value ⟨pvsList, none⟩ = some ⟨pvsList ++
      if event && env.matchingInterval value && env.matchingCount value then env.values value
      else [], none⟩ := by
  have hnone : (⟨pvsList, none⟩ : InformResults V) = ⟨pvsList ++ [], none⟩ :=
    congrArg (InformResults.mk · none) (List.append_nil pvsList).symm
  rw [informEntry, if_pos henable, hevent, Option.map_some]
  refine congrArg some ?_
  split
  · rcases hname : value.parameterName with - | parameterName
    · have hvalues : env.values value = [] := by rw [values, denoted, hname, List.filterMap_nil]
      rw [hvalues]
      exact hnone
    · exact getParameters_eq hname
  · exact hnone

/-- The tests let through an entry that is for the Inform exactly if its numbers are read. -/
theorem passes_iff {event : Bool} (hevent : env.matchingEvent value = some event)
    (h : env.Selected value) :
    (event && env.matchingInterval value && env.matchingCount value) = true ↔
      (value.interval ≠ 0 → value.reads.periodicInformInterval = true ∧
        (env.text.atoi env.periodicInformInterval).toUInt32 = env.periodicInformInterval) ∧
      (value.count ≠ 0 → value.reads.periodicInformCounter = true ∧
        value.count.toNat ∣ env.nextCounter.toNat) := by
  have htrue : event = true := by
    rw [← Bool.not_eq_false, matchingEvent_eq_false hevent]
    exact fun hother => hother.1 h.event
  rw [htrue, Bool.true_and, Bool.and_eq_true, ← Bool.not_eq_false, ← Bool.not_eq_false,
    matchingInterval_eq_false, matchingCount_eq_false]
  have hinterval : value.interval ≠ 0 → value.interval = env.periodicInformInterval :=
    fun hne => h.interval.resolve_left hne
  refine and_congr ?_ ?_
  · rw [not_and]
    refine imp_congr_right fun hne => ?_
    rw [Classical.not_imp, not_not, hinterval hne]
  · rw [not_and]
    refine imp_congr_right fun _ => ?_
    rw [Classical.not_imp, not_not]

/-- The tests stop an entry where one of them does. -/
theorem stops_iff {event : Bool} (hevent : env.matchingEvent value = some event) :
    (event && env.matchingInterval value && env.matchingCount value) = false ↔
      (¬env.ForEvent value ∧ (value.eventList.getD "" = "" → env.eventList.length = 1)) ∨
      (value.interval ≠ 0 ∧ (value.reads.periodicInformInterval = true →
        (env.text.atoi env.periodicInformInterval).toUInt32 ≠ value.interval)) ∨
      (value.count ≠ 0 ∧ (value.reads.periodicInformCounter = true →
        ¬value.count.toNat ∣ env.nextCounter.toNat)) := by
  rw [Bool.and_eq_false_iff, Bool.and_eq_false_iff, matchingEvent_eq_false hevent,
    matchingInterval_eq_false, matchingCount_eq_false, or_assoc]

/-- **An entry adds what it should** exactly if it is kept. -/
theorem informEntry_eq_expected_iff :
    env.informEntry value ⟨pvsList, none⟩ = some ⟨pvsList ++ env.expected value, none⟩ ↔
      (value.enable = true → env.EntryKept value) := by
  by_cases henable : value.enable = true
  · rcases hevent : env.matchingEvent value with - | event
    · obtain ⟨hempty, hcleanable⟩ := matchingEvent_eq_none.mp hevent
      rw [informEntry, if_pos henable, hevent]
      constructor
      · intro h
        cases h
      · intro h
        have hcleaned := (h henable).cleaned hempty
        rw [hcleanable] at hcleaned
        cases hcleaned
    · have hcleaned : value.eventList.getD "" = "" → value.reads.cleanable = true := by
        intro hempty
        by_contra hfalse
        have hnone : env.matchingEvent value = none :=
          matchingEvent_eq_none.mpr ⟨hempty, Bool.eq_false_iff.mpr hfalse⟩
        rw [hevent] at hnone
        cases hnone
      rw [informEntry_eq henable hevent, Option.some_inj, InformResults.mk.injEq,
        List.append_cancel_left_eq, and_iff_left rfl, imp_iff_right henable, expected]
      by_cases hvalues : env.values value = []
      · rw [hvalues, ite_self, ite_self]
        exact ⟨fun _ => ⟨hcleaned, fun h => absurd hvalues h, fun h => absurd hvalues h⟩,
          fun _ => rfl⟩
      · by_cases hselected : env.Selected value
        · rw [if_pos hselected, ite_eq_left_iff]
          have hpasses := passes_iff hevent hselected
          constructor
          · intro h
            have htrue := hpasses.mp (by_contra fun hfalse => hvalues (h hfalse).symm)
            exact ⟨hcleaned, fun _ _ => htrue, fun _ hnot => absurd hselected hnot⟩
          · intro h hfalse
            exact absurd (hpasses.mpr (h.taken hvalues hselected)) hfalse
        · rw [if_neg hselected, ite_eq_right_iff]
          have hfails := stops_iff hevent
          constructor
          · intro h
            have hfalse := hfails.mp (Bool.eq_false_iff.mpr fun htrue => hvalues (h htrue))
            exact ⟨hcleaned, fun _ hyes => absurd hyes hselected, fun _ _ => hfalse⟩
          · intro h htrue
            have hfalse := hfails.mpr (h.left hvalues hselected)
            rw [htrue] at hfalse
            cases hfalse
  · rw [informEntry, if_neg henable, expected, if_neg fun h => henable h.enable, List.append_nil]
    exact ⟨fun _ h => absurd h henable, fun _ => rfl⟩

/-! ### The table -/

/-- An entry leaves no value in the variable. -/
theorem pResult_informEntry {s : InformResults V}
    (h : env.informEntry value ⟨pvsList, none⟩ = some s) : s.pResult = none := by
  by_cases henable : value.enable = true
  · rcases hevent : env.matchingEvent value with - | event
    · rw [informEntry, if_pos henable, hevent] at h
      cases h
    · rw [informEntry_eq henable hevent] at h
      exact Option.some.inj h ▸ rfl
  · rw [informEntry, if_neg henable] at h
    exact Option.some.inj h ▸ rfl

theorem addsExactly_nil : env.AddsExactly ([] : List (InformParameter V)) pvsList := by
  intro n
  rw [List.take_nil, List.flatMap_nil, List.append_nil]
  rfl

/-- **Entry by entry**: the first one adds what it should, and the others to what is there then. -/
theorem addsExactly_cons {rvalues : List (InformParameter V)} :
    env.AddsExactly (value :: rvalues) pvsList ↔
      env.informEntry value ⟨pvsList, none⟩ = some ⟨pvsList ++ env.expected value, none⟩ ∧
        env.AddsExactly rvalues (pvsList ++ env.expected value) := by
  have hstep : env.informEntry value ⟨pvsList, none⟩ =
      some ⟨pvsList ++ env.expected value, none⟩ →
      ∀ n, env.getInformParameterValues (some ((value :: rvalues).take (n + 1))) pvsList =
        env.getInformParameterValues (some (rvalues.take n)) (pvsList ++ env.expected value) := by
    intro hentry n
    rw [List.take_succ_cons, getInformParameterValues, getInformParameterValues]
    simp only [informLoop, hentry, Option.bind_some]
  constructor
  · intro h
    have hentry : env.informEntry value ⟨pvsList, none⟩ =
        some ⟨pvsList ++ env.expected value, none⟩ := by
      have hfirst := h 1
      rw [List.take_succ_cons, List.take_zero, List.flatMap_singleton,
        getInformParameterValues] at hfirst
      rcases hs : env.informEntry value ⟨pvsList, none⟩ with - | ⟨added, pResult⟩
      · simp only [informLoop, hs] at hfirst
        cases hfirst
      · simp only [informLoop, hs] at hfirst
        have hnone : pResult = none := pResult_informEntry hs
        have hadded : added = pvsList ++ env.expected value :=
          (Prod.mk.inj (Option.some.inj hfirst)).2
        rw [hnone, hadded]
    refine ⟨hentry, fun n => ?_⟩
    rw [← hstep hentry n, h (n + 1), List.take_succ_cons, List.flatMap_cons, List.append_assoc]
  · rintro ⟨hentry, hrest⟩ n
    cases n with
    | zero =>
      rw [List.take_zero, List.flatMap_nil, List.append_nil]
      rfl
    | succ n =>
      rw [hstep hentry n, hrest n, List.take_succ_cons, List.flatMap_cons, List.append_assoc]

/-- Where the two numbers can be read and an `int` can hold them, and the variables that are not
set can be cleaned, an entry is kept, unless `4 VALUE CHANGE` is there twice and nothing else. -/
theorem entryKept_of_readable (henable : value.enable = true)
    (hcleanable : value.reads.cleanable = true)
    (hinterval : value.reads.periodicInformInterval = true)
    (hcounter : value.reads.periodicInformCounter = true)
    (hintervalFits : env.periodicInformInterval.toNat < 2 ^ 31)
    (hcounterFits : env.periodicInformCounter.toNat < 2 ^ 31)
    (hevents : (∃ eventCode ∈ env.eventList, eventCode ≠ valueChange) ∨
      env.eventList.length = 1) : env.EntryKept value := by
  have hnext : env.nextCounter.toNat = env.periodicInformCounter.toNat + 1 := by
    rw [nextCounter, env.text.toUInt32_atoi_of_lt hcounterFits, UInt32.toNat_add]
    exact Nat.mod_eq_of_lt (by simp; omega)
  have hread := env.text.toUInt32_atoi_of_lt hintervalFits
  refine ⟨fun _ => hcleanable, fun _ hselected => ⟨fun _ => ⟨hinterval, hread⟩, fun hne =>
    ⟨hcounter, ?_⟩⟩, fun _ hselected => ?_⟩
  · rw [hnext]
    exact hselected.count.resolve_left hne
  · by_cases hevent : env.ForEvent value
    · by_cases hequal : value.interval = 0 ∨ value.interval = env.periodicInformInterval
      · have hcount : ¬(value.count = 0 ∨
            value.count.toNat ∣ env.periodicInformCounter.toNat + 1) :=
          fun hcount => hselected ⟨henable, hevent, hequal, hcount⟩
        rw [not_or] at hcount
        rw [hnext]
        exact Or.inr (Or.inr ⟨hcount.1, fun _ => hcount.2⟩)
      · rw [not_or] at hequal
        rw [hread]
        exact Or.inr (Or.inl ⟨hequal.1, fun _ heq => hequal.2 heq.symm⟩)
    · refine Or.inl ⟨hevent, fun hempty => hevents.resolve_left fun hother => hevent ?_⟩
      rw [ForEvent, if_pos hempty]
      exact hother

variable (env) in
/-- **The table is taken as it should be** exactly if each of its entries that is enabled is
kept. -/
theorem addsExactly_iff (table : List (InformParameter V)) (pvsList : List V) :
    env.AddsExactly table pvsList ↔
      ∀ value ∈ table, value.enable = true → env.EntryKept value := by
  induction table generalizing pvsList with
  | nil => exact ⟨fun _ _ h => absurd h List.not_mem_nil, fun _ => addsExactly_nil⟩
  | cons value rvalues ih =>
    rw [addsExactly_cons, informEntry_eq_expected_iff, ih, List.forall_mem_cons]

/-! ### A counter that starts again -/

/-- A periodic Inform, the last one before the counter starts again. -/
def lastBeforeZero : InformEnv where
  isSearchPath := fun _ => false
  getParam := some
  csvToVar := fun dmEvents => [dmEvents]
  containsEvent := fun eventList eventCode => decide (eventCode ∈ eventList)
  containsEvent_iff := fun _ _ => decide_eq_true_iff
  text := AtoiLibrary.cut
  eventList := ["2 PERIODIC"]
  eventList_ne := List.cons_ne_nil _ _
  periodicInformInterval := 86400
  periodicInformCounter := 4294967295

/-- A parameter for every third periodic Inform. -/
def everyThird : InformParameter String where
  enable := true
  parameterName := some "Device.DeviceInfo.UpTime"
  eventList := some "2 PERIODIC"
  interval := 0
  count := 3
  reads := ⟨true, true, true, fun _ => none, fun _ => .value "60"⟩

/-- The number after the greatest of 32 bits is no multiple of three, and is taken for zero. -/
theorem counter_starts_again : ¬lastBeforeZero.AddsExactly [everyThird] [] := by
  intro h
  have hcode : lastBeforeZero.getInformParameterValues (some [everyThird]) [] =
      some (0, ["60"]) := by
    decide
  have hexpected : lastBeforeZero.expected everyThird = [] :=
    if_neg fun hselected => absurd hselected.count (by decide)
  have hfirst := h 1
  have htake : [everyThird].take 1 = [everyThird] := rfl
  rw [htake, hcode, List.flatMap_singleton, hexpected] at hfirst
  cases hfirst

end InformEnv

end Tr069
