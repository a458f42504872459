import Tr069Manager.SetParameterValues.Apply

/-!
# What the request reports, and what it leaves behind

The result variable of `DM_ENG_Device_SetParameterValues` is written by every group, and
what is left in it is the result of the last one. So a failure is reported exactly if the
last group fails whenever any does (`setsReported_iff`).

The comment above the loop promises that the changes already applied are undone when a set
fails, as a SetParameterValues request has to be atomic. Nothing is undone: the groups set
before keep their new values, and the values that the failed groups put into the cache
stay there, by which a later change to such a value is taken for the ACS's own. What it
takes for the request to be atomic nevertheless is `atomic_iff`.
-/

namespace Tr069

variable {C : Type*} {env : SetEnv} {ops : AttributesCache C} {answers : Nat → BusAnswer}
variable {list : List ParameterValueStruct} {status : ParameterStatus} {w : SetWorld C}
variable {faults : List SetParameterValuesFault} {r : SetResult C}
variable {groups : List (List ParameterValueStruct)} {group : List ParameterValueStruct}
variable {p : ParameterValueStruct} {name value : CString}

/-! ### The result -/

/-- The set of some group fails. -/
def SomeGroupFails (list : List ParameterValueStruct) (answers : Nat → BusAnswer) : Prop :=
  ∃ k < (objectGroups list).length, answers k ≠ .ok

/-- The set of the last group fails. -/
def LastGroupFails (list : List ParameterValueStruct) (answers : Nat → BusAnswer) : Prop :=
  0 < (objectGroups list).length ∧ answers ((objectGroups list).length - 1) ≠ .ok

/-- **What the request should return**: success exactly if every set succeeded, and
otherwise a fault code and a status that is not the one of success. -/
structure SetsReported (list : List ParameterValueStruct) (answers : Nat → BusAnswer)
    (r : SetResult C) : Prop where
  success_iff : r.error = 0 ∧ r.status = .applied ↔
    ∀ k < (objectGroups list).length, answers k = .ok
  fault : SomeGroupFails list answers → r.error ≠ 0 ∧ r.status ≠ .applied

/-- The result variable after the loop. -/
theorem error_applied_eq_zero :
    (applied env ops answers w faults (objectGroups list)).error = 0 ↔
      ¬LastGroupFails list answers := by
  rw [LastGroupFails]
  have hne : ∀ g ∈ objectGroups list, g ≠ [] := objectGroups_ne_nil
  generalize objectGroups list = groups at hne ⊢
  induction groups using List.reverseRecOn with
  | nil => simp [applied]
  | append_singleton groups group _ =>
    rw [error_applied_concat hne]
    have hlast : (groups ++ [group]).length - 1 = groups.length := by simp
    rw [hlast]
    by_cases hok : answers groups.length = .ok
    · simp [hok]
    · simp [hok, invalidArguments]

theorem LastGroupFails.some (h : LastGroupFails list answers) : SomeGroupFails list answers :=
  ⟨_, Nat.sub_lt h.1 Nat.one_pos, h.2⟩

/-- **A failure is reported exactly if the last group fails whenever one does**, on every
list that passes the validation and for all answers of the bus. -/
theorem setsReported_iff (env : SetEnv) (ops : AttributesCache C) (answers : Nat → BusAnswer)
    (list : List ParameterValueStruct) (status : ParameterStatus) (w : SetWorld C)
    (hvalid : PassesValidation env list) :
    (∃ r, setParameterValues env ops answers list status w = some r ∧
        SetsReported list answers r) ↔
      (SomeGroupFails list answers → LastGroupFails list answers) := by
  obtain ⟨faults, hr⟩ := setParameterValues_of_passes ops answers status w hvalid
  have herr : (applied env ops answers w faults (objectGroups list)).error = 0 ↔
      ¬LastGroupFails list answers := error_applied_eq_zero
  have hall : (∀ k < (objectGroups list).length, answers k = .ok) ↔
      ¬SomeGroupFails list answers := by
    simp only [SomeGroupFails, not_exists, not_and, not_not, ne_eq]
  rw [hr]
  constructor
  · rintro ⟨r, h, hreported⟩ hsome
    obtain rfl := Option.some.inj h
    by_contra hlast
    exact (hreported.fault hsome).1 (herr.mpr hlast)
  · intro h
    refine ⟨_, rfl, ?_, fun hsome => ?_⟩
    · rw [hall]
      dsimp only
      constructor
      · intro hzero hsome
        exact herr.mp hzero.1 (h hsome)
      · intro hnone
        have hzero := herr.mpr fun hlast => hnone hlast.some
        exact ⟨hzero, if_pos hzero⟩
    · have hfault := fun hzero => herr.mp hzero (h hsome)
      refine ⟨hfault, ?_⟩
      dsimp only
      rw [if_neg hfault]
      exact ParameterStatus.noConfusion

/-! ### What stays -/

/-- A write somewhere in a list is what is read, if none after it goes to the same place. -/
theorem foldl_update_apply {α β γ : Type*} [DecidableEq α] (key : γ → α) (val : γ → β)
    (es : List γ) (f : α → β) (k : α) :
    (es.foldl (fun f e => Function.update f (key e) (val e)) f) k =
      ((es.reverse.find? fun e => key e = k).map val).getD (f k) := by
  induction es using List.reverseRecOn with
  | nil => rfl
  | append_singleton es e ih =>
    rw [List.foldl_append, List.foldl_cons, List.foldl_nil, List.reverse_append]
    by_cases hk : key e = k
    · subst hk
      simp
    · rw [Function.update_of_ne (Ne.symm hk), ih]
      simp [hk]

/-- The value a parameter gets in the last successful set that writes it. -/
def lastApplied (env : SetEnv) (list : List ParameterValueStruct) (answers : Nat → BusAnswer)
    (name : CString) : Option CString :=
  ((appliedEntries answers (objectGroups list)).reverse.find? fun q =>
    env.resolve q.parameterName = env.resolve name).map ParameterValueStruct.value

/-- A value handed to the cache under another name, or under one the cache does not watch,
does not matter. -/
theorem cached_foldl_of_forall {watched : CString → Bool} (hops : ops.Lawful watched) {c : C}
    (h : ∀ p ∈ list, p.parameterName = name → watched name = false) :
    ops.valueWasCached
        (list.foldl (fun c q => ops.addCachedValue c q.parameterName q.value) c) name value =
      ops.valueWasCached c name value := by
  induction list using List.reverseRecOn with
  | nil => rfl
  | append_singleton list q ih =>
    rw [List.foldl_append, List.foldl_cons, List.foldl_nil, hops.valueWasCached_add,
      ih fun p hp => h p (List.mem_append_left _ hp)]
    refine if_neg fun hq => ?_
    have := h q (by simp) hq.1.symm
    rw [hq.1, hq.2] at this
    cases this

/-- The value of a watched entry is in the cache, if the names are distinct. -/
theorem cached_foldl_of_mem {watched : CString → Bool} (hops : ops.Lawful watched) {c : C}
    (hnodup : (list.map ParameterValueStruct.parameterName).Nodup) (hp : p ∈ list)
    (hwatched : watched p.parameterName = true) :
    ops.valueWasCached
        (list.foldl (fun c q => ops.addCachedValue c q.parameterName q.value) c)
        p.parameterName value =
      decide (value = p.value) := by
  induction list using List.reverseRecOn with
  | nil => cases hp
  | append_singleton list q ih =>
    rw [List.map_append, List.map_singleton] at hnodup
    obtain ⟨hleft, -, hdisj⟩ := List.nodup_append.mp hnodup
    rw [List.foldl_append, List.foldl_cons, List.foldl_nil, hops.valueWasCached_add]
    rcases List.mem_append.mp hp with hp | hp
    · have hne : p.parameterName ≠ q.parameterName :=
        hdisj _ (List.mem_map_of_mem hp) _ (List.mem_singleton_self _)
      rw [if_neg fun h => hne h.1]
      exact ih hleft hp
    · obtain rfl := List.mem_singleton.mp hp
      rw [if_pos ⟨rfl, hwatched⟩]

/-- **An atomic request**: when it returns a fault, every parameter of the list has the
value it had, and the cache holds no value that was not in it before and that the parameter
does not have. -/
structure Atomic (env : SetEnv) (ops : AttributesCache C) (list : List ParameterValueStruct)
    (w : SetWorld C) (r : SetResult C) : Prop where
  restored : r.error ≠ 0 → ∀ p ∈ list,
    r.world.values (env.resolve p.parameterName) = w.values (env.resolve p.parameterName)
  cache : r.error ≠ 0 → ∀ name value, ops.valueWasCached r.world.cache name value = true →
    ops.valueWasCached w.cache name value = true ∨ r.world.values (env.resolve name) = value

/-- What it takes for the request to be atomic: no successful set has changed a value for
good, and every value handed to the cache is one the parameter has, or was cached before. -/
structure NothingToUndo (env : SetEnv) (ops : AttributesCache C) (watched : CString → Bool)
    (answers : Nat → BusAnswer) (list : List ParameterValueStruct) (w : SetWorld C) :
    Prop where
  unchanged : ∀ p ∈ list, ∀ v, lastApplied env list answers p.parameterName = some v →
    w.values (env.resolve p.parameterName) = v
  cached : ∀ p ∈ list, watched p.parameterName = true →
    ops.valueWasCached w.cache p.parameterName p.value = true ∨
      w.values (env.resolve p.parameterName) = p.value

/-- The value of a parameter after the sets. -/
theorem values_applied_apply (name : CString) :
    (applied env ops answers w faults (objectGroups list)).world.values (env.resolve name) =
      (lastApplied env list answers name).getD (w.values (env.resolve name)) := by
  rw [values_applied fun _ hg => hg, lastApplied]
  exact foldl_update_apply _ _ _ _ _

/-- The cache after the sets. -/
theorem cache_applied_eq :
    (applied env ops answers w faults (objectGroups list)).world.cache =
      list.foldl (fun c q => ops.addCachedValue c q.parameterName q.value) w.cache := by
  rw [cache_applied, objectGroups, List.flatten_splitBy]

/-- A list that passes the validation has distinct names. -/
theorem PassesValidation.nodup (h : PassesValidation env list) :
    (list.map ParameterValueStruct.parameterName).Nodup := by
  obtain ⟨⟨j, v⟩, hv, herr⟩ := Option.map_eq_some_iff.mp h.2
  exact nodup_of_validated hv herr

/-- **The request is atomic exactly if it does not come to the sets, or the last set does
not fail, or there is nothing to undo.** -/
theorem atomic_iff (env : SetEnv) (ops : AttributesCache C) (watched : CString → Bool)
    (answers : Nat → BusAnswer) (list : List ParameterValueStruct) (status : ParameterStatus)
    (w : SetWorld C) (hops : ops.Lawful watched) :
    (∃ r, setParameterValues env ops answers list status w = some r ∧ Atomic env ops list w r) ↔
      (PassesValidation env list → LastGroupFails list answers →
        NothingToUndo env ops watched answers list w) := by
  by_cases hvalid : PassesValidation env list
  · obtain ⟨faults, hr⟩ := setParameterValues_of_passes ops answers status w hvalid
    have herr : (applied env ops answers w faults (objectGroups list)).error = 0 ↔
        ¬LastGroupFails list answers := error_applied_eq_zero
    rw [hr]
    constructor
    · rintro ⟨r, h, hatomic⟩ - hlast
      obtain rfl := Option.some.inj h
      have hfault := fun hzero => herr.mp hzero hlast
      have hrestored := hatomic.restored hfault
      simp only [values_applied_apply] at hrestored
      refine ⟨fun p hp v hv => ?_, fun p hp hwatched => ?_⟩
      · have := hrestored p hp
        rw [hv, Option.getD_some] at this
        exact this.symm
      · have hcached := hatomic.cache hfault p.parameterName p.value
        dsimp only at hcached
        rw [cache_applied_eq, cached_foldl_of_mem hops hvalid.nodup hp hwatched,
          values_applied_apply, hrestored p hp] at hcached
        exact hcached (decide_eq_true rfl)
    · intro h
      refine ⟨_, rfl, fun hfault p hp => ?_, fun hfault name value hcached => ?_⟩
      · obtain ⟨hunchanged, -⟩ := h hvalid (not_not.mp fun hlast => hfault (herr.mpr hlast))
        dsimp only
        rw [values_applied_apply]
        rcases hlast : lastApplied env list answers p.parameterName with - | v
        · rfl
        · exact (hunchanged p hp v hlast).symm
      · obtain ⟨hunchanged, hold⟩ := h hvalid (not_not.mp fun hlast => hfault (herr.mpr hlast))
        dsimp only at hcached ⊢
        rw [cache_applied_eq] at hcached
        by_cases hname : ∃ p ∈ list, p.parameterName = name ∧ watched name = true
        · obtain ⟨p, hp, rfl, hwatched⟩ := hname
          rw [cached_foldl_of_mem hops hvalid.nodup hp hwatched] at hcached
          obtain rfl := of_decide_eq_true hcached
          refine (hold p hp hwatched).imp_right fun hvalue => ?_
          rw [values_applied_apply]
          rcases hlast : lastApplied env list answers p.parameterName with - | v
          · exact hvalue
          · exact (hunchanged p hp v hlast).symm.trans hvalue
        · rw [cached_foldl_of_forall hops fun p hp hpname => ?_] at hcached
          · exact Or.inl hcached
          · by_contra hwatched
            exact hname ⟨p, hp, hpname, by simpa using hwatched⟩
  · obtain ⟨error, faults, hr, -⟩ := setParameterValues_of_not_passes ops answers status w hvalid
    exact ⟨fun _ h => absurd h hvalid,
      fun _ => ⟨_, hr, fun _ _ _ => rfl, fun _ _ _ hcached => Or.inl hcached⟩⟩

/-! ### Two objects -/

/-- A device that describes every object with the one parameter `Enable`. -/
def plainEnv : SetEnv where
  checkSystem := true
  supportedParams := fun _ => some [⟨"Enable".toList, .bool, true⟩]
  isSearchPath := fun _ => false
  verifyParameterType := true
  acceptUnsignedIntAsBoolean := false
  isSetAllowed := fun _ _ => true
  resolve := id

/-- A cache that holds the last value of every name. -/
def plainCache : AttributesCache (CString → Option CString) where
  addCachedValue := fun c name value => Function.update c name (some value)
  valueWasCached := fun c name value => c name = some value

theorem plainCache_lawful : plainCache.Lawful fun _ => true := by
  refine ⟨fun c name value name' value' => ?_⟩
  by_cases h : name' = name
  · subst h
    simp [plainCache, eq_comm]
  · simp [plainCache, h]

/-- A request that switches on two objects. -/
def enableBoth : List ParameterValueStruct :=
  [⟨"Device.Time.Enable".toList, "1".toList, .boolean⟩,
    ⟨"Device.UPnP.Enable".toList, "1".toList, .boolean⟩]

/-- Everything is off, and nothing is cached. -/
def allOff : SetWorld (CString → Option CString) := ⟨fun _ => "0".toList, fun _ => none⟩

/-- The bus refuses the set with the given number. -/
def refuses (k : Nat) : Nat → BusAnswer := fun n => if n = k then .failed [] [] else .ok

/-- With the second set refused, the request returns a fault as it should. -/
theorem setsReported_iff_secondRefused : PassesValidation plainEnv enableBoth ∧
    ((∃ r, setParameterValues plainEnv plainCache (refuses 1) enableBoth .undefined allOff =
          some r ∧ SetsReported enableBoth (refuses 1) r) ↔
      (SomeGroupFails enableBoth (refuses 1) → LastGroupFails enableBoth (refuses 1))) :=
  ⟨by decide, setsReported_iff plainEnv plainCache (refuses 1) enableBoth .undefined allOff
    (by decide)⟩

/-- With the first set refused, the request returns success. -/
theorem firstRefused_unreported :
    ¬∀ (env : SetEnv) (ops : AttributesCache (CString → Option CString))
      (answers : Nat → BusAnswer) (list : List ParameterValueStruct)
      (status : ParameterStatus) (w : SetWorld (CString → Option CString)),
      PassesValidation env list →
        ∃ r, setParameterValues env ops answers list status w = some r ∧
          SetsReported list answers r := by
  intro h
  obtain ⟨r, hr, hreported⟩ :=
    h plainEnv plainCache (refuses 0) enableBoth .undefined allOff (by decide)
  have hzero : (setParameterValues plainEnv plainCache (refuses 0) enableBoth .undefined
      allOff).map SetResult.error = some 0 := by decide
  rw [hr] at hzero
  exact (hreported.fault ⟨0, by decide, by decide⟩).1 (Option.some.inj hzero)

/-- With the second set refused, the first object stays switched on, and what was to be
done to the second one is cached. -/
theorem atomic_iff_secondRefused : plainCache.Lawful (fun _ => true) ∧
    ((∃ r, setParameterValues plainEnv plainCache (refuses 1) enableBoth .undefined allOff =
          some r ∧ Atomic plainEnv plainCache enableBoth allOff r) ↔
      (PassesValidation plainEnv enableBoth → LastGroupFails enableBoth (refuses 1) →
        NothingToUndo plainEnv plainCache (fun _ => true) (refuses 1) enableBoth allOff)) :=
  ⟨plainCache_lawful, atomic_iff plainEnv plainCache (fun _ => true) (refuses 1) enableBoth
    .undefined allOff plainCache_lawful⟩

/-- So that request is not atomic. -/
theorem secondRefused_not_atomic :
    ¬∀ (env : SetEnv) (ops : AttributesCache (CString → Option CString))
      (watched : CString → Bool) (answers : Nat → BusAnswer)
      (list : List ParameterValueStruct) (status : ParameterStatus)
      (w : SetWorld (CString → Option CString)), ops.Lawful watched →
        ∃ r, setParameterValues env ops answers list status w = some r ∧
          Atomic env ops list w r := by
  intro h
  obtain ⟨r, hr, hatomic⟩ := h plainEnv plainCache (fun _ => true) (refuses 1) enableBoth
    .undefined allOff plainCache_lawful
  have hrun : (setParameterValues plainEnv plainCache (refuses 1) enableBoth .undefined
      allOff).map (fun r => (r.error, r.world.values "Device.Time.Enable".toList)) =
        some (9003, "1".toList) := by decide
  rw [hr] at hrun
  obtain ⟨herr, hvalue⟩ := Prod.mk.inj (Option.some.inj hrun)
  have hrestored := hatomic.restored (by rw [herr]; decide)
    ⟨"Device.Time.Enable".toList, "1".toList, .boolean⟩ (by simp [enableBoth])
  exact absurd (hvalue.symm.trans hrestored) (by decide)

end Tr069
