import Mathlib.Data.List.Induction
import Mathlib.Data.List.SplitBy
import Mathlib.Logic.Function.Basic
import Tr069Manager.SetParameterValues.Validate

/-!
# The sets of the request

After the validation `DM_ENG_Device_SetParameterValues` goes through the list once more:
`DM_ENG_Device_SetParameterValues_SetValues` takes the entries of one object, hands each of
them to the cache and sends them to the bus in one set. Seen from outside, the loop runs
over the groups of the list – the maximal runs of entries of one object – in order
(`applyAll_eq`).

The bus may answer every set as it likes; a set that fails changes nothing, and one that
does not gives every parameter its value.
-/

namespace Tr069

variable {C : Type*}

/-! ### The source -/

/-- The loop over the entries of one object, at an index with the entries from there on:
the index, the cache, and the parameters of the set. -/
def setValuesWhile (ops : AttributesCache C) (object : CString) :
    List ParameterValueStruct → Nat → C → List (CString × CString) →
      Nat × C × List (CString × CString)
  | [], i, cache, set => (i - 1, cache, set)
  | p :: rest, i, cache, set =>
    let cache := ops.addCachedValue cache p.parameterName p.value
    let set := set ++ [(amxdPathGetParam p.parameterName, p.value)]
    match rest with
    | [] => (i, cache, set)
    | q :: _ =>
      if amxdPathGet q.parameterName = object then
        setValuesWhile ops object rest (i + 1) cache set
      else (i, cache, set)

/-- A successful bus set: every parameter gets its value. -/
def BusSet.write (env : SetEnv) (values : CString → CString) (set : BusSet) :
    CString → CString :=
  set.parameters.foldl
    (fun values e => Function.update values (env.resolve (set.object ++ e.1)) e.2) values

/-- `tr069_spv_build_spv_faults`: a fault for every parameter the answer names. -/
def buildSpvFaults (object : CString) (errors : List (CString × AmxdStatus)) :
    List SetParameterValuesFault :=
  (errors.filter fun e => e.1 ≠ []).map fun e => ⟨object ++ e.1, amxdStatusToSpvFaultCode e.2⟩

/-- What the loop over the objects carries: the result variable, the faults, the stores,
and the sets issued. -/
structure ApplyState (C : Type*) where
  error : Int
  faults : List SetParameterValuesFault
  world : SetWorld C
  sets : List BusSet

/-- `amxb_set`, and what becomes of its answer. -/
def sendSet (env : SetEnv) (answers : Nat → BusAnswer) (s : ApplyState C) (cache : C)
    (set : BusSet) : ApplyState C :=
  match answers s.sets.length with
  | .ok =>
    { s with error := 0, world := ⟨set.write env s.world.values, cache⟩, sets := s.sets ++ [set] }
  | .failed object errors =>
    { error := invalidArguments, faults := s.faults ++ buildSpvFaults object errors
      world := ⟨s.world.values, cache⟩, sets := s.sets ++ [set] }

/-- `DM_ENG_Device_SetParameterValues_SetValues`, with its result put into the variable of
the caller. -/
def setValues (env : SetEnv) (ops : AttributesCache C) (answers : Nat → BusAnswer)
    (list : List ParameterValueStruct) (i : Nat) (s : ApplyState C) : Nat × ApplyState C :=
  match list.drop i with
  | [] => (i, s)
  | p :: rest =>
    let object := amxdPathGet p.parameterName
    let (j, cache, set) := setValuesWhile ops object (p :: rest) i s.world.cache []
    (j, sendSet env answers s cache ⟨object, set⟩)

/-- The loop over the objects. -/
def applyAll (env : SetEnv) (ops : AttributesCache C) (answers : Nat → BusAnswer)
    (list : List ParameterValueStruct) (s : ApplyState C) : Option (Nat × ApplyState C) :=
  indexLoop list.length (setValues env ops answers list) list.length 0 s

/-- What the request returns and leaves. -/
structure SetResult (C : Type*) where
  error : Int
  status : ParameterStatus
  faults : List SetParameterValuesFault
  world : SetWorld C
  sets : List BusSet

/-- `DM_ENG_Device_SetParameterValues`, with the status the caller put in. -/
def setParameterValues (env : SetEnv) (ops : AttributesCache C) (answers : Nat → BusAnswer)
    (list : List ParameterValueStruct) (status : ParameterStatus) (w : SetWorld C) :
    Option (SetResult C) :=
  if env.checkSystem = false then some ⟨internalError, status, [], w, []⟩
  else
    (validateAll env list).bind fun (_, v) =>
      if v.error ≠ 0 then some ⟨v.error, status, v.faults, w, []⟩
      else
        (applyAll env ops answers list ⟨0, v.faults, w, []⟩).map fun (_, s) =>
          { error := s.error, status := if s.error = 0 then .applied else .undefined
            faults := s.faults, world := s.world, sets := s.sets }

/-- The lists the request comes to the sets with. -/
def PassesValidation (env : SetEnv) (list : List ParameterValueStruct) : Prop :=
  env.checkSystem = true ∧ (validateAll env list).map (fun r => r.2.error) = some 0

instance (env : SetEnv) (list : List ParameterValueStruct) :
    Decidable (PassesValidation env list) :=
  inferInstanceAs (Decidable (_ ∧ _))

/-! ### The groups of the list -/

/-- Two entries of one object. -/
def sameObject (p q : ParameterValueStruct) : Bool :=
  amxdPathGet p.parameterName = amxdPathGet q.parameterName

/-- The maximal runs of entries of one object. -/
def objectGroups (list : List ParameterValueStruct) : List (List ParameterValueStruct) :=
  list.splitBy sameObject

/-- The first group, and the others. -/
theorem objectGroups_cons (p : ParameterValueStruct) (rest : List ParameterValueStruct) :
    objectGroups (p :: rest) =
      (p :: rest.takeWhile (sameObject p)) :: objectGroups (rest.dropWhile (sameObject p)) := by
  have hobj : ∀ x ∈ p :: rest.takeWhile (sameObject p), sameObject p x = true := by
    intro x hx
    rcases List.mem_cons.mp hx with rfl | hx
    · exact decide_eq_true rfl
    · exact List.mem_takeWhile_imp hx
  have hone : (p :: rest.takeWhile (sameObject p)).splitBy sameObject =
      [p :: rest.takeWhile (sameObject p)] := by
    refine List.splitBy_of_isChain (List.cons_ne_nil _ _) ?_
    refine (List.pairwise_iff_forall_sublist.mpr fun {x y} hxy => ?_).isChain
    have hx := of_decide_eq_true (hobj x (hxy.subset (by simp)))
    have hy := of_decide_eq_true (hobj y (hxy.subset (by simp)))
    exact decide_eq_true (hx.symm.trans hy)
  have hcut : ∀ x ∈ (p :: rest.takeWhile (sameObject p)).getLast?,
      ∀ y ∈ (rest.dropWhile (sameObject p)).head?, sameObject x y = false := by
    intro x hx y hy
    have hpx := of_decide_eq_true (hobj x (List.mem_of_getLast? hx))
    have hpy : sameObject p y = false := by
      have := List.head?_dropWhile_not (sameObject p) rest
      rw [hy] at this
      exact this
    refine decide_eq_false fun hxy => ?_
    exact of_decide_eq_false hpy (hpx.trans hxy)
  have hsplit := List.splitBy_append hcut
  rw [List.cons_append, List.takeWhile_append_dropWhile, hone] at hsplit
  exact hsplit

/-- What the call makes of a group. -/
def applyGroup (env : SetEnv) (ops : AttributesCache C) (answers : Nat → BusAnswer)
    (s : ApplyState C) (group : List ParameterValueStruct) : ApplyState C :=
  match group with
  | [] => s
  | p :: _ =>
    sendSet env answers s
      (group.foldl (fun c q => ops.addCachedValue c q.parameterName q.value) s.world.cache)
      ⟨amxdPathGet p.parameterName,
        group.map fun q => (amxdPathGetParam q.parameterName, q.value)⟩

variable {env : SetEnv} {ops : AttributesCache C} {answers : Nat → BusAnswer}
variable {list rest : List ParameterValueStruct} {i fuel : Nat} {s : ApplyState C}
variable {p : ParameterValueStruct}

theorem setValuesWhile_eq (p : ParameterValueStruct) {q : ParameterValueStruct} {cache : C}
    {set : List (CString × CString)} :
    setValuesWhile ops (amxdPathGet p.parameterName) (q :: rest) i cache set =
      (i + (rest.takeWhile (sameObject p)).length,
        (q :: rest.takeWhile (sameObject p)).foldl
          (fun c r => ops.addCachedValue c r.parameterName r.value) cache,
        set ++ (q :: rest.takeWhile (sameObject p)).map fun r =>
          (amxdPathGetParam r.parameterName, r.value)) := by
  induction rest generalizing q i cache set with
  | nil => rfl
  | cons r rest ih =>
    rw [setValuesWhile]
    split_ifs with hobj
    · have hsame : sameObject p r = true := decide_eq_true hobj.symm
      rw [ih, List.takeWhile_cons, if_pos hsame]
      simp [Nat.add_assoc, Nat.add_comm 1]
    · have hsame : sameObject p r = false := decide_eq_false fun h => hobj h.symm
      rw [List.takeWhile_cons, if_neg (by rw [hsame]; exact Bool.false_ne_true)]
      rfl

/-- **A call takes the next group of the list.** -/
theorem setValues_eq (hdrop : list.drop i = p :: rest) :
    setValues env ops answers list i s =
      (i + (rest.takeWhile (sameObject p)).length,
        applyGroup env ops answers s (p :: rest.takeWhile (sameObject p))) := by
  rw [setValues, hdrop]
  dsimp only
  rw [setValuesWhile_eq p]
  rfl

/-- **The loop goes through the groups in order**, and ends just past the list. -/
theorem applyLoop_eq (hi : i ≤ list.length) (hfuel : list.length - i ≤ fuel) :
    indexLoop list.length (setValues env ops answers list) fuel i s =
      some (list.length,
        (objectGroups (list.drop i)).foldl (applyGroup env ops answers) s) := by
  induction fuel generalizing i s with
  | zero =>
    obtain rfl : i = list.length := by omega
    rw [indexLoop, if_neg (lt_irrefl _), List.drop_length]
    rfl
  | succ fuel ih =>
    by_cases hlt : i < list.length
    · obtain ⟨p, rest, hdrop⟩ : ∃ p rest, list.drop i = p :: rest :=
        ⟨_, _, List.drop_eq_getElem_cons hlt⟩
      have hsplit := List.takeWhile_append_dropWhile (p := sameObject p) (l := rest)
      have hlen : list.length = i + 1 + rest.length := by
        have := congrArg List.length hdrop
        rw [List.length_drop, List.length_cons] at this
        omega
      have hle := congrArg List.length hsplit
      rw [List.length_append] at hle
      have hrest : list.drop (i + (rest.takeWhile (sameObject p)).length + 1) =
          rest.dropWhile (sameObject p) := by
        rw [Nat.add_right_comm, ← List.drop_drop, drop_succ hdrop]
        exact (congrArg (List.drop _) hsplit.symm).trans List.drop_left
      rw [indexLoop, if_pos hlt, setValues_eq hdrop, ih (by omega) (by omega), hdrop,
        objectGroups_cons, List.foldl_cons, hrest]
    · obtain rfl : i = list.length := by omega
      rw [indexLoop, if_neg hlt, List.drop_length]
      rfl

theorem applyAll_eq :
    applyAll env ops answers list s =
      some (list.length, (objectGroups list).foldl (applyGroup env ops answers) s) :=
  applyLoop_eq (Nat.zero_le _) (Nat.sub_le _ _)

/-! ### What the request returns -/

/-- The state the loop over the objects ends in, from the first set on. -/
def applied (env : SetEnv) (ops : AttributesCache C) (answers : Nat → BusAnswer)
    (w : SetWorld C) (faults : List SetParameterValuesFault)
    (groups : List (List ParameterValueStruct)) : ApplyState C :=
  groups.foldl (applyGroup env ops answers) ⟨0, faults, w, []⟩

variable {w : SetWorld C} {faults : List SetParameterValuesFault}
variable {groups : List (List ParameterValueStruct)} {group : List ParameterValueStruct}

theorem applied_concat :
    applied env ops answers w faults (groups ++ [group]) =
      applyGroup env ops answers (applied env ops answers w faults groups) group := by
  rw [applied, List.foldl_append]
  rfl

/-- One set for every group. -/
theorem length_sets_applied (hne : ∀ group ∈ groups, group ≠ []) :
    (applied env ops answers w faults groups).sets.length = groups.length := by
  induction groups using List.reverseRecOn with
  | nil => rfl
  | append_singleton groups group ih =>
    have hbefore := ih fun g hg => hne g (List.mem_append_left _ hg)
    obtain ⟨p, rest, rfl⟩ := List.exists_cons_of_ne_nil (hne group (by simp))
    rw [applied_concat, applyGroup, sendSet]
    split <;> simp [hbefore]

/-- **The result is that of the last set**, whatever the ones before it did. -/
theorem error_applied_concat (hne : ∀ g ∈ groups ++ [group], g ≠ []) :
    (applied env ops answers w faults (groups ++ [group])).error =
      if answers groups.length = .ok then 0 else invalidArguments := by
  have hlen : (applied env ops answers w faults groups).sets.length = groups.length :=
    length_sets_applied fun g hg => hne g (List.mem_append_left _ hg)
  obtain ⟨p, rest, rfl⟩ := List.exists_cons_of_ne_nil (hne group (by simp))
  rw [applied_concat, applyGroup, sendSet, hlen]
  split
  · next hok => rw [if_pos hok]
  · next object errors hfailed => rw [hfailed, if_neg (by simp)]

theorem objectGroups_ne_nil : ∀ group ∈ objectGroups list, group ≠ [] :=
  fun _ => List.ne_nil_of_mem_splitBy

/-- The request on a list that passes the validation. -/
theorem setParameterValues_of_passes (ops : AttributesCache C) (answers : Nat → BusAnswer)
    (status : ParameterStatus) (w : SetWorld C) (h : PassesValidation env list) : ∃ faults,
      setParameterValues env ops answers list status w =
        some
          { error := (applied env ops answers w faults (objectGroups list)).error
            status := if (applied env ops answers w faults (objectGroups list)).error = 0
              then .applied else .undefined
            faults := (applied env ops answers w faults (objectGroups list)).faults
            world := (applied env ops answers w faults (objectGroups list)).world
            sets := (applied env ops answers w faults (objectGroups list)).sets } := by
  obtain ⟨hsystem, hvalid⟩ := h
  obtain ⟨⟨j, v⟩, hv, herr⟩ := Option.map_eq_some_iff.mp hvalid
  refine ⟨v.faults, ?_⟩
  rw [setParameterValues, if_neg (by simp [hsystem]), hv,
    Option.bind_some]
  dsimp only at herr ⊢
  rw [if_neg (not_not_intro herr), applyAll_eq]
  rfl

/-- A request that does not come to the sets changes nothing, and sends nothing. -/
theorem setParameterValues_of_not_passes (ops : AttributesCache C) (answers : Nat → BusAnswer)
    (status : ParameterStatus) (w : SetWorld C) (h : ¬PassesValidation env list) : ∃ error faults,
      setParameterValues env ops answers list status w =
        some ⟨error, status, faults, w, []⟩ ∧ error ≠ 0 := by
  rw [setParameterValues]
  by_cases hsystem : env.checkSystem = false
  · rw [if_pos hsystem]
    exact ⟨internalError, [], rfl, by decide⟩
  · obtain ⟨⟨j, v⟩, hv⟩ := validateAll_ends env list
    have herr : v.error ≠ 0 := by
      intro hzero
      refine h ⟨by simpa using hsystem, ?_⟩
      rw [hv, Option.map_some, hzero]
    rw [if_neg hsystem, hv, Option.bind_some]
    dsimp only
    rw [if_pos herr]
    exact ⟨v.error, v.faults, rfl, herr⟩

/-! ### What the sets leave -/

/-- The entries whose groups were set. -/
def appliedEntries (answers : Nat → BusAnswer) (groups : List (List ParameterValueStruct)) :
    List ParameterValueStruct :=
  (groups.zipIdx.filter fun g => answers g.2 = .ok).flatMap Prod.fst

/-- One parameter gets its value. -/
def writeEntry (env : SetEnv) (values : CString → CString) (p : ParameterValueStruct) :
    CString → CString :=
  Function.update values (env.resolve p.parameterName) p.value

/-- The entries of a group are of one object. -/
theorem object_eq_of_mem_group (hgroup : group ∈ objectGroups list) {p q : ParameterValueStruct}
    (hp : p ∈ group) (hq : q ∈ group) :
    amxdPathGet p.parameterName = amxdPathGet q.parameterName := by
  have hchain := List.isChain_of_mem_splitBy hgroup
  have hmap : (group.map fun p => amxdPathGet p.parameterName).IsChain (· = ·) :=
    (List.isChain_map _).mpr (hchain.imp fun _ _ h => of_decide_eq_true h)
  have hpair := List.isChain_iff_pairwise.mp hmap
  exact hpair.forall_of_forall (fun _ _ => rfl) (List.mem_map_of_mem hp)
    (List.mem_map_of_mem hq)

/-- A successful set of a group writes its entries one after the other. -/
theorem write_group {object : CString} {values : CString → CString}
    (hobj : ∀ q ∈ group, amxdPathGet q.parameterName = object) :
    BusSet.write env values
        ⟨object, group.map fun q => (amxdPathGetParam q.parameterName, q.value)⟩ =
      group.foldl (writeEntry env) values := by
  rw [BusSet.write]
  induction group generalizing values with
  | nil => rfl
  | cons q group ih =>
    have hq : object ++ amxdPathGetParam q.parameterName = q.parameterName := by
      rw [← hobj q List.mem_cons_self, amxdPathGet_append]
    rw [List.map_cons, List.foldl_cons, List.foldl_cons,
      ih fun r hr => hobj r (List.mem_cons_of_mem _ hr)]
    dsimp only
    rw [hq]
    rfl

/-- **The values after the sets** are those before, with the entries of the groups that
were set written over them. -/
theorem values_applied (hgroups : ∀ g ∈ groups, g ∈ objectGroups list) :
    (applied env ops answers w faults groups).world.values =
      (appliedEntries answers groups).foldl (writeEntry env) w.values := by
  induction groups using List.reverseRecOn with
  | nil => rfl
  | append_singleton groups group ih =>
    have hbefore := ih fun g hg => hgroups g (List.mem_append_left _ hg)
    have hmem := hgroups group (by simp)
    have hlen : (applied env ops answers w faults groups).sets.length = groups.length :=
      length_sets_applied fun g hg => objectGroups_ne_nil g (hgroups g (List.mem_append_left _ hg))
    obtain ⟨p, rest, rfl⟩ := List.exists_cons_of_ne_nil (objectGroups_ne_nil group hmem)
    rw [applied_concat, applyGroup, sendSet, hlen, appliedEntries, List.zipIdx_append,
      List.filter_append, List.flatMap_append, List.foldl_append, ← appliedEntries, ← hbefore]
    split
    · next hok =>
      rw [write_group fun q hq => object_eq_of_mem_group hmem hq List.mem_cons_self]
      simp [hok]
    · next hfailed => simp [hfailed]

/-- **The cache after the sets** has had all entries handed to it, whatever became of
their sets. -/
theorem cache_applied :
    (applied env ops answers w faults groups).world.cache =
      groups.flatten.foldl (fun c q => ops.addCachedValue c q.parameterName q.value) w.cache := by
  induction groups using List.reverseRecOn with
  | nil => rfl
  | append_singleton groups group ih =>
    rw [applied_concat, List.flatten_append, List.foldl_append, ← ih, List.flatten_singleton]
    rcases group with - | ⟨p, rest⟩
    · rfl
    · rw [applyGroup, sendSet]
      split <;> rfl

end Tr069
