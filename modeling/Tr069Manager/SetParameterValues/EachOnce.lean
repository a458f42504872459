import Tr069Manager.SetParameterValues.Outcome

/-!
# Every entry is set once

The loop over the objects and the loop over the entries of one object share an index, which
the inner one moves on and takes back by one. What comes of it for the bus is that the sets
are the maximal runs of consecutive entries of one object, in the order of the list: read
one after the other they are the list (`applied_once`).

The parameters of a set are a hash table on the bus, to which a key that is there already
cannot be added. So that no value is lost it takes that the validation let no name pass
twice: within one object, two entries with the same parameter would have the same name.
-/

namespace Tr069

/-! ### What the sets should be -/

/-- What a set carries: for every value the object and the parameter it goes to. -/
def BusSet.entries (set : BusSet) : List (CString × CString × CString) :=
  set.parameters.map fun e => (set.object, e.1, e.2)

/-- The set carries a run of entries of its object, under different keys. -/
structure CarriesRun (run : List ParameterValueStruct) (set : BusSet) : Prop where
  ne_nil : run ≠ []
  object : ∀ p ∈ run, amxdPathGet p.parameterName = set.object
  parameters : set.parameters = run.map fun p => (amxdPathGetParam p.parameterName, p.value)
  keys : (set.parameters.map Prod.fst).Nodup

/-- **What the sets should be**: the list cut where the object changes, one set for every
piece, and in them every entry once, addressed to its own object and parameter. -/
structure SetsEachOnce (list : List ParameterValueStruct) (sets : List BusSet) : Prop where
  runs : ∃ runs, runs.flatten = list ∧ List.Forall₂ CarriesRun runs sets ∧
    runs.IsChain fun run next => ∀ p ∈ run, ∀ q ∈ next, sameObject p q = false
  entries : sets.flatMap BusSet.entries = list.map fun p =>
    (amxdPathGet p.parameterName, amxdPathGetParam p.parameterName, p.value)

variable {C : Type*} {env : SetEnv} {ops : AttributesCache C} {answers : Nat → BusAnswer}
variable {list : List ParameterValueStruct} {w : SetWorld C}
variable {faults : List SetParameterValuesFault}
variable {groups : List (List ParameterValueStruct)} {group : List ParameterValueStruct}

/-! ### The groups and their sets -/

/-- The set of a group. -/
def groupSet : List ParameterValueStruct → BusSet
  | [] => ⟨[], []⟩
  | p :: rest =>
    ⟨amxdPathGet p.parameterName,
      (p :: rest).map fun q => (amxdPathGetParam q.parameterName, q.value)⟩

/-- The sets issued are those of the groups, in order, whatever the answers. -/
theorem sets_applied (hne : ∀ group ∈ groups, group ≠ []) :
    (applied env ops answers w faults groups).sets = groups.map groupSet := by
  induction groups using List.reverseRecOn with
  | nil => rfl
  | append_singleton groups group ih =>
    have hbefore := ih fun g hg => hne g (List.mem_append_left _ hg)
    obtain ⟨p, rest, rfl⟩ := List.exists_cons_of_ne_nil (hne group (by simp))
    rw [applied_concat, applyGroup, sendSet, List.map_append, ← hbefore]
    split <;> rfl

/-- Two entries with the same object and the same parameter have the same name. -/
theorem parameterName_ext {p q : ParameterValueStruct}
    (hobject : amxdPathGet p.parameterName = amxdPathGet q.parameterName)
    (hparam : amxdPathGetParam p.parameterName = amxdPathGetParam q.parameterName) :
    p.parameterName = q.parameterName := by
  rw [← amxdPathGet_append p.parameterName, ← amxdPathGet_append q.parameterName, hobject, hparam]

/-- The names of a group are distinct if those of the list are. -/
theorem nodup_group (hnodup : (list.map ParameterValueStruct.parameterName).Nodup)
    (hgroup : group ∈ objectGroups list) :
    (group.map ParameterValueStruct.parameterName).Nodup := by
  have hsub : group.Sublist list := by
    have h := List.sublist_flatten_of_mem hgroup
    rwa [objectGroups, List.flatten_splitBy] at h
  exact hnodup.sublist (hsub.map _)

/-- **The set of a group carries it.** -/
theorem carriesRun_groupSet (hnodup : (list.map ParameterValueStruct.parameterName).Nodup)
    (hgroup : group ∈ objectGroups list) : CarriesRun group (groupSet group) := by
  have hne := objectGroups_ne_nil group hgroup
  have hnames := nodup_group hnodup hgroup
  obtain ⟨p, rest, rfl⟩ := List.exists_cons_of_ne_nil hne
  have hobject : ∀ q ∈ p :: rest, amxdPathGet q.parameterName = amxdPathGet p.parameterName :=
    fun q hq => object_eq_of_mem_group hgroup hq List.mem_cons_self
  refine ⟨hne, hobject, rfl, ?_⟩
  rw [groupSet, List.map_map]
  -- a parameter that is there twice is a name that is there twice
  refine List.Nodup.map_on (fun x hx y hy hxy => ?_) hnames.of_map
  have hname : x.parameterName = y.parameterName :=
    parameterName_ext ((hobject x hx).trans (hobject y hy).symm) hxy
  exact List.inj_on_of_nodup_map hnames hx hy hname

/-- Where one group ends and the next begins the object changes. -/
theorem isChain_objectGroups : (objectGroups list).IsChain fun run next =>
    ∀ p ∈ run, ∀ q ∈ next, sameObject p q = false := by
  have hchain := List.isChain_getLast_head_splitBy sameObject list
  refine List.IsChain.imp_of_mem_imp ?_ hchain
  rintro run next hrun hnext ⟨hne, hne', hcut⟩ p hp q hq
  have hlast := object_eq_of_mem_group hrun hp (List.getLast_mem hne)
  have hhead := object_eq_of_mem_group hnext hq (List.head_mem hne')
  refine decide_eq_false fun hpq => of_decide_eq_false hcut ?_
  rw [← hlast, ← hhead]
  exact hpq

/-- The sets of the groups carry every entry once. -/
theorem setsEachOnce_groupSet (hnodup : (list.map ParameterValueStruct.parameterName).Nodup) :
    SetsEachOnce list ((objectGroups list).map groupSet) := by
  have hflatten : (objectGroups list).flatten = list := List.flatten_splitBy _ _
  refine ⟨⟨objectGroups list, hflatten, ?_, isChain_objectGroups⟩, ?_⟩
  · exact List.forall₂_map_right_iff.mpr
      (List.forall₂_same.mpr fun _ hgroup => carriesRun_groupSet hnodup hgroup)
  · have hentries : ∀ group ∈ objectGroups list, (groupSet group).entries = group.map fun p =>
        (amxdPathGet p.parameterName, amxdPathGetParam p.parameterName, p.value) := by
      intro group hgroup
      obtain ⟨-, hobject, hparams, -⟩ := carriesRun_groupSet hnodup hgroup
      rw [BusSet.entries, hparams, List.map_map]
      exact List.map_congr_left fun p hp => by rw [Function.comp_apply, hobject p hp]
    rw [List.flatMap_map, List.flatMap_congr hentries, ← List.map_flatMap, List.flatMap_id',
      hflatten]

/-- **The apply loop sets every entry of a validated list once**, in one set for every
maximal run of entries of one object, and ends just past the list, for all answers of the
bus; and these are the sets of the request. -/
theorem applied_once (env : SetEnv) (ops : AttributesCache C) (answers : Nat → BusAnswer)
    (list : List ParameterValueStruct) (status : ParameterStatus) (w : SetWorld C)
    (hvalid : PassesValidation env list) :
    (∀ faults, ∃ s, applyAll env ops answers list ⟨0, faults, w, []⟩ = some (list.length, s) ∧
        SetsEachOnce list s.sets) ∧
      ∃ r, setParameterValues env ops answers list status w = some r ∧
        SetsEachOnce list r.sets := by
  have honce : ∀ faults,
      SetsEachOnce list (applied env ops answers w faults (objectGroups list)).sets := by
    intro faults
    rw [sets_applied objectGroups_ne_nil]
    exact setsEachOnce_groupSet hvalid.nodup
  refine ⟨fun faults => ⟨_, applyAll_eq, honce faults⟩, ?_⟩
  obtain ⟨faults, hr⟩ := setParameterValues_of_passes ops answers status w hvalid
  exact ⟨_, hr, honce faults⟩

/-- Two objects take two sets. -/
theorem applied_once_enableBoth : PassesValidation plainEnv enableBoth ∧
    (∀ faults, ∃ s, applyAll plainEnv plainCache (refuses 1) enableBoth
          ⟨0, faults, allOff, []⟩ = some (enableBoth.length, s) ∧
        SetsEachOnce enableBoth s.sets) ∧
      ∃ r, setParameterValues plainEnv plainCache (refuses 1) enableBoth .undefined allOff =
          some r ∧ SetsEachOnce enableBoth r.sets :=
  ⟨by decide, applied_once plainEnv plainCache (refuses 1) enableBoth .undefined allOff
    (by decide)⟩

end Tr069
