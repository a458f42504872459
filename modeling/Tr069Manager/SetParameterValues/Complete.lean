import Mathlib.Data.List.Forall2
import Mathlib.Data.List.Range
import Tr069Manager.SetParameterValues.Examined
import Tr069Manager.SetParameterValues.Outcome

/-!
# The validation is complete

The loop over the objects and the loop over the parameters of one object share an index.
The inner loop moves it past every entry it lets pass, and takes it back by one where it
ends; at a fault it leaves it where the fault is. Either way the outer loop adds one and
goes on with the first entry not examined, so that the whole list is examined once, in
order, and every entry that is not valid has its fault (`examineAll_complete_iff`).

What carries the induction is that everything before the index is done (`DoneUpTo`), and a
remark on where calls begin (`BeginsCall`): after an entry that passed, the loop has already
looked at the path of the next one, so a call never begins with a malformed path there. In
the build with GSDM data this decides whether such an entry is refused with a fault or
without a defined outcome.
-/

namespace Tr069

/-! ### What holds of the whole list -/

/-- The fault of the entry at an index, if there is one. -/
def faultAt (env : SetEnv) (list : List ParameterValueStruct) (i : Nat) :
    List SetParameterValuesFault :=
  match list[i]? with
  | none => []
  | some p => ((entryFault env list i p).map fun code => ⟨p.parameterName, code⟩).toList

/-- The faults of the entries before an index. -/
def faultsUpTo (env : SetEnv) (list : List ParameterValueStruct) (i : Nat) :
    List SetParameterValuesFault :=
  (List.range i).flatMap (faultAt env list)

/-- A call may begin with the entry: it is the first one, or the one before has a fault, or
its path is well formed. -/
def BeginsCall (env : SetEnv) (list : List ParameterValueStruct) (i : Nat) : Prop :=
  i = 0 ∨ faultAt env list (i - 1) ≠ [] ∨
    ∀ p, list[i]? = some p → isValidPath p.parameterName = true

/-- The entry is refused for its path or its object, before its parameter is looked up. -/
def RefusedEarly (env : SetEnv) (p : ParameterValueStruct) : Prop :=
  isValidPath p.parameterName = false ∨
    (env.isSearchPath (amxdPathGet p.parameterName) = true ∧
      isValidAliasPath (amxdPathGet p.parameterName) = false) ∨
    env.supportedParams (amxdPathGet p.parameterName) = none

/-- The parameter of the entry is looked up with the null pointer. -/
def ComparesNull (build : Build) (env : SetEnv) (p : ParameterValueStruct) : Prop :=
  ¬RefusedEarly env p ∧ ∃ supported,
    env.supportedParams (amxdPathGet p.parameterName) = some supported ∧
    comparesNull build supported p = true

/-- **The entries at which the validation has no defined outcome**: those that a call begins
with and refuses where what the memory holds cannot be cleaned, and those looked up with
the null pointer. -/
def UndefinedAt (build : Build) (uninit : Nat → Bool) (env : SetEnv)
    (list : List ParameterValueStruct) (i : Nat) : Prop :=
  ∃ p, list[i]? = some p ∧
    ((RefusedEarly env p ∧ BeginsCall (build.env env) list i ∧ build = .gsdm ∧
        uninit i = false) ∨
      ComparesNull build env p)

/-- **What the validation should do**: examine every entry once, in order, report one fault
with its name for every entry that is not valid, and return 0 if there is none; and if it
does not return 0, there is no set. -/
structure Complete {C : Type*} (build : Build) (uninit : Nat → Bool) (env : SetEnv)
    (ops : AttributesCache C) (answers : Nat → BusAnswer) (list : List ParameterValueStruct)
    (status : ParameterStatus) (w : SetWorld C) (v : Examination) : Prop where
  examined : v.examined = List.range list.length
  faults : ∃ invalid : List Nat, invalid.Pairwise (· < ·) ∧
    (∀ i, i ∈ invalid ↔ ∃ p, list[i]? = some p ∧ ¬ValidEntry (build.env env) list i p) ∧
    List.Forall₂ (fun i fault => ∃ p, list[i]? = some p ∧ fault.parameterName = p.parameterName)
      invalid v.faults
  error_eq_zero : v.error = 0 ↔
    ∀ i p, list[i]? = some p → ValidEntry (build.env env) list i p
  noSet : v.error ≠ 0 → ∃ r,
    setParameterValuesOf build uninit env ops answers list status w = some r ∧ r.sets = []

variable {build : Build} {uninit : Nat → Bool} {env : SetEnv}
variable {list rest : List ParameterValueStruct} {i j : Nat} {object : CString}
variable {supported : List SupportedParam} {p q : ParameterValueStruct}
variable {faults : List SetParameterValuesFault} {seen : List Nat}

/-! ### The faults, entry by entry -/

theorem faultAt_of_some (hp : list[i]? = some p) : faultAt env list i =
    ((entryFault env list i p).map fun code => ⟨p.parameterName, code⟩).toList := by
  rw [faultAt, hp]

theorem faultAt_eq_nil (hp : list[i]? = some p) :
    faultAt env list i = [] ↔ ValidEntry env list i p := by
  rw [faultAt_of_some hp, ← entryFault_eq_none]
  simp

theorem faultsUpTo_succ :
    faultsUpTo env list (i + 1) = faultsUpTo env list i ++ faultAt env list i := by
  rw [faultsUpTo, List.range_succ, List.flatMap_append, List.flatMap_singleton, ← faultsUpTo]

theorem faultsUpTo_eq_nil :
    faultsUpTo env list i = [] ↔ ∀ k < i, faultAt env list k = [] := by
  simp [faultsUpTo, List.flatMap_eq_nil_iff]

/-- An entry refused early has the fault of an invalid name. -/
theorem RefusedEarly.entryFault (h : RefusedEarly env p) :
    entryFault env list i p = some invalidParameterName := by
  rw [Tr069.entryFault]
  split_ifs with hpath halias
  · rfl
  · rfl
  · rcases h with h | h | h
    · exact absurd h hpath
    · exact absurd h halias
    · rw [h]

/-- One that is not is checked against the description of its object. -/
theorem entryFault_of_not_refusedEarly (h : ¬RefusedEarly env p)
    (hsupported : env.supportedParams (amxdPathGet p.parameterName) = some supported) :
    entryFault env list i p = checkParameter env list supported i p := by
  rw [RefusedEarly, not_or, not_or] at h
  rw [entryFault, if_neg h.1, if_neg h.2.1, hsupported]

/-- The same in a build. -/
theorem entryFault_eq_checkParameter (hearly : ¬RefusedEarly env p)
    (hsupported : env.supportedParams (amxdPathGet p.parameterName) = some supported) :
    entryFault (build.env env) list i p =
      checkParameter (build.env env) list supported i p := by
  refine entryFault_of_not_refusedEarly ?_ (by rwa [Build.env_supportedParams])
  simpa only [RefusedEarly, Build.env_isSearchPath, Build.env_supportedParams] using hearly

/-! ### One call -/

/-- Everything before the index is done: the faults are those of the entries there, these
are the entries examined, and none of them was without a defined outcome. -/
structure DoneUpTo (build : Build) (uninit : Nat → Bool) (env : SetEnv)
    (list : List ParameterValueStruct) (i : Nat) (faults : List SetParameterValuesFault)
    (seen : List Nat) : Prop where
  le : i ≤ list.length
  faults : faults = faultsUpTo (build.env env) list i
  examined : seen = List.range i
  defined : ∀ k < i, ¬UndefinedAt build uninit env list k

/-- One more entry is done. -/
theorem DoneUpTo.succ (h : DoneUpTo build uninit env list i faults seen)
    (hp : list[i]? = some p) (hdefined : ¬UndefinedAt build uninit env list i) :
    DoneUpTo build uninit env list (i + 1)
      (faults ++ ((entryFault (build.env env) list i p).map
        fun code => ⟨p.parameterName, code⟩).toList) (seen ++ [i]) := by
  obtain ⟨hlt, -⟩ := List.getElem?_eq_some_iff.mp hp
  refine ⟨hlt, ?_, ?_, fun k hk => ?_⟩
  · rw [faultsUpTo_succ, h.faults, faultAt_of_some hp]
  · rw [h.examined, List.range_succ]
  · rcases Nat.lt_succ_iff_lt_or_eq.mp hk with hk | rfl
    · exact h.defined k hk
    · exact hdefined

/-- What a call leaves: nothing if an entry has no defined outcome, and otherwise everything
up to the index done, an error exactly if there are new faults, and a place where a call may
begin. -/
def CallSpec (build : Build) (uninit : Nat → Bool) (env : SetEnv)
    (list : List ParameterValueStruct) (i : Nat) (faults : List SetParameterValuesFault) :
    Option Examined → Prop
  | none => ∃ k, UndefinedAt build uninit env list k
  | some r => i ≤ r.index ∧
      DoneUpTo build uninit env list (r.index + 1) r.faults r.examined ∧
      (r.error = 0 ↔ r.faults = faults) ∧ BeginsCall (build.env env) list (r.index + 1)

/-- A call that ends with a fault. -/
theorem callSpec_fault {code : Int} (h : DoneUpTo build uninit env list i faults seen)
    (hp : list[i]? = some p) (hdefined : ¬UndefinedAt build uninit env list i)
    (hfault : entryFault (build.env env) list i p = some code) :
    CallSpec build uninit env list i faults
      (some ⟨i, invalidArguments, faults ++ [⟨p.parameterName, code⟩], seen ++ [i]⟩) := by
  have hdone := h.succ hp hdefined
  rw [hfault] at hdone
  refine ⟨le_refl _, hdone, ?_, Or.inr (Or.inl ?_)⟩
  · simp [invalidArguments]
  · rw [Nat.add_sub_cancel, faultAt_of_some hp, hfault]
    exact List.cons_ne_nil _ _

/-- A call that goes on behind an entry that passed. -/
theorem CallSpec.of_succ {r : Option Examined}
    (h : CallSpec build uninit env list (i + 1) faults r) :
    CallSpec build uninit env list i faults r := by
  rcases r with - | r
  · exact h
  · obtain ⟨hle, hrest⟩ := h
    exact ⟨(Nat.le_succ i).trans hle, hrest⟩

theorem getElem?_of_drop (hdrop : list.drop i = p :: rest) : list[i]? = some p := by
  rw [← List.head?_drop, hdrop, List.head?_cons]

/-- An entry whose parameter is looked up has a defined outcome unless the look-up is one
with the null pointer. -/
theorem not_undefinedAt (hp : list[i]? = some p) (hearly : ¬RefusedEarly env p)
    (hsupported : env.supportedParams (amxdPathGet p.parameterName) = some supported)
    (hnull : comparesNull build supported p = false) :
    ¬UndefinedAt build uninit env list i := by
  rintro ⟨p', hp', ⟨hrefused, -⟩ | ⟨-, supported', hsupported', hnull'⟩⟩
  · obtain rfl := Option.some.inj (hp.symm.trans hp')
    exact hearly hrefused
  · obtain rfl := Option.some.inj (hp.symm.trans hp')
    obtain rfl := Option.some.inj (hsupported.symm.trans hsupported')
    rw [hnull] at hnull'
    cases hnull'

/-- A malformed path is met by the loop behind an entry that passed. -/
theorem not_undefinedAt_next (hpass : faultAt (build.env env) list i = [])
    (hq : list[i + 1]? = some q) (hpath : isValidPath q.parameterName = false) :
    ¬UndefinedAt build uninit env list (i + 1) := by
  rintro ⟨q', hq', ⟨-, hbegins, -⟩ | ⟨hearly, -⟩⟩
  · obtain h | h | h := hbegins
    · cases h
    · exact h hpass
    · have := h q hq
      rw [hpath] at this
      cases this
  · obtain rfl := Option.some.inj (hq.symm.trans hq')
    exact hearly (Or.inl hpath)

/-- A call that ends behind an entry that passed, where the path of the next one is well
formed. -/
theorem callSpec_pass (h : DoneUpTo build uninit env list (i + 1) faults seen)
    (hnext : ∀ q, list[i + 1]? = some q → isValidPath q.parameterName = true) :
    CallSpec build uninit env list i faults (some ⟨i, 0, faults, seen⟩) :=
  ⟨le_refl _, h, by simp, Or.inr (Or.inr hnext)⟩

/-- An entry of an object that was found is not refused early if its path is well formed. -/
theorem not_refusedEarly (hearly : ¬RefusedEarly env p)
    (hobject : amxdPathGet q.parameterName = amxdPathGet p.parameterName)
    (hpath : isValidPath q.parameterName = true) : ¬RefusedEarly env q := by
  rw [RefusedEarly, hobject]
  rintro (h | h)
  · rw [hpath] at h
    cases h
  · exact hearly (Or.inr h)

/-- One entry of an object that was found: it has no defined outcome, or a fault, or the
call goes on behind it. -/
theorem callSpec_entry {next : Option Examined} (hp : list[i]? = some p)
    (hsupported : env.supportedParams (amxdPathGet p.parameterName) = some supported)
    (hearly : ¬RefusedEarly env p) (h : DoneUpTo build uninit env list i faults seen)
    (hnext : DoneUpTo build uninit env list (i + 1) faults (seen ++ [i]) →
      faultAt (build.env env) list i = [] → CallSpec build uninit env list i faults next) :
    CallSpec build uninit env list i faults
      (if comparesNull build supported p then none
      else
        match checkParameter (build.env env) list supported i p with
        | some code =>
          some ⟨i, invalidArguments, faults ++ [⟨p.parameterName, code⟩], seen ++ [i]⟩
        | none => next) := by
  by_cases hnull : comparesNull build supported p = true
  · rw [if_pos hnull]
    exact ⟨i, p, hp, Or.inr ⟨hearly, supported, hsupported, hnull⟩⟩
  · rw [if_neg hnull]
    have hdefined : ¬UndefinedAt build uninit env list i :=
      not_undefinedAt hp hearly hsupported (Bool.not_eq_true _ ▸ hnull)
    have hcheck : entryFault (build.env env) list i p =
        checkParameter (build.env env) list supported i p :=
      entryFault_eq_checkParameter hearly hsupported
    rw [← hcheck]
    rcases hfault : entryFault (build.env env) list i p with - | code
    · have hdone := h.succ hp hdefined
      rw [hfault, Option.map_none, Option.toList_none, List.append_nil] at hdone
      exact hnext hdone ((faultAt_eq_nil hp).mpr (entryFault_eq_none.mp hfault))
    · exact callSpec_fault h hp hdefined hfault

/-- **The loop over the parameters of one object** does what a call should. -/
theorem examineWhile_spec (hdrop : list.drop i = p :: rest)
    (hobject : amxdPathGet p.parameterName = object)
    (hsupported : env.supportedParams object = some supported)
    (hearly : ¬RefusedEarly env p) (h : DoneUpTo build uninit env list i faults seen) :
    CallSpec build uninit env list i faults
      (examineWhile build env list object supported (p :: rest) i faults seen) := by
  induction rest generalizing i p faults seen with
  | nil =>
    refine callSpec_entry (getElem?_of_drop hdrop) (hobject ▸ hsupported) hearly h
      fun hdone _ => callSpec_pass hdone fun q hq => ?_
    -- there is no next entry
    rw [← List.head?_drop, drop_succ hdrop] at hq
    cases hq
  | cons q rest ih =>
    have hdrop' := drop_succ hdrop
    have hq := getElem?_of_drop hdrop'
    refine callSpec_entry (getElem?_of_drop hdrop) (hobject ▸ hsupported) hearly h
      fun hdone hpass => ?_
    dsimp only
    split_ifs with hpath hsame
    · have hrefused : RefusedEarly (build.env env) q := Or.inl hpath
      have hfault := callSpec_fault hdone hq (not_undefinedAt_next hpass hq hpath)
        hrefused.entryFault
      rw [List.append_assoc] at hfault
      exact hfault.of_succ
    · have hpath' : isValidPath q.parameterName = true := by simpa using hpath
      exact (ih hdrop' hsame (not_refusedEarly hearly (hsame.trans hobject.symm) hpath')
        hdone).of_succ
    · refine callSpec_pass hdone fun q' hq' => ?_
      obtain rfl := Option.some.inj (hq.symm.trans hq')
      simpa using hpath

/-- **A call** does what it should, if it begins where a call may begin. -/
theorem examine_spec (hi : i < list.length) (hbegins : BeginsCall (build.env env) list i)
    (h : DoneUpTo build uninit env list i faults seen) :
    CallSpec build uninit env list i faults
      (examine build uninit env list i faults seen) := by
  obtain ⟨p, rest, hdrop⟩ : ∃ p rest, list.drop i = p :: rest :=
    ⟨_, _, List.drop_eq_getElem_cons hi⟩
  have hp := getElem?_of_drop hdrop
  -- an entry refused here is one the call begins with
  have hrefuse (hrefused : RefusedEarly env p) : CallSpec build uninit env list i faults
      (if build = .gsdm ∧ uninit i = false then none
      else some ⟨i, invalidArguments,
        faults ++ [⟨p.parameterName, invalidParameterName⟩], seen ++ [i]⟩) := by
    by_cases hgarbage : build = .gsdm ∧ uninit i = false
    · rw [if_pos hgarbage]
      exact ⟨i, p, hp, Or.inl ⟨hrefused, hbegins, hgarbage⟩⟩
    · rw [if_neg hgarbage]
      refine callSpec_fault h hp ?_ ?_
      · rintro ⟨p', hp', ⟨-, -, hgarbage'⟩ | ⟨hearly, -⟩⟩
        · exact hgarbage hgarbage'
        · obtain rfl := Option.some.inj (hp.symm.trans hp')
          exact hearly hrefused
      · refine RefusedEarly.entryFault ?_
        simpa only [RefusedEarly, Build.env_isSearchPath, Build.env_supportedParams]
          using hrefused
  rw [examine, hdrop]
  dsimp only
  by_cases hpath : isValidPath p.parameterName = false
  · rw [if_pos hpath]
    exact hrefuse (Or.inl hpath)
  by_cases halias : env.isSearchPath (amxdPathGet p.parameterName) = true ∧
      isValidAliasPath (amxdPathGet p.parameterName) = false
  · rw [if_neg hpath, if_pos halias]
    exact hrefuse (Or.inr (Or.inl halias))
  rw [if_neg hpath, if_neg halias]
  rcases hsupported : env.supportedParams (amxdPathGet p.parameterName) with - | supported
  · exact hrefuse (Or.inr (Or.inr hsupported))
  · refine examineWhile_spec hdrop rfl hsupported ?_ h
    rintro (h | h | h)
    · exact hpath h
    · exact halias h
    · rw [hsupported] at h
      cases h

/-! ### The whole list -/

/-- What the loop over the objects carries: nothing once an entry had no defined outcome,
and otherwise everything before the index done, the error of the first fault, and a place
where a call may begin. -/
def LoopInv (build : Build) (uninit : Nat → Bool) (env : SetEnv)
    (list : List ParameterValueStruct) (i : Nat) : Option Examination → Prop
  | none => ∃ k, UndefinedAt build uninit env list k
  | some s => DoneUpTo build uninit env list i s.faults s.examined ∧
      (s.error = 0 ↔ s.faults = []) ∧ BeginsCall (build.env env) list i

/-- A round keeps it. -/
theorem loopInv_round {s : Option Examination} (hi : i < list.length)
    (h : LoopInv build uninit env list i s) :
    i ≤ (examineRound build uninit env list i s).1 ∧
      LoopInv build uninit env list ((examineRound build uninit env list i s).1 + 1)
        (examineRound build uninit env list i s).2 := by
  rcases s with - | s
  · exact ⟨le_refl _, h⟩
  · obtain ⟨hdone, herror, hbegins⟩ := h
    have hcall := examine_spec hi hbegins hdone
    rw [examineRound, Option.bind_some]
    rcases hr : examine build uninit env list i s.faults s.examined with - | r
    · rw [hr] at hcall
      exact ⟨le_refl _, hcall⟩
    · rw [hr] at hcall
      obtain ⟨hle, hdone', herror', hbegins'⟩ := hcall
      refine ⟨hle, hdone', ?_, hbegins'⟩
      -- the faults of earlier rounds stay, and so does the first error
      have hkeep : r.faults = [] → s.faults = [] := by
        rw [hdone'.faults, hdone.faults, faultsUpTo_eq_nil, faultsUpTo_eq_nil]
        exact fun h k hk => h k (by omega)
      dsimp only
      by_cases hzero : s.error = 0
      · rw [if_pos hzero, herror', herror.mp hzero]
      · rw [if_neg hzero]
        exact iff_of_false hzero fun h => hzero (herror.mpr (hkeep h))

/-- The loop comes to its end. -/
theorem examineAll_ends (build : Build) (uninit : Nat → Bool) (env : SetEnv)
    (list : List ParameterValueStruct) : ∃ j s, examineAll build uninit env list = some (j, s) ∧
      LoopInv build uninit env list j s ∧ list.length ≤ j := by
  refine indexLoop_total (fun i s hi h => loopInv_round hi h) (Nat.sub_le _ _) ?_
  refine ⟨⟨Nat.zero_le _, rfl, rfl, fun k hk => absurd hk (Nat.not_lt_zero k)⟩, ?_, Or.inl rfl⟩
  simp

/-- The faults up to an index are those of the entries that have one. -/
theorem forall₂_faultsUpTo (is : List Nat) :
    List.Forall₂ (fun i fault => ∃ p, list[i]? = some p ∧ fault.parameterName = p.parameterName)
      (is.filter fun i => faultAt env list i ≠ []) (is.flatMap (faultAt env list)) := by
  induction is with
  | nil => exact List.Forall₂.nil
  | cons i is ih =>
    rw [List.flatMap_cons]
    rcases hp : list[i]? with - | p
    · have hnil : faultAt env list i = [] := by rw [faultAt, hp]
      rw [List.filter_cons_of_neg (by simp [hnil]), hnil]
      exact ih
    · rcases hfault : entryFault env list i p with - | code
      · have hnil : faultAt env list i = [] := by rw [faultAt_of_some hp, hfault]; rfl
        rw [List.filter_cons_of_neg (by simp [hnil]), hnil]
        exact ih
      · have hone : faultAt env list i = [⟨p.parameterName, code⟩] := by
          rw [faultAt_of_some hp, hfault]; rfl
        rw [List.filter_cons_of_pos (by simp [hone]), hone]
        exact List.Forall₂.cons ⟨p, hp, rfl⟩ ih

/-- Only the build with GSDM data has entries without a defined outcome. -/
theorem not_undefinedAt_plain : ¬UndefinedAt .plain uninit env list i := by
  rintro ⟨p, -, ⟨-, -, h, -⟩ | ⟨-, supported, -, h⟩⟩
  · cases h
  · simp [comparesNull] at h

/-- A validation with everything done is complete. -/
theorem complete_of_doneUpTo {C : Type*} {v : Examination} (ops : AttributesCache C)
    (answers : Nat → BusAnswer) (status : ParameterStatus) (w : SetWorld C)
    (hv : examineAll build uninit env list = some (list.length, some v))
    (h : DoneUpTo build uninit env list list.length v.faults v.examined)
    (herror : v.error = 0 ↔ v.faults = []) :
    Complete build uninit env ops answers list status w v := by
  have hvalid : ∀ k, (∃ p, list[k]? = some p ∧ ¬ValidEntry (build.env env) list k p) ↔
      k < list.length ∧ faultAt (build.env env) list k ≠ [] := by
    intro k
    constructor
    · rintro ⟨p, hp, hinvalid⟩
      exact ⟨(List.getElem?_eq_some_iff.mp hp).1, fun h => hinvalid ((faultAt_eq_nil hp).mp h)⟩
    · rintro ⟨hk, hfault⟩
      have hp := List.getElem?_eq_getElem hk
      exact ⟨_, hp, fun h => hfault ((faultAt_eq_nil hp).mpr h)⟩
  refine ⟨h.examined, ⟨(List.range list.length).filter fun i =>
      faultAt (build.env env) list i ≠ [], List.pairwise_lt_range.filter _, fun k => ?_, ?_⟩,
    ?_, fun hne => ?_⟩
  · rw [hvalid, List.mem_filter, List.mem_range, decide_eq_true_eq]
  · rw [h.faults]
    exact forall₂_faultsUpTo _
  · rw [herror, h.faults, faultsUpTo_eq_nil]
    constructor
    · intro hnone k p hp
      exact (faultAt_eq_nil hp).mp (hnone k (List.getElem?_eq_some_iff.mp hp).1)
    · intro hall k hk
      have hp := List.getElem?_eq_getElem hk
      exact (faultAt_eq_nil hp).mpr (hall k _ hp)
  · rw [setParameterValuesOf, hv]
    by_cases hsystem : env.checkSystem = false
    · rw [if_pos hsystem]
      exact ⟨_, rfl, rfl⟩
    · rw [if_neg hsystem, Option.bind_some, Option.bind_some, if_pos hne]
      exact ⟨_, rfl, rfl⟩

/-- **The validation is complete exactly if no entry is without a defined outcome**: in the
build without GSDM data on every list, and in the other one unless a call begins with an
entry it refuses, or looks a parameter up with the null pointer. -/
theorem examineAll_complete_iff {C : Type*} (build : Build) (uninit : Nat → Bool)
    (env : SetEnv) (ops : AttributesCache C) (answers : Nat → BusAnswer)
    (list : List ParameterValueStruct) (status : ParameterStatus) (w : SetWorld C) :
    (∃ v, examineAll build uninit env list = some (list.length, some v) ∧
        Complete build uninit env ops answers list status w v) ↔
      (build = .gsdm → ∀ i, ¬UndefinedAt build uninit env list i) := by
  obtain ⟨j, s, hs, hinv, hj⟩ := examineAll_ends build uninit env list
  constructor
  · rintro ⟨v, hv, -⟩ - i hundefined
    obtain ⟨rfl, rfl⟩ := Prod.mk.inj (Option.some.inj (hs.symm.trans hv))
    obtain ⟨hdone, -⟩ := hinv
    obtain ⟨p, hp, -⟩ := id hundefined
    exact hdone.defined i (List.getElem?_eq_some_iff.mp hp).1 hundefined
  · intro hdefined
    have hdefined : ∀ i, ¬UndefinedAt build uninit env list i := by
      rcases build with - | -
      · exact hdefined rfl
      · exact fun i => not_undefinedAt_plain
    rcases s with - | v
    · obtain ⟨k, hk⟩ := hinv
      exact absurd hk (hdefined k)
    · obtain ⟨hdone, herror, -⟩ := hinv
      obtain rfl : j = list.length := le_antisymm hdone.le hj
      exact ⟨v, hs, complete_of_doneUpTo ops answers status w hs hdone herror⟩

/-- A list that passes the validation has valid entries only. -/
theorem PassesValidation.validEntry (h : PassesValidation env list) (hp : list[i]? = some p) :
    ValidEntry env list i p := by
  obtain ⟨⟨j, v⟩, hv, herror⟩ := Option.map_eq_some_iff.mp h.2
  obtain ⟨j', s, hs, hinv, hj⟩ := examineAll_ends .plain (fun _ => true) env list
  rcases s with - | s
  · obtain ⟨k, hk⟩ := hinv
    exact absurd hk not_undefinedAt_plain
  · obtain ⟨hdone, hzero, -⟩ := hinv
    obtain rfl : j' = list.length := le_antisymm hdone.le hj
    have hsame : validateAll env list = some (list.length, ⟨s.error, s.faults⟩) :=
      validateLoop_of_examineLoop hs
    obtain ⟨-, rfl⟩ := Prod.mk.inj (Option.some.inj (hsame.symm.trans hv))
    have hnone : faultsUpTo env list list.length = [] := hdone.faults.symm.trans (hzero.mp herror)
    rw [faultsUpTo_eq_nil] at hnone
    exact (faultAt_eq_nil hp).mp (hnone i (List.getElem?_eq_some_iff.mp hp).1)

/-- A request for the path of an object has no outcome in the build with GSDM data. -/
theorem objectPath_not_complete :
    ¬∀ (build : Build) (uninit : Nat → Bool) (env : SetEnv)
      (ops : AttributesCache (CString → Option CString)) (answers : Nat → BusAnswer)
      (list : List ParameterValueStruct) (status : ParameterStatus)
      (w : SetWorld (CString → Option CString)),
      ∃ v, examineAll build uninit env list = some (list.length, some v) ∧
        Complete build uninit env ops answers list status w v := by
  intro h
  obtain ⟨v, hv, -⟩ := h .gsdm (fun _ => true) plainEnv plainCache (fun _ => .ok)
    [⟨"Device.Time.".toList, "1".toList, .boolean⟩] .undefined allOff
  have hnone : (examineAll .gsdm (fun _ => true) plainEnv
      [⟨"Device.Time.".toList, "1".toList, .boolean⟩]).bind Prod.snd = none := by decide
  rw [hv] at hnone
  cases hnone

end Tr069
