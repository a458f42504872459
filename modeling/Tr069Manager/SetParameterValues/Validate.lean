import Mathlib.Data.List.Nodup
import Tr069Manager.SetParameterValues.DataModel

/-!
# The validation of the request

`DM_ENG_Device_SetParameterValues_Validate` goes through the parameters of one object,
moving the index of its caller, whose loop goes on from there. A fault ends the call where
it is found, and the caller remembers the first error; it does not stop at it, so that all
faults are reported.

What the rest of the request needs of a list that passed is that no name stands in it
twice (`nodup_of_validated`).
-/

namespace Tr069

/-! ### The source -/

/-- `DM_ENG_Device_SetParameterValues_CheckForDuplicates`: an earlier entry has the name. -/
def checkForDuplicates (list : List ParameterValueStruct) (i : Nat) (name : CString) : Bool :=
  (list.take i).any fun q => q.parameterName = name

/-- The checks of one parameter against the description of its object: the fault code, if
one of them fails. -/
def checkParameter (env : SetEnv) (list : List ParameterValueStruct)
    (supported : List SupportedParam) (i : Nat) (p : ParameterValueStruct) : Option Int :=
  match supported.find? fun s => s.name = amxdPathGetParam p.parameterName with
  | none => some invalidParameterName
  | some parameter =>
    let dmType := convertParameterType parameter.type
    if env.verifyParameterType ∧ p.type ≠ dmType ∧
        ¬(env.acceptUnsignedIntAsBoolean ∧ p.type = .uint ∧ dmType = .boolean) then
      some invalidParameterType
    else if checkForDuplicates list i p.parameterName then some invalidArguments
    else if parameter.access = false then some readOnlyParameter
    else if env.isSetAllowed (amxdPathGet p.parameterName)
        (amxdPathGetParam p.parameterName) = false then
      some readOnlyParameter
    else none

/-- What a call of the validation leaves: the index, the error, and the faults so far. -/
structure Validation where
  index : Nat
  error : Int
  faults : List SetParameterValuesFault

/-- The loop over the parameters of one object, at an index with the entries from there on.
The index goes back by one when the loop ends, as the caller adds one. -/
def validateWhile (env : SetEnv) (list : List ParameterValueStruct) (object : CString)
    (supported : List SupportedParam) :
    List ParameterValueStruct → Nat → List SetParameterValuesFault → Validation
  | [], i, faults => ⟨i - 1, 0, faults⟩
  | p :: rest, i, faults =>
    match checkParameter env list supported i p with
    | some code => ⟨i, invalidArguments, faults ++ [⟨p.parameterName, code⟩]⟩
    | none =>
      match rest with
      | [] => ⟨i, 0, faults⟩
      | q :: _ =>
        if isValidPath q.parameterName = false then
          ⟨i + 1, invalidArguments, faults ++ [⟨q.parameterName, invalidParameterName⟩]⟩
        else if amxdPathGet q.parameterName = object then
          validateWhile env list object supported rest (i + 1) faults
        else ⟨i, 0, faults⟩

/-- `DM_ENG_Device_SetParameterValues_Validate`. -/
def validate (env : SetEnv) (list : List ParameterValueStruct) (i : Nat)
    (faults : List SetParameterValuesFault) : Validation :=
  match list.drop i with
  | [] => ⟨i, 0, faults⟩
  | p :: rest =>
    let object := amxdPathGet p.parameterName
    let refused : Validation :=
      ⟨i, invalidArguments, faults ++ [⟨p.parameterName, invalidParameterName⟩]⟩
    if isValidPath p.parameterName = false then refused
    else if env.isSearchPath object ∧ isValidAliasPath object = false then refused
    else
      match env.supportedParams object with
      | none => refused
      | some supported => validateWhile env list object supported (p :: rest) i faults

/-- What the loop over the objects carries. -/
structure ValidateState where
  error : Int
  faults : List SetParameterValuesFault

/-- The body of the loop over the objects: the first error stays. -/
def validateRound (env : SetEnv) (list : List ParameterValueStruct) (i : Nat)
    (s : ValidateState) : Nat × ValidateState :=
  let r := validate env list i s.faults
  (r.index, { error := if s.error = 0 then r.error else s.error, faults := r.faults })

/-- The validation of the whole list. -/
def validateAll (env : SetEnv) (list : List ParameterValueStruct) :
    Option (Nat × ValidateState) :=
  indexLoop list.length (validateRound env list) list.length 0 ⟨0, []⟩

/-! ### Lists that pass -/

/-- The names of the entries up to an index are distinct. -/
def DistinctUpTo (list : List ParameterValueStruct) (i : Nat) : Prop :=
  ((list.take i).map ParameterValueStruct.parameterName).Nodup

variable {env : SetEnv} {list rest : List ParameterValueStruct} {i j : Nat}
variable {object : CString} {supported : List SupportedParam} {p : ParameterValueStruct}
variable {faults : List SetParameterValuesFault}

/-- A parameter that passes the checks is no duplicate of an earlier one. -/
theorem not_duplicate_of_checkParameter (h : checkParameter env list supported i p = none) :
    checkForDuplicates list i p.parameterName = false := by
  rw [checkParameter] at h
  split at h
  · cases h
  · dsimp only at h
    split_ifs at h with htype hdup
    exact Bool.not_eq_true _ ▸ hdup

/-- One more entry with a new name. -/
theorem distinctUpTo_succ (hdrop : list.drop i = p :: rest)
    (hdup : checkForDuplicates list i p.parameterName = false) (h : DistinctUpTo list i) :
    DistinctUpTo list (i + 1) := by
  have hget : list[i]? = some p := by
    rw [← List.head?_drop, hdrop, List.head?_cons]
  rw [DistinctUpTo, List.take_add_one, hget, Option.toList_some, List.map_append]
  refine List.nodup_append.mpr ⟨h, List.nodup_singleton _, fun name hname other hother => ?_⟩
  obtain ⟨q, hq, rfl⟩ := List.mem_map.mp hname
  obtain rfl := List.mem_singleton.mp hother
  intro heq
  have := List.any_eq_false.mp hdup q hq
  exact this (decide_eq_true heq)

theorem drop_succ (hdrop : list.drop i = p :: rest) : list.drop (i + 1) = rest := by
  rw [← List.drop_drop, hdrop, List.drop_one, List.tail_cons]

/-- The loop over one object does not move the index back, and what it lets pass has
distinct names. -/
theorem validateWhile_spec (hdrop : list.drop i = p :: rest) :
    i ≤ (validateWhile env list object supported (p :: rest) i faults).index ∧
      ((validateWhile env list object supported (p :: rest) i faults).error = 0 →
        DistinctUpTo list i →
          DistinctUpTo list
            ((validateWhile env list object supported (p :: rest) i faults).index + 1)) := by
  induction rest generalizing i p with
  | nil =>
    rw [validateWhile]
    split
    · exact ⟨le_refl _, fun h => by cases h⟩
    · next hcheck =>
      exact ⟨le_refl _, fun _ h =>
        distinctUpTo_succ hdrop (not_duplicate_of_checkParameter hcheck) h⟩
  | cons q rest ih =>
    rw [validateWhile]
    split
    · exact ⟨le_refl _, fun h => by cases h⟩
    · next hcheck =>
      have hstep := distinctUpTo_succ hdrop (not_duplicate_of_checkParameter hcheck)
      split_ifs
      · exact ⟨Nat.le_succ _, fun h => by cases h⟩
      · obtain ⟨hle, hdist⟩ := ih (drop_succ hdrop)
        exact ⟨(Nat.le_succ i).trans hle, fun herr h => hdist herr (hstep h)⟩
      · exact ⟨le_refl _, fun _ h => hstep h⟩

/-- The same of one call. -/
theorem validate_spec (hi : i < list.length) :
    i ≤ (validate env list i faults).index ∧
      ((validate env list i faults).error = 0 → DistinctUpTo list i →
        DistinctUpTo list ((validate env list i faults).index + 1)) := by
  rw [validate]
  split
  · next hdrop =>
    rw [List.drop_eq_nil_iff] at hdrop
    omega
  · next p rest hdrop =>
    dsimp only
    split_ifs
    · exact ⟨le_refl _, fun h => by cases h⟩
    · exact ⟨le_refl _, fun h => by cases h⟩
    · split
      · exact ⟨le_refl _, fun h => by cases h⟩
      · exact validateWhile_spec hdrop

/-- The validation of a list comes to its end. -/
theorem validateAll_ends (env : SetEnv) (list : List ParameterValueStruct) :
    ∃ r, validateAll env list = some r :=
  indexLoop_ends (fun _ _ hi => (validate_spec hi).1) (Nat.sub_le _ _)

/-- **A list that passes the validation has distinct names.** -/
theorem nodup_of_validated {s : ValidateState} (h : validateAll env list = some (j, s))
    (herr : s.error = 0) : (list.map ParameterValueStruct.parameterName).Nodup := by
  have hstart : DistinctUpTo list 0 := List.nodup_nil
  have hround : ∀ i s, i < list.length → (s.error = 0 → DistinctUpTo list i) →
      (validateRound env list i s).2.error = 0 →
        DistinctUpTo list ((validateRound env list i s).1 + 1) := by
    intro i s hi hI hnew
    -- a round without error follows rounds without error
    have hold : s.error = 0 := by
      by_contra hne
      rw [validateRound] at hnew
      exact hne ((if_neg hne).symm.trans hnew)
    rw [validateRound] at hnew ⊢
    exact (validate_spec hi).2 ((if_pos hold).symm.trans hnew) (hI hold)
  obtain ⟨hdist, hj⟩ := indexLoop_rule (I := fun i s => s.error = 0 → DistinctUpTo list i)
    hround (fun _ => hstart) h
  have hall := hdist herr
  rwa [DistinctUpTo, List.take_of_length_le hj] at hall

end Tr069
