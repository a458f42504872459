import Tr069Manager.SetParameterValues.Apply

/-!
# What the validation examines

The validation again, in both builds, with the entries it examines. What a list is checked
for is the same in both (`ValidEntry`); the build with GSDM data
(`DM_AmxParameterValues_prpl.c`) differs from the other one in two places where its calls
have no defined outcome.

* **It compares names with `strcmp`.** `amxd_path_get_param` gives the null pointer for a
  path without a parameter, and the build compares it with the names of the parameters of
  the object. The other build hands it to a look-up that finds nothing.
* **It cleans a string it has not initialised.** An entry that is refused where its call
  begins leaves by `stop`, where `supported_path_inst` is cleaned; it is initialised further
  down. What comes of it is a matter of what the memory holds, and is taken as it comes
  (`uninit`, by the index where the call begins).
-/

namespace Tr069

/-! ### The source, in both builds -/

/-- The two builds. -/
inductive Build
  | gsdm | plain
  deriving DecidableEq

/-- The settings as a build reads them: the one with GSDM data does not let a boolean be
written as an unsigned integer. -/
def Build.env (build : Build) (env : SetEnv) : SetEnv :=
  match build with
  | .gsdm => { env with acceptUnsignedIntAsBoolean := false }
  | .plain => env

/-- What a call of the validation leaves, with the entries examined so far. -/
structure Examined where
  index : Nat
  error : Int
  faults : List SetParameterValuesFault
  examined : List Nat

/-- `strcmp` of the names of the parameters with what `amxd_path_get_param` gives is a
comparison with the null pointer. -/
def comparesNull (build : Build) (supported : List SupportedParam) (p : ParameterValueStruct) :
    Bool :=
  build = .gsdm ∧ supported ≠ [] ∧ amxdPathGetParam p.parameterName = []

/-- The loop over the parameters of one object; nothing if it has no defined outcome. -/
def examineWhile (build : Build) (env : SetEnv) (list : List ParameterValueStruct)
    (object : CString) (supported : List SupportedParam) :
    List ParameterValueStruct → Nat → List SetParameterValuesFault → List Nat → Option Examined
  | [], i, faults, seen => some ⟨i - 1, 0, faults, seen⟩
  | p :: rest, i, faults, seen =>
    if comparesNull build supported p then none
    else
      match checkParameter (build.env env) list supported i p with
      | some code =>
        some ⟨i, invalidArguments, faults ++ [⟨p.parameterName, code⟩], seen ++ [i]⟩
      | none =>
        match rest with
        | [] => some ⟨i, 0, faults, seen ++ [i]⟩
        | q :: _ =>
          if isValidPath q.parameterName = false then
            some ⟨i + 1, invalidArguments,
              faults ++ [⟨q.parameterName, invalidParameterName⟩], seen ++ [i, i + 1]⟩
          else if amxdPathGet q.parameterName = object then
            examineWhile build env list object supported rest (i + 1) faults (seen ++ [i])
          else some ⟨i, 0, faults, seen ++ [i]⟩

/-- `DM_ENG_Device_SetParameterValues_Validate`. The entry the call begins with may be
refused before `supported_path_inst` is initialised. -/
def examine (build : Build) (uninit : Nat → Bool) (env : SetEnv)
    (list : List ParameterValueStruct) (i : Nat) (faults : List SetParameterValuesFault)
    (seen : List Nat) : Option Examined :=
  match list.drop i with
  | [] => some ⟨i, 0, faults, seen⟩
  | p :: rest =>
    let object := amxdPathGet p.parameterName
    let refused : Option Examined :=
      if build = .gsdm ∧ uninit i = false then none
      else some ⟨i, invalidArguments,
        faults ++ [⟨p.parameterName, invalidParameterName⟩], seen ++ [i]⟩
    if isValidPath p.parameterName = false then refused
    else if env.isSearchPath object ∧ isValidAliasPath object = false then refused
    else
      match env.supportedParams object with
      | none => refused
      | some supported =>
        examineWhile build env list object supported (p :: rest) i faults seen

/-- What the loop over the objects carries. -/
structure Examination where
  error : Int
  faults : List SetParameterValuesFault
  examined : List Nat

/-- The body of the loop over the objects; after a call without a defined outcome there is
nothing more. -/
def examineRound (build : Build) (uninit : Nat → Bool) (env : SetEnv)
    (list : List ParameterValueStruct) (i : Nat) (s : Option Examination) :
    Nat × Option Examination :=
  match s.bind fun s => (examine build uninit env list i s.faults s.examined).map fun r =>
      (r.index, { error := if s.error = 0 then r.error else s.error
                  faults := r.faults, examined := r.examined : Examination }) with
  | none => (i, none)
  | some (j, s') => (j, some s')

/-- The validation of the whole list. -/
def examineAll (build : Build) (uninit : Nat → Bool) (env : SetEnv)
    (list : List ParameterValueStruct) : Option (Nat × Option Examination) :=
  indexLoop list.length (examineRound build uninit env list) list.length 0 (some ⟨0, [], []⟩)

/-- `DM_ENG_Device_SetParameterValues` of a build. -/
def setParameterValuesOf {C : Type*} (build : Build) (uninit : Nat → Bool) (env : SetEnv)
    (ops : AttributesCache C) (answers : Nat → BusAnswer) (list : List ParameterValueStruct)
    (status : ParameterStatus) (w : SetWorld C) : Option (SetResult C) :=
  if env.checkSystem = false then some ⟨internalError, status, [], w, []⟩
  else
    ((examineAll build uninit env list).bind Prod.snd).bind fun v =>
      if v.error ≠ 0 then some ⟨v.error, status, v.faults, w, []⟩
      else
        (applyAll (build.env env) ops answers list ⟨0, v.faults, w, []⟩).map fun (_, s) =>
          { error := s.error, status := if s.error = 0 then .applied else .undefined
            faults := s.faults, world := s.world, sets := s.sets }

/-! ### What an entry is checked for -/

/-- The fault of an entry, whatever call examines it. -/
def entryFault (env : SetEnv) (list : List ParameterValueStruct) (i : Nat)
    (p : ParameterValueStruct) : Option Int :=
  if isValidPath p.parameterName = false then some invalidParameterName
  else if env.isSearchPath (amxdPathGet p.parameterName) ∧
      isValidAliasPath (amxdPathGet p.parameterName) = false then some invalidParameterName
  else
    match env.supportedParams (amxdPathGet p.parameterName) with
    | none => some invalidParameterName
    | some supported => checkParameter env list supported i p

/-- **A valid entry**: its path is well formed and leads to a parameter of an object, the
type is right if types are checked, no earlier entry has the name, and the parameter may be
written. -/
structure ValidEntry (env : SetEnv) (list : List ParameterValueStruct) (i : Nat)
    (p : ParameterValueStruct) : Prop where
  path : isValidPath p.parameterName = true
  aliases : env.isSearchPath (amxdPathGet p.parameterName) = true →
    isValidAliasPath (amxdPathGet p.parameterName) = true
  parameter : ∃ supported parameter,
    env.supportedParams (amxdPathGet p.parameterName) = some supported ∧
    supported.find? (fun s => s.name = amxdPathGetParam p.parameterName) = some parameter ∧
    (env.verifyParameterType = true → p.type = convertParameterType parameter.type ∨
      env.acceptUnsignedIntAsBoolean = true ∧ p.type = .uint ∧
        convertParameterType parameter.type = .boolean) ∧
    parameter.access = true
  new : ∀ q ∈ list.take i, q.parameterName ≠ p.parameterName
  permitted :
    env.isSetAllowed (amxdPathGet p.parameterName) (amxdPathGetParam p.parameterName) = true

variable {build : Build} {uninit : Nat → Bool} {env : SetEnv}
variable {list rest : List ParameterValueStruct} {i : Nat} {object : CString}
variable {supported : List SupportedParam} {p : ParameterValueStruct}
variable {faults : List SetParameterValuesFault} {seen : List Nat}

theorem checkParameter_eq_none : checkParameter env list supported i p = none ↔
    ∃ parameter,
      supported.find? (fun s => s.name = amxdPathGetParam p.parameterName) = some parameter ∧
      (env.verifyParameterType = true → p.type = convertParameterType parameter.type ∨
        env.acceptUnsignedIntAsBoolean = true ∧ p.type = .uint ∧
          convertParameterType parameter.type = .boolean) ∧
      checkForDuplicates list i p.parameterName = false ∧ parameter.access = true ∧
      env.isSetAllowed (amxdPathGet p.parameterName) (amxdPathGetParam p.parameterName) =
        true := by
  rw [checkParameter]
  rcases hfind : supported.find? fun s => s.name = amxdPathGetParam p.parameterName with
    - | parameter
  · rw [hfind]
    simp
  · rw [hfind]
    dsimp only
    split_ifs <;> grind

/-- **An entry has no fault exactly if it is valid.** -/
theorem entryFault_eq_none : entryFault env list i p = none ↔ ValidEntry env list i p := by
  have hdup : checkForDuplicates list i p.parameterName = false ↔
      ∀ q ∈ list.take i, q.parameterName ≠ p.parameterName := by
    simp [checkForDuplicates]
  rw [entryFault]
  constructor
  · intro h
    split_ifs at h with hpath halias
    rcases hsupported : env.supportedParams (amxdPathGet p.parameterName) with - | supported
    · rw [hsupported] at h
      cases h
    · rw [hsupported] at h
      obtain ⟨parameter, hfind, htype, hnew, haccess, hallowed⟩ := checkParameter_eq_none.mp h
      exact ⟨by simpa using hpath, fun hsearch => by simpa [hsearch] using halias,
        ⟨supported, parameter, hsupported, hfind, htype, haccess⟩, hdup.mp hnew, hallowed⟩
  · rintro ⟨hpath, halias, ⟨supported, parameter, hsupported, hfind, htype, haccess⟩, hnew,
      hallowed⟩
    rw [if_neg (by simp [hpath]), if_neg fun h => by simp [halias h.1] at h, hsupported]
    exact checkParameter_eq_none.mpr
      ⟨parameter, hfind, htype, hdup.mpr hnew, haccess, hallowed⟩

/-! ### One validation

Where it has a defined outcome, the validation of a build is the one without the entries
examined, under the settings the build reads. -/

@[simp] theorem Build.env_isSearchPath : (build.env env).isSearchPath = env.isSearchPath := by
  cases build <;> rfl

@[simp] theorem Build.env_supportedParams :
    (build.env env).supportedParams = env.supportedParams := by
  cases build <;> rfl

@[simp] theorem Build.env_checkSystem : (build.env env).checkSystem = env.checkSystem := by
  cases build <;> rfl

theorem validateWhile_of_examineWhile {r : Examined}
    (h : examineWhile build env list object supported rest i faults seen = some r) :
    validateWhile (build.env env) list object supported rest i faults =
      ⟨r.index, r.error, r.faults⟩ := by
  induction rest generalizing i faults seen with
  | nil =>
    obtain rfl := Option.some.inj h
    rfl
  | cons p rest ih =>
    rw [examineWhile.eq_def] at h
    rw [validateWhile.eq_def]
    dsimp only at h ⊢
    split_ifs at h with hnull
    rcases hcheck : checkParameter (build.env env) list supported i p with - | code
    · rw [hcheck] at h
      rcases rest with - | ⟨q, rest⟩
      · obtain rfl := Option.some.inj h
        rfl
      · dsimp only at h ⊢
        split_ifs at h ⊢ with hpath hsame
        · obtain rfl := Option.some.inj h
          rfl
        · exact ih h
        · obtain rfl := Option.some.inj h
          rfl
    · rw [hcheck] at h
      obtain rfl := Option.some.inj h
      rfl

theorem validate_of_examine {r : Examined}
    (h : examine build uninit env list i faults seen = some r) :
    validate (build.env env) list i faults = ⟨r.index, r.error, r.faults⟩ := by
  rw [examine] at h
  rw [validate]
  rcases hdrop : list.drop i with - | ⟨p, rest⟩
  · rw [hdrop] at h
    obtain rfl := Option.some.inj h
    rfl
  · rw [hdrop] at h
    dsimp only at h ⊢
    rw [Build.env_isSearchPath, Build.env_supportedParams]
    rcases hsupported : env.supportedParams (amxdPathGet p.parameterName) with - | supported
    · rw [hsupported] at h
      split_ifs at h ⊢ <;> obtain rfl := Option.some.inj h <;> rfl
    · rw [hsupported] at h
      dsimp only at h ⊢
      split_ifs at h ⊢
      · obtain rfl := Option.some.inj h
        rfl
      · obtain rfl := Option.some.inj h
        rfl
      · exact validateWhile_of_examineWhile h

/-- After a call without a defined outcome there is nothing more. -/
theorem examineLoop_none {len fuel j : Nat} {s : Option Examination}
    (h : indexLoop len (examineRound build uninit env list) fuel i none = some (j, s)) :
    s = none :=
  (indexLoop_rule (I := fun _ s => s = none) (fun _ s _ hs => by subst hs; rfl) rfl h).1

theorem validateLoop_of_examineLoop {len fuel j : Nat} {s v : Examination}
    (h : indexLoop len (examineRound build uninit env list) fuel i (some s) =
      some (j, some v)) :
    indexLoop len (validateRound (build.env env) list) fuel i ⟨s.error, s.faults⟩ =
      some (j, ⟨v.error, v.faults⟩) := by
  induction fuel generalizing i s with
  | zero =>
    rw [indexLoop] at h ⊢
    split_ifs at h ⊢ with hi
    obtain ⟨rfl, hs⟩ := Prod.mk.inj (Option.some.inj h)
    obtain rfl := Option.some.inj hs
    rfl
  | succ fuel ih =>
    rw [indexLoop] at h ⊢
    split_ifs at h ⊢ with hi
    · rcases hr : examine build uninit env list i s.faults s.examined with - | r
      · rw [examineRound, Option.bind_some, hr] at h
        cases examineLoop_none h
      · rw [examineRound, Option.bind_some, hr] at h
        rw [validateRound, validate_of_examine hr]
        exact ih h
    · obtain ⟨rfl, hs⟩ := Prod.mk.inj (Option.some.inj h)
      obtain rfl := Option.some.inj hs
      rfl

/-- **Where it has a defined outcome, a build does what the request does** under the
settings the build reads. -/
theorem setParameterValues_of_examineAll {C : Type*} {j : Nat} {v : Examination}
    (h : examineAll build uninit env list = some (j, some v)) (ops : AttributesCache C)
    (answers : Nat → BusAnswer) (status : ParameterStatus) (w : SetWorld C) :
    setParameterValuesOf build uninit env ops answers list status w =
      setParameterValues (build.env env) ops answers list status w := by
  have hvalidate : validateAll (build.env env) list = some (j, ⟨v.error, v.faults⟩) :=
    validateLoop_of_examineLoop h
  rw [setParameterValuesOf, setParameterValues, h, hvalidate, Build.env_checkSystem]
  rfl

end Tr069
