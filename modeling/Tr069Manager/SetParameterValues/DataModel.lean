import Tr069Manager.Lib.CString
import Tr069Manager.Lib.IndexLoop

/-!
# What a SetParameterValues request works on

The request is a list of names with values and types
(`DM_ENG_Device_SetParameterValues` of `dmdeviceadapter/amx/adapter/DM_DeviceAdapter_prpl.c`,
with `DM_AmxParameterValues_prpl.c` or, in the build without GSDM data,
`DM_AmxParameterValues.c`). A name is the path of an object, which ends with a dot, and
the name of a parameter (`amxdPathGet`, `amxdPathGetParam`). The request writes to two
stores: the device, by way of bus sets, and the cache of the values the ACS wrote itself,
by which the daemon tells its own changes from those it has to notify.

The cache is part of the engine library, and is taken as it is used: a type with the two
functions the code calls, and what it relies on of them (`AttributesCache`).
-/

namespace Tr069

/-! ### Paths -/

/-- `amxd_path_get` with `AMXD_OBJECT_TERMINATE`: the object part of a path. -/
def amxdPathGet (name : CString) : CString := (name.reverse.dropWhile (· != '.')).reverse

/-- `amxd_path_get_param`: the parameter part of a path. -/
def amxdPathGetParam (name : CString) : CString := (name.reverse.takeWhile (· != '.')).reverse

/-- The two parts are the path. -/
theorem amxdPathGet_append (name : CString) :
    amxdPathGet name ++ amxdPathGetParam name = name := by
  rw [amxdPathGet, amxdPathGetParam, ← List.reverse_append, List.takeWhile_append_dropWhile,
    List.reverse_reverse]

/-- `DM_ENG_Device_Common_IsValidPath`. -/
def isValidPath (path : CString) : Bool :=
  path.length = 0 ∨
    ("Device.".toList.isPrefixOf path ∧ path.head? ≠ some '.' ∧ path.head? ≠ some '*')

/-- Only the characters of the text are looked at. -/
instance (priority := high) decidableForallMem (p : Char → Prop) [DecidablePred p]
    (text : List Char) : Decidable (∀ d ∈ text, p d) := List.decidableBAll p text

/-- `is_valid_alias`: a letter or an underscore, and then letters, digits, underscores and
hyphens. -/
def isValidAlias : CString → Bool
  | [] => false
  | c :: cs => (c.isAlpha ∨ c = '_') ∧ ∀ d ∈ cs, d.isAlphanum ∨ d = '_' ∨ d = '-'

/-- The loop of `DM_ENG_Device_Common_Is_Valid_Alias_Path` over the bracketed components,
from a place of the path; what is in brackets goes through a buffer of 256 characters, and
is not looked at if it does not fit. A round takes three characters at least. -/
def aliasLoop : Nat → CString → Bool
  | 0, _ => true
  | fuel + 1, path =>
    match CString.strstr path ".[".toList with
    | none => true
    | some start =>
      match CString.strstr (path.drop start) "]".toList with
      | none => true
      | some len =>
        let substring := (path.drop (start + 2)).take (len - 2)
        if substring.length < 256 ∧ isValidAlias substring = false then false
        else aliasLoop fuel (path.drop (start + len + 1))

/-- `DM_ENG_Device_Common_Is_Valid_Alias_Path`. -/
def isValidAliasPath (path : CString) : Bool :=
  path ≠ [] ∧ '*' ∉ path ∧ aliasLoop path.length path

/-! ### The request -/

/-- The types of parameters of CWMP. -/
inductive ParameterType
  | int | long | uint | ulong | string | boolean | date | any | undefined
  deriving DecidableEq

/-- The types of variants of the bus. -/
inductive AmxcVarId
  | int8 | int16 | int32 | int64 | uint8 | uint16 | uint32 | uint64
  | cstring | csvString | ssvString | bool | timestamp | any | other
  deriving DecidableEq

/-- `DM_ENG_Device_Common_ConvertParameterType`. -/
def convertParameterType : AmxcVarId → ParameterType
  | .int8 | .int16 | .int32 => .int
  | .int64 => .long
  | .uint8 | .uint16 | .uint32 => .uint
  | .uint64 => .ulong
  | .cstring | .csvString | .ssvString => .string
  | .bool => .boolean
  | .timestamp => .date
  | .any => .any
  | .other => .undefined

/-- An entry of the parameter list. -/
structure ParameterValueStruct where
  parameterName : CString
  value : CString
  type : ParameterType

/-- A fault of the answer: the parameter and the fault code. -/
structure SetParameterValuesFault where
  parameterName : CString
  faultCode : Int
  deriving DecidableEq

/-- `DM_ENG_INTERNAL_ERROR`. -/
def internalError : Int := 9002

/-- `DM_ENG_INVALID_ARGUMENTS`. -/
def invalidArguments : Int := 9003

/-- `DM_ENG_INVALID_PARAMETER_NAME`. -/
def invalidParameterName : Int := 9005

/-- `DM_ENG_INVALID_PARAMETER_TYPE`. -/
def invalidParameterType : Int := 9006

/-- `DM_ENG_INVALID_PARAMETER_VALUE`. -/
def invalidParameterValue : Int := 9007

/-- `DM_ENG_READ_ONLY_PARAMETER`. -/
def readOnlyParameter : Int := 9008

/-- `DM_ENG_ParameterStatus`. -/
inductive ParameterStatus
  | applied | readyToApply | undefined
  deriving DecidableEq

/-! ### What the request meets -/

/-- A parameter as the bus describes it: its name, its type and whether it is writable. -/
structure SupportedParam where
  name : CString
  type : AmxcVarId
  access : Bool

/-- What the request reads without changing it. -/
structure SetEnv where
  /-- `DM_ENG_Device_Common_CheckSystem`: there is a bus context -/
  checkSystem : Bool
  /-- the parameters of an object, if the bus describes it -/
  supportedParams : CString → Option (List SupportedParam)
  /-- `amxd_path_is_search_path` -/
  isSearchPath : CString → Bool
  /-- the setting by which the types are checked -/
  verifyParameterType : Bool
  /-- the setting that lets a boolean be written as an unsigned integer; the build with
  GSDM data does not read it, and behaves as without it -/
  acceptUnsignedIntAsBoolean : Bool
  /-- `amxa_is_set_allowed` -/
  isSetAllowed : CString → CString → Bool
  /-- the parameter a path leads to: a path with an alias and one with an instance number
  may lead to the same -/
  resolve : CString → CString

/-- The cache of the values the ACS wrote, as far as it is used here. -/
structure AttributesCache (C : Type*) where
  /-- `DM_ENG_AddCachedValueToParameterAttributesCache` -/
  addCachedValue : C → CString → CString → C
  /-- `DM_ENG_ValueWasCachedInParameterAttributesCache` -/
  valueWasCached : C → CString → CString → Bool

/-- What the code relies on: for the names the cache has an entry for, the value added last
is the one that was cached, and nothing else changes. -/
structure AttributesCache.Lawful {C : Type*} (ops : AttributesCache C)
    (watched : CString → Bool) : Prop where
  valueWasCached_add : ∀ c name value name' value',
    ops.valueWasCached (ops.addCachedValue c name value) name' value' =
      if name' = name ∧ watched name then decide (value' = value)
      else ops.valueWasCached c name' value'

/-- What went wrong with a parameter in a bus set. -/
inductive AmxdStatus
  | invalidValue | invalidType | other
  deriving DecidableEq

/-- `tr069_spv_amxd_status_to_spv_fault_code`. -/
def amxdStatusToSpvFaultCode : AmxdStatus → Int
  | .invalidValue => invalidParameterValue
  | .invalidType => invalidParameterType
  | .other => internalError

/-- The answer to a bus set. A failed one tells the object and what was wrong with which
of its parameters. -/
inductive BusAnswer
  | ok
  | failed (object : CString) (errors : List (CString × AmxdStatus))
  deriving DecidableEq

/-- A bus set: the object, and the parameters with their values. -/
structure BusSet where
  object : CString
  parameters : List (CString × CString)
  deriving DecidableEq

/-- What the request changes: the values of the device, by the paths they resolve to, and
the cache. -/
structure SetWorld (C : Type*) where
  values : CString → CString
  cache : C

end Tr069
